import RustTgCalls.Library.Transition
import RustTgCalls.Library.Counter
import RustTgCalls.Wrtc.Signaling
import Mathlib.Data.List.Nodup

namespace RustTgCalls.Wrtc

open Transition

/-! Concurrent `new_stack` calls on one factory, and the SSRCs they allocate. -/

/-- The fields of a stack's transport that its local params are made of. -/
structure Stack where
  ufrag : String
  pwd : String
  fingerprintSha256 : String
  audioSsrc : UInt32
  videoSsrc : UInt32
  deriving DecidableEq, Repr

def Stack.getLocalParams (stack : Stack) : Except RustTgCallsError LocalParams :=
  buildLocalParams stack.ufrag stack.pwd stack.fingerprintSha256 stack.audioSsrc
    stack.videoSsrc

inductive NewStackAt where
  | idle
  | testClosed (withVideo : Bool)
  | takeCert (withVideo : Bool)
  | allocateAudio (fingerprint : String) (withVideo : Bool)
  | allocateVideo (fingerprint : String) (audioSsrc : UInt32)
  | allocateSpare (fingerprint : String) (audioSsrc videoSsrc : UInt32)
  | construct (fingerprint : String) (audioSsrc videoSsrc : UInt32)
  | returned (result : Except RustTgCallsError Stack)
  deriving DecidableEq

/-- What the certificate pool answers, and what the random numbers are. -/
inductive NewStackInput where
  | cert (fingerprint : String)
  | certFails (detail : String)
  | credentials (ufrag pwd : String)
  deriving DecidableEq, Repr

/-- `allocated` counts the values that `allocate_ssrc` has returned. -/
structure Factory where
  ssrcCounter : UInt32
  closed : Bool
  started : Nat
  newStacks : Nat → NewStackAt
  allocated : Nat

namespace Factory

def new (ssrcCounter : UInt32) : Factory where
  ssrcCounter
  closed := false
  started := 0
  newStacks := fun _ => .idle
  allocated := 0

inductive Action where
  | newStack (withVideo : Bool)
  | step (id : Nat) (input : NewStackInput)
  | close
  deriving DecidableEq, Repr

def move (factory : Factory) (id : Nat) (stage : NewStackAt) : Factory :=
  { factory with newStacks := Function.update factory.newStacks id stage }

/-- One `fetch_add` of `allocate_ssrc`, which goes on with any value but zero. -/
def allocate (factory : Factory) (id : Nat) (stage : UInt32 → NewStackAt) :
    Factory :=
  let v := factory.ssrcCounter
  let fetched := { factory with ssrcCounter := v + 1 }
  if v ≠ 0 then
    { fetched.move id (stage v) with allocated := factory.allocated + 1 }
  else fetched

def turn (factory : Factory) (id : Nat) (input : NewStackInput) : Factory :=
  match factory.newStacks id with
  | .idle | .returned _ => factory
  | .testClosed withVideo =>
      factory.move id
        (if factory.closed then .returned (.error .closed) else .takeCert withVideo)
  | .takeCert withVideo =>
      match input with
      | .cert fingerprint => factory.move id (.allocateAudio fingerprint withVideo)
      | .certFails detail => factory.move id (.returned (.error (.internal detail)))
      | .credentials _ _ => factory
  | .allocateAudio fingerprint withVideo =>
      factory.allocate id fun audioSsrc =>
        if withVideo then .allocateVideo fingerprint audioSsrc
        else .construct fingerprint audioSsrc 0
  | .allocateVideo fingerprint audioSsrc =>
      factory.allocate id fun v => .allocateSpare fingerprint audioSsrc v
  -- the third value is discarded
  | .allocateSpare fingerprint audioSsrc videoSsrc =>
      factory.allocate id fun _ => .construct fingerprint audioSsrc videoSsrc
  | .construct fingerprint audioSsrc videoSsrc =>
      match input with
      | .credentials ufrag pwd =>
          factory.move id
            (.returned (.ok ⟨ufrag, pwd, fingerprint, audioSsrc, videoSsrc⟩))
      | _ => factory

def next (factory : Factory) : Action → Factory
  | .newStack withVideo =>
      { factory.move factory.started (.testClosed withVideo) with
        started := factory.started + 1 }
  | .step id input => factory.turn id input
  | .close => { factory with closed := true }

/-! Uniqueness of the SSRCs announced. -/

/-- The SSRCs in the local params of the stack a call has returned. -/
def announced (factory : Factory) (id : Nat) : List UInt32 :=
  match factory.newStacks id with
  | .returned (.ok stack) =>
      match stack.getLocalParams with
      | .ok params => params.ssrcs
      | .error _ => []
  | _ => []

structure Unique (factory : Factory) : Prop where
  nonzero : ∀ id, 0 ∉ factory.announced id
  distinct : ∀ id, (factory.announced id).Nodup
  disjoint : ∀ id other, id ≠ other →
    (factory.announced id).Disjoint (factory.announced other)

end Factory

namespace NewStackAt

/-- The call will announce the value beside its video SSRC and has not fetched
its spare one. -/
def reserves (stage : NewStackAt) (value : UInt32) : Bool :=
  match stage with
  | .allocateSpare _ _ videoSsrc => videoSsrc + 1 = value
  | _ => false

end NewStackAt

namespace Factory

def Unreserved (factory : Factory) : Prop :=
  ∀ id, (factory.newStacks id).reserves factory.ssrcCounter = false

/-- An audio or video SSRC is fetched only when the counter does not stand at the
value that a call announces beside its video SSRC, and no video SSRC has zero
beside it. -/
def Contiguous (factory : Factory) : Action → Prop
  | .step id _ =>
      match factory.newStacks id with
      | .allocateAudio _ _ => factory.Unreserved
      | .allocateVideo _ _ => factory.Unreserved ∧ factory.ssrcCounter + 1 ≠ 0
      | _ => True
  | _ => True

/-- Every call has returned, with an error or with a stack whose local params
can be built. -/
def Settled (factory : Factory) : Prop :=
  ∀ id, match factory.newStacks id with
    | .idle | .returned (.error _) => True
    | .returned (.ok stack) => ∃ params, stack.getLocalParams = .ok params
    | _ => False

end Factory

/-! What a call holds of the counter's values: its audio SSRC and, unless it is
zero, its video SSRC. -/

namespace NewStackAt

def ssrcs : NewStackAt → Option (UInt32 × UInt32)
  | .allocateVideo _ audioSsrc => some (audioSsrc, 0)
  | .allocateSpare _ audioSsrc videoSsrc => some (audioSsrc, videoSsrc)
  | .construct _ audioSsrc videoSsrc => some (audioSsrc, videoSsrc)
  | .returned (.ok stack) => some (stack.audioSsrc, stack.videoSsrc)
  | _ => none

def held (stage : NewStackAt) : List UInt32 :=
  match stage.ssrcs with
  | some (audio, video) => audio :: if video ≠ 0 then [video] else []
  | none => []

theorem held_congr {stage other : NewStackAt} (hssrcs : stage.ssrcs = other.ssrcs) :
    stage.held = other.held := by
  simp [held, hssrcs]

theorem held_none {stage : NewStackAt} (hssrcs : stage.ssrcs = none) :
    stage.held = [] := by
  simp [held, hssrcs]

theorem held_both {stage : NewStackAt} (hssrcs : stage.ssrcs = some (audio, video))
    (hvideo : video ≠ 0) : stage.held = [audio, video] := by
  simp [held, hssrcs, hvideo]

/-- The value a stack announces beside its video SSRC. -/
def besides (stage : NewStackAt) : List UInt32 :=
  match stage.ssrcs with
  | some (_, video) => if video ≠ 0 then [video + 1] else []
  | none => []

theorem mem_besides {stage : NewStackAt} :
    value ∈ stage.besides ↔ ∃ audio video,
      stage.ssrcs = some (audio, video) ∧ video ≠ 0 ∧ value = video + 1 := by
  unfold besides
  split
  next audio video hssrcs =>
    by_cases hvideo : video = 0
    · simp [hssrcs, hvideo]
    · simp [hssrcs, hvideo]
  next hssrcs => simp [hssrcs]

theorem video_mem_held {stage : NewStackAt}
    (hssrcs : stage.ssrcs = some (audio, video)) (hvideo : video ≠ 0) :
    video ∈ stage.held := by
  simp [held_both hssrcs hvideo]

theorem held_of_reserves {stage : NewStackAt} (hreserves : stage.reserves value) :
    ∃ audio video, stage.ssrcs = some (audio, video) ∧ video + 1 = value := by
  cases stage with
  | allocateSpare fingerprint audio video =>
      exact ⟨audio, video, rfl, by simpa [reserves] using hreserves⟩
  | _ => simp [reserves] at hreserves

end NewStackAt

namespace Factory

@[simp] theorem newStacks_move (factory : Factory) (id : Nat) (stage : NewStackAt) :
    (factory.move id stage).newStacks = Function.update factory.newStacks id stage :=
  rfl

@[simp] theorem ssrcCounter_move (factory : Factory) (id : Nat)
    (stage : NewStackAt) :
    (factory.move id stage).ssrcCounter = factory.ssrcCounter :=
  rfl

@[simp] theorem allocated_move (factory : Factory) (id : Nat)
    (stage : NewStackAt) : (factory.move id stage).allocated = factory.allocated :=
  rfl

/-- The counter after a fetch, before the call goes on. -/
def fetch (factory : Factory) : Factory :=
  { factory with
    ssrcCounter := factory.ssrcCounter + 1
    allocated := factory.allocated + if factory.ssrcCounter ≠ 0 then 1 else 0 }

theorem allocate_eq (factory : Factory) (id : Nat) (stage : UInt32 → NewStackAt) :
    factory.allocate id stage =
      if factory.ssrcCounter ≠ 0 then
        factory.fetch.move id (stage factory.ssrcCounter)
      else factory.fetch := by
  unfold allocate fetch move
  by_cases hzero : factory.ssrcCounter = 0 <;> simp [hzero]

/-! A run whose fetches are contiguous. -/

structure Allocating (initial : UInt32) (fetched : Nat) (factory : Factory) :
    Prop where
  counter : factory.ssrcCounter = Counter.value initial fetched
  counted : fetched ≤ factory.allocated ∨
    fetched = factory.allocated + 1 ∧ Counter.Shown initial fetched 0
  shown : ∀ id, ∀ ssrc ∈ (factory.newStacks id).held,
    ssrc ≠ 0 ∧ Counter.Shown initial fetched ssrc
  distinct : ∀ id, (factory.newStacks id).held.Nodup
  disjoint : ∀ id other, id ≠ other →
    (factory.newStacks id).held.Disjoint (factory.newStacks other).held
  beside : ∀ id audio video, (factory.newStacks id).ssrcs = some (audio, video) →
    video ≠ 0 → video + 1 ≠ 0 ∧ ∀ other, video + 1 ∉ (factory.newStacks other).held
  spare : ∀ id audio video, (factory.newStacks id).ssrcs = some (audio, video) →
    video ≠ 0 → Counter.Shown initial fetched (video + 1) ∨
      (factory.newStacks id).reserves factory.ssrcCounter = true

/-- No call has its spare value still to come. -/
def Spared (initial : UInt32) (fetched : Nat) (stage : NewStackAt) : Prop :=
  ∀ audio video, stage.ssrcs = some (audio, video) → video ≠ 0 →
    Counter.Shown initial fetched (video + 1)

section Allocating

variable {initial : UInt32} {fetched : Nat} {factory : Factory}

theorem allocating_new (initial : UInt32) : Allocating initial 0 (new initial) where
  counter := by simp [new, Counter.value]
  counted := .inl (Nat.zero_le _)
  shown := by simp [new, NewStackAt.held, NewStackAt.ssrcs]
  distinct := by simp [new, NewStackAt.held, NewStackAt.ssrcs]
  disjoint := by simp [new, NewStackAt.held, NewStackAt.ssrcs]
  beside := by simp [new, NewStackAt.ssrcs]
  spare := by simp [new, NewStackAt.ssrcs]

theorem Allocating.fetched_lt (hallocating : Allocating initial fetched factory)
    (hbound : factory.allocated < UInt32.size - 1) : fetched < UInt32.size := by
  have hcounted := hallocating.counted
  omega

theorem Allocating.spared (hallocating : Allocating initial fetched factory)
    {id : Nat}
    (hreserves : (factory.newStacks id).reserves factory.ssrcCounter = false) :
    Spared initial fetched (factory.newStacks id) := by
  intro audio video hssrcs hvideo
  apply (hallocating.spare id audio video hssrcs hvideo).resolve_right
  simp [hreserves]

/-- A fetch gives the value that a reservation was waiting for, whoever makes
it. -/
theorem Allocating.spared_fetch (hallocating : Allocating initial fetched factory)
    (hfetched : fetched < UInt32.size) (id : Nat) :
    Spared initial (fetched + 1) (factory.newStacks id) := by
  intro audio video hssrcs hvideo
  obtain hshown | hreserves := hallocating.spare id audio video hssrcs hvideo
  · exact hshown.succ
  · obtain ⟨audio', video', hssrcs', hnext⟩ := NewStackAt.held_of_reserves hreserves
    rw [hssrcs] at hssrcs'
    cases hssrcs'
    rw [hnext, hallocating.counter]
    exact Counter.shown_value hfetched

theorem Allocating.fetch (hallocating : Allocating initial fetched factory)
    (hfetched : fetched < UInt32.size) :
    Allocating initial (fetched + 1) factory.fetch where
  counter := by simp [Factory.fetch, hallocating.counter, Counter.value_succ]
  counted := by
    have hcounter := hallocating.counter
    obtain hcounted | ⟨hcounted, hzero⟩ := hallocating.counted
    · by_cases hskip : factory.ssrcCounter = 0
      · have hshown := @Counter.shown_value initial fetched hfetched
        rw [← hcounter, hskip] at hshown
        simp only [Factory.fetch, hskip, ne_eq, not_true, if_false]
        by_cases hbelow : fetched + 1 ≤ factory.allocated
        · exact .inl hbelow
        · exact .inr ⟨by omega, hshown⟩
      · simp only [Factory.fetch, hskip, ne_eq, not_false_eq_true, if_true]
        exact .inl (by omega)
    · have hskip : factory.ssrcCounter ≠ 0 := by
        intro hskip
        apply @Counter.not_shown_value initial fetched hfetched
        rw [← hcounter, hskip]
        exact hzero
      simp only [Factory.fetch, hskip, ne_eq, not_false_eq_true, if_true]
      exact .inr ⟨by omega, hzero.succ⟩
  shown := fun id ssrc hmem =>
    ⟨(hallocating.shown id ssrc hmem).1, (hallocating.shown id ssrc hmem).2.succ⟩
  distinct := hallocating.distinct
  disjoint := hallocating.disjoint
  beside := hallocating.beside
  spare := fun id audio video hssrcs hvideo =>
    .inl (hallocating.spared_fetch hfetched id audio video hssrcs hvideo)

/-- A call goes on with the SSRCs it has. -/
theorem Allocating.keep (hallocating : Allocating initial fetched factory)
    {id : Nat} {stage : NewStackAt}
    (hssrcs : stage.ssrcs = (factory.newStacks id).ssrcs)
    (hspared : Spared initial fetched (factory.newStacks id)) :
    Allocating initial fetched (factory.move id stage) := by
  have hsame (other : Nat) :
      (Function.update factory.newStacks id stage other).ssrcs =
        (factory.newStacks other).ssrcs := by
    by_cases hother : other = id
    · subst hother
      simpa using hssrcs
    · simp [Function.update_of_ne hother]
  have hheld (other : Nat) :
      (Function.update factory.newStacks id stage other).held =
        (factory.newStacks other).held :=
    NewStackAt.held_congr (hsame other)
  refine ⟨hallocating.counter, hallocating.counted, ?_, ?_, ?_, ?_, ?_⟩
  · simpa only [newStacks_move, hheld] using hallocating.shown
  · simpa only [newStacks_move, hheld] using hallocating.distinct
  · simpa only [newStacks_move, hheld] using hallocating.disjoint
  · simpa only [newStacks_move, hheld, hsame] using hallocating.beside
  · intro other audio video hother hvideo
    simp only [newStacks_move, hsame] at hother
    by_cases hid : other = id
    · subst hid
      exact .inl (hspared audio video hother hvideo)
    · simpa [Function.update_of_ne hid] using
        hallocating.spare other audio video hother hvideo

/-- A call goes on with one SSRC more, which nobody holds and which lies beside
nobody's video SSRC. -/
theorem Allocating.grow (hallocating : Allocating initial fetched factory)
    {id : Nat} {stage : NewStackAt} {ssrc : UInt32}
    (hheld : stage.held = (factory.newStacks id).held ++ [ssrc])
    (hnonzero : ssrc ≠ 0) (hshown : Counter.Shown initial fetched ssrc)
    (hfresh : ∀ other, ssrc ∉ (factory.newStacks other).held)
    (hbeside : ∀ other audio video,
      (factory.newStacks other).ssrcs = some (audio, video) → video ≠ 0 →
        video + 1 ≠ ssrc)
    (hvideo : ∀ audio video, stage.ssrcs = some (audio, video) → video ≠ 0 →
      (video + 1 ≠ 0 ∧ video + 1 ≠ ssrc ∧
        ∀ other, video + 1 ∉ (factory.newStacks other).held) ∧
      stage.reserves factory.ssrcCounter = true) :
    Allocating initial fetched (factory.move id stage) := by
  have hmem (other : Nat) (value : UInt32)
      (hvalue : value ∈ (Function.update factory.newStacks id stage other).held) :
      value ∈ (factory.newStacks other).held ∨ other = id ∧ value = ssrc := by
    by_cases hother : other = id
    · subst hother
      simp only [Function.update_self, hheld, List.mem_append,
        List.mem_singleton] at hvalue
      exact hvalue.imp_right fun hvalue => ⟨rfl, hvalue⟩
    · simp only [Function.update_of_ne hother] at hvalue
      exact .inl hvalue
  refine ⟨hallocating.counter, hallocating.counted, ?_, ?_, ?_, ?_, ?_⟩
  · intro other value hvalue
    obtain hold | ⟨_, hnew⟩ := hmem other value hvalue
    · exact hallocating.shown other value hold
    · subst hnew
      exact ⟨hnonzero, hshown⟩
  · intro other
    by_cases hother : other = id
    · subst hother
      simp only [newStacks_move, Function.update_self, hheld]
      apply List.nodup_append.mpr
      refine ⟨hallocating.distinct other, by simp, ?_⟩
      intro value hvalue new hnew hsame
      rw [List.mem_singleton.mp hnew] at hsame
      subst hsame
      exact hfresh other hvalue
    · simpa [Function.update_of_ne hother] using hallocating.distinct other
  · intro first second hne value hfirst hsecond
    obtain hfirst | ⟨hid, hfirst⟩ := hmem first value hfirst
    · obtain hsecond | ⟨_, hsecond⟩ := hmem second value hsecond
      · exact hallocating.disjoint first second hne hfirst hsecond
      · subst hsecond
        exact hfresh first hfirst
    · obtain hsecond | ⟨hid', _⟩ := hmem second value hsecond
      · subst hfirst
        exact hfresh second hsecond
      · exact hne (hid.trans hid'.symm)
  · intro other audio video hssrcs hnonzero
    have hside : video + 1 ≠ 0 ∧ video + 1 ≠ ssrc ∧
        ∀ other, video + 1 ∉ (factory.newStacks other).held := by
      by_cases hother : other = id
      · subst hother
        simp only [newStacks_move, Function.update_self] at hssrcs
        exact (hvideo audio video hssrcs hnonzero).1
      · simp only [newStacks_move, Function.update_of_ne hother] at hssrcs
        obtain ⟨hzero, hothers⟩ := hallocating.beside other audio video hssrcs hnonzero
        exact ⟨hzero, hbeside other audio video hssrcs hnonzero, hothers⟩
    obtain ⟨hzero, hssrc, hothers⟩ := hside
    refine ⟨hzero, fun third hthird => ?_⟩
    obtain hold | ⟨_, hnew⟩ := hmem third _ hthird
    · exact hothers third hold
    · exact hssrc hnew
  · intro other audio video hssrcs hnonzero
    by_cases hother : other = id
    · subst hother
      simp only [newStacks_move, Function.update_self] at hssrcs
      exact .inr (by simpa using (hvideo audio video hssrcs hnonzero).2)
    · simp only [newStacks_move, Function.update_of_ne hother] at hssrcs
      simpa [Function.update_of_ne hother] using
        hallocating.spare other audio video hssrcs hnonzero

/-- The value just fetched, when no call reserves it: it is new, and so is the
one that follows. -/
theorem Allocating.fetched_fresh (hallocating : Allocating initial fetched factory)
    (hfetched : fetched < UInt32.size) (id : Nat) :
    factory.ssrcCounter ∉ (factory.newStacks id).held := by
  intro hheld
  apply @Counter.not_shown_value initial fetched hfetched
  rw [← hallocating.counter]
  exact (hallocating.shown id _ hheld).2

theorem Allocating.not_beside (hallocating : Allocating initial fetched factory)
    (hfetched : fetched < UInt32.size) (hunreserved : factory.Unreserved)
    {id : Nat} {audio video : UInt32}
    (hssrcs : (factory.newStacks id).ssrcs = some (audio, video))
    (hvideo : video ≠ 0) : video + 1 ≠ factory.ssrcCounter := by
  intro hnext
  apply @Counter.not_shown_value initial fetched hfetched
  rw [← hallocating.counter, ← hnext]
  exact hallocating.spared (hunreserved id) audio video hssrcs hvideo

theorem Allocating.allocate_ssrc (hallocating : Allocating initial fetched factory)
    {id : Nat} {stage : UInt32 → NewStackAt}
    (hbound : (factory.allocate id stage).allocated < UInt32.size - 1)
    (hunreserved : factory.Unreserved)
    (hheld : factory.ssrcCounter ≠ 0 → (stage factory.ssrcCounter).held =
      (factory.newStacks id).held ++ [factory.ssrcCounter])
    (hvideo : ∀ audio video,
      (stage factory.ssrcCounter).ssrcs = some (audio, video) → video ≠ 0 →
        video = factory.ssrcCounter ∧ factory.ssrcCounter + 1 ≠ 0 ∧
          (stage factory.ssrcCounter).reserves (factory.ssrcCounter + 1) = true) :
    Allocating initial (fetched + 1) (factory.allocate id stage) := by
  rw [allocate_eq] at hbound ⊢
  split at hbound
  next hnonzero =>
    rw [if_pos hnonzero]
    have hbefore : factory.allocated < UInt32.size - 1 :=
      Nat.lt_of_le_of_lt (Nat.le_add_right _ _) hbound
    have hfetched := hallocating.fetched_lt hbefore
    have hfetch := hallocating.fetch hfetched
    have hsucc := hfetch.fetched_lt hbound
    have hshown := @Counter.shown_value initial fetched hfetched
    rw [← hallocating.counter] at hshown
    apply hfetch.grow (hheld hnonzero) hnonzero hshown
      (hallocating.fetched_fresh hfetched)
    · intro other audio video hssrcs
      exact hallocating.not_beside hfetched hunreserved hssrcs
    · intro audio video hssrcs hne
      obtain ⟨hsame, hzero, hreserves⟩ := hvideo audio video hssrcs hne
      subst hsame
      refine ⟨⟨hzero, ?_, ?_⟩, hreserves⟩
      · intro hcycle
        simp at hcycle
      · exact hfetch.fetched_fresh hsucc
  next hzero =>
    rw [if_neg hzero]
    have hbefore : factory.allocated < UInt32.size - 1 :=
      Nat.lt_of_le_of_lt (Nat.le_add_right _ _) hbound
    exact hallocating.fetch (hallocating.fetched_lt hbefore)

theorem Allocating.allocate_spare (hallocating : Allocating initial fetched factory)
    {id : Nat} {stage : NewStackAt}
    (hbound : (factory.allocate id fun _ => stage).allocated < UInt32.size - 1)
    (hssrcs : stage.ssrcs = (factory.newStacks id).ssrcs) :
    Allocating initial (fetched + 1) (factory.allocate id fun _ => stage) := by
  have hbefore : factory.allocated < UInt32.size - 1 := by
    rw [allocate_eq] at hbound
    split at hbound <;> exact Nat.lt_of_le_of_lt (Nat.le_add_right _ _) hbound
  have hfetched := hallocating.fetched_lt hbefore
  have hfetch := hallocating.fetch hfetched
  rw [allocate_eq]
  split
  · exact hfetch.keep hssrcs (hallocating.spared_fetch hfetched id)
  · exact hfetch

theorem Allocating.turn (hallocating : Allocating initial fetched factory)
    {id : Nat} {input : NewStackInput}
    (hbound : (factory.turn id input).allocated < UInt32.size - 1)
    (hcontiguous : factory.Contiguous (.step id input)) :
    ∃ fetched, Allocating initial fetched (factory.turn id input) := by
  have hkeep {stage : NewStackAt} (hssrcs : stage.ssrcs = (factory.newStacks id).ssrcs)
      (hreserves : (factory.newStacks id).reserves factory.ssrcCounter = false) :
      Allocating initial fetched (factory.move id stage) :=
    hallocating.keep hssrcs (hallocating.spared hreserves)
  revert hbound hcontiguous
  unfold Factory.turn Contiguous
  intro hbound hcontiguous
  cases hstage : factory.newStacks id with
  | idle | returned result => exact ⟨fetched, by simpa using hallocating⟩
  | testClosed withVideo =>
      refine ⟨fetched, hkeep ?_ ?_⟩
      · rw [hstage]
        split <;> rfl
      · rw [hstage]
        rfl
  | takeCert withVideo =>
      cases input with
      | cert fingerprint | certFails detail =>
          exact ⟨fetched, hkeep (by rw [hstage]; rfl) (by rw [hstage]; rfl)⟩
      | credentials ufrag pwd => exact ⟨fetched, by simpa using hallocating⟩
  | allocateAudio fingerprint withVideo =>
      simp only [hstage] at hbound hcontiguous
      refine ⟨fetched + 1, hallocating.allocate_ssrc hbound hcontiguous ?_ ?_⟩
      · intro _
        have hnone : (factory.newStacks id).held = [] := by
          rw [hstage]
          rfl
        rw [hnone]
        cases withVideo <;> rfl
      · intro audio video hssrcs hne
        cases withVideo <;> cases hssrcs <;> exact absurd rfl hne
  | allocateVideo fingerprint audio =>
      simp only [hstage] at hbound hcontiguous
      obtain ⟨hunreserved, hlast⟩ := hcontiguous
      refine ⟨fetched + 1, hallocating.allocate_ssrc hbound hunreserved ?_ ?_⟩
      · intro hnonzero
        have haudio : (factory.newStacks id).held = [audio] := by
          rw [hstage]
          rfl
        rw [haudio]
        exact NewStackAt.held_both rfl hnonzero
      · intro audio video hssrcs _
        cases hssrcs
        exact ⟨rfl, hlast, by simp [NewStackAt.reserves]⟩
  | allocateSpare fingerprint audio video =>
      simp only [hstage] at hbound
      exact ⟨fetched + 1, hallocating.allocate_spare hbound (by rw [hstage]; rfl)⟩
  | construct fingerprint audio video =>
      cases input with
      | credentials ufrag pwd =>
          exact ⟨fetched, hkeep (by rw [hstage]; rfl) (by rw [hstage]; rfl)⟩
      | cert fingerprint | certFails detail =>
          exact ⟨fetched, by simpa using hallocating⟩

end Allocating

section turn

variable {factory : Factory} {id : Nat} (input : NewStackInput)

theorem turn_allocateAudio
    (hstage : factory.newStacks id = .allocateAudio fingerprint withVideo) :
    factory.turn id input = factory.allocate id fun audioSsrc =>
      if withVideo then .allocateVideo fingerprint audioSsrc
      else .construct fingerprint audioSsrc 0 := by
  simp only [turn, hstage]

theorem turn_allocateVideo
    (hstage : factory.newStacks id = .allocateVideo fingerprint audio) :
    factory.turn id input =
      factory.allocate id fun v => .allocateSpare fingerprint audio v := by
  simp only [turn, hstage]

theorem turn_allocateSpare
    (hstage : factory.newStacks id = .allocateSpare fingerprint audio video) :
    factory.turn id input =
      factory.allocate id fun _ => .construct fingerprint audio video := by
  simp only [turn, hstage]

end turn

/-! What a turn leaves alone. -/

theorem turn_cases (factory : Factory) (id : Nat) (input : NewStackInput) :
    factory.turn id input = factory ∨
      (∃ stage, factory.turn id input = factory.move id stage) ∨
      ∃ stage, factory.turn id input = factory.allocate id stage := by
  unfold turn
  cases factory.newStacks id with
  | idle | returned result => exact .inl rfl
  | testClosed withVideo => exact .inr (.inl ⟨_, rfl⟩)
  | takeCert withVideo =>
      cases input with
      | cert fingerprint | certFails detail => exact .inr (.inl ⟨_, rfl⟩)
      | credentials ufrag pwd => exact .inl rfl
  | allocateAudio fingerprint withVideo => exact .inr (.inr ⟨_, rfl⟩)
  | allocateVideo fingerprint audio => exact .inr (.inr ⟨_, rfl⟩)
  | allocateSpare fingerprint audio video => exact .inr (.inr ⟨_, rfl⟩)
  | construct fingerprint audio video =>
      cases input with
      | credentials ufrag pwd => exact .inr (.inl ⟨_, rfl⟩)
      | cert fingerprint | certFails detail => exact .inl rfl

theorem newStacks_turn_of_ne (factory : Factory) {id other : Nat}
    (input : NewStackInput) (hother : other ≠ id) :
    (factory.turn id input).newStacks other = factory.newStacks other := by
  obtain hturn | ⟨stage, hturn⟩ | ⟨stage, hturn⟩ := factory.turn_cases id input
  · rw [hturn]
  · simp [hturn, Function.update_of_ne hother]
  · rw [hturn, allocate_eq]
    split <;> simp [fetch, Function.update_of_ne hother]

@[simp] theorem started_turn (factory : Factory) (id : Nat)
    (input : NewStackInput) : (factory.turn id input).started = factory.started := by
  obtain hturn | ⟨stage, hturn⟩ | ⟨stage, hturn⟩ := factory.turn_cases id input
  · rw [hturn]
  · rw [hturn]
    rfl
  · rw [hturn, allocate_eq]
    split <;> rfl

theorem allocated_turn (factory : Factory) (id : Nat) (input : NewStackInput) :
    factory.allocated ≤ (factory.turn id input).allocated := by
  obtain hturn | ⟨stage, hturn⟩ | ⟨stage, hturn⟩ := factory.turn_cases id input
  · exact Nat.le_of_eq (by rw [hturn])
  · exact Nat.le_of_eq (by rw [hturn, allocated_move])
  · rw [hturn, allocate_eq]
    split <;> exact Nat.le_add_right _ _

/-- No call has been made under the numbers from `started` on. -/
def Numbered (factory : Factory) : Prop :=
  ∀ id, factory.started ≤ id → factory.newStacks id = .idle

theorem numbered_next (factory : Factory) (action : Action)
    (hnumbered : Numbered factory) : Numbered (factory.next action) := by
  intro id hid
  cases action with
  | newStack withVideo =>
      have hlater : factory.started + 1 ≤ id := hid
      have hother : id ≠ factory.started := by omega
      simpa [next, Function.update_of_ne hother] using hnumbered id (by omega)
  | close => exact hnumbered id hid
  | step other input =>
      have hidle := hnumbered id (by simpa [next] using hid)
      by_cases hother : id = other
      · subst hother
        simp [next, turn, hidle]
      · simpa [next, newStacks_turn_of_ne factory input hother] using hidle

/-! Runs. -/

/-- While fewer than `2 ^ 32 - 1` values are allocated. -/
structure Sound (initial : UInt32) (factory : Factory) : Prop where
  numbered : Numbered factory
  allocating : factory.allocated < UInt32.size - 1 →
    ∃ fetched, Allocating initial fetched factory

theorem sound_next (initial : UInt32) (factory : Factory) (action : Action)
    (hsound : Sound initial factory) (hcontiguous : factory.Contiguous action) :
    Sound initial (factory.next action) := by
  refine ⟨numbered_next factory action hsound.numbered, fun hbound => ?_⟩
  cases action with
  | newStack withVideo =>
      obtain ⟨fetched, hallocating⟩ := hsound.allocating hbound
      have hidle := hsound.numbered factory.started (Nat.le_refl _)
      have hmoved : Allocating initial fetched
          (factory.move factory.started (.testClosed withVideo)) := by
        apply hallocating.keep
        · rw [hidle]
          rfl
        · rw [hidle]
          intro audio video hssrcs
          cases hssrcs
      obtain ⟨hcounter, hcounted, hshown, hdistinct, hdisjoint, hbeside, hspare⟩ :=
        hmoved
      exact ⟨fetched, hcounter, hcounted, hshown, hdistinct, hdisjoint, hbeside,
        hspare⟩
  | step id input =>
      have hbefore := Nat.lt_of_le_of_lt (factory.allocated_turn id input) hbound
      obtain ⟨fetched, hallocating⟩ := hsound.allocating hbefore
      exact hallocating.turn hbound hcontiguous
  | close =>
      obtain ⟨fetched, hallocating⟩ := hsound.allocating hbound
      obtain ⟨hcounter, hcounted, hshown, hdistinct, hdisjoint, hbeside, hspare⟩ :=
        hallocating
      exact ⟨fetched, hcounter, hcounted, hshown, hdistinct, hdisjoint, hbeside,
        hspare⟩

theorem announced_eq (factory : Factory) (id : Nat) :
    factory.announced id = [] ∨ factory.announced id =
      (factory.newStacks id).held ++ (factory.newStacks id).besides := by
  unfold announced
  cases factory.newStacks id with
  | returned result =>
      cases result with
      | error error => exact .inl rfl
      | ok stack =>
          simp only
          cases hparams : stack.getLocalParams with
          | error error => exact .inl rfl
          | ok params =>
              have hssrcs := ssrcs_buildLocalParams hparams
              apply Or.inr
              simp only [hssrcs, NewStackAt.held, NewStackAt.besides,
                NewStackAt.ssrcs]
              split <;> rfl
  | _ => exact .inl rfl

theorem announced_subset (factory : Factory) (id : Nat) (ssrc : UInt32)
    (hssrc : ssrc ∈ factory.announced id) :
    ssrc ∈ (factory.newStacks id).held ∨ ssrc ∈ (factory.newStacks id).besides := by
  obtain hannounced | hannounced := factory.announced_eq id
  · simp [hannounced] at hssrc
  · simpa [hannounced] using hssrc

theorem Allocating.unique {initial : UInt32} {fetched : Nat} {factory : Factory}
    (hallocating : Allocating initial fetched factory) : Unique factory where
  nonzero := by
    intro id hzero
    obtain hheld | hbeside := factory.announced_subset id 0 hzero
    · exact (hallocating.shown id 0 hheld).1 rfl
    · obtain ⟨audio, video, hssrcs, hvideo, hnext⟩ := NewStackAt.mem_besides.mp hbeside
      exact (hallocating.beside id audio video hssrcs hvideo).1 hnext.symm
  distinct := by
    intro id
    obtain hannounced | hannounced := factory.announced_eq id
    · simp [hannounced]
    · rw [hannounced]
      apply List.Nodup.append (hallocating.distinct id)
      · unfold NewStackAt.besides
        split
        · split <;> simp
        · simp
      · intro ssrc hheld hbeside
        obtain ⟨audio, video, hssrcs, hvideo, hnext⟩ :=
          NewStackAt.mem_besides.mp hbeside
        subst hnext
        exact (hallocating.beside id audio video hssrcs hvideo).2 id hheld
  disjoint := by
    intro id other hne ssrc hid hother
    obtain hid | hid := factory.announced_subset id ssrc hid
    · obtain hother | hother := factory.announced_subset other ssrc hother
      · exact hallocating.disjoint id other hne hid hother
      · obtain ⟨audio, video, hssrcs, hvideo, hnext⟩ :=
          NewStackAt.mem_besides.mp hother
        subst hnext
        exact (hallocating.beside other audio video hssrcs hvideo).2 id hid
    · obtain ⟨audio, video, hssrcs, hvideo, hnext⟩ := NewStackAt.mem_besides.mp hid
      subst hnext
      obtain hother | hother := factory.announced_subset other _ hother
      · exact (hallocating.beside id audio video hssrcs hvideo).2 other hother
      · obtain ⟨audio', video', hssrcs', hvideo', hnext⟩ :=
          NewStackAt.mem_besides.mp hother
        have hsame : video = video' := by simpa using hnext
        subst hsame
        exact hallocating.disjoint id other hne
          (NewStackAt.video_mem_held hssrcs hvideo)
          (NewStackAt.video_mem_held hssrcs' hvideo')

/-! A reservation that another call has taken stays taken. -/

structure Clash (factory : Factory) (id : Nat) (audio video : UInt32) : Prop where
  ssrcs : (factory.newStacks id).ssrcs = some (audio, video)
  nonzero : video ≠ 0
  taken : video + 1 = 0 ∨ ∃ other, other ≠ id ∧ video + 1 ∈ (factory.newStacks other).held

def Clashing (factory : Factory) : Prop :=
  ∃ id audio video, Clash factory id audio video

theorem not_unique_of_clashing {factory : Factory} (hsettled : Settled factory)
    (hclashing : Clashing factory) : ¬ Unique factory := by
  intro hunique
  have hannounced (id : Nat) : factory.announced id =
      (factory.newStacks id).held ++ (factory.newStacks id).besides := by
    have hid := hsettled id
    cases hstage : factory.newStacks id with
    | idle => simp [announced, hstage, NewStackAt.held, NewStackAt.besides, NewStackAt.ssrcs]
    | returned result =>
        cases result with
        | error error =>
            simp [announced, hstage, NewStackAt.held, NewStackAt.besides,
              NewStackAt.ssrcs]
        | ok stack =>
            obtain hempty | hfull := factory.announced_eq id
            · simp only [hstage] at hid
              obtain ⟨params, hparams⟩ := hid
              simp [announced, hstage, hparams, LocalParams.ssrcs] at hempty
            · rw [hfull, hstage]
    | _ => simp [hstage] at hid
  obtain ⟨id, audio, video, hssrcs, hvideo, htaken⟩ := hclashing
  have hbeside : video + 1 ∈ factory.announced id := by
    rw [hannounced]
    apply List.mem_append_right
    exact NewStackAt.mem_besides.mpr ⟨audio, video, hssrcs, hvideo, rfl⟩
  obtain hzero | ⟨other, hother, hheld⟩ := htaken
  · rw [hzero] at hbeside
    exact hunique.nonzero id hbeside
  · apply hunique.disjoint other id hother _ hbeside
    rw [hannounced]
    exact List.mem_append_left _ hheld

/-- What a call holds it keeps. -/
structure Grows (before after : NewStackAt) : Prop where
  ssrcs : ∀ audio video, before.ssrcs = some (audio, video) → video ≠ 0 →
    after.ssrcs = some (audio, video)
  held : before.held ⊆ after.held

theorem Grows.of_eq {before after : NewStackAt} (hssrcs : after.ssrcs = before.ssrcs) :
    Grows before after where
  ssrcs := fun _ _ hbefore _ => hssrcs.trans hbefore
  held := by
    rw [NewStackAt.held_congr hssrcs]
    exact fun _ hmem => hmem

theorem Grows.of_none {before after : NewStackAt} (hssrcs : before.ssrcs = none) :
    Grows before after where
  ssrcs := by simp [hssrcs]
  held := by simp [NewStackAt.held_none hssrcs]

theorem grows_allocate (factory : Factory) {id : Nat} {stage : UInt32 → NewStackAt}
    (hgrows : ∀ value, Grows (factory.newStacks id) (stage value)) :
    Grows (factory.newStacks id) ((factory.allocate id stage).newStacks id) := by
  rw [allocate_eq]
  split
  · simpa [fetch] using hgrows factory.ssrcCounter
  · exact .of_eq rfl

theorem grows_turn (factory : Factory) (id : Nat) (input : NewStackInput) :
    Grows (factory.newStacks id) ((factory.turn id input).newStacks id) := by
  cases hstage : factory.newStacks id with
  | idle | returned result => exact .of_eq (by simp [turn, hstage])
  | testClosed withVideo => exact .of_none rfl
  | takeCert withVideo => exact .of_none rfl
  | allocateAudio fingerprint withVideo => exact .of_none rfl
  | allocateVideo fingerprint audio =>
      rw [turn_allocateVideo input hstage, ← hstage]
      apply grows_allocate
      intro value
      rw [hstage]
      constructor
      · intro audio' video hssrcs hvideo
        cases hssrcs
        exact absurd rfl hvideo
      · intro ssrc hssrc
        have haudio : ssrc = audio := by
          simpa [NewStackAt.held, NewStackAt.ssrcs] using hssrc
        simp [NewStackAt.held, NewStackAt.ssrcs, haudio]
  | allocateSpare fingerprint audio video =>
      rw [turn_allocateSpare input hstage, ← hstage]
      apply grows_allocate
      intro value
      rw [hstage]
      exact .of_eq rfl
  | construct fingerprint audio video =>
      cases input with
      | credentials ufrag pwd => exact .of_eq (by simp [turn, hstage, NewStackAt.ssrcs])
      | cert fingerprint | certFails detail => exact .of_eq (by simp [turn, hstage])

theorem grows_next (factory : Factory) (action : Action)
    (hnumbered : Numbered factory) (id : Nat) :
    Grows (factory.newStacks id) ((factory.next action).newStacks id) := by
  cases action with
  | newStack withVideo =>
      by_cases hid : id = factory.started
      · have hidle := hnumbered id (by omega)
        exact .of_none (by rw [hidle]; rfl)
      · exact .of_eq (by simp [next, Function.update_of_ne hid])
  | close => exact .of_eq rfl
  | step other input =>
      by_cases hid : id = other
      · subst hid
        exact grows_turn factory id input
      · exact .of_eq (by simp [next, newStacks_turn_of_ne factory input hid])

theorem clashing_next (factory : Factory) (action : Action)
    (hnumbered : Numbered factory) (hclashing : Clashing factory) :
    Clashing (factory.next action) := by
  obtain ⟨id, audio, video, hssrcs, hvideo, htaken⟩ := hclashing
  have hgrows := grows_next factory action hnumbered
  refine ⟨id, audio, video, (hgrows id).ssrcs audio video hssrcs hvideo, hvideo, ?_⟩
  obtain hzero | ⟨other, hother, hheld⟩ := htaken
  · exact .inl hzero
  · exact .inr ⟨other, hother, (hgrows other).held hheld⟩

/-- A call that awaits its spare value has a video SSRC. -/
structure Proper (factory : Factory) : Prop where
  numbered : Numbered factory
  spare : ∀ id fingerprint audio video,
    factory.newStacks id = .allocateSpare fingerprint audio video → video ≠ 0

theorem proper_next (factory : Factory) (action : Action)
    (hproper : Proper factory) : Proper (factory.next action) := by
  refine ⟨numbered_next factory action hproper.numbered, ?_⟩
  intro id fingerprint audio video hspare
  cases action with
  | newStack withVideo =>
      by_cases hid : id = factory.started
      · subst hid
        simp [next] at hspare
      · exact hproper.spare id fingerprint audio video
          (by simpa [next, Function.update_of_ne hid] using hspare)
  | close => exact hproper.spare id fingerprint audio video hspare
  | step other input =>
      by_cases hid : id = other
      · subst hid
        simp only [next] at hspare
        cases hstage : factory.newStacks id with
        | idle | returned result => simp [turn, hstage] at hspare
        | testClosed withVideo =>
            cases hclosed : factory.closed <;> simp [turn, hstage, hclosed] at hspare
        | takeCert withVideo => cases input <;> simp [turn, hstage] at hspare
        | allocateAudio fingerprint withVideo =>
            rw [turn_allocateAudio input hstage, allocate_eq] at hspare
            cases withVideo <;> split at hspare <;> simp [fetch, hstage] at hspare
        | allocateVideo fingerprint audio =>
            rw [turn_allocateVideo input hstage, allocate_eq] at hspare
            split at hspare
            next hnonzero =>
              simp only [newStacks_move, Function.update_self,
                NewStackAt.allocateSpare.injEq] at hspare
              rw [← hspare.2.2]
              exact hnonzero
            next => simp [fetch, hstage] at hspare
        | allocateSpare fingerprint' audio' video' =>
            rw [turn_allocateSpare input hstage, allocate_eq] at hspare
            split at hspare
            · simp at hspare
            · exact hproper.spare id fingerprint audio video hspare
        | construct fingerprint audio video =>
            cases input <;> simp [turn, hstage] at hspare
      · exact hproper.spare id fingerprint audio video
          (by simpa [next, newStacks_turn_of_ne factory input hid] using hspare)

/-- A fetch at the value another call reserves gives it away. -/
theorem clashing_of_reserved {factory : Factory} {id : Nat} {input : NewStackInput}
    (hproper : Proper factory) (hreserved : ¬ factory.Unreserved)
    (hid : (factory.newStacks id).reserves factory.ssrcCounter = false)
    (hheld : factory.ssrcCounter ≠ 0 →
      factory.ssrcCounter ∈ ((factory.turn id input).newStacks id).held) :
    Clashing (factory.turn id input) := by
  simp only [Unreserved, not_forall, Bool.not_eq_false] at hreserved
  obtain ⟨other, hother⟩ := hreserved
  have hne : other ≠ id := by
    intro hsame
    subst hsame
    rw [hid] at hother
    cases hother
  cases hstage : factory.newStacks other with
  | allocateSpare fingerprint audio video =>
      have hnext : video + 1 = factory.ssrcCounter := by
        simpa [hstage, NewStackAt.reserves] using hother
      refine ⟨other, audio, video, ?_, hproper.spare other _ _ _ hstage, ?_⟩
      · rw [newStacks_turn_of_ne factory input hne, hstage]
        rfl
      · rw [hnext]
        by_cases hzero : factory.ssrcCounter = 0
        · exact .inl hzero
        · exact .inr ⟨id, hne.symm, hheld hzero⟩
  | _ => simp [hstage, NewStackAt.reserves] at hother

theorem clashing_of_not_contiguous (factory : Factory) (action : Action)
    (hproper : Proper factory) (hcontiguous : ¬ factory.Contiguous action) :
    Clashing (factory.next action) := by
  cases action with
  | newStack withVideo => exact absurd trivial hcontiguous
  | close => exact absurd trivial hcontiguous
  | step id input =>
      simp only [next]
      cases hstage : factory.newStacks id with
      | allocateAudio fingerprint withVideo =>
          simp only [Contiguous, hstage] at hcontiguous
          apply clashing_of_reserved hproper hcontiguous (by rw [hstage]; rfl)
          intro hnonzero
          simp only [turn, hstage, allocate_eq, if_pos hnonzero, newStacks_move,
            Function.update_self]
          cases withVideo <;> simp [NewStackAt.held, NewStackAt.ssrcs]
      | allocateVideo fingerprint audio =>
          have hturn (hnonzero : factory.ssrcCounter ≠ 0) :
              (factory.turn id input).newStacks id =
                .allocateSpare fingerprint audio factory.ssrcCounter := by
            simp only [turn, hstage, allocate_eq, if_pos hnonzero, newStacks_move,
              Function.update_self]
          by_cases hunreserved : factory.Unreserved
          · have hlast : factory.ssrcCounter + 1 = 0 := by
              by_contra hlast
              apply hcontiguous
              simpa only [Contiguous, hstage] using And.intro hunreserved hlast
            have hnonzero : factory.ssrcCounter ≠ 0 := by
              intro hzero
              rw [hzero] at hlast
              exact absurd hlast (by decide)
            refine ⟨id, audio, factory.ssrcCounter, ?_, hnonzero, .inl hlast⟩
            rw [hturn hnonzero]
            rfl
          · apply clashing_of_reserved hproper hunreserved (by rw [hstage]; rfl)
            intro hnonzero
            rw [hturn hnonzero]
            exact NewStackAt.video_mem_held rfl hnonzero
      | _ => exact absurd (by simp [Contiguous, hstage]) hcontiguous

theorem allocated_next (factory : Factory) (action : Action) :
    factory.allocated ≤ (factory.next action).allocated := by
  cases action with
  | newStack withVideo => exact Nat.le_refl _
  | step id input => exact factory.allocated_turn id input
  | close => exact Nat.le_refl _

theorem sound_new (initial : UInt32) : Sound initial (new initial) where
  numbered := fun _ _ => rfl
  allocating := fun _ => ⟨0, allocating_new initial⟩

theorem proper_new (initial : UInt32) : Proper (new initial) where
  numbered := fun _ _ => rfl
  spare := by simp [new]

theorem unique_iff_contiguous (initial : UInt32) (actions : List Action)
    (hbound : (after next (new initial) actions).allocated < UInt32.size - 1) :
    (Along next Contiguous (new initial) actions →
        Always next Unique (new initial) actions) ∧
      (Settled (after next (new initial) actions) →
        Unique (after next (new initial) actions) →
          Along next Contiguous (new initial) actions) := by
  constructor
  · intro hcontiguous
    have hsound := hcontiguous.always (sound_next initial) (sound_new initial)
    have hallocated : Always next
        (fun factory => factory.allocated ≤
          (after next (new initial) actions).allocated)
        (new initial) actions :=
      always_le_after allocated_next
    apply (hsound.and hallocated).mono
    intro factory hfactory
    have hbelow := Nat.lt_of_le_of_lt hfactory.2 hbound
    obtain ⟨fetched, hallocating⟩ := hfactory.1.allocating hbelow
    exact hallocating.unique
  · intro hsettled hunique
    have hlasts (factory : Factory) (action : Action) (hproper : Proper factory) :
        Clashing factory → Clashing (factory.next action) :=
      clashing_next factory action hproper.numbered
    have hend : ¬ Clashing (after next (new initial) actions) := by
      intro hclashing
      exact not_unique_of_clashing hsettled hclashing hunique
    exact along_of_undamaged_of proper_next clashing_of_not_contiguous hlasts
      (proper_new initial) hend

def oneVideoStack : List Action :=
  [.newStack true, .step 0 (.cert "A1"), .step 0 (.cert "A1"),
    .step 0 (.cert "A1"), .step 0 (.cert "A1"), .step 0 (.cert "A1"),
    .step 0 (.credentials "u" "p")]

theorem unique_oneVideoStack :
    (Along next Contiguous (new 7) oneVideoStack →
        Always next Unique (new 7) oneVideoStack) ∧
      (Settled (after next (new 7) oneVideoStack) →
        Unique (after next (new 7) oneVideoStack) →
          Along next Contiguous (new 7) oneVideoStack) :=
  unique_iff_contiguous 7 oneVideoStack (by decide)

/-- The second call's audio fetch comes between the first call's video fetch and
its spare one. -/
def crossedStacks : List Action :=
  [.newStack true, .newStack false,
    .step 0 (.cert "A1"), .step 0 (.cert "A1"), .step 1 (.cert "B2"),
    .step 1 (.cert "B2"), .step 0 (.cert "A1"), .step 0 (.cert "A1"),
    .step 1 (.cert "B2"), .step 0 (.cert "A1"),
    .step 0 (.credentials "u" "p"), .step 1 (.credentials "v" "q")]

theorem crossed_stacks_share_ssrc :
    (after next (new 7) crossedStacks).allocated < UInt32.size - 1 ∧
      (after next (new 7) crossedStacks).announced 0 = [7, 8, 9] ∧
      (after next (new 7) crossedStacks).announced 1 = [9] ∧
      ¬ Unique (after next (new 7) crossedStacks) := by
  have hfirst : (after next (new 7) crossedStacks).announced 0 = [7, 8, 9] := by
    decide +kernel
  have hsecond : (after next (new 7) crossedStacks).announced 1 = [9] := by
    decide +kernel
  refine ⟨by decide, hfirst, hsecond, fun hunique => ?_⟩
  apply @hunique.disjoint 0 1 (by decide) 9
  · simp [hfirst]
  · simp [hsecond]

end Factory

end RustTgCalls.Wrtc
