import RustTgCalls.Instances.Airing

namespace RustTgCalls.Instances

open Media Transition

/-! The playback position of a `GroupCall`, beside what its streamers have played. -/

/-- The streamer that paces the source: the audio one where there are two.  There
is no source while a `set_source` or a `stop` has a slot locked, nor in a closed
call. -/
def Sourcing.current {Reader : Type} (state : Sourcing Reader) : Option Nat :=
  if state.closed || (state.locks .audio).isSome || (state.locks .video).isSome then none
  else (state.slots .audio).or (state.slots .video)

/-- What the streamer goes through in a step of its pacing task. -/
def Sourcing.accounting {Reader : Type} (leg : Leg Reader) : Duration :=
  match leg.pacingAt with
  | .account sample => sample.duration
  | _ => 0

/-- `played` has the media that each streamer has gone through. -/
structure Positioned (Reader : Type) where
  airing : Airing Reader
  resumeMs : Nat
  played : Nat → Duration

namespace Positioned

variable {Reader : Type}

def new (onStreamEnd : Bool) (dispatcher : Option Nat) (clock : Instant) :
    Positioned Reader where
  airing := .new onStreamEnd dispatcher clock
  resumeMs := 0
  played := fun _ => 0

def sourcing (state : Positioned Reader) : Sourcing Reader := state.airing.toggling.sourcing

/-- What the streamer goes through in this step. -/
def passing (state : Positioned Reader) (action : Airing.Action Reader) (streamer : Nat) :
    Duration :=
  match action with
  | .toggling (.sourcing (.pacing turn _)) =>
      if streamer = turn then
        ((state.sourcing.streamers turn).map (Sourcing.accounting ·.leg)).getD 0
      else 0
  | _ => 0

/-- `stop` stores the start of the position before it clears `paused`. -/
def clearsResume (state : Positioned Reader) : Airing.Action Reader → Bool
  | .toggling (.sourcing .stopStep) => state.sourcing.stopAt = .clearPaused
  | _ => false

variable (nextSample : Reader → Except RustTgCallsError Sample × Reader)

def next (state : Positioned Reader) (action : Airing.Action Reader) : Positioned Reader where
  airing := state.airing.next nextSample action
  resumeMs := if state.clearsResume action then 0 else state.resumeMs
  played := fun streamer => state.played streamer + state.passing action streamer

def elapsedMs (state : Positioned Reader) : Nat := state.resumeMs

/-- The position is that of the current source. -/
def Exact (state : Positioned Reader) : Prop :=
  ∀ streamer, state.sourcing.current = some streamer →
    state.elapsedMs = (state.played streamer).asMillis

/-- A `set_source` returns. -/
def returning (state : Positioned Reader) : Airing.Action Reader → Bool
  | .toggling (.sourcing (.setSourceStep id _)) =>
      match state.sourcing.setSources id with
      | some ⟨_, .finish⟩ => true
      | _ => false
  | _ => false

def pausing (state : Positioned Reader) : Airing.Action Reader → Bool
  | .toggling (.toggler toggler) =>
      (state.airing.toggling.togglers toggler).toggle == some .pause
  | _ => false

/-- A `set_source` returns with the position at zero, and a step of a `pause` leaves
it alone. -/
structure Holds (state : Positioned Reader) (action : Airing.Action Reader) : Prop where
  reset : state.returning action = true → (state.next nextSample action).elapsedMs = 0
  pause : state.pausing action = true →
    (state.next nextSample action).elapsedMs = state.elapsedMs

/-- The streamer that is current after the step has not gone through a whole
millisecond by then. -/
def Early (state : Positioned Reader) (action : Airing.Action Reader) : Prop :=
  ∀ streamer, (state.next nextSample action).sourcing.current = some streamer →
    state.played streamer + state.passing action streamer < 1000000

/-- The playback position of a run. -/
structure Positions (start : Positioned Reader) (actions : List (Airing.Action Reader)) :
    Prop where
  exact : Always (next nextSample) Exact start actions
  holds : Along (next nextSample) (Holds nextSample) start actions

variable {nextSample}

theorem resumeMs_next {state : Positioned Reader} (hzero : state.resumeMs = 0)
    (action : Airing.Action Reader) : (state.next nextSample action).resumeMs = 0 := by
  simp [next, hzero]

/-- The position never leaves zero. -/
theorem holds_of_zero {state : Positioned Reader} (hzero : state.resumeMs = 0)
    (action : Airing.Action Reader) : Holds nextSample state action := by
  have hnext := @resumeMs_next _ nextSample _ hzero action
  exact ⟨fun _ => hnext, fun _ => hnext.trans hzero.symm⟩

theorem along_holds {state : Positioned Reader} (hzero : state.resumeMs = 0)
    (actions : List (Airing.Action Reader)) :
    Along (next nextSample) (Holds nextSample) state actions := by
  induction actions generalizing state with
  | nil => trivial
  | cons action actions ih =>
      exact ⟨holds_of_zero hzero action, ih (resumeMs_next hzero action)⟩

theorem exact_next_iff {state : Positioned Reader} (hzero : state.resumeMs = 0)
    (action : Airing.Action Reader) :
    Exact (state.next nextSample action) ↔ Early nextSample state action := by
  have hnext := @resumeMs_next _ nextSample _ hzero action
  constructor
  · intro hexact streamer hcurrent
    have hposition := hexact streamer hcurrent
    rw [elapsedMs, hnext, Duration.asMillis] at hposition
    exact (Nat.div_eq_zero_iff_lt (by decide)).mp hposition.symm
  · intro hearly streamer hcurrent
    have hplayed := hearly streamer hcurrent
    rw [elapsedMs, hnext, Duration.asMillis]
    exact (Nat.div_eq_of_lt hplayed).symm

/-- The position is right exactly as long as no current source has gone through a
millisecond. -/
theorem positions_iff (onStreamEnd : Bool) (dispatcher : Option Nat) (clock : Instant)
    (actions : List (Airing.Action Reader)) :
    Positions nextSample (new onStreamEnd dispatcher clock) actions ↔
      Along (next nextSample) (Early nextSample) (new onStreamEnd dispatcher clock)
        actions := by
  have hexact : Always (next nextSample) Exact (new onStreamEnd dispatcher clock) actions ↔
      Along (next nextSample) (Early nextSample) (new onStreamEnd dispatcher clock)
        actions := by
    apply @always_iff_along _ _ _ _ _ _ fun state => state.resumeMs = 0 ∧ Exact state
    · rintro state ⟨_, hexact⟩
      exact hexact
    · rintro state action ⟨hzero, _⟩ hearly
      exact ⟨resumeMs_next hzero action, (exact_next_iff hzero action).mpr hearly⟩
    · rintro state action ⟨hzero, _⟩ hexact
      exact (exact_next_iff hzero action).mp hexact
    · refine ⟨rfl, ?_⟩
      intro streamer hcurrent
      cases hcurrent
  rw [← hexact]
  constructor
  · intro hpositions
    exact hpositions.exact
  · intro halways
    exact ⟨halways, along_holds rfl actions⟩

/-- A source whose first packet of 20 ms has been sent. -/
def onePacketIn : List (Airing.Action (List Sample)) :=
  (Sourcing.install 0 ⟨some [⟨[1], 20000000⟩, ⟨[1], 20000000⟩], none⟩ 15 ++
    Sourcing.feed 0 ++ Sourcing.pace 0 9).map fun action => .toggling (.sourcing action)

theorem onePacketIn_at_zero :
    ¬ Positions Sourcing.sampleNext (new false none 0) onePacketIn := by
  intro hpositions
  have hposition := hpositions.exact.after 0 (by decide +kernel)
  exact absurd hposition (by decide +kernel)

/-! The counter that nothing reads: it has what its streamer has gone through. -/

theorem nsSent_send (leg : Leg Reader) (res : Except RustTgCallsError Sample) :
    (leg.send res).nsSent = leg.nsSent := by
  unfold Leg.send
  grind

theorem nsSent_readerStep (leg : Leg Reader) (stalled : Bool) :
    (leg.readerStep nextSample stalled).nsSent = leg.nsSent := by
  unfold Leg.readerStep
  grind [nsSent_send]

theorem nsSent_release (leg : Leg Reader) : leg.release.nsSent = leg.nsSent := by
  unfold Leg.release
  split <;> rfl

theorem nsSent_recv {leg left : Leg Reader} {res : Option (Except RustTgCallsError Sample)}
    (hrecv : leg.recv = some (res, left)) : left.nsSent = leg.nsSent := by
  unfold Leg.recv at hrecv
  grind

theorem nsSent_joinStep (leg : Leg Reader) (slept received : Bool) (input : PacingInput) :
    (leg.joinStep slept received input).nsSent = leg.nsSent := by
  unfold Leg.joinStep Leg.joined
  grind [nsSent_recv]

theorem nsSent_pacing {playing : Playing Reader} {total : Duration}
    (hcounted : playing.leg.nsSent = total % UInt64.size) (input : PacingInput) :
    (playing.pacing input).leg.nsSent =
      (total + Sourcing.accounting playing.leg) % UInt64.size := by
  simp only [Playing.pacing, Playing.pacingLeg, Sourcing.accounting]
  cases hat : playing.leg.pacingAt with
  | account sample =>
      simp only [Leg.pacingStep, hat, hcounted]
      exact Nat.mod_add_mod total _ sample.duration
  | join slept received =>
      simp only [Leg.pacingStep, hat, nsSent_joinStep, hcounted, Nat.add_zero]
  | firstRecv =>
      simp only [Leg.pacingStep, hat]
      grind [nsSent_recv]
  | _ =>
      simp only [Leg.pacingStep, hat]
      grind

theorem nsSent_told {streamer : Nat} {playing told : Playing Reader}
    {access : Sourcing.Access Reader} (htold : Sourcing.Told streamer playing access told) :
    told.leg.nsSent = playing.leg.nsSent := by
  cases htold <;> rfl

theorem nsSent_moves {toggling : Toggling Reader} {streamer : Nat}
    {playing held : Playing Reader} {action : Toggling.Action Reader}
    (hpacing : ∀ turn input, action ≠ .sourcing (.pacing turn input))
    (hmoves : Toggling.Moves nextSample toggling streamer playing action held) :
    held.leg.nsSent = playing.leg.nsSent := by
  cases hmoves with
  | same _ => rfl
  | reader stalled => exact nsSent_readerStep playing.leg stalled
  | paced turn input _ => exact absurd rfl (hpacing turn input)
  | reports =>
      unfold Playing.report
      split <;> rfl
  | setSource _ _ _ htold | stop htold => exact nsSent_told htold
  | toggler _ _ _ _ _ => rfl

theorem nsSent_paced {sourcing : Sourcing Reader} {turn streamer : Nat} {input : PacingInput}
    {playing held : Playing Reader} {total : Duration}
    (hplaying : sourcing.streamers streamer = some playing)
    (hcounted : playing.leg.nsSent = total % UInt64.size)
    (hpaced : Sourcing.Paced sourcing turn input streamer playing held) :
    held.leg.nsSent = (total + if streamer = turn then
      ((sourcing.streamers turn).map (Sourcing.accounting ·.leg)).getD 0 else 0) %
        UInt64.size := by
  cases hpaced with
  | other hother => rw [if_neg hother, Nat.add_zero, hcounted]
  | turn hturn =>
      subst hturn
      rw [if_pos rfl, hplaying]
      exact nsSent_pacing hcounted input
  | meets hturn harriving =>
      subst hturn
      rw [if_pos rfl, hplaying]
      exact (nsSent_release _).trans (nsSent_pacing hcounted input)
  | freed arrived hwaits hpartner harrived harriving =>
      have hother : streamer ≠ turn := by
        rintro rfl
        rw [hplaying] at harrived
        cases harrived
        grind [Leg.waits, Sourcing.arriving]
      rw [if_neg hother, Nat.add_zero, ← hcounted]
      exact nsSent_release playing.leg

/-- Every streamer's counter has what it went through, as far as 64 bits hold it. -/
structure Counted (state : Positioned Reader) : Prop where
  sound : state.airing.toggling.Sound
  counted : ∀ streamer playing, state.sourcing.streamers streamer = some playing →
    playing.leg.nsSent = state.played streamer % UInt64.size
  unspawned : ∀ streamer, state.sourcing.created ≤ streamer → state.played streamer = 0

/-- A step is one of the call, or it goes through nothing. -/
theorem toggling_next (state : Positioned Reader) (action : Airing.Action Reader) :
    ((state.next nextSample action).airing.toggling = state.airing.toggling ∧
        ∀ streamer, state.passing action streamer = 0) ∨
      ∃ step, action = .toggling step ∧
        (state.next nextSample action).airing.toggling =
          state.airing.toggling.next nextSample step := by
  cases action with
  | elapse duration => exact .inl ⟨rfl, fun _ => rfl⟩
  | toggling step =>
      cases step with
      | call number toggle | toggler toggler => exact .inr ⟨_, rfl, rfl⟩
      | sourcing step =>
          cases step with
          | reader turn stalled =>
              simp only [next, Airing.next, Airing.reader]
              cases state.airing.toggling.sourcing.streamers turn with
              | none => exact .inl ⟨rfl, fun _ => rfl⟩
              | some playing => exact .inr ⟨_, rfl, rfl⟩
          | pacing turn input =>
              simp only [next, Airing.next, Airing.pacing, passing, sourcing]
              cases hturn : state.airing.toggling.sourcing.streamers turn with
              | none => exact .inl ⟨rfl, fun _ => by simp⟩
              | some playing =>
                  by_cases hearly : (state.airing.paced turn playing).tooEarly input = true
                  · simp only [hearly, if_true]
                    refine .inl ⟨trivial, fun streamer => ?_⟩
                    have hnothing : Sourcing.accounting playing.leg = 0 := by
                      unfold Paced.tooEarly at hearly
                      unfold Sourcing.accounting
                      grind [Airing.paced]
                    simp [hnothing]
                  · simp only [hearly, Bool.false_eq_true, if_false]
                    exact .inr ⟨_, rfl, rfl⟩
          | _ => exact .inr ⟨_, rfl, rfl⟩

theorem passing_unspawned {state : Positioned Reader} {streamer : Nat}
    (hnone : state.sourcing.streamers streamer = none) (action : Airing.Action Reader) :
    state.passing action streamer = 0 := by
  unfold passing
  split
  · split
    next hturn => simp [← hturn, hnone]
    next => rfl
  · rfl

theorem passing_other {state : Positioned Reader} {step : Toggling.Action Reader}
    (hpacing : ∀ turn input, step ≠ .sourcing (.pacing turn input)) (streamer : Nat) :
    state.passing (.toggling step) streamer = 0 := by
  unfold passing
  split
  next turn input hstep =>
    cases hstep
    exact absurd rfl (hpacing turn input)
  next => rfl

theorem counted_step {state : Positioned Reader} (hcounted : Counted state)
    {step : Toggling.Action Reader} {streamer : Nat} {held : Playing Reader}
    (hheld : (state.airing.toggling.next nextSample step).sourcing.streamers streamer =
      some held) :
    held.leg.nsSent =
      (state.played streamer + state.passing (.toggling step) streamer) % UInt64.size := by
  obtain ⟨playing, hplaying, hmoves⟩ | ⟨rfl, id, connected, call, side, partner, reader,
    rfl, _, _, _, rfl⟩ := Toggling.present_before hcounted.sound step hheld
  · have hbefore := hcounted.counted streamer playing hplaying
    by_cases hpacing : ∃ turn input, step = .sourcing (.pacing turn input)
    · obtain ⟨turn, input, rfl⟩ := hpacing
      obtain ⟨later, hlater, hpaced⟩ :=
        Sourcing.paced_pacing state.sourcing turn input hplaying
      have hsame : later = held := Option.some.inj (hlater.symm.trans hheld)
      rw [← hsame]
      exact nsSent_paced hplaying hbefore hpaced
    · have hother : ∀ turn input, step ≠ .sourcing (.pacing turn input) :=
        fun turn input hstep => hpacing ⟨turn, input, hstep⟩
      rw [passing_other hother, nsSent_moves hother hmoves, hbefore, Nat.add_zero]
  · have hnew := hcounted.unspawned _ (Nat.le_refl state.sourcing.created)
    have hnone := (hcounted.sound.absent _ (Nat.le_refl _)).2
    rw [passing_unspawned hnone]
    have hzero : state.played state.airing.toggling.sourcing.created = 0 := hnew
    rw [hzero]
    rfl

theorem Counted.next {state : Positioned Reader} (hcounted : Counted state)
    (action : Airing.Action Reader) : Counted (state.next nextSample action) := by
  obtain ⟨hsame, hnothing⟩ | ⟨step, rfl, hstep⟩ :=
    @toggling_next _ nextSample state action
  · have hsourcing : (state.next nextSample action).sourcing = state.sourcing :=
      congrArg Toggling.sourcing hsame
    have hplayed : (state.next nextSample action).played = state.played := by
      funext streamer
      simp [Positioned.next, hnothing]
    constructor
    · rw [hsame]
      exact hcounted.sound
    · rw [hsourcing, hplayed]
      exact hcounted.counted
    · rw [hsourcing, hplayed]
      exact hcounted.unspawned
  · have hsourcing : (state.next nextSample (.toggling step)).sourcing =
        (state.airing.toggling.next nextSample step).sourcing :=
      congrArg Toggling.sourcing hstep
    constructor
    · rw [hstep]
      exact Toggling.sound_next _ step hcounted.sound
    · intro streamer held hheld
      rw [hsourcing] at hheld
      exact counted_step hcounted hheld
    · intro streamer hcreated
      rw [hsourcing] at hcreated
      have hle : state.sourcing.created ≤ streamer := by
        by_contra hlt
        have hlater := @Toggling.created_next _ nextSample _ hcounted.sound step
          _ (Nat.lt_of_not_le hlt)
        omega
      have hnone := (hcounted.sound.absent streamer hle).2
      have hplayed := hcounted.unspawned streamer hle
      simp [Positioned.next, hplayed, passing_unspawned hnone]

/-- In every run the counter of a streamer has what it went through. -/
theorem counted_after (onStreamEnd : Bool) (dispatcher : Option Nat) (clock : Instant)
    (actions : List (Airing.Action Reader)) :
    Counted (after (next nextSample) (new onStreamEnd dispatcher clock) actions) := by
  have hnew : Counted (new onStreamEnd dispatcher clock : Positioned Reader) :=
    ⟨Toggling.sound_new onStreamEnd dispatcher,
      fun _ _ hplaying => (by cases hplaying), fun _ _ => rfl⟩
  exact Along.invariant (fun _ action hcounted _ => hcounted.next action) hnew along_true

end Positioned

end RustTgCalls.Instances
