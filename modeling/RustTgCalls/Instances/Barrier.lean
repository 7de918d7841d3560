import RustTgCalls.Library.Transition
import RustTgCalls.Media.Pacing
import Mathlib.Logic.Function.Basic

namespace RustTgCalls.Instances

open Media Transition

/-! The two legs of one `set_source` and the calls that pause them. -/

inductive Toggle where
  | pause
  | resume
  | mute
  | unmute
  deriving DecidableEq, Repr

inductive ToggleAt where
  | idle
  | called (toggle : Toggle)
  | tellAudio (toggle : Toggle)
  | tellVideo (toggle : Toggle)
  deriving DecidableEq, Repr

/-- Where `set_source` stands; it holds both streamer locks until it is done. -/
inductive InstallAt where
  | spawnAudio
  | ifMuted
  | ifPaused
  | pauseAudio
  | spawnVideo
  | ifVideoPaused
  | pauseVideo
  | done
  deriving DecidableEq, Repr

/-- The legs, the arrivals their barrier counts, the flags of the call and any
number of concurrent toggles. -/
structure Playback (Reader : Type) where
  legs : StreamType → Leg Reader
  arrived : Nat
  installAt : InstallAt
  closed : Bool
  muted : Bool
  paused : Bool
  toggles : Nat → ToggleAt

namespace Playback

variable {Reader : Type}

inductive Action where
  | install
  | reader (side : StreamType) (stalled : Bool)
  | pacing (side : StreamType) (input : PacingInput)
  | call (id : Nat) (toggle : Toggle)
  | toggle (id : Nat)

def other : StreamType → StreamType
  | .audio => .video
  | .video => .audio

@[simp] theorem other_other (side : StreamType) : other (other side) = side := by
  cases side <;> rfl

@[simp] theorem other_ne (side : StreamType) : other side ≠ side := by
  cases side <;> simp [other]

theorem eq_or_eq_other (side which : StreamType) :
    which = side ∨ which = other side := by
  cases side <;> cases which <;> simp [other]

/-- `set_source` about to spawn the legs of a call with the given flags. -/
def installing (readers : StreamType → Reader) (muted paused : Bool) :
    Playback Reader where
  legs := fun side => .new (readers side)
  arrived := 0
  installAt := .spawnAudio
  closed := false
  muted := muted
  paused := paused
  toggles := fun _ => .idle

def setLeg (state : Playback Reader) (side : StreamType) (leg : Leg Reader) :
    Playback Reader :=
  { state with legs := Function.update state.legs side leg }

def tell (state : Playback Reader) (side : StreamType) (paused : Bool) :
    Playback Reader :=
  state.setLeg side { state.legs side with paused := paused }

def moveTo (state : Playback Reader) (id : Nat) (toggleAt : ToggleAt) :
    Playback Reader :=
  { state with toggles := Function.update state.toggles id toggleAt }

def spawned (state : Playback Reader) (side : StreamType) : Bool :=
  match side, state.installAt with
  | .audio, .spawnAudio => false
  | .audio, _ => true
  | .video, .ifVideoPaused | .video, .pauseVideo | .video, .done => true
  | .video, _ => false

/-- The part of `set_source` that spawns the legs, with their first pauses. -/
def installStep (state : Playback Reader) : Playback Reader :=
  match state.installAt with
  | .spawnAudio => { state with installAt := .ifMuted }
  | .ifMuted =>
      { state with installAt := if state.muted then .pauseAudio else .ifPaused }
  | .ifPaused =>
      { state with installAt :=
          if state.paused then .pauseAudio else .spawnVideo }
  | .pauseAudio => { state.tell .audio true with installAt := .spawnVideo }
  | .spawnVideo => { state with installAt := .ifVideoPaused }
  | .ifVideoPaused =>
      { state with installAt := if state.paused then .pauseVideo else .done }
  | .pauseVideo => { state.tell .video true with installAt := .done }
  | .done => state

def Toggle.silences : Toggle → Bool
  | .pause | .mute => true
  | .resume | .unmute => false

def swap (state : Playback Reader) (id : Nat) (toggle : Toggle) :
    Playback Reader :=
  let unchanged := match toggle with
    | .pause => state.paused
    | .resume => !state.paused
    | .mute => state.muted
    | .unmute => !state.muted
  if state.closed || unchanged then
    state.moveTo id .idle
  else
    let swapped := match toggle with
      | .pause => { state with paused := true }
      | .resume => { state with paused := false }
      | .mute => { state with muted := true }
      | .unmute => { state with muted := false }
    swapped.moveTo id (.tellAudio toggle)

def toggleStep (state : Playback Reader) (id : Nat) : Playback Reader :=
  match state.installAt, state.toggles id with
  | _, .idle => state
  | _, .called toggle => state.swap id toggle
  | .done, .tellAudio toggle =>
      (state.tell .audio (Toggle.silences toggle)).moveTo id <|
        match toggle with
        | .pause | .resume => .tellVideo toggle
        | .mute | .unmute => .idle
  | .done, .tellVideo toggle =>
      (state.tell .video (Toggle.silences toggle)).moveTo id .idle
  -- blocked on a lock `set_source` holds
  | _, _ => state

/-- An arrival at the barrier: the first leg waits, and the second releases it
and passes. -/
def arrive (state : Playback Reader) (side : StreamType) (sample : Sample) :
    Playback Reader :=
  let leg := state.legs side
  if state.arrived + 1 < 2 then
    { state.setLeg side { leg with pacingAt := .barrierWait sample } with
      arrived := state.arrived + 1 }
  else
    let released := state.setLeg (other side) (state.legs (other side)).release
    { released.setLeg side { leg with pacingAt := .released sample } with
      arrived := 0 }

def pacingStep (state : Playback Reader) (side : StreamType)
    (input : PacingInput) : Playback Reader :=
  let leg := state.legs side
  match leg.pacingAt, leg.firstSample with
  | .ifFirst sample, true => state.arrive side sample
  | _, _ => state.setLeg side (leg.pacingStep input)

variable (nextSample : Reader → Except RustTgCallsError Sample × Reader)

/-- One atomic step; a step that is not possible changes nothing. -/
def next (state : Playback Reader) : Action → Playback Reader
  | .install => state.installStep
  | .reader side stalled =>
      if state.spawned side then
        state.setLeg side ((state.legs side).readerStep nextSample stalled)
      else state
  | .pacing side input =>
      if state.spawned side then state.pacingStep side input else state
  | .call id toggle =>
      if state.toggles id = .idle then state.moveTo id (.called toggle)
      else state
  | .toggle id => state.toggleStep id

/-- A leg blocked at the barrier is met there: the other leg is alive and will
not send before it arrives. -/
def BarrierSafe (state : Playback Reader) : Prop :=
  ∀ side, (state.legs side).waits = true →
    (state.legs (other side)).alive = true ∧
      (state.legs (other side)).rearmed = true

/-- A leg leaves its pause loop for the barrier only while the other leg is bound
to come there too, and no loop ends while the other leg is on its way. -/
def Together (state : Playback Reader) : Action → Prop
  | .pacing side input =>
      ((state.legs side).leavesPause = true →
        (state.legs (other side)).rearmed = true) ∧
      ((state.legs side).breaks input = true →
        (state.legs (other side)).committed = false)
  | _ => True

instance (state : Playback Reader) : DecidablePred (Together state)
  | .pacing _ _ => inferInstanceAs (Decidable (_ ∧ _))
  | .install | .reader _ _ | .call _ _ | .toggle _ => .isTrue trivial

/-- A leg on its way to the barrier has a partner on its way, and the barrier
counts the legs that wait. -/
structure Paired (state : Playback Reader) : Prop where
  running : ∀ side, (state.legs side).running = true
  arrived : ∀ side, state.arrived =
    (state.legs side).waits.toNat + (state.legs (other side)).waits.toNat
  partner : ∀ side, (state.legs side).committed = true →
    (state.legs (other side)).rearmed = true

namespace Paired

variable {state : Playback Reader}

theorem barrierSafe (hpaired : Paired state) : BarrierSafe state := by
  intro side hwaits
  have hrearmed := hpaired.partner side (Leg.committed_of_waits hwaits)
  exact ⟨Leg.alive_of_rearmed hrearmed, hrearmed⟩

theorem congr {new : Playback Reader} (hpaired : Paired state)
    (hlegs : new.legs = state.legs) (harrived : new.arrived = state.arrived) :
    Paired new := by
  constructor
  · simpa [hlegs] using hpaired.running
  · simpa [hlegs, harrived] using hpaired.arrived
  · simpa [hlegs] using hpaired.partner

/-- A change of one leg that neither commits it alone, nor fails a partner that
is on its way, nor moves it into or out of the barrier. -/
theorem setLeg (hpaired : Paired state) (side : StreamType) (leg : Leg Reader)
    (hrunning : leg.running = true)
    (hwaits : leg.waits = (state.legs side).waits)
    (hrearmed : (state.legs (other side)).committed = true →
      (state.legs side).rearmed = true → leg.rearmed = true)
    (hcommitted : leg.committed = true →
      (state.legs side).committed = true ∨
        (state.legs (other side)).rearmed = true) :
    Paired (state.setLeg side leg) := by
  constructor
  · intro which
    rcases eq_or_eq_other side which with rfl | rfl
    · simpa [Playback.setLeg] using hrunning
    · simpa [Playback.setLeg] using hpaired.running (other side)
  · intro which
    have harrived := hpaired.arrived which
    rcases eq_or_eq_other side which with rfl | rfl
    · simpa [Playback.setLeg, hwaits] using harrived
    · simpa [Playback.setLeg, hwaits] using harrived
  · intro which
    rcases eq_or_eq_other side which with rfl | rfl
    · intro hnow
      have hnow : leg.committed = true := by simpa [Playback.setLeg] using hnow
      have hpartner : (state.legs (other which)).rearmed = true :=
        (hcommitted hnow).elim (hpaired.partner which) id
      simpa [Playback.setLeg] using hpartner
    · intro hnow
      have hnow : (state.legs (other side)).committed = true := by
        simpa [Playback.setLeg] using hnow
      have hbefore : (state.legs side).rearmed = true := by
        simpa using hpaired.partner (other side) hnow
      simpa [Playback.setLeg] using hrearmed hnow hbefore

theorem same (hpaired : Paired state) (side : StreamType) {leg : Leg Reader}
    (hsame : Leg.SamePacing (state.legs side) leg) :
    Paired (state.setLeg side leg) :=
  hpaired.setLeg side leg (hsame.running.trans (hpaired.running side))
    hsame.waits (fun _ hbefore => hsame.rearmed.trans hbefore)
    (fun hnow => .inl (hsame.committed ▸ hnow))

theorem tell (hpaired : Paired state) (side : StreamType) (paused : Bool) :
    Paired (state.tell side paused) :=
  hpaired.same side ⟨rfl, rfl, rfl, rfl⟩

theorem moveTo (hpaired : Paired state) (id : Nat) (toggleAt : ToggleAt) :
    Paired (state.moveTo id toggleAt) :=
  hpaired.congr rfl rfl

theorem installStep (hpaired : Paired state) : Paired state.installStep := by
  unfold Playback.installStep
  split
  case h_4 => exact (hpaired.tell .audio true).congr rfl rfl
  case h_7 => exact (hpaired.tell .video true).congr rfl rfl
  all_goals exact hpaired.congr rfl rfl

theorem swap (hpaired : Paired state) (id : Nat) (toggle : Toggle) :
    Paired (state.swap id toggle) := by
  cases toggle <;>
    (unfold Playback.swap; dsimp only; split <;> exact hpaired.congr rfl rfl)

theorem toggleStep (hpaired : Paired state) (id : Nat) :
    Paired (state.toggleStep id) := by
  unfold Playback.toggleStep
  split
  · exact hpaired
  · exact hpaired.swap id _
  · exact (hpaired.tell .audio _).moveTo id _
  · exact (hpaired.tell .video _).moveTo id _
  · exact hpaired

theorem arrive (hpaired : Paired state) {side : StreamType} {sample : Sample}
    (hat : (state.legs side).pacingAt = .ifFirst sample)
    (hfirst : (state.legs side).firstSample = true) :
    Paired (state.arrive side sample) := by
  have houtside : (state.legs side).waits = false := by simp [Leg.waits, hat]
  have harrived : state.arrived = (state.legs (other side)).waits.toNat := by
    simpa [houtside] using hpaired.arrived side
  have hpartner : (state.legs (other side)).rearmed = true :=
    hpaired.partner side (by simp [Leg.committed, hat, hfirst])
  unfold Playback.arrive
  dsimp only
  split
  next hcount =>
    have halone : (state.legs (other side)).waits = false := by
      rw [harrived] at hcount
      cases hwaits : (state.legs (other side)).waits with
      | false => rfl
      | true => simp [hwaits] at hcount
    constructor <;> intro which <;>
      rcases eq_or_eq_other side which with rfl | rfl
    · simpa [Playback.setLeg] using hpaired.running which
    · simpa [Playback.setLeg] using hpaired.running (other side)
    · simp [Playback.setLeg, harrived, halone]
    · simp [Playback.setLeg, harrived, halone]
    · intro _
      simpa [Playback.setLeg] using hpartner
    · intro _
      simp [Playback.setLeg, Leg.rearmed, hfirst]
  next hcount =>
    have hwaits : (state.legs (other side)).waits = true := by
      rw [harrived] at hcount
      cases hwaits : (state.legs (other side)).waits with
      | false => simp [hwaits] at hcount
      | true => rfl
    constructor <;> intro which <;>
      rcases eq_or_eq_other side which with rfl | rfl
    · simpa [Playback.setLeg] using hpaired.running which
    · simpa [Playback.setLeg] using hpaired.running (other side)
    · simp [Playback.setLeg]
    · simp [Playback.setLeg]
    · simp [Playback.setLeg, Leg.committed]
    · simp [Playback.setLeg, Leg.committed_release hwaits]

theorem pacingStep (hpaired : Paired state) {side : StreamType}
    {input : PacingInput} (htogether : Together state (.pacing side input)) :
    Paired (state.pacingStep side input) := by
  have hrunning := hpaired.running side
  unfold Playback.pacingStep
  dsimp only
  split
  next sample hat hfirst => exact hpaired.arrive hat hfirst
  next =>
    refine hpaired.setLeg side _
      ((Leg.running_pacingStep _ _).trans hrunning)
      (Leg.waits_pacingStep _ _) ?_ ?_
    · intro hpartner hrearmed
      have hstays : (state.legs side).breaks input = false := by
        by_contra hbreaks
        have hnone := htogether.2 (by simpa using hbreaks)
        simp [hpartner] at hnone
      exact Leg.rearmed_pacingStep hrunning hrearmed hstays
    · intro hcommitted
      exact (Leg.committed_pacingStep hrunning hcommitted).imp id htogether.1

end Paired

theorem paired_installing (readers : StreamType → Reader)
    (muted paused : Bool) : Paired (installing readers muted paused) := by
  constructor <;> intro side
  · rfl
  · rfl
  · intro hcommitted
    exact absurd hcommitted (by simp [installing, Leg.new, Leg.committed])

theorem paired_next (state : Playback Reader) (action : Action)
    (hpaired : Paired state) (htogether : Together state action) :
    Paired (next nextSample state action) := by
  cases action with
  | install => exact hpaired.installStep
  | reader side stalled =>
      unfold next
      dsimp only
      split
      · exact hpaired.same side
          (Leg.samePacing_readerStep nextSample (state.legs side) stalled)
      · exact hpaired
  | pacing side input =>
      unfold next
      dsimp only
      split
      · exact hpaired.pacingStep htogether
      · exact hpaired
  | call id toggle =>
      unfold next
      dsimp only
      split
      · exact hpaired.moveTo id (.called toggle)
      · exact hpaired
  | toggle id => exact hpaired.toggleStep id

/-- No leg of an audio and video source is left alone at the barrier in a run
whose legs come together. -/
theorem always_barrierSafe (readers : StreamType → Reader)
    (muted paused : Bool) (actions : List Action)
    (htogether : Along (next nextSample) Together
      (installing readers muted paused) actions) :
    Always (next nextSample) BarrierSafe
      (installing readers muted paused) actions :=
  (htogether.always (paired_next nextSample)
    (paired_installing readers muted paused)).mono fun _ => Paired.barrierSafe

def endless (_ : Unit) : Except RustTgCallsError Sample × Unit :=
  (.ok ⟨[], Duration.fromMillis 20⟩, ())

def fetch (side : StreamType) : List Action :=
  List.replicate 5 (.reader side false)

def pace (side : StreamType) (turns : Nat) : List Action :=
  List.replicate turns (.pacing side .proceed)

/-- Both legs play their first frame and come to their second. -/
def bothPlaying : List Action :=
  List.replicate 5 .install ++
  fetch .audio ++ fetch .video ++ pace .audio 6 ++ pace .video 6 ++
  fetch .audio ++ pace .audio 4 ++ [.pacing .audio .slept] ++
  fetch .video ++ pace .video 4 ++ [.pacing .video .slept]

/-- A pause both legs observe brings them to the barrier again. -/
def pausedTogether : List Action :=
  bothPlaying ++ [.call 0 .pause, .toggle 0, .toggle 0, .toggle 0] ++
  pace .audio 4 ++ pace .video 4 ++
  [.call 1 .resume, .toggle 1, .toggle 1, .toggle 1] ++ pace .audio 4

def mutedAlone : List Action :=
  bothPlaying ++ [.call 0 .mute, .toggle 0, .toggle 0] ++ pace .audio 4 ++
  [.call 1 .unmute, .toggle 1, .toggle 1] ++ pace .audio 4

theorem barrierSafe_pausedTogether :
    Always (next endless) BarrierSafe
        (installing (fun _ => ()) false false) pausedTogether ∧
      ((after (next endless) (installing (fun _ => ()) false false)
        pausedTogether).legs .audio).waits = true :=
  ⟨always_barrierSafe endless (fun _ => ()) false false pausedTogether
    (by decide +kernel), by decide +kernel⟩

/-- Unmuted, the audio leg blocks at a barrier the video leg has left behind. -/
theorem unmute_blocks_audio :
    ¬ Always (next endless) BarrierSafe
      (installing (fun _ => ()) false false) mutedAlone := by
  intro halways
  have hsafe := always_iff_prefixes.mp halways _ (List.prefix_refl _)
  have hmet := (hsafe .audio (by decide +kernel)).2
  exact absurd hmet (by decide +kernel)

end Playback

end RustTgCalls.Instances
