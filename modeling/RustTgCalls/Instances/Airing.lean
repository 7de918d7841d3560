import RustTgCalls.Library.Erasure
import RustTgCalls.Media.Deadlines
import RustTgCalls.Instances.SilentStart

namespace RustTgCalls.Instances

open Media Transition

/-! What the streamers of a call read and send, and when, beside the run in which
nothing is muted. -/

namespace Sourcing

variable {Reader : Type}

/-- The streamer whose paused flag an access sets. -/
def Access.pausing (created : Nat) : Access Reader → Option (Nat × Bool)
  | .spawn _ _ _ => some (created, false)
  | .pause streamer => some (streamer, true)
  | _ => Option.none

/-- The streamer that a step of a toggle pauses or resumes. -/
def told (state : Sourcing Reader) : TogglerAt → Option (Nat × Bool)
  | .tell side toggle =>
      match state.locks side with
      | some _ => none
      | none => (state.slots side).map (·, Playback.Toggle.silences toggle)
  | _ => none

/-- The sample that a step of the reader task takes from the source. -/
def taken (nextSample : Reader → Except RustTgCallsError Sample × Reader)
    (leg : Leg Reader) (stalled : Bool) : Option Sample :=
  match leg.readerAt with
  | .nextSample => if stalled then none else (nextSample leg.reader).1.toOption
  | _ => none

end Sourcing

/-- `paused` has the paused flag of each streamer as `pause`, `resume` and
`set_source` have left it; `consumed` counts the samples taken from its source and
`aired` lists those passed to `send_rtp_bytes`.  No deadline is read before the
first sample sets it. -/
structure Airing (Reader : Type) where
  toggling : Toggling Reader
  clock : Instant
  nextDeadlines : Nat → Instant
  paused : Nat → Bool
  consumed : Nat → Nat
  aired : Nat → List (Instant × Sample)

namespace Airing

open Sourcing

variable {Reader : Type}

def new (onStreamEnd : Bool) (dispatcher : Option Nat) (clock : Instant) :
    Airing Reader where
  toggling := .new onStreamEnd dispatcher
  clock
  nextDeadlines := fun _ => clock
  paused := fun _ => false
  consumed := fun _ => 0
  aired := fun _ => []

inductive Action (Reader : Type) where
  | elapse (duration : Duration)
  | toggling (action : Toggling.Action Reader)

/-- The pacing task of a streamer, with its deadline. -/
def paced (state : Airing Reader) (streamer : Nat) (playing : Playing Reader) :
    Paced Reader where
  playing
  clock := state.clock
  nextDeadline := state.nextDeadlines streamer
  slots := []
  paid := 0

/-- The streamer whose paused flag a step sets, but for the mutes. -/
def pausing (state : Toggling Reader) : Toggling.Action Reader → Option (Nat × Bool)
  | .sourcing (.setSourceStep id connected) =>
      match state.sourcing.setSources id with
      | some call =>
          Access.pausing state.sourcing.created
            (state.sourcing.setSourceTurn id connected call.sources call.stage).2
      | none => none
  | .toggler ⟨.paused, number⟩ =>
      state.sourcing.told (state.togglers ⟨.paused, number⟩)
  | _ => none

def noted (paused : Nat → Bool) : Option (Nat × Bool) → Nat → Bool
  | some (streamer, value) => Function.update paused streamer value
  | none => paused

variable (nextSample : Reader → Except RustTgCallsError Sample × Reader)

def reader (state : Airing Reader) (streamer : Nat) (stalled : Bool) : Airing Reader :=
  match state.toggling.sourcing.streamers streamer with
  | some playing =>
      { state with
        toggling :=
          state.toggling.next nextSample (.sourcing (.reader streamer stalled))
        consumed := Function.update state.consumed streamer
          (state.consumed streamer +
            (taken nextSample playing.leg stalled).toList.length) }
  | none => state

def pacing (state : Airing Reader) (streamer : Nat) (input : PacingInput) :
    Airing Reader :=
  match state.toggling.sourcing.streamers streamer with
  | some playing =>
      let paced := state.paced streamer playing
      if paced.tooEarly input then state
      else
        { state with
          toggling :=
            state.toggling.next nextSample (.sourcing (.pacing streamer input))
          nextDeadlines := Function.update state.nextDeadlines streamer
            (paced.pace input).nextDeadline
          aired := Function.update state.aired streamer
            (state.aired streamer ++
              (Playing.passing playing.leg).toList.map (state.clock, ·)) }
  | none => state

def next (state : Airing Reader) : Action Reader → Airing Reader
  | .elapse duration => { state with clock := state.clock + duration }
  | .toggling (.sourcing (.reader streamer stalled)) =>
      state.reader nextSample streamer stalled
  | .toggling (.sourcing (.pacing streamer input)) =>
      state.pacing nextSample streamer input
  | .toggling action =>
      { state with
        toggling := state.toggling.next nextSample action
        paused := noted state.paused (pausing state.toggling action) }

/-! The same schedule without its mutes. -/

/-- A `set_source` that finds `muted` set does not test `paused`. -/
def sparesTest (state : Sourcing Reader) (id : Nat) : Bool :=
  match state.setSources id with
  | some ⟨_, .ifMuted _⟩ => state.muted
  | _ => false

/-- What becomes of a step: that of a mute or an unmute is left out, and a
`set_source` makes the test it was spared. -/
def unmutedSteps (state : Airing Reader) : Action Reader → List (Action Reader)
  | .toggling (.call number toggle) =>
      if toggle.flag = .muted then [] else [.toggling (.call number toggle)]
  | .toggling (.toggler toggler) =>
      if toggler.flag = .muted then [] else [.toggling (.toggler toggler)]
  | .toggling (.sourcing (.setSourceStep id connected)) =>
      let step := .toggling (.sourcing (.setSourceStep id connected))
      if sparesTest state.toggling.sourcing id then [step, step] else [step]
  | action => [action]

def unmuted (state : Airing Reader) (actions : List (Action Reader)) :
    List (Action Reader) :=
  image (next nextSample) unmutedSteps state actions

/-- The paused flag is tested by this step of the reader task. -/
def readerTests (leg : Leg Reader) : Bool :=
  match leg.readerAt with
  | .whilePaused => true
  | _ => false

def pacingTests (leg : Leg Reader) : Bool :=
  match leg.pacingAt with
  | .whilePaused => true
  | _ => false

/-- The streamer is one for audio, and runs un-paused. -/
def audible (state : Airing Reader) (streamer : Nat) (leg : Leg Reader) : Bool :=
  leg.running && !leg.paused &&
    (state.toggling.installed streamer).any fun installer => installer.2 == .audio

/-- A task that tests the paused flag of its streamer finds it as it is without the
mutes, a pacing task of audio finds it clear only where `muted` is clear as well, and
a `set_source` finds `muted` set only while `paused` is. -/
def Unaffected (state : Airing Reader) : Action Reader → Prop
  | .toggling (.sourcing (.reader streamer _)) =>
      ∀ playing ∈ state.toggling.sourcing.streamers streamer,
        readerTests playing.leg = true → playing.leg.paused = state.paused streamer
  | .toggling (.sourcing (.pacing streamer _)) =>
      ∀ playing ∈ state.toggling.sourcing.streamers streamer,
        pacingTests playing.leg = true → playing.leg.paused = state.paused streamer ∧
          (state.audible streamer playing.leg = true →
            state.toggling.sourcing.muted = false)
  | .toggling (.sourcing (.setSourceStep id _)) =>
      sparesTest state.toggling.sourcing id = true →
        state.toggling.sourcing.paused = true
  | _ => True

instance (state : Airing Reader) : DecidablePred (Unaffected state)
  | .toggling (.sourcing (.reader streamer _)) => inferInstanceAs (Decidable
      (∀ playing ∈ state.toggling.sourcing.streamers streamer,
        readerTests playing.leg = true → playing.leg.paused = state.paused streamer))
  | .toggling (.sourcing (.pacing streamer _)) => inferInstanceAs (Decidable
      (∀ playing ∈ state.toggling.sourcing.streamers streamer,
        pacingTests playing.leg = true → playing.leg.paused = state.paused streamer ∧
          (state.audible streamer playing.leg = true →
            state.toggling.sourcing.muted = false)))
  | .toggling (.sourcing (.setSourceStep id _)) => inferInstanceAs (Decidable
      (sparesTest state.toggling.sourcing id = true →
        state.toggling.sourcing.paused = true))
  | .elapse _ | .toggling (.call _ _) | .toggling (.toggler _)
  | .toggling (.sourcing (.setSource _)) | .toggling (.sourcing .stop)
  | .toggling (.sourcing .stopStep) | .toggling (.sourcing (.report _))
  | .toggling (.sourcing (.dispatch _)) => .isTrue trivial

/-- The samples of a streamer that are past the test of its paused flag. -/
def onTheirWay (state : Airing Reader) (streamer : Nat) : Nat :=
  (state.toggling.sourcing.streamers streamer).elim 0 fun playing =>
    (Playing.past playing.leg).toNat

/-- For as long as `muted` stays set, no leg of audio sends a sample but for one that
is on its way already. -/
def SilentWhileMuted (start : Airing Reader) (actions : List (Action Reader)) : Prop :=
  ∀ before rest, actions = before ++ rest →
    let state := after (next nextSample) start before
    let final := after (next nextSample) state rest
    Always (next nextSample) (fun now => now.toggling.sourcing.muted = true) state rest →
      ∀ streamer id, final.toggling.installed streamer = some (id, .audio) →
        ∃ late, final.aired streamer = state.aired streamer ++ late ∧
          late.length ≤ state.onTheirWay streamer

end Airing

def TogglerAt.toggle : TogglerAt → Option Toggle
  | .idle => none
  | .testClosed toggle | .swap toggle | .tell _ toggle => some toggle

/-! The streamers with their paused flags as they are without the mutes. -/

namespace Sourcing

variable {Reader : Type}
  {nextSample : Reader → Except RustTgCallsError Sample × Reader}

def setPaused (playing : Playing Reader) (paused : Bool) : Playing Reader :=
  { playing with leg := { playing.leg with paused } }

def setAllPaused (paused : Nat → Bool) (streamers : Nat → Option (Playing Reader)) :
    Nat → Option (Playing Reader) :=
  fun streamer => (streamers streamer).map (setPaused · (paused streamer))

def unmuted (state : Sourcing Reader) (paused : Nat → Bool) : Sourcing Reader :=
  { state with
    muted := false
    streamers := setAllPaused paused state.streamers }

theorem readerStep_setPaused (leg : Leg Reader) (stalled paused : Bool)
    (htested : Airing.readerTests leg = true → leg.paused = paused) :
    { leg with paused }.readerStep nextSample stalled =
      { leg.readerStep nextSample stalled with paused } := by
  obtain ⟨reader, readerAt, channel, muted, tested, running, doneFlag, nsSent,
    pacingAt, firstSample, nextSampleRes, endError⟩ := leg
  cases readerAt with
  | whilePaused =>
      obtain rfl : tested = paused := htested rfl
      rfl
  | nextSample => cases stalled <;> rfl
  | send res =>
      cases pacingAt with
      | ended => rfl
      | _ =>
          simp only [Leg.readerStep, Leg.send]
          split <;> rfl
  | _ => rfl

theorem recv_setPaused (leg : Leg Reader) (paused : Bool) :
    { leg with paused }.recv =
      leg.recv.map fun received => (received.1, { received.2 with paused }) := by
  obtain ⟨reader, readerAt, channel, muted, tested, running, doneFlag, nsSent,
    pacingAt, firstSample, nextSampleRes, endError⟩ := leg
  cases channel with
  | cons res rest => rfl
  | nil => cases readerAt <;> rfl

theorem joined_setPaused (leg : Leg Reader) (slept received paused : Bool) :
    { leg with paused }.joined slept received =
      { leg.joined slept received with paused } := by
  unfold Leg.joined
  split <;> rfl

theorem joinStep_setPaused (leg : Leg Reader) (slept received : Bool)
    (input : PacingInput) (paused : Bool) :
    { leg with paused }.joinStep slept received input =
      { leg.joinStep slept received input with paused } := by
  have hrecv (hinput : input ≠ .slept) :
      { leg with paused }.joinStep slept false input =
        { leg.joinStep slept false input with paused } := by
    have hstep (now : Leg Reader) : now.joinStep slept false input =
        (now.recv.map fun received =>
          { received.2 with nextSampleRes := received.1 }.joined slept true).getD now := by
      cases input with
      | slept => exact absurd rfl hinput
      | proceed | sendFails error =>
          simp only [Leg.joinStep]
          cases now.recv <;> rfl
    rw [hstep, hstep, recv_setPaused]
    cases leg.recv with
    | none => rfl
    | some result =>
        exact joined_setPaused { result.2 with nextSampleRes := result.1 } slept true paused
  cases input with
  | slept => exact joined_setPaused leg true received paused
  | proceed | sendFails error =>
      cases received with
      | true => rfl
      | false => exact hrecv (by simp)

theorem pacingStep_setPaused (leg : Leg Reader) (input : PacingInput) (paused : Bool)
    (htested : Airing.pacingTests leg = true → leg.paused = paused) :
    { leg with paused }.pacingStep input = { leg.pacingStep input with paused } := by
  obtain ⟨reader, readerAt, channel, muted, tested, running, doneFlag, nsSent,
    pacingAt, firstSample, nextSampleRes, endError⟩ := leg
  cases pacingAt with
  | firstRecv =>
      cases channel with
      | cons res rest => rfl
      | nil => cases readerAt <;> rfl
  | join slept received => exact joinStep_setPaused _ slept received input paused
  | whilePaused =>
      obtain rfl : tested = paused := htested rfl
      rfl
  | take =>
      cases nextSampleRes with
      | none => rfl
      | some res => cases res <;> rfl
  | ifFirst sample => cases firstSample <;> rfl
  | sendRtp sample => cases muted <;> cases input <;> rfl
  | _ => rfl

theorem pacing_setPaused (playing : Playing Reader) (input : PacingInput)
    (paused : Bool)
    (htested : Airing.pacingTests playing.leg = true → playing.leg.paused = paused) :
    (setPaused playing paused).pacing input =
      setPaused (playing.pacing input) paused := by
  have hstep := pacingStep_setPaused playing.leg input paused htested
  have hleg : (setPaused playing paused).pacingLeg input =
      { playing.pacingLeg input with paused } := by
    cases hat : playing.leg.pacingAt with
    | ifFirst sample =>
        cases hfirst : playing.leg.firstSample with
        | true => simp [Playing.pacingLeg, setPaused, hat, hfirst]
        | false => simpa [Playing.pacingLeg, setPaused, hat, hfirst] using hstep
    | _ => simpa only [Playing.pacingLeg, setPaused, hat] using hstep
  simp only [Playing.pacing, hleg]
  rfl

theorem setAllPaused_update {paused later : Nat → Bool} {streamer : Nat}
    (hothers : ∀ other, other ≠ streamer → later other = paused other)
    (streamers : Nat → Option (Playing Reader)) (held : Option (Playing Reader)) :
    setAllPaused later (Function.update streamers streamer held) =
      Function.update (setAllPaused paused streamers) streamer
        (held.map (setPaused · (later streamer))) := by
  funext other
  by_cases hother : other = streamer
  · subst hother
    simp [setAllPaused]
  · simp [setAllPaused, hother, hothers other hother]

theorem unmuted_alter {state : Sourcing Reader} {paused later : Nat → Bool}
    {streamer : Nat} {change : Playing Reader → Playing Reader}
    (hothers : ∀ other, other ≠ streamer → later other = paused other)
    (hchange : ∀ playing, state.streamers streamer = some playing →
      setPaused (change playing) (later streamer) =
        change (setPaused playing (paused streamer))) :
    (state.alter streamer change).unmuted later =
      (state.unmuted paused).alter streamer change := by
  have hheld : ((state.streamers streamer).map change).map
      (setPaused · (later streamer)) =
        ((state.streamers streamer).map (setPaused · (paused streamer))).map change := by
    cases hplaying : state.streamers streamer with
    | none => rfl
    | some playing => simp [hchange playing hplaying]
  simp only [unmuted, alter, setAllPaused_update hothers, hheld]
  rfl

theorem unmuted_alter_same {state : Sourcing Reader} {paused : Nat → Bool}
    {streamer : Nat} {change : Playing Reader → Playing Reader}
    (hchange : ∀ playing value,
      setPaused (change playing) value = change (setPaused playing value)) :
    (state.alter streamer change).unmuted paused =
      (state.unmuted paused).alter streamer change :=
  unmuted_alter (fun _ _ => rfl) fun playing _ => hchange playing _

theorem unmuted_tell (state : Sourcing Reader) (paused : Nat → Bool) (streamer : Nat)
    (value : Bool) :
    (state.alter streamer fun playing =>
        { playing with leg := { playing.leg with paused := value } }).unmuted
          (Function.update paused streamer value) =
      (state.unmuted paused).alter streamer fun playing =>
        { playing with leg := { playing.leg with paused := value } } := by
  refine unmuted_alter (fun other hother => Function.update_of_ne hother ..) ?_
  intro playing _
  rw [Function.update_self]
  rfl

theorem unmuted_access (state : Sourcing Reader) (paused : Nat → Bool)
    (access : Access Reader) :
    (state.access access).unmuted
        (Airing.noted paused (Access.pausing state.created access)) =
      (state.unmuted paused).access access := by
  cases access with
  | none | lock side caller | unlock side | store side streamer | clearPaused
  | clearMuted => rfl
  | take side caller =>
      simp only [Sourcing.access, Access.pausing, Airing.noted, unmuted]
      cases state.slots side <;> rfl
  | clearOnEnd old | stopRunning old | register old =>
      exact unmuted_alter_same fun _ _ => rfl
  | pause streamer => exact unmuted_tell state paused streamer true
  | spawn reader syncBarrier partner =>
      have hothers (other : Nat) (hother : other ≠ state.created) :
          Function.update paused state.created false other = paused other :=
        Function.update_of_ne hother ..
      have hspawned := setAllPaused_update hothers state.streamers
        (some (.new reader syncBarrier false))
      simp only [Function.update_self] at hspawned
      cases partner <;>
        simp only [Sourcing.access, Access.pausing, Airing.noted, unmuted, hspawned] <;>
        rfl

theorem setSourceTurn_unmuted {state : Sourcing Reader} {stage : SetSourceAt}
    (hspared : ∀ streamer, stage = .ifMuted streamer → state.muted = false)
    (paused : Nat → Bool) (id : Nat) (connected : Bool) (sources : Sources Reader) :
    (state.unmuted paused).setSourceTurn id connected sources stage =
      state.setSourceTurn id connected sources stage := by
  cases stage with
  | ifMuted streamer =>
      simp [setSourceTurn, unmuted, hspared streamer rfl]
  | _ => rfl

theorem setSourceStep_unmuted {state : Sourcing Reader} {id : Nat}
    {call : SetSource Reader} (hcall : state.setSources id = some call)
    (hspared : ∀ streamer, call.stage = .ifMuted streamer → state.muted = false)
    (paused : Nat → Bool) (connected : Bool) :
    (state.setSourceStep id connected).unmuted
        (Airing.noted paused (Access.pausing state.created
          (state.setSourceTurn id connected call.sources call.stage).2)) =
      (state.unmuted paused).setSourceStep id connected := by
  have hcall' : (state.unmuted paused).setSources id = some call := hcall
  simp only [setSourceStep, hcall, hcall', setSourceTurn_unmuted hspared,
    ← unmuted_access]
  rfl

theorem stopStep_unmuted (state : Sourcing Reader) (paused : Nat → Bool) :
    state.stopStep.unmuted paused = (state.unmuted paused).stopStep := by
  have hpausing : Access.pausing state.created (state.stopTurn state.stopAt).2 =
      none := by
    cases state.stopAt with
    | lock side | take side =>
        simp only [stopTurn]
        split <;> rfl
    | _ => rfl
  have haccess := unmuted_access state paused (state.stopTurn state.stopAt).2
  rw [hpausing] at haccess
  have hturn : (state.unmuted paused).stopTurn = state.stopTurn := by
    funext stage
    cases stage <;> rfl
  have hstage : (state.unmuted paused).stopAt = state.stopAt := rfl
  simp only [stopStep, hturn, hstage, ← haccess]
  rfl

/-- A `set_source` that finds `muted` set while `paused` is pauses its streamer as it
would have done for `paused`. -/
theorem spared_unmuted {state : Sourcing Reader} {id streamer : Nat}
    {sources : Sources Reader}
    (hcall : state.setSources id = some ⟨sources, .ifMuted streamer⟩)
    (hmuted : state.muted = true) (hpaused : state.paused = true)
    (paused : Nat → Bool) (connected : Bool) :
    (state.setSourceStep id connected).unmuted paused =
      ((state.unmuted paused).setSourceStep id connected).setSourceStep id
        connected := by
  simp [setSourceStep, hcall, setSourceTurn, hmuted, hpaused, unmuted,
    Sourcing.access]

theorem freed_setPaused (playing : Playing Reader) (paused : Bool) :
    freed (setPaused playing paused) = setPaused (freed playing) paused := by
  cases hat : playing.leg.pacingAt <;> simp [freed, setPaused, Leg.release, hat]

theorem waiting_unmuted (state : Sourcing Reader) (paused : Nat → Bool)
    (streamer : Nat) :
    (state.unmuted paused).waiting streamer =
      (state.waiting streamer).map fun met =>
        (met.1, setPaused met.2 (paused met.1)) := by
  unfold waiting unmuted setAllPaused
  dsimp only
  cases state.partner streamer with
  | none => rfl
  | some partner =>
      cases hother : state.streamers partner with
      | none => simp [hother]
      | some other =>
          have hwaits : (setPaused other (paused partner)).leg.waits =
              other.leg.waits := rfl
          cases hwaiting : other.leg.waits <;> simp [hother, hwaits, hwaiting]

theorem pacing_unmuted {state : Sourcing Reader} {paused : Nat → Bool}
    {streamer : Nat} (htested : ∀ playing ∈ state.streamers streamer,
      Airing.pacingTests playing.leg = true → playing.leg.paused = paused streamer)
    (input : PacingInput) :
    (state.pacing streamer input).unmuted paused =
      (state.unmuted paused).pacing streamer input := by
  have hupdate (turn : Nat) (streamers : Nat → Option (Playing Reader))
      (held : Playing Reader) :
      setAllPaused paused (Function.update streamers turn (some held)) =
        Function.update (setAllPaused paused streamers) turn
          (some (setPaused held (paused turn))) :=
    setAllPaused_update (fun _ _ => rfl) streamers (some held)
  cases hplaying : state.streamers streamer with
  | none => simp [pacing, unmuted, setAllPaused, hplaying]
  | some playing =>
      have hpaced := pacing_setPaused playing input (paused streamer)
        (htested playing hplaying)
      have hplaying' : (state.unmuted paused).streamers streamer =
          some (setPaused playing (paused streamer)) := by
        simp [unmuted, setAllPaused, hplaying]
      have harriving : arriving (setPaused playing (paused streamer)) =
          arriving playing := rfl
      simp only [pacing, hplaying, hplaying', hpaced, harriving, waiting_unmuted]
      cases hmeets : (if arriving playing then state.waiting streamer else none) with
      | none =>
          have hmeets' : (if arriving playing then (state.waiting streamer).map
              (fun met => (met.1, setPaused met.2 (paused met.1))) else none) = none := by
            split at hmeets <;> simp_all
          simp only [hmeets', unmuted, hupdate]
      | some met =>
          have hmeets' : (if arriving playing then (state.waiting streamer).map
              (fun met => (met.1, setPaused met.2 (paused met.1))) else none) =
                some (met.1, setPaused met.2 (paused met.1)) := by
            split at hmeets <;> simp_all
          simp only [hmeets', unmuted, hupdate, freed_setPaused]

theorem report_unmuted (state : Sourcing Reader) (paused : Nat → Bool)
    (streamer : Nat) :
    (state.report streamer).unmuted paused = (state.unmuted paused).report streamer := by
  have hreport (playing : Playing Reader) (value : Bool) :
      setPaused playing.report value = (setPaused playing value).report := by
    cases hat : playing.leg.pacingAt with
    | ended =>
        cases hreport : playing.reportAt <;>
          simp [Playing.report, setPaused, hat, hreport]
    | _ => simp [Playing.report, setPaused, hat]
  have hfire (now : Sourcing Reader) (error : Option RustTgCallsError) :
      (now.fire streamer error).unmuted paused =
        (now.unmuted paused).fire streamer error := by
    cases hend : now.onStreamEnd with
    | false => simp [fire, unmuted, hend]
    | true => cases hto : now.dispatcher <;> simp [fire, unmuted, hend, hto]
  cases hplaying : state.streamers streamer with
  | none => simp [report, unmuted, setAllPaused, hplaying]
  | some playing =>
      have hplaying' : (state.unmuted paused).streamers streamer =
          some (setPaused playing (paused streamer)) := by
        simp [unmuted, setAllPaused, hplaying]
      have hfiring : firing (setPaused playing (paused streamer)) = firing playing := rfl
      have haltered := @unmuted_alter_same _ state paused streamer Playing.report hreport
      simp only [report, hplaying, hplaying', hfiring]
      split
      · rw [hfire, haltered]
        rfl
      · exact haltered

theorem dispatch_unmuted (state : Sourcing Reader) (paused : Nat → Bool)
    (action : Utils.Dispatcher.Action) :
    (state.dispatch action).unmuted paused = (state.unmuted paused).dispatch action := by
  cases hto : state.dispatcher with
  | none => simp [dispatch, unmuted, hto]
  | some dispatcher =>
      simp only [dispatch, unmuted, hto]
      split
      · rfl
      · split <;> rfl
      · rfl

theorem taken_setPaused (playing : Playing Reader) (stalled paused : Bool) :
    taken nextSample (setPaused playing paused).leg stalled =
      taken nextSample playing.leg stalled := rfl

/-! What a toggle leaves. -/

theorem muteTurn_unmuted (state : Sourcing Reader) (paused : Nat → Bool)
    {stage : TogglerAt}
    (hmutes : ∀ toggle, stage.toggle = some toggle → toggle.flag = .muted) :
    (state.togglerTurn stage).2.unmuted paused = state.unmuted paused := by
  cases stage with
  | idle | testClosed toggle => rfl
  | swap toggle =>
      simp only [togglerTurn, hmutes toggle rfl]
      split <;> rfl
  | tell side toggle =>
      simp only [togglerTurn]
      split
      · rfl
      · unfold tell
        split
        next streamer hslot =>
          have hstreamers : setAllPaused paused (Function.update state.streamers streamer
              ((state.streamers streamer).map fun playing =>
                setPaused playing (Playback.Toggle.silences toggle))) =
              setAllPaused paused state.streamers := by
            funext other
            by_cases hother : other = streamer
            · subst hother
              cases hplaying : state.streamers other with
              | none => simp [setAllPaused, hplaying]
              | some playing => simp [setAllPaused, setPaused, hplaying]
            · simp [setAllPaused, hother]
          simp only [unmuted, alter]
          exact congrArg (fun streamers => { state with muted := false, streamers })
            hstreamers
        next => rfl

theorem pauseTurn_unmuted (state : Sourcing Reader) (paused : Nat → Bool)
    {stage : TogglerAt}
    (hpauses : ∀ toggle, stage.toggle = some toggle → toggle.flag = .paused) :
    (state.unmuted paused).togglerTurn stage =
      ((state.togglerTurn stage).1,
        (state.togglerTurn stage).2.unmuted
          (Airing.noted paused (state.told stage))) := by
  cases stage with
  | idle | testClosed toggle => rfl
  | swap toggle =>
      have hflag : (state.unmuted paused).flag .paused = state.flag .paused := rfl
      simp only [togglerTurn, hpauses toggle rfl, hflag]
      split <;> rfl
  | tell side toggle =>
      have hlocks : (state.unmuted paused).locks = state.locks := rfl
      simp only [togglerTurn, told, hlocks]
      cases state.locks side with
      | some caller => rfl
      | none =>
          have hslots : (state.unmuted paused).slots = state.slots := rfl
          simp only [tell, hslots]
          cases state.slots side with
          | none => rfl
          | some streamer =>
              simp only [Option.map_some, Airing.noted, unmuted_tell]

end Sourcing

/-! The run without the mutes, beside the one with them. -/

namespace Toggling

open Sourcing

variable {Reader : Type}
  {nextSample : Reader → Except RustTgCallsError Sample × Reader}

def withoutMutes (togglers : Toggler → TogglerAt) : Toggler → TogglerAt :=
  fun toggler =>
    match toggler.flag with
    | .paused => togglers toggler
    | .muted => .idle

theorem withoutMutes_mute {togglers : Toggler → TogglerAt} {turn : Toggler}
    (hflag : turn.flag = .muted) (stage : TogglerAt) :
    withoutMutes (Function.update togglers turn stage) = withoutMutes togglers := by
  funext toggler
  by_cases hturn : toggler = turn
  · subst hturn
    simp [withoutMutes, hflag]
  · simp [withoutMutes, hturn]

theorem withoutMutes_pause {togglers : Toggler → TogglerAt} {turn : Toggler}
    (hflag : turn.flag = .paused) (stage : TogglerAt) :
    withoutMutes (Function.update togglers turn stage) =
      Function.update (withoutMutes togglers) turn stage := by
  funext toggler
  by_cases hturn : toggler = turn
  · subst hturn
    simp [withoutMutes, hflag]
  · simp [withoutMutes, hturn]

theorem withoutMutes_self {togglers : Toggler → TogglerAt} {toggler : Toggler}
    (hflag : toggler.flag = .paused) :
    withoutMutes togglers toggler = togglers toggler := by
  simp [withoutMutes, hflag]

def unmuted (state : Toggling Reader) (paused : Nat → Bool) : Toggling Reader :=
  { state with
    sourcing := state.sourcing.unmuted paused
    togglers := withoutMutes state.togglers }

theorem sourcing_unmuted {state : Toggling Reader} {paused later : Nat → Bool}
    {action : Sourcing.Action Reader}
    (hsourcing : (state.sourcing.next nextSample action).unmuted later =
      (state.sourcing.unmuted paused).next nextSample action) :
    (state.next nextSample (.sourcing action)).unmuted later =
      (state.unmuted paused).next nextSample (.sourcing action) := by
  have hspawning : spawning (state.sourcing.unmuted paused) action =
      spawning state.sourcing action := by
    cases action <;> rfl
  simp only [next, unmuted, hsourcing, hspawning]
  rfl

end Toggling

namespace Airing

open Sourcing Toggling

variable {Reader : Type}
  {nextSample : Reader → Except RustTgCallsError Sample × Reader}
  {state : Airing Reader}

/-- The state that the same schedule leads to without its mutes. -/
def erased (state : Airing Reader) : Airing Reader :=
  { state with toggling := state.toggling.unmuted state.paused }

/-- A call that swaps one flag goes on with that flag. -/
def Flagged (state : Airing Reader) : Prop :=
  ∀ toggler toggle, (state.toggling.togglers toggler).toggle = some toggle →
    toggle.flag = toggler.flag

theorem toggle_turn {sourcing : Sourcing Reader} {stage : TogglerAt} {toggle : Toggle}
    (htoggle : (sourcing.togglerTurn stage).1.toggle = some toggle) :
    stage.toggle = some toggle := by
  cases stage with
  | idle => cases htoggle
  | testClosed other | swap other =>
      simp only [togglerTurn] at htoggle
      split at htoggle
      · cases htoggle
      · exact htoggle
  | tell side other =>
      simp only [togglerTurn] at htoggle
      split at htoggle
      · exact htoggle
      · simp only [toldNext] at htoggle
        split at htoggle
        · exact htoggle
        · cases htoggle

theorem flagged_next (action : Action Reader) (hflagged : Flagged state) :
    Flagged (state.next nextSample action) := by
  cases action with
  | elapse duration => exact hflagged
  | toggling action =>
      cases action with
      | sourcing action =>
          cases action with
          | reader streamer stalled =>
              simp only [next, reader]
              split <;> exact hflagged
          | pacing streamer input =>
              simp only [next, pacing]
              split
              · split <;> exact hflagged
              · exact hflagged
          | _ => exact hflagged
      | call number toggle =>
          intro toggler other hother
          simp only [next, Toggling.next] at hother
          split at hother
          · by_cases hcalled : toggler = ⟨toggle.flag, number⟩
            · subst hcalled
              simp only [Function.update_self, TogglerAt.toggle,
                Option.some.injEq] at hother
              rw [← hother]
            · simp only [Function.update_of_ne hcalled] at hother
              exact hflagged toggler other hother
          · exact hflagged toggler other hother
      | toggler turn =>
          intro toggler other hother
          simp only [next, Toggling.next] at hother
          by_cases hturn : toggler = turn
          · subst hturn
            rw [Function.update_self] at hother
            exact hflagged toggler other (toggle_turn hother)
          · rw [Function.update_of_ne hturn] at hother
            exact hflagged toggler other hother

theorem erased_call (number : Nat) (toggle : Toggle) :
    (state.next nextSample (.toggling (.call number toggle))).erased =
      after (next nextSample) state.erased
        (state.unmutedSteps (.toggling (.call number toggle))) := by
  cases hflag : toggle.flag with
  | muted =>
      simp only [unmutedSteps, hflag, ↓reduceIte, after_nil, next, Toggling.next]
      split
      · simp only [erased, Toggling.unmuted, withoutMutes_mute]
        rfl
      · rfl
  | paused =>
      have hself : withoutMutes state.toggling.togglers ⟨.paused, number⟩ =
          state.toggling.togglers ⟨.paused, number⟩ := withoutMutes_self rfl
      simp only [unmutedSteps, hflag, reduceCtorEq, ↓reduceIte, after_cons, after_nil,
        next, Toggling.next, erased, Toggling.unmuted, hself]
      split
      · simp only [withoutMutes_pause]
        rfl
      · rfl

theorem erased_toggler (hflagged : Flagged state) (toggler : Toggler) :
    (state.next nextSample (.toggling (.toggler toggler))).erased =
      after (next nextSample) state.erased
        (state.unmutedSteps (.toggling (.toggler toggler))) := by
  obtain ⟨flag, number⟩ := toggler
  cases flag with
  | muted =>
      have hturn := muteTurn_unmuted state.toggling.sourcing state.paused
        (hflagged ⟨.muted, number⟩)
      simp only [unmutedSteps, ↓reduceIte, after_nil, next, Toggling.next, pausing,
        noted, erased, Toggling.unmuted, withoutMutes_mute, hturn]
  | paused =>
      have hself : Toggling.withoutMutes state.toggling.togglers ⟨.paused, number⟩ =
          state.toggling.togglers ⟨.paused, number⟩ := withoutMutes_self rfl
      have hturn := pauseTurn_unmuted state.toggling.sourcing state.paused
        (hflagged ⟨.paused, number⟩)
      simp only [unmutedSteps, reduceCtorEq, ↓reduceIte, after_cons, after_nil, next,
        Toggling.next, pausing, erased, Toggling.unmuted, withoutMutes_pause, hself,
        hturn]
      rfl

theorem erased_sourcing {action : Sourcing.Action Reader} {paused : Nat → Bool}
    (hsourcing : (state.toggling.sourcing.next nextSample action).unmuted paused =
      (state.toggling.sourcing.unmuted state.paused).next nextSample action) :
    { state with
        toggling := state.toggling.next nextSample (.sourcing action)
        paused }.erased =
      { state.erased with
        toggling := state.erased.toggling.next nextSample (.sourcing action)
        paused } := by
  simp only [erased, Toggling.sourcing_unmuted hsourcing]

/-- The tests of `set_source` leave all but its own stage. -/
theorem next_test {id streamer : Nat} {sources : Sources Reader} {stage : SetSourceAt}
    (hcall : state.toggling.sourcing.setSources id = some ⟨sources, stage⟩)
    (htests : stage = .ifMuted streamer ∨ stage = .ifPaused .audio streamer)
    (connected : Bool) :
    state.next nextSample (.toggling (.sourcing (.setSourceStep id connected))) =
      { state with
        toggling :=
          { state.toggling with
            sourcing := state.toggling.sourcing.setSourceStep id connected } } := by
  rcases htests with rfl | rfl <;>
    simp [next, Toggling.next, Sourcing.next, pausing, spawning, hcall, setSourceTurn,
      Access.pausing, noted]

/-- A `set_source` that is spared the test of `paused` pauses its streamer in one
step instead of two. -/
theorem erased_spared {id streamer : Nat} {sources : Sources Reader}
    (hcall : state.toggling.sourcing.setSources id = some ⟨sources, .ifMuted streamer⟩)
    (hmuted : state.toggling.sourcing.muted = true)
    (hpaused : state.toggling.sourcing.paused = true) (connected : Bool) :
    (state.next nextSample (.toggling (.sourcing (.setSourceStep id connected)))).erased =
      (state.erased.next nextSample
        (.toggling (.sourcing (.setSourceStep id connected)))).next nextSample
          (.toggling (.sourcing (.setSourceStep id connected))) := by
  have hcall' : state.erased.toggling.sourcing.setSources id =
      some ⟨sources, .ifMuted streamer⟩ := hcall
  have hcall'' : (state.erased.toggling.sourcing.setSourceStep id connected).setSources
      id = some ⟨sources, .ifPaused .audio streamer⟩ := by
    have hunmuted : state.erased.toggling.sourcing.muted = false := rfl
    simp [setSourceStep, hcall', setSourceTurn, hunmuted]
  have hsourcing := spared_unmuted hcall hmuted hpaused state.paused connected
  rw [next_test hcall (.inl rfl), next_test hcall' (.inl rfl),
    next_test hcall'' (.inr rfl)]
  simp only [erased, Toggling.unmuted, hsourcing]

theorem unspared {sourcing : Sourcing Reader} {id : Nat} {call : SetSource Reader}
    (hcall : sourcing.setSources id = some call)
    (hspares : sparesTest sourcing id = false) (streamer : Nat)
    (hstage : call.stage = .ifMuted streamer) : sourcing.muted = false := by
  obtain ⟨sources, stage⟩ := call
  subst hstage
  simpa [sparesTest, hcall] using hspares

theorem erased_unspared {id : Nat}
    (hspares : sparesTest state.toggling.sourcing id = false) (connected : Bool) :
    (state.next nextSample (.toggling (.sourcing (.setSourceStep id connected)))).erased =
      state.erased.next nextSample
        (.toggling (.sourcing (.setSourceStep id connected))) := by
  cases hcall : state.toggling.sourcing.setSources id with
  | none =>
      have hcall' : state.erased.toggling.sourcing.setSources id = none := hcall
      have hsourcing : (state.toggling.sourcing.next nextSample
          (.setSourceStep id connected)).unmuted state.paused =
            (state.toggling.sourcing.unmuted state.paused).next nextSample
              (.setSourceStep id connected) := by
        simp [Sourcing.next, setSourceStep, hcall, Sourcing.unmuted]
      simp only [next, pausing, hcall, hcall', noted]
      exact erased_sourcing hsourcing
  | some call =>
      have hspared := unspared hcall hspares
      have hcall' : state.erased.toggling.sourcing.setSources id = some call := hcall
      have hpausing' : pausing state.erased.toggling
          (.sourcing (.setSourceStep id connected)) =
            Access.pausing state.toggling.sourcing.created
              (state.toggling.sourcing.setSourceTurn id connected call.sources
                call.stage).2 := by
        simp only [pausing, hcall', ← setSourceTurn_unmuted hspared state.paused]
        rfl
      simp only [next, pausing, hcall] at hpausing' ⊢
      rw [hpausing']
      exact erased_sourcing (setSourceStep_unmuted hcall hspared state.paused connected)

theorem erased_setSourceStep (id : Nat) (connected : Bool)
    (hunaffected :
      Unaffected state (.toggling (.sourcing (.setSourceStep id connected)))) :
    (state.next nextSample (.toggling (.sourcing (.setSourceStep id connected)))).erased =
      after (next nextSample) state.erased
        (state.unmutedSteps (.toggling (.sourcing (.setSourceStep id connected)))) := by
  cases hspares : sparesTest state.toggling.sourcing id with
  | true =>
      have hpaused := hunaffected hspares
      obtain ⟨sources, streamer, hcall, hmuted⟩ : ∃ sources streamer,
          state.toggling.sourcing.setSources id = some ⟨sources, .ifMuted streamer⟩ ∧
            state.toggling.sourcing.muted = true := by
        unfold sparesTest at hspares
        split at hspares
        next sources streamer hcall => exact ⟨sources, streamer, hcall, hspares⟩
        next => cases hspares
      simp only [unmutedSteps, hspares, ↓reduceIte]
      exact erased_spared hcall hmuted hpaused connected
  | false =>
      simp only [unmutedSteps, hspares, Bool.false_eq_true, ↓reduceIte]
      exact erased_unspared hspares connected

theorem erased_reader (streamer : Nat) (stalled : Bool)
    (hunaffected : Unaffected state (.toggling (.sourcing (.reader streamer stalled)))) :
    (state.reader nextSample streamer stalled).erased =
      state.erased.reader nextSample streamer stalled := by
  cases hplaying : state.toggling.sourcing.streamers streamer with
  | none =>
      simp [reader, erased, Toggling.unmuted, Sourcing.unmuted, setAllPaused, hplaying]
  | some playing =>
      have hplaying' : state.erased.toggling.sourcing.streamers streamer =
          some (setPaused playing (state.paused streamer)) := by
        simp [erased, Toggling.unmuted, Sourcing.unmuted, setAllPaused, hplaying]
      have hreader : (state.toggling.sourcing.next nextSample
          (.reader streamer stalled)).unmuted state.paused =
            (state.toggling.sourcing.unmuted state.paused).next nextSample
              (.reader streamer stalled) := by
        refine unmuted_alter (fun _ _ => rfl) fun held hheld => ?_
        have hstep := @readerStep_setPaused _ nextSample held.leg stalled
          (state.paused streamer) (hunaffected held hheld)
        simp only [setPaused, hstep]
      simp only [reader, hplaying, hplaying', taken_setPaused]
      simp only [erased, Toggling.sourcing_unmuted hreader]

theorem nextDeadline_pace (paced : Paced Reader) (input : PacingInput) :
    (paced.pace input).nextDeadline =
      match paced.playing.leg.pacingAt with
      | .released _ => paced.clock
      | .account sample =>
          Paced.rebased paced.clock (paced.nextDeadline + sample.duration)
      | _ => paced.nextDeadline := by
  unfold Paced.pace
  cases paced.playing.leg.pacingAt with
  | released sample | sendRtp sample | account sample => rfl
  | _ =>
      dsimp only
      split <;> rfl

theorem erased_pacing (streamer : Nat) (input : PacingInput)
    (hunaffected : Unaffected state (.toggling (.sourcing (.pacing streamer input)))) :
    (state.pacing nextSample streamer input).erased =
      state.erased.pacing nextSample streamer input := by
  cases hplaying : state.toggling.sourcing.streamers streamer with
  | none =>
      simp [pacing, erased, Toggling.unmuted, Sourcing.unmuted, setAllPaused, hplaying]
  | some playing =>
      have hplaying' : state.erased.toggling.sourcing.streamers streamer =
          some (setPaused playing (state.paused streamer)) := by
        simp [erased, Toggling.unmuted, Sourcing.unmuted, setAllPaused, hplaying]
      have hpacing : (state.toggling.sourcing.next nextSample
          (.pacing streamer input)).unmuted state.paused =
            (state.toggling.sourcing.unmuted state.paused).next nextSample
              (.pacing streamer input) :=
        pacing_unmuted (fun held hheld htests => (hunaffected held hheld htests).1) input
      have hearly : (state.erased.paced streamer
          (setPaused playing (state.paused streamer))).tooEarly input =
            (state.paced streamer playing).tooEarly input := rfl
      have hdeadline : ((state.erased.paced streamer
          (setPaused playing (state.paused streamer))).pace input).nextDeadline =
            ((state.paced streamer playing).pace input).nextDeadline := by
        rw [nextDeadline_pace, nextDeadline_pace]
        rfl
      simp only [pacing, hplaying, hplaying', hearly, hdeadline]
      split
      · rfl
      · simp only [erased, Toggling.sourcing_unmuted hpacing]
        rfl

/-- A step among mutes, and what it becomes without them. -/
theorem erased_next (action : Action Reader) (hflagged : Flagged state)
    (hunaffected : Unaffected state action) :
    (state.next nextSample action).erased =
      after (next nextSample) state.erased (state.unmutedSteps action) := by
  cases action with
  | elapse duration => rfl
  | toggling action =>
      cases action with
      | call number toggle => exact erased_call number toggle
      | toggler toggler => exact erased_toggler hflagged toggler
      | sourcing action =>
          cases action with
          | reader streamer stalled => exact erased_reader streamer stalled hunaffected
          | pacing streamer input => exact erased_pacing streamer input hunaffected
          | setSourceStep id connected =>
              exact erased_setSourceStep id connected hunaffected
          | setSource sources => exact erased_sourcing rfl
          | stop =>
              refine erased_sourcing ?_
              have hclosed : (state.toggling.sourcing.unmuted state.paused).closed =
                  state.toggling.sourcing.closed := rfl
              simp only [Sourcing.next, hclosed]
              split <;> rfl
          | stopStep => exact erased_sourcing (stopStep_unmuted _ _)
          | report streamer => exact erased_sourcing (report_unmuted _ _ streamer)
          | dispatch action => exact erased_sourcing (dispatch_unmuted _ _ action)

theorem erased_after (onStreamEnd : Bool) (dispatcher : Option Nat) (clock : Instant)
    {actions : List (Action Reader)}
    (hunaffected : Along (next nextSample) Unaffected
      (new onStreamEnd dispatcher clock) actions) :
    (after (next nextSample) (new onStreamEnd dispatcher clock) actions).erased =
      after (next nextSample) (new onStreamEnd dispatcher clock)
        (unmuted nextSample (new onStreamEnd dispatcher clock) actions) := by
  have hflagged : Flagged (new onStreamEnd dispatcher clock : Airing Reader) := by
    intro toggler toggle hnone
    cases hnone
  have hstart : (new onStreamEnd dispatcher clock : Airing Reader).erased =
      new onStreamEnd dispatcher clock := by
    have htogglers : withoutMutes (fun _ => .idle) = fun _ => .idle := by
      funext toggler
      simp only [withoutMutes]
      split <;> rfl
    simp only [erased, Toggling.unmuted, new, Toggling.new, htogglers]
    rfl
  have hproject := project_after
    (fun state action hnow _ => @flagged_next _ nextSample state action hnow)
    (fun state action => @erased_next _ nextSample state action) hflagged hunaffected
  rw [hproject, hstart]
  rfl

/-! A leg of audio while `muted` is set. -/

/-- A step is one of the call, or leaves the call alone and sends nothing. -/
theorem toggling_next (state : Airing Reader) (action : Action Reader) :
    (state.next nextSample action).toggling = state.toggling ∧
        (state.next nextSample action).aired = state.aired ∨
      ∃ turn, action = .toggling turn ∧
        (state.next nextSample action).toggling = state.toggling.next nextSample turn := by
  cases action with
  | elapse duration => exact .inl ⟨rfl, rfl⟩
  | toggling turn =>
      cases turn with
      | call number toggle | toggler toggler => exact .inr ⟨_, rfl, rfl⟩
      | sourcing turn =>
          cases turn with
          | reader streamer stalled =>
              simp only [next, reader]
              split
              · exact .inr ⟨_, rfl, rfl⟩
              · exact .inl ⟨rfl, rfl⟩
          | pacing streamer input =>
              simp only [next, pacing]
              split
              · split
                · exact .inl ⟨rfl, rfl⟩
                · exact .inr ⟨_, rfl, rfl⟩
              · exact .inl ⟨rfl, rfl⟩
          | _ => exact .inr ⟨_, rfl, rfl⟩

theorem sound_toggling (hsound : Sound state.toggling) (action : Action Reader) :
    Sound (state.next nextSample action).toggling := by
  obtain ⟨hsame, _⟩ | ⟨turn, _, hturn⟩ := @toggling_next _ nextSample state action
  · rwa [hsame]
  · rw [hturn]
    exact sound_next state.toggling turn hsound

/-- A streamer stays the one it was spawned as. -/
theorem installed_after (hsound : Sound state.toggling) {streamer : Nat}
    {installer : Nat × StreamType}
    (hinstalled : state.toggling.installed streamer = some installer)
    (actions : List (Action Reader)) :
    (after (next nextSample) state actions).toggling.installed streamer = some installer := by
  induction actions generalizing state with
  | nil => exact hinstalled
  | cons action rest ih =>
      refine ih (sound_toggling hsound action) ?_
      obtain ⟨hsame, _⟩ | ⟨turn, _, hturn⟩ := @toggling_next _ nextSample state action
      · rwa [hsame]
      · rw [hturn, installed_next turn (Nat.ne_of_lt (hsound.known hinstalled))]
        exact hinstalled

/-- Only a turn of its pacing task sends of a streamer. -/
theorem aired_next (state : Airing Reader) (turn : Toggling.Action Reader) (streamer : Nat) :
    (state.next nextSample (.toggling turn)).aired streamer = state.aired streamer ∨
      ∃ input playing, turn = .sourcing (.pacing streamer input) ∧
        state.toggling.sourcing.streamers streamer = some playing ∧
          (state.next nextSample (.toggling turn)).aired streamer =
            state.aired streamer ++
              (Playing.passing playing.leg).toList.map (state.clock, ·) := by
  cases turn with
  | call number toggle | toggler toggler => exact .inl rfl
  | sourcing turn =>
      cases turn with
      | reader other stalled =>
          simp only [next, reader]
          split <;> exact .inl rfl
      | pacing other input =>
          simp only [next, pacing]
          split
          next playing hplaying =>
            split
            · exact .inl rfl
            · by_cases hother : streamer = other
              · subst hother
                exact .inr ⟨input, playing, rfl, hplaying, Function.update_self ..⟩
              · exact .inl (Function.update_of_ne hother ..)
          next => exact .inl rfl
      | _ => exact .inl rfl

theorem past_freed (playing : Playing Reader) :
    Playing.past (freed playing).leg = Playing.past playing.leg := by
  cases hat : playing.leg.pacingAt <;> simp [freed, Leg.release, Playing.past, hat]

/-- Its own turns aside, no step brings a sample of a streamer on its way. -/
theorem past_moves {toggling : Toggling Reader} {streamer : Nat}
    {playing held : Playing Reader} {turn : Toggling.Action Reader}
    (hother : ∀ input, turn ≠ .sourcing (.pacing streamer input))
    (hmoves : Moves nextSample toggling streamer playing turn held) :
    (Playing.past held.leg).toNat ≤ (Playing.past playing.leg).toNat := by
  have htold (told : Playing Reader) (hmute : Mute playing told) :
      (Playing.past told.leg).toNat ≤ (Playing.past playing.leg).toNat := by
    cases hpast : Playing.past playing.leg with
    | true => exact Bool.toNat_le _
    | false => rw [hmute.past hpast]
  cases hmoves with
  | same => exact Nat.le_refl _
  | reader stalled =>
      have hsame := Leg.samePacing_readerStep nextSample playing.leg stalled
      simp [Playing.past, hsame.pacingAt, hsame.running]
  | paced paced input hpaced =>
      cases hpaced with
      | other => exact Nat.le_refl _
      | turn hturn | meets hturn _ =>
          subst hturn
          exact absurd rfl (hother input)
      | freed => rw [past_freed]
  | reports => rw [playing.report_frame.1]
  | setSource id connected hcall told => exact htold _ (mute_told told).1
  | stop told => exact htold _ (mute_told told).1
  | toggler toggler side toggle hstage hslot => exact Nat.le_refl _

/-- A turn of the pacing task that passes no test sends what was on its way. -/
theorem past_paced {sourcing : Sourcing Reader} {streamer : Nat} {input : PacingInput}
    {playing held : Playing Reader}
    (hheld : playing.leg.pacingAt = .whilePaused →
      playing.leg.paused = true ∨ playing.leg.running = false)
    (hpaced : Sourcing.Paced sourcing streamer input streamer playing held) :
    (Playing.passing playing.leg).toList.length + (Playing.past held.leg).toNat ≤
      (Playing.past playing.leg).toNat := by
  have hway := Playing.onItsWay_pacing hheld input
  cases hpaced with
  | other hother => exact absurd rfl hother
  | turn => exact hway
  | meets =>
      rw [past_freed]
      exact hway
  | freed arrived hwaits =>
      have hpassing : Playing.passing playing.leg = none := by
        unfold Leg.waits at hwaits
        split at hwaits
        next hat => simp [Playing.passing, hat]
        next => cases hwaits
      rw [past_freed, hpassing]
      exact Nat.le_of_eq (Nat.zero_add _)

theorem onTheirWay_some {streamer : Nat} {playing : Playing Reader}
    (hplaying : state.toggling.sourcing.streamers streamer = some playing) :
    state.onTheirWay streamer = (Playing.past playing.leg).toNat := by
  simp [onTheirWay, hplaying]

/-- A muted leg of audio does not pass the test of its paused flag. -/
theorem held_of_unaffected (hsound : Sound state.toggling)
    (hmuted : state.toggling.sourcing.muted = true) {streamer : Nat} {input : PacingInput}
    (hunaffected : Unaffected state (.toggling (.sourcing (.pacing streamer input))))
    (haudio : ∀ installer, state.toggling.installed streamer = some installer →
      installer.2 = .audio)
    {playing : Playing Reader}
    (hplaying : state.toggling.sourcing.streamers streamer = some playing)
    (hat : playing.leg.pacingAt = .whilePaused) :
    playing.leg.paused = true ∨ playing.leg.running = false := by
  by_contra hpasses
  obtain ⟨hpaused, hrunning⟩ : playing.leg.paused = false ∧ playing.leg.running = true := by
    simpa using hpasses
  obtain ⟨id, side, _, _, hinstalled, _⟩ := hsound.spawned streamer (hsound.present hplaying)
  have hside : side = .audio := haudio (id, side) hinstalled
  have htests : pacingTests playing.leg = true := by simp [pacingTests, hat]
  have haudible : state.audible streamer playing.leg = true := by
    simp [audible, hpaused, hrunning, hinstalled, hside]
  rw [(hunaffected playing hplaying htests).2 haudible] at hmuted
  cases hmuted

theorem silent_next (hsound : Sound state.toggling)
    (hmuted : state.toggling.sourcing.muted = true) {action : Action Reader}
    (hunaffected : Unaffected state action) {streamer : Nat}
    (haudio : ∀ installer, state.toggling.installed streamer = some installer →
      installer.2 = .audio) :
    ∃ late, (state.next nextSample action).aired streamer = state.aired streamer ++ late ∧
      late.length + (state.next nextSample action).onTheirWay streamer ≤
        state.onTheirWay streamer := by
  obtain ⟨hsame, haired⟩ | ⟨turn, rfl, hturn⟩ := @toggling_next _ nextSample state action
  · exact ⟨[], by rw [haired, List.append_nil], by simp [onTheirWay, hsame]⟩
  · cases hplaying : state.toggling.sourcing.streamers streamer with
    | none =>
        refine ⟨[], ?_, ?_⟩
        · obtain haired | ⟨_, playing, _, hheld, _⟩ :=
            @aired_next _ nextSample state turn streamer
          · rw [haired, List.append_nil]
          · rw [hplaying] at hheld
            cases hheld
        · unfold onTheirWay
          rw [hturn]
          cases hheld : (state.toggling.next nextSample turn).sourcing.streamers streamer with
          | none => simp
          | some held =>
              -- a leg that has just been spawned has nothing on its way
              obtain ⟨_, hbefore, _⟩ | ⟨_, _, _, _, _, _, _, _, _, _, _, rfl⟩ :=
                present_before hsound turn hheld
              · rw [hplaying] at hbefore
                cases hbefore
              · exact Nat.zero_le _
    | some playing =>
        rw [onTheirWay_some hplaying]
        by_cases hown : ∃ input, turn = .sourcing (.pacing streamer input)
        · obtain ⟨input, rfl⟩ := hown
          obtain ⟨held, hheld, hpaced⟩ :=
            paced_pacing state.toggling.sourcing streamer input hplaying
          have hway := past_paced
            (held_of_unaffected hsound hmuted hunaffected haudio hplaying) hpaced
          have hleft : (state.next nextSample
              (.toggling (.sourcing (.pacing streamer input)))).onTheirWay streamer =
                (Playing.past held.leg).toNat := by
            apply onTheirWay_some
            rw [hturn]
            exact hheld
          obtain haired | ⟨_, sending, _, hsending, haired⟩ := @aired_next _ nextSample state
            (.sourcing (.pacing streamer input)) streamer
          · refine ⟨[], by rw [haired, List.append_nil], ?_⟩
            rw [hleft, List.length_nil]
            omega
          · rw [hplaying] at hsending
            cases hsending
            refine ⟨_, haired, ?_⟩
            rwa [hleft, List.length_map]
        · have hother (input : PacingInput) : turn ≠ .sourcing (.pacing streamer input) :=
            fun hturn => hown ⟨input, hturn⟩
          obtain ⟨held, hheld, hmoves⟩ := @moves_next _ nextSample state.toggling _ _
            (Nat.ne_of_lt (hsound.present hplaying)) hplaying turn
          have hleft : (state.next nextSample (.toggling turn)).onTheirWay streamer =
              (Playing.past held.leg).toNat := by
            apply onTheirWay_some
            rw [hturn]
            exact hheld
          obtain haired | ⟨input, _, hown', _⟩ := @aired_next _ nextSample state turn streamer
          · refine ⟨[], by rw [haired, List.append_nil], ?_⟩
            rw [hleft, List.length_nil, Nat.zero_add]
            exact past_moves hother hmoves
          · exact absurd hown' (hother input)

/-- As long as the flag stays set, a leg of audio sends no more than was on its way. -/
theorem silent_after (hsound : Sound state.toggling) {streamer id : Nat}
    {actions : List (Action Reader)}
    (hunaffected : Along (next nextSample) Unaffected state actions)
    (hmuted : Always (next nextSample) (fun now => now.toggling.sourcing.muted = true) state
      actions)
    (hinstalled : (after (next nextSample) state actions).toggling.installed streamer =
      some (id, .audio)) :
    ∃ late, (after (next nextSample) state actions).aired streamer =
        state.aired streamer ++ late ∧
      late.length ≤ state.onTheirWay streamer := by
  induction actions generalizing state with
  | nil => exact ⟨[], (List.append_nil _).symm, Nat.zero_le _⟩
  | cons action rest ih =>
      obtain ⟨hhead, htail⟩ := hunaffected
      obtain ⟨hnow, hlater⟩ := hmuted
      have haudio (installer : Nat × StreamType)
          (hbefore : state.toggling.installed streamer = some installer) :
          installer.2 = .audio := by
        have hkept := @installed_after _ nextSample _ hsound _ _ hbefore (action :: rest)
        rw [hinstalled] at hkept
        cases hkept
        rfl
      obtain ⟨first, hfirst, hleft⟩ := @silent_next _ nextSample _ hsound hnow _ hhead _ haudio
      obtain ⟨second, hsecond, hbound⟩ := ih (sound_toggling hsound action) htail hlater hinstalled
      refine ⟨first ++ second, ?_, ?_⟩
      · rw [after_cons, hsecond, hfirst, List.append_assoc]
      · rw [List.length_append]
        omega

theorem silentWhileMuted (onStreamEnd : Bool) (dispatcher : Option Nat) (clock : Instant)
    {actions : List (Action Reader)}
    (hunaffected : Along (next nextSample) Unaffected
      (new onStreamEnd dispatcher clock) actions) :
    SilentWhileMuted nextSample (new onStreamEnd dispatcher clock) actions := by
  intro before rest hactions state final hmuted streamer id hinstalled
  subst hactions
  obtain ⟨hbefore, hrest⟩ := along_append.mp hunaffected
  let Kept (now : Airing Reader) : Prop := now.toggling.Sound
  have hstart : Kept (new onStreamEnd dispatcher clock) :=
    Toggling.sound_new onStreamEnd dispatcher
  have hsound : Kept state :=
    hbefore.invariant (fun _ action hnow _ => sound_toggling hnow action) hstart
  exact silent_after hsound hrest hmuted hinstalled

/-- Two runs that differ in their mutes and unmutes alone have taken the same samples
from each source and sent the same ones at the same times, and in each of them the
legs of audio send nothing while the call is muted. -/
theorem same_airing
    (nextSample : Reader → Except RustTgCallsError Sample × Reader)
    (onStreamEnd : Bool) (dispatcher : Option Nat) (clock : Instant)
    (first second : List (Action Reader))
    (hsame : unmuted nextSample (new onStreamEnd dispatcher clock) first =
      unmuted nextSample (new onStreamEnd dispatcher clock) second)
    (hfirst : Along (next nextSample) Unaffected
      (new onStreamEnd dispatcher clock) first)
    (hsecond : Along (next nextSample) Unaffected
      (new onStreamEnd dispatcher clock) second) :
    let run := after (next nextSample) (new onStreamEnd dispatcher clock)
    (∀ streamer,
      (run first).toggling.installed streamer =
          (run second).toggling.installed streamer ∧
        (run first).consumed streamer = (run second).consumed streamer ∧
          (run first).aired streamer = (run second).aired streamer) ∧
      SilentWhileMuted nextSample (new onStreamEnd dispatcher clock) first ∧
        SilentWhileMuted nextSample (new onStreamEnd dispatcher clock) second := by
  intro run
  have herased : (run first).erased = (run second).erased := by
    calc (run first).erased
        = run (unmuted nextSample (new onStreamEnd dispatcher clock) first) :=
          erased_after onStreamEnd dispatcher clock hfirst
      _ = run (unmuted nextSample (new onStreamEnd dispatcher clock) second) := by
          rw [hsame]
      _ = (run second).erased :=
          (erased_after onStreamEnd dispatcher clock hsecond).symm
  refine ⟨fun streamer => ⟨?_, ?_, ?_⟩,
    silentWhileMuted onStreamEnd dispatcher clock hfirst,
    silentWhileMuted onStreamEnd dispatcher clock hsecond⟩
  · exact congrArg (fun state => state.toggling.installed streamer) herased
  · exact congrArg (fun state => state.consumed streamer) herased
  · exact congrArg (fun state => state.aired streamer) herased

/-! A call of two sources, muted and not. -/

deriving instance DecidableEq for PacingInput, Sources, Sourcing.Action,
  Toggling.Action, Action

def sourced (actions : List (Sourcing.Action (List Sample))) :
    List (Action (List Sample)) :=
  actions.map fun action => .toggling (.sourcing action)

def toggled (number : Nat) (toggle : Toggle) : List (Action (List Sample)) :=
  .toggling (.call number toggle) ::
    List.replicate 4 (.toggling (.toggler ⟨toggle.flag, number⟩))

def movie : Sources (List Sample) := ⟨some [frame, frame], some [frame, frame]⟩

/-- Enough turns for a frame of each leg. -/
def played : List (Action (List Sample)) :=
  sourced (feed 0 ++ feed 0 ++ feed 1 ++ feed 1 ++ pace 0 7 ++ pace 1 7 ++ pace 0 3 ++
    pace 1 3)

/-- Both sources are installed under a pause and a mute, and the tasks get turns
before and behind the unmute and the resume. -/
def mutedWhilePaused : List (Action (List Sample)) :=
  toggled 0 .pause ++ toggled 0 .mute ++ sourced (install 0 movie 19) ++ played ++
    toggled 1 .unmute ++ toggled 1 .resume ++ played

def onlyPaused : List (Action (List Sample)) :=
  toggled 0 .pause ++ sourced (install 0 movie 20) ++ played ++
    toggled 1 .resume ++ played

theorem same_airing_mutedWhilePaused :
    let run := after (next sampleNext) (new true none 0)
    (∀ streamer,
      (run mutedWhilePaused).toggling.installed streamer =
          (run onlyPaused).toggling.installed streamer ∧
        (run mutedWhilePaused).consumed streamer = (run onlyPaused).consumed streamer ∧
          (run mutedWhilePaused).aired streamer = (run onlyPaused).aired streamer) ∧
      SilentWhileMuted sampleNext (new true none 0) mutedWhilePaused ∧
        SilentWhileMuted sampleNext (new true none 0) onlyPaused :=
  same_airing sampleNext true none 0 mutedWhilePaused onlyPaused (by decide +kernel)
    (by decide +kernel) (by decide +kernel)

/-- A mute stops the audio source while the video goes on. -/
theorem mute_stops_audio :
    let run := after (next sampleNext) (new true none 0)
    let first := sourced (install 0 movie 18) ++ toggled 0 .mute ++
      sourced (feed 0 ++ feed 1)
    let second := sourced (install 0 movie 18) ++ sourced (feed 0 ++ feed 1)
    unmuted sampleNext (new true none 0) first =
        unmuted sampleNext (new true none 0) second ∧
      (run first).consumed 0 = 0 ∧ (run first).consumed 1 = 1 ∧
        (run second).consumed 0 = 1 ∧ (run second).consumed 1 = 1 := by
  decide +kernel

end Airing

end RustTgCalls.Instances
