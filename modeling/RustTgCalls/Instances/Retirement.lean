import RustTgCalls.Instances.Custody

namespace RustTgCalls.Instances

open Media Utils Transition

/-! What a retired streamer may still do. -/

namespace Sourcing

variable {Reader : Type}
  (nextSample : Reader → Except RustTgCallsError Sample × Reader)

def sent (state : Sourcing Reader) (streamer : Nat) : List Sample :=
  match state.streamers streamer with
  | some playing => playing.sent
  | none => []

/-- The `set_source` or `stop` that took the streamer out of its slot has
returned. -/
def Retired (state : Sourcing Reader) (streamer : Nat) : Prop :=
  ∃ caller, state.retiredBy streamer = some caller ∧
    state.place caller = .returned

/-- From the return on, no frame of a retired streamer is sent and its end is not
reported. -/
def Silent (state : Sourcing Reader) (actions : List (Action Reader)) : Prop :=
  ∀ first second, first ++ second <+: actions → ∀ streamer,
    (after (next nextSample) state first).Retired streamer →
      (after (next nextSample) state (first ++ second)).sent streamer =
          (after (next nextSample) state first).sent streamer ∧
        (after (next nextSample) state (first ++ second)).invoked streamer =
          (after (next nextSample) state first).invoked streamer

/-- With `stop` and every `set_source` returned, both slots are empty. -/
def Vacated (state : Sourcing Reader) : Prop :=
  state.stopAt = .returned →
    (∀ id < state.started, state.place (.setSource id) = .returned) →
      state.slots .audio = none ∧ state.slots .video = none

/-! The condition, on the streamers at the return and on the slots at a store. -/

/-- Past the last test of `running` on the way to the barrier, or there. -/
def nearing (leg : Leg Reader) : Bool :=
  match leg.pacingAt with
  | .take => leg.firstSample && leg.holdsSample
  | .ifFirst _ => leg.firstSample
  | .barrierWait _ => true
  | _ => false

/-- The pacing task may come to the barrier it shares. -/
def mayArrive (leg : Leg Reader) : Bool := leg.running || nearing leg

/-- Past the last test of `running` with a frame. -/
def bears (leg : Leg Reader) : Bool :=
  match leg.pacingAt with
  | .take => leg.holdsSample
  | .ifFirst _ | .released _ | .sendRtp _ => true
  | _ => false

def mayBeFreed (state : Sourcing Reader) (streamer : Nat) : Bool :=
  match state.partner streamer with
  | some partner =>
      match state.streamers partner with
      | some other => mayArrive other.leg
      | none => true
  | none => true

/-- A frame that will be sent, or may be once the barrier is passed. -/
def carries (state : Sourcing Reader) (streamer : Nat) (leg : Leg Reader) :
    Bool :=
  bears leg || leg.waits && state.mayBeFreed streamer

def queued (dispatcher : Dispatcher) : List Nat :=
  dispatcher.running.toList ++ dispatcher.queue

/-- No frame of the streamer is past the test, its callback has not been taken to
be called, and no report of its end waits at the dispatcher. -/
structure Still (state : Sourcing Reader) (streamer : Nat) : Prop where
  frame : ∀ playing ∈ state.streamers streamer,
    state.carries streamer playing.leg = false
  report : state.onStreamEnd = true → ∀ playing ∈ state.streamers streamer,
    playing.reportAt ≠ .call true
  job : ∀ dispatcher ∈ state.dispatcher, ∀ task ∈ queued dispatcher,
    (state.jobs task).map Prod.fst ≠ some streamer

/-- The caller that returns with this action. -/
def returning (state : Sourcing Reader) : Action Reader → Option Caller
  | .setSourceStep id connected =>
      match state.setSources id with
      | some ⟨_, .testClosed⟩ =>
          if state.closed then some (.setSource id) else none
      | some ⟨_, .gate⟩ => if connected then none else some (.setSource id)
      | some ⟨_, .finish⟩ => some (.setSource id)
      | _ => none
  | .stopStep => if state.stopAt = .clearMuted then some .stop else none
  | _ => none

/-- The slot that is filled with this action. -/
def filling (state : Sourcing Reader) : Action Reader → Option StreamType
  | .setSourceStep id _ =>
      match state.setSources id with
      | some ⟨_, .store side _⟩ => some side
      | _ => none
  | _ => none

/-- `stop` has been to the slot. -/
def emptied (side : StreamType) : StopAt → Bool
  | .idle => false
  | .lock at_ | .take at_ => at_ == .video && side == .audio
  | .clear at_ _ | .halt at_ _ | .unlock at_ => at_ == .video || side == .audio
  | .clearPaused | .clearMuted | .returned => true

/-- A caller returns only with the streamers it has retired still, and a slot is
filled only before `stop` has been to it. -/
structure Clean (state : Sourcing Reader) (action : Action Reader) : Prop where
  returns : ∀ caller ∈ state.returning action, ∀ streamer < state.created,
    state.retiredBy streamer = some caller → state.Still streamer
  fills : ∀ side ∈ state.filling action, emptied side state.stopAt = false

instance (state : Sourcing Reader) (streamer : Nat) :
    Decidable (state.Still streamer) :=
  decidable_of_iff
    ((∀ playing ∈ state.streamers streamer,
        state.carries streamer playing.leg = false) ∧
      (state.onStreamEnd = true → ∀ playing ∈ state.streamers streamer,
        playing.reportAt ≠ .call true) ∧
      ∀ dispatcher ∈ state.dispatcher, ∀ task ∈ queued dispatcher,
        (state.jobs task).map Prod.fst ≠ some streamer)
    ⟨fun ⟨hframe, hreport, hjob⟩ => ⟨hframe, hreport, hjob⟩,
      fun ⟨hframe, hreport, hjob⟩ => ⟨hframe, hreport, hjob⟩⟩

instance (state : Sourcing Reader) : DecidablePred (Clean state) :=
  fun action => decidable_of_iff
    ((∀ caller ∈ state.returning action, ∀ streamer < state.created,
        state.retiredBy streamer = some caller → state.Still streamer) ∧
      ∀ side ∈ state.filling action, emptied side state.stopAt = false)
    ⟨fun ⟨hreturns, hfills⟩ => ⟨hreturns, hfills⟩,
      fun ⟨hreturns, hfills⟩ => ⟨hreturns, hfills⟩⟩

/-! What a stopped streamer comes to by a step. -/

structure Kept (playing later : Playing Reader) : Prop where
  running : playing.leg.running = false → later.leg.running = false
  onEnd : playing.onEnd = false → later.onEnd = false
  frame : playing.leg.running = false → bears playing.leg = false →
    bears later.leg = false ∧ later.sent = playing.sent ∧
      (later.leg.waits = true → playing.leg.waits = true)
  report : playing.onEnd = false → playing.reportAt ≠ .call true →
    later.reportAt ≠ .call true

theorem Kept.refl (playing : Playing Reader) : Kept playing playing :=
  ⟨id, id, fun _ hbears => ⟨hbears, rfl, id⟩, fun _ => id⟩

theorem bears_pacingLeg {playing : Playing Reader} (input : PacingInput)
    (hstopped : playing.leg.running = false)
    (hbears : bears playing.leg = false) :
    bears (playing.pacingLeg input) = false ∧
      Playing.passing playing.leg = none ∧
      ((playing.pacingLeg input).waits = true → playing.leg.waits = true) := by
  unfold Playing.pacingLeg Leg.pacingStep Playing.passing
  cases hat : playing.leg.pacingAt with
  | firstRecv =>
      dsimp only
      split
      · simp [bears, Leg.waits]
      · simp [hbears, Leg.waits, hat]
  | whileRunning | ifRunning => simp [hstopped, bears, Leg.waits]
  | whilePaused => cases playing.leg.paused <;> simp [bears, Leg.waits]
  | pausedRunning => simp [hstopped, bears, Leg.waits]
  | take =>
      have hholds : playing.leg.holdsSample = false := by
        simpa [bears, hat] using hbears
      cases hres : playing.leg.nextSampleRes with
      | none => simp [bears, Leg.waits]
      | some res =>
          cases res with
          | error error => simp [bears, Leg.waits]
          | ok sample => simp [Leg.holdsSample, hres] at hholds
  | ifFirst _ | released _ | sendRtp _ => simp [bears, hat] at hbears
  | join slept received =>
      obtain ⟨hjoin | ⟨asleep, held, hjoin⟩, _, _⟩ :=
        Leg.atJoin_joinStep playing.leg slept received input hat <;>
        simp [bears, Leg.waits, hjoin]
  | barrierWait sample => simp [bears, Leg.waits, hat]
  | notified | account _ | finish | ended => simp [bears, Leg.waits, hat]

theorem nearing_pacingLeg {playing : Playing Reader} (input : PacingInput)
    (hstopped : playing.leg.running = false)
    (hfar : nearing playing.leg = false) :
    nearing (playing.pacingLeg input) = false := by
  unfold Playing.pacingLeg Leg.pacingStep
  cases hat : playing.leg.pacingAt with
  | firstRecv =>
      dsimp only
      split
      · rfl
      · exact hfar
  | whileRunning | ifRunning | pausedRunning => simp [hstopped, nearing]
  | whilePaused => cases playing.leg.paused <;> simp [nearing]
  | take =>
      cases hres : playing.leg.nextSampleRes with
      | none => simp [nearing]
      | some res =>
          cases res with
          | error error => simp [nearing]
          | ok sample =>
              simpa [nearing, hat, Leg.holdsSample, hres] using hfar
  | ifFirst sample =>
      have hfirst : playing.leg.firstSample = false := by
        simpa [nearing, hat] using hfar
      simp [hfirst, nearing]
  | barrierWait sample => simp [nearing, hat] at hfar
  | sendRtp sample =>
      dsimp only
      split <;> rfl
  | join slept received =>
      obtain ⟨hjoin | ⟨asleep, held, hjoin⟩, _, _⟩ :=
        Leg.atJoin_joinStep playing.leg slept received input hat <;>
        simp [nearing, hjoin]
  | notified | released _ | account _ | finish => simp [nearing]
  | ended => exact hfar

theorem mayArrive_pacing {playing : Playing Reader} (input : PacingInput)
    (hnever : mayArrive playing.leg = false) :
    mayArrive (playing.pacing input).leg = false := by
  simp only [mayArrive, Bool.or_eq_false_iff] at hnever ⊢
  obtain ⟨hstopped, hfar⟩ := hnever
  exact ⟨(running_pacing playing input).trans hstopped,
    nearing_pacingLeg input hstopped hfar⟩

theorem kept_pacing (playing : Playing Reader) (input : PacingInput) :
    Kept playing (playing.pacing input) := by
  refine ⟨?_, id, ?_, fun _ => id⟩
  · rw [running_pacing]
    exact id
  · intro hstopped hbears
    obtain ⟨hlater, hpassing, hwaits⟩ := bears_pacingLeg input hstopped hbears
    exact ⟨hlater, by simp [Playing.pacing, hpassing], hwaits⟩

theorem kept_report (playing : Playing Reader) : Kept playing playing.report := by
  obtain ⟨hleg, hsent, _⟩ := playing.report_frame
  refine ⟨?_, onEnd_report playing, ?_, ?_⟩
  · rw [hleg]
    exact id
  · rw [hleg, hsent]
    exact fun _ hbears => ⟨hbears, rfl, id⟩
  · intro honEnd hcall
    unfold Playing.report
    split
    · simp [honEnd]
    · simp
    · exact hcall

theorem kept_reader (playing : Playing Reader) (stalled : Bool) :
    Kept playing
      { playing with leg := playing.leg.readerStep nextSample stalled } := by
  have hsame := Leg.samePacing_readerStep nextSample playing.leg stalled
  refine ⟨?_, id, ?_, fun _ => id⟩
  · rw [hsame.running]
    exact id
  · intro _ hbears
    refine ⟨?_, rfl, ?_⟩
    · simpa [bears, Leg.holdsSample, hsame.pacingAt, hsame.nextSampleRes] using
        hbears
    · rw [hsame.waits]
      exact id

theorem mayArrive_reader (leg : Leg Reader) (stalled : Bool) :
    mayArrive (leg.readerStep nextSample stalled) = mayArrive leg := by
  have hsame := Leg.samePacing_readerStep nextSample leg stalled
  simp [mayArrive, nearing, Leg.holdsSample, hsame.pacingAt, hsame.nextSampleRes,
    hsame.firstSample, hsame.running]

theorem kept_told {streamer : Nat} {playing told : Playing Reader}
    {access : Access Reader} (htold : Told streamer playing access told)
    (hregister : access ≠ .register streamer) : Kept playing told := by
  cases htold with
  | same => exact .refl playing
  | clearOnEnd =>
      exact ⟨id, fun _ => rfl, fun _ hbears => ⟨hbears, rfl, id⟩, fun _ => id⟩
  | stopRunning =>
      exact ⟨fun _ => rfl, id, fun _ hbears => ⟨hbears, rfl, id⟩, fun _ => id⟩
  | pause => exact ⟨id, id, fun _ hbears => ⟨hbears, rfl, id⟩, fun _ => id⟩
  | register => exact absurd rfl hregister

theorem mayArrive_told {streamer : Nat} {playing told : Playing Reader}
    {access : Access Reader} (htold : Told streamer playing access told)
    (hnever : mayArrive playing.leg = false) : mayArrive told.leg = false := by
  cases htold with
  | same | clearOnEnd | pause | register => exact hnever
  | stopRunning =>
      simp only [mayArrive, Bool.or_eq_false_iff] at hnever ⊢
      exact ⟨trivial, hnever.2⟩

/-! A streamer that was retired and still stays so. -/

structure Hushed (state : Sourcing Reader) (streamer : Nat) : Prop where
  halted : ∀ playing, state.streamers streamer = some playing →
    playing.leg.running = false ∧ playing.onEnd = false
  still : state.Still streamer

/-- What a step leaves of a streamer, of its barrier and of the reports of its
end. -/
structure Spares (state later : Sourcing Reader) (streamer : Nat) : Prop where
  absent : state.streamers streamer = none → later.streamers streamer = none
  present : ∀ playing, state.streamers streamer = some playing →
    ∃ held, later.streamers streamer = some held ∧ Kept playing held
  barrier : (∃ playing, state.streamers streamer = some playing ∧
      playing.leg.waits = true) →
    state.mayBeFreed streamer = false → later.mayBeFreed streamer = false
  onStreamEnd : later.onStreamEnd = state.onStreamEnd
  job : (∀ dispatcher ∈ state.dispatcher, ∀ task ∈ queued dispatcher,
      (state.jobs task).map Prod.fst ≠ some streamer) →
    ∀ dispatcher ∈ later.dispatcher, ∀ task ∈ queued dispatcher,
      (later.jobs task).map Prod.fst ≠ some streamer
  invoked : later.invoked streamer = state.invoked streamer

theorem Hushed.next {state later : Sourcing Reader} {streamer : Nat}
    (hhushed : state.Hushed streamer) (hspares : Spares state later streamer) :
    later.Hushed streamer ∧ later.sent streamer = state.sent streamer ∧
      later.invoked streamer = state.invoked streamer := by
  obtain ⟨hhalted, hframe, hreport, hjob⟩ := hhushed
  cases hplaying : state.streamers streamer with
  | none =>
      have hnone := hspares.absent hplaying
      refine ⟨⟨?_, ?_, ?_, hspares.job hjob⟩, ?_, hspares.invoked⟩
      · simp [hnone]
      · simp [hnone]
      · simp [hnone]
      · simp [sent, hnone, hplaying]
  | some playing =>
      obtain ⟨held, hheld, hkept⟩ := hspares.present playing hplaying
      obtain ⟨hstopped, honEnd⟩ := hhalted playing hplaying
      have hcarries := hframe playing hplaying
      simp only [carries, Bool.or_eq_false_iff, Bool.and_eq_false_iff] at hcarries
      obtain ⟨hbears, hsent, hwaits⟩ := hkept.frame hstopped hcarries.1
      refine ⟨⟨?_, ?_, ?_, hspares.job hjob⟩, ?_, hspares.invoked⟩
      · intro other hother
        rw [hheld] at hother
        cases hother
        exact ⟨hkept.running hstopped, hkept.onEnd honEnd⟩
      · intro other hother
        rw [hheld] at hother
        cases hother
        simp only [carries, Bool.or_eq_false_iff, Bool.and_eq_false_iff]
        refine ⟨hbears, ?_⟩
        cases hlater : held.leg.waits with
        | false => exact .inl rfl
        | true =>
            right
            have hwaiting := hwaits hlater
            apply hspares.barrier ⟨playing, hplaying, hwaiting⟩
            rcases hcarries.2 with hmoving | hblocked
            · simp [hwaiting] at hmoving
            · exact hblocked
      · intro hend other hother
        rw [hheld] at hother
        cases hother
        rw [hspares.onStreamEnd] at hend
        exact hkept.report honEnd (hreport hend playing hplaying)
      · simp [sent, hheld, hplaying, hsent]

section Spares

variable {nextSample} {state : Sourcing Reader} {streamer : Nat}

/-- The partner of one that waits for good. -/
theorem blocked_partner (hblocked : state.mayBeFreed streamer = false) :
    ∃ partner other, state.partner streamer = some partner ∧
      state.streamers partner = some other ∧ mayArrive other.leg = false := by
  unfold mayBeFreed at hblocked
  split at hblocked
  next partner hpartner =>
    split at hblocked
    next other hother => exact ⟨partner, other, hpartner, hother, hblocked⟩
    next => cases hblocked
  next => cases hblocked

theorem blocked_of_partner {later : Sourcing Reader} {partner : Nat}
    {other : Playing Reader}
    (hpartner : later.partner streamer = some partner)
    (hother : later.streamers partner = some other)
    (hnever : mayArrive other.leg = false) :
    later.mayBeFreed streamer = false := by
  simp [mayBeFreed, hpartner, hother, hnever]

theorem events_access (state : Sourcing Reader) (access : Access Reader) :
    (state.access access).onStreamEnd = state.onStreamEnd ∧
      (state.access access).dispatcher = state.dispatcher ∧
        (state.access access).jobs = state.jobs ∧
          (state.access access).invoked = state.invoked := by
  cases access with
  | take side caller =>
      simp only [access]
      split <;> exact ⟨rfl, rfl, rfl, rfl⟩
  | spawn reader syncBarrier partner =>
      simp only [access]
      split <;> exact ⟨rfl, rfl, rfl, rfl⟩
  | _ => exact ⟨rfl, rfl, rfl, rfl⟩

theorem spares_proceeds {later : Sourcing Reader} {caller : Caller}
    {access : Access Reader} (hwired : state.Wired)
    (hsettled : state.Settled streamer)
    (hproceeds : Proceeds state later caller access) :
    Spares state later streamer := by
  have hregister := hproceeds.turns.not_register hsettled
  have hturns := hproceeds.turns
  obtain ⟨setSources, stopAt, hlater⟩ := hproceeds.stages
  generalize later.place caller = stage at hturns
  subst hlater
  have hne := Nat.ne_of_lt hsettled.created
  obtain ⟨hend, hdispatcher, hjobs, hinvoked⟩ := events_access state access
  refine ⟨streamers_none access hne, ?_, ?_, hend, ?_, congrFun hinvoked streamer⟩
  · intro playing hplaying
    obtain ⟨told, htold, hstreamer⟩ := streamers_access access hne hplaying
    exact ⟨told, hstreamer, kept_told htold hregister⟩
  · intro _ hblocked
    obtain ⟨partner, other, hpartner, hother, hnever⟩ := blocked_partner hblocked
    have hback := hwired.paired partner streamer hpartner
    have hknown : partner ≠ state.created := by
      rintro rfl
      simp [hwired.numbered _ (Nat.le_refl _)] at hback
    obtain ⟨told, htold, hstreamer⟩ := streamers_access access hknown hother
    refine blocked_of_partner ?_ hstreamer (mayArrive_told htold hnever)
    rcases partner_access state access with
      hsame | ⟨reader, syncBarrier, audio, rfl, hnew⟩
    · exact (congrFun hsame streamer).trans hpartner
    · obtain ⟨_, haudio, _⟩ := hwired.unpartnered hturns.keeping
      have hfree : streamer ≠ audio := by
        rintro rfl
        simp [haudio] at hpartner
      change (state.access
        (.spawn reader syncBarrier (some audio))).partner streamer = _
      rw [hnew, Function.update_of_ne hfree, Function.update_of_ne hne]
      exact hpartner
  · change _ → ∀ dispatcher ∈ (state.access access).dispatcher,
      ∀ task ∈ queued dispatcher,
        ((state.access access).jobs task).map Prod.fst ≠ _
    rw [hdispatcher, hjobs]
    exact id

/-- A step of a task, which moves streamers one by one. -/
theorem spares_work {later : Sourcing Reader}
    (hpartner : later.partner = state.partner)
    (habsent : state.streamers streamer = none → later.streamers streamer = none)
    (hkept : ∀ playing, state.streamers streamer = some playing →
      ∃ held, later.streamers streamer = some held ∧ Kept playing held)
    (hnever : ∀ partner other, state.streamers partner = some other →
      mayArrive other.leg = false → ∃ held,
        later.streamers partner = some held ∧ mayArrive held.leg = false)
    (hevents : later.onStreamEnd = state.onStreamEnd ∧
      later.dispatcher = state.dispatcher ∧ later.jobs = state.jobs ∧
        later.invoked = state.invoked) :
    Spares state later streamer := by
  obtain ⟨hend, hdispatcher, hjobs, hinvoked⟩ := hevents
  refine ⟨habsent, hkept, ?_, hend, ?_, congrFun hinvoked streamer⟩
  · intro _ hblocked
    obtain ⟨partner, other, hother, hat, hbefore⟩ := blocked_partner hblocked
    obtain ⟨held, hheld, hafter⟩ := hnever partner other hat hbefore
    exact blocked_of_partner ((congrFun hpartner streamer).trans hother) hheld
      hafter
  · rw [hdispatcher, hjobs]
    exact id

theorem spares_alter (turn : Nat) {change : Playing Reader → Playing Reader}
    (hkept : ∀ playing, Kept playing (change playing))
    (hnever : ∀ playing, mayArrive playing.leg = false →
      mayArrive (change playing).leg = false) :
    Spares state (state.alter turn change) streamer := by
  refine spares_work rfl ?_ ?_ ?_ ⟨rfl, rfl, rfl, rfl⟩
  · intro habsent
    by_cases hturn : streamer = turn
    · subst hturn
      simp [alter, habsent]
    · exact (alter_of_ne hturn change).trans habsent
  · intro playing hplaying
    by_cases hturn : streamer = turn
    · subst hturn
      exact ⟨_, alter_self change hplaying, hkept playing⟩
    · exact ⟨_, (alter_of_ne hturn change).trans hplaying, .refl playing⟩
  · intro partner other hother hbefore
    by_cases hturn : partner = turn
    · subst hturn
      exact ⟨_, alter_self change hother, hnever other hbefore⟩
    · exact ⟨_, (alter_of_ne hturn change).trans hother, hbefore⟩

theorem mayArrive_of_arriving {playing : Playing Reader}
    (harriving : arriving playing = true) : mayArrive playing.leg = true := by
  unfold arriving at harriving
  split at harriving
  next hat =>
    simp only [Bool.and_eq_true] at harriving
    simp [mayArrive, nearing, hat, harriving.1]
  next => cases harriving

theorem bears_of_arriving {playing : Playing Reader}
    (harriving : arriving playing = true) : bears playing.leg = true := by
  unfold arriving at harriving
  split at harriving
  next hat => simp [bears, hat]
  next => cases harriving

theorem mayArrive_of_waits {leg : Leg Reader} (hwaits : leg.waits = true) :
    mayArrive leg = true := by
  unfold Leg.waits at hwaits
  split at hwaits
  next hat => simp [mayArrive, nearing, hat]
  next => cases hwaits

theorem spares_pacing (turn : Nat) (input : PacingInput) (hwired : state.Wired)
    (hhushed : state.Hushed streamer) :
    Spares state (state.pacing turn input) streamer := by
  have hpartner := (works_pacing state turn input).partner
  have hevents : (state.pacing turn input).onStreamEnd = state.onStreamEnd ∧
      (state.pacing turn input).dispatcher = state.dispatcher ∧
        (state.pacing turn input).jobs = state.jobs ∧
          (state.pacing turn input).invoked = state.invoked := by
    unfold Sourcing.pacing
    split
    · dsimp only
      split <;> exact ⟨rfl, rfl, rfl, rfl⟩
    · exact ⟨rfl, rfl, rfl, rfl⟩
  refine spares_work hpartner (pacing_none state turn input) ?_ ?_ hevents
  · intro playing hplaying
    have hcarries := hhushed.still.frame playing hplaying
    simp only [carries, Bool.or_eq_false_iff, Bool.and_eq_false_iff] at hcarries
    obtain ⟨held, hheld, hpaced⟩ := paced_pacing state turn input hplaying
    refine ⟨held, hheld, ?_⟩
    cases hpaced with
    | other => exact .refl playing
    | turn => exact kept_pacing playing input
    | meets _ harriving =>
        have hbears := bears_of_arriving harriving
        simp [hcarries.1] at hbears
    | freed arrived hwaits hmeets harrived harriving =>
        -- the partner of one that is held there does not arrive
        have hblocked : state.mayBeFreed streamer = false := by
          rcases hcarries.2 with hmoving | hblocked
          · simp [hwaits] at hmoving
          · exact hblocked
        obtain ⟨partner, other, hown, hother, hnever⟩ := blocked_partner hblocked
        have hback := hwired.paired streamer turn hmeets
        rw [hown] at hback
        cases hback
        rw [harrived] at hother
        cases hother
        simp [mayArrive_of_arriving harriving] at hnever
  · intro partner other hother hbefore
    obtain ⟨held, hheld, hpaced⟩ := paced_pacing state turn input hother
    refine ⟨held, hheld, ?_⟩
    cases hpaced with
    | other => exact hbefore
    | turn => exact mayArrive_pacing input hbefore
    | meets _ harriving =>
        simp [mayArrive_of_arriving harriving] at hbefore
    | freed _ hwaits =>
        simp [mayArrive_of_waits hwaits] at hbefore

theorem Spares.refl (state : Sourcing Reader) (streamer : Nat) :
    Spares state state streamer :=
  ⟨id, fun playing hplaying => ⟨playing, hplaying, .refl playing⟩, fun _ => id,
    rfl, id, rfl⟩

/-- A step after which only the dispatcher and the log of calls differ. -/
theorem Spares.log {middle : Sourcing Reader} {dispatcher : Option Dispatcher}
    {jobs : Nat → Option (Nat × Option RustTgCallsError)}
    {invoked : Nat → List (Option RustTgCallsError)}
    (hspares : Spares state middle streamer)
    (hjob : (∀ dispatcher ∈ middle.dispatcher, ∀ task ∈ queued dispatcher,
        (middle.jobs task).map Prod.fst ≠ some streamer) →
      ∀ left ∈ dispatcher, ∀ task ∈ queued left,
        (jobs task).map Prod.fst ≠ some streamer)
    (hinvoked : invoked streamer = middle.invoked streamer) :
    Spares state { middle with dispatcher, jobs, invoked } streamer :=
  ⟨hspares.absent, hspares.present, hspares.barrier, hspares.onStreamEnd,
    hjob ∘ hspares.job, hinvoked.trans hspares.invoked⟩

theorem queued_submit (dispatcher : Dispatcher) {task : Nat}
    (htask : task ∈ queued dispatcher.submit) :
    task ∈ queued dispatcher ∨ task = dispatcher.submitted := by
  unfold Dispatcher.submit at htask
  dsimp only at htask
  split at htask
  · exact .inl htask
  · split at htask
    · simp only [queued, List.mem_append, List.mem_singleton] at htask ⊢
      tauto
    · exact .inl htask

/-- A submission that is not of the streamer's end. -/
theorem job_submit {dispatcher : Dispatcher}
    {job : Option (Nat × Option RustTgCallsError)}
    (hdispatcher : state.dispatcher = some dispatcher)
    (hother : job.map Prod.fst ≠ some streamer)
    (hjob : ∀ dispatcher ∈ state.dispatcher, ∀ task ∈ queued dispatcher,
      (state.jobs task).map Prod.fst ≠ some streamer) :
    ∀ left ∈ some dispatcher.submit, ∀ task ∈ queued left,
      (Function.update state.jobs dispatcher.submitted job task).map Prod.fst ≠
        some streamer := by
  intro left hleft task htask
  cases hleft
  by_cases hnew : task = dispatcher.submitted
  · subst hnew
    rwa [Function.update_self]
  · rw [Function.update_of_ne hnew]
    rcases queued_submit dispatcher htask with hbefore | hlast
    · exact hjob dispatcher hdispatcher task hbefore
    · exact absurd hlast hnew

theorem Spares.fire {middle : Sourcing Reader} {turn : Nat}
    (hspares : Spares state middle streamer) (error : Option RustTgCallsError)
    (hturn : turn ≠ streamer) :
    Spares state (middle.fire turn error) streamer := by
  unfold Sourcing.fire
  split
  · split
    next dispatcher hdispatcher =>
      refine hspares.log ?_ rfl
      exact job_submit hdispatcher (by simp [hturn])
    next =>
      refine hspares.log id ?_
      exact Function.update_of_ne (Ne.symm hturn) ..
  · exact hspares

theorem reportAt_of_firing {playing : Playing Reader}
    (hfiring : firing playing = true) : playing.reportAt = .call true := by
  unfold firing at hfiring
  split at hfiring
  next hreport => exact hreport
  next => cases hfiring

theorem spares_report (turn : Nat) (hhushed : state.Hushed streamer) :
    Spares state (state.report turn) streamer := by
  have hreported : Spares state (state.alter turn Playing.report) streamer := by
    apply spares_alter turn kept_report
    intro playing hbefore
    rwa [playing.report_frame.1]
  unfold Sourcing.report
  split
  next playing hplaying =>
    dsimp only
    split
    next hfiring =>
      by_cases hturn : turn = streamer
      · subst hturn
        have hcall := reportAt_of_firing hfiring
        have hsilent : state.onStreamEnd = false := by
          by_contra hend
          exact hhushed.still.report (by simpa using hend) playing hplaying hcall
        have hsame : (state.alter turn Playing.report).fire turn
            playing.leg.endError = state.alter turn Playing.report := by
          simp [Sourcing.fire, alter, hsilent]
        rw [hsame]
        exact hreported
      · exact hreported.fire _ hturn
    next => exact hreported
  next => exact .refl state streamer

theorem queued_next (dispatcher : Dispatcher) {action : Dispatcher.Action}
    {task : Nat} (haction : action ≠ .submit)
    (htask : task ∈ queued (dispatcher.next action)) : task ∈ queued dispatcher := by
  cases action with
  | submit => exact absurd rfl haction
  | recv =>
      simp only [Dispatcher.next, Dispatcher.recv] at htask
      split at htask
      next hrunning hqueue => simpa [queued, hrunning, hqueue] using htask
      next => exact htask
  | execute =>
      simp only [Dispatcher.next, Dispatcher.execute] at htask
      split at htask
      next hrunning =>
        simp only [queued, Option.toList_none, List.nil_append] at htask
        simp [queued, hrunning, htask]
      next => exact htask
  | close => exact htask

theorem spares_dispatch (action : Dispatcher.Action)
    (hhushed : state.Hushed streamer) :
    Spares state (state.dispatch action) streamer := by
  unfold Sourcing.dispatch
  split
  next dispatcher hdispatcher =>
    have hjob (haction : action ≠ .submit)
        (hbefore : ∀ dispatcher ∈ state.dispatcher, ∀ task ∈ queued dispatcher,
          (state.jobs task).map Prod.fst ≠ some streamer) :
        ∀ left ∈ some (dispatcher.next action), ∀ task ∈ queued left,
          (state.jobs task).map Prod.fst ≠ some streamer := by
      intro left hleft task htask
      cases hleft
      exact hbefore dispatcher hdispatcher task
        (queued_next dispatcher haction htask)
    dsimp only
    split
    next =>
      refine (Spares.refl state streamer).log ?_ rfl
      exact job_submit hdispatcher (by simp)
    next task hrunning =>
      split
      next owner error howner =>
        refine (Spares.refl state streamer).log (hjob (by simp)) ?_
        have hne := hhushed.still.job dispatcher hdispatcher task
          (by simp [queued, hrunning])
        have hother : streamer ≠ owner := by
          rintro rfl
          simp [howner] at hne
        exact Function.update_of_ne hother ..
      next => exact (Spares.refl state streamer).log (hjob (by simp)) rfl
    next haction _ =>
      refine (Spares.refl state streamer).log (hjob ?_) rfl
      rintro rfl
      exact haction rfl
  next => exact .refl state streamer

theorem Spares.of_same {later : Sourcing Reader}
    (hstreamers : later.streamers = state.streamers)
    (hpartner : later.partner = state.partner)
    (hevents : later.onStreamEnd = state.onStreamEnd ∧
      later.dispatcher = state.dispatcher ∧ later.jobs = state.jobs ∧
        later.invoked = state.invoked) : Spares state later streamer := by
  apply spares_work hpartner
  · rw [hstreamers]
    exact id
  · intro playing hplaying
    exact ⟨playing, by rw [hstreamers, hplaying], .refl playing⟩
  · intro partner other hother hnever
    exact ⟨other, by rw [hstreamers, hother], hnever⟩
  · exact hevents

end Spares

variable {nextSample} {state : Sourcing Reader} {streamer : Nat}

/-- Every step spares a streamer that is retired and still. -/
theorem spares_next (hwired : state.Wired)
    (hsettled : state.Settled streamer) (hhushed : state.Hushed streamer)
    (action : Action Reader) :
    Spares state (state.next nextSample action) streamer := by
  cases action with
  | setSource sources =>
      exact .of_same rfl rfl ⟨rfl, rfl, rfl, rfl⟩
  | stop =>
      simp only [next]
      split <;> exact .of_same rfl rfl ⟨rfl, rfl, rfl, rfl⟩
  | setSourceStep id connected =>
      cases hcall : state.setSources id with
      | none =>
          simp only [next, setSourceStep, hcall]
          exact .refl state streamer
      | some call =>
          exact spares_proceeds hwired hsettled
            (proceeds_setSourceStep state id connected hcall)
  | stopStep => exact spares_proceeds hwired hsettled (proceeds_stopStep state)
  | reader turn stalled =>
      apply spares_alter turn fun playing => kept_reader nextSample playing stalled
      intro playing hnever
      rwa [mayArrive_reader]
  | pacing turn input => exact spares_pacing turn input hwired hhushed
  | report turn => exact spares_report turn hhushed
  | dispatch action => exact spares_dispatch action hhushed

theorem settled_next (hbegun : state.Begun) (hsettled : state.Settled streamer)
    (action : Action Reader) :
    (state.next nextSample action).Settled streamer := by
  rcases next_cases nextSample hbegun action with
    ⟨caller, access, hturns, ⟨setSources, stopAt, hlater⟩, hplace⟩ | hworks
  · generalize (state.next nextSample action).place caller = stage
      at hturns hplace
    rw [hlater] at hplace ⊢
    exact settled_later hturns hplace hsettled
  · exact ⟨hworks.created.symm ▸ hsettled.created,
      hworks.place.symm ▸ hsettled.built⟩

/-- From then on nothing of it is sent or reported. -/
theorem silent_after (hbegun : state.Begun) (hwired : state.Wired)
    (hsettled : state.Settled streamer) (hhushed : state.Hushed streamer)
    (actions : List (Action Reader)) :
    (after (next nextSample) state actions).sent streamer =
        state.sent streamer ∧
      (after (next nextSample) state actions).invoked streamer =
        state.invoked streamer := by
  induction actions generalizing state with
  | nil => exact ⟨rfl, rfl⟩
  | cons action rest ih =>
      obtain ⟨hhushed', hsent, hinvoked⟩ := hhushed.next
        (spares_next hwired hsettled hhushed action)
      obtain ⟨hsent', hinvoked'⟩ := ih (begun_next nextSample hbegun action)
        (wired_next nextSample hbegun hwired action)
        (settled_next hbegun hsettled action) hhushed'
      exact ⟨hsent'.trans hsent, hinvoked'.trans hinvoked⟩

/-! A clean run. -/

structure Sound (state : Sourcing Reader) : Prop where
  begun : state.Begun
  wired : state.Wired
  emptied : ∀ side, emptied side state.stopAt = true → state.slots side = none
  hushed : ∀ streamer, state.Retired streamer → state.Hushed streamer

theorem setSource_returns (id : Nat) (connected : Bool)
    (sources : Sources Reader) {stage : SetSourceAt}
    (hafter : setSourcePlace
      (state.setSourceTurn id connected sources stage).1 = .returned) :
    stage = .testClosed ∧ state.closed = true ∨
      stage = .gate ∧ connected = false ∨ stage = .finish ∨
        setSourcePlace stage = .returned := by
  cases stage with
  | testClosed =>
      simp only [setSourceTurn] at hafter
      split at hafter
      next hclosed => exact .inl ⟨rfl, hclosed⟩
      next => cases hafter
  | gate =>
      simp only [setSourceTurn] at hafter
      split at hafter
      next => cases hafter
      next hrefused => exact .inr (.inl ⟨rfl, by simpa using hrefused⟩)
  | finish => exact .inr (.inr (.inl rfl))
  | returned result => exact .inr (.inr (.inr rfl))
  | lock side | take side =>
      simp only [setSourceTurn] at hafter
      split at hafter <;> try cases side
      all_goals simp [setSourcePlace, takenNext] at hafter
  | halt side old =>
      cases side <;> simp [setSourceTurn, setSourcePlace, takenNext] at hafter
  | spawn side partner =>
      cases hget : sources.get side <;> cases side <;>
        simp [setSourceTurn, hget, setSourcePlace, storedNext] at hafter
  | ifMuted streamer | ifPaused side streamer =>
      simp only [setSourceTurn] at hafter
      split at hafter <;> cases hafter
  | store side streamer =>
      cases side <;> simp [setSourceTurn, setSourcePlace, storedNext] at hafter
  | unlock side => cases side <;> cases hafter
  | clear side old | pause side streamer | register side streamer => cases hafter

theorem stop_returns {stage : StopAt}
    (hafter : stopPlace (state.stopTurn stage).1 = .returned) :
    stage = .clearMuted ∨ stopPlace stage = .returned := by
  cases stage with
  | clearMuted => exact .inl rfl
  | returned => exact .inr rfl
  | lock side | take side =>
      simp only [stopTurn] at hafter
      split at hafter <;> cases hafter
  | unlock side => cases side <;> cases hafter
  | idle | clear _ _ | halt _ _ | clearPaused => cases hafter

/-- The step with which a caller comes to its return. -/
theorem returning_of_returned (hbegun : state.Begun) {action : Action Reader}
    {caller : Caller} (hbefore : state.place caller ≠ .returned)
    (hafter : (state.next nextSample action).place caller = .returned) :
    state.returning action = some caller := by
  have hworks (hworks : Works state (state.next nextSample action)) :
      state.returning action = some caller :=
    absurd (hworks.place ▸ hafter) hbefore
  cases action with
  | setSourceStep id connected =>
      cases hcall : state.setSources id with
      | none =>
          simp only [next, setSourceStep, hcall] at hafter
          exact absurd hafter hbefore
      | some call =>
          have hproceeds := proceeds_setSourceStep state id connected hcall
          by_cases hcaller : caller = .setSource id
          · subst hcaller
            obtain ⟨sources, stage⟩ := call
            simp only [next, setSourceStep, hcall, place,
              Function.update_self] at hafter
            simp only [place, hcall] at hbefore
            rcases setSource_returns id connected sources hafter with
              ⟨rfl, hclosed⟩ | ⟨rfl, hrefused⟩ | rfl | hreturned
            · simp [returning, hcall, hclosed]
            · simp [returning, hcall, hrefused]
            · simp [returning, hcall]
            · exact absurd hreturned hbefore
          · simp only [next] at hafter
            rw [hproceeds.place, Function.update_of_ne hcaller] at hafter
            exact absurd hafter hbefore
  | stopStep =>
      have hproceeds := proceeds_stopStep state
      by_cases hcaller : caller = .stop
      · subst hcaller
        simp only [next, stopStep, place] at hafter
        simp only [place] at hbefore
        rcases stop_returns hafter with hat | hreturned
        · simp [returning, hat]
        · exact absurd hreturned hbefore
      · simp only [next] at hafter
        rw [hproceeds.place, Function.update_of_ne hcaller] at hafter
        exact absurd hafter hbefore
  | setSource sources =>
      exact hworks (works_call nextSample hbegun _ (.inr ⟨sources, rfl⟩))
  | stop => exact hworks (works_call nextSample hbegun _ (.inl rfl))
  | reader turn stalled => exact hworks (works_reader nextSample state turn stalled)
  | pacing turn input => exact hworks (works_pacing state turn input)
  | report turn => exact hworks (works_report state turn)
  | dispatch action => exact hworks (works_dispatch state action)

/-- A caller that returns leaves the streamers it has retired hushed. -/
theorem hushed_returning (hwired : state.Wired) {action : Action Reader}
    {caller : Caller} (hclean : state.Clean action)
    (hreturning : state.returning action = some caller)
    (hidle : state.place caller ≠ .clearing streamer ∧
      state.place caller ≠ .halting streamer)
    (hretired : state.retiredBy streamer = some caller) :
    state.Hushed streamer := by
  have hsettled := hwired.retired streamer caller hretired
  refine ⟨?_, hclean.returns caller hreturning streamer hsettled.created hretired⟩
  intro playing hplaying
  obtain ⟨honEnd, hrunning⟩ :=
    hwired.halted streamer caller hretired playing hplaying
  exact ⟨hrunning.resolve_right (not_or_intro hidle.1 hidle.2),
    honEnd.resolve_right hidle.1⟩

/-- Nothing is done with a streamer in hand by the step that returns. -/
theorem Turns.of_returned {caller : Caller} {place : Place}
    {access : Access Reader}
    (hturns : Turns state caller place access .returned) :
    access.neutral = true ∧
      ∀ old, place ≠ .clearing old ∧ place ≠ .halting old := by
  cases hturns with
  | passes _ hneutral hidle => exact ⟨hneutral, hidle⟩
  | stores _ _ _ hlater =>
      rcases hlater with hlater | ⟨_, hlater⟩ <;> cases hlater

theorem retired_before (hbegun : state.Begun) {action : Action Reader}
    (hretired : (state.next nextSample action).Retired streamer) :
    state.Retired streamer ∨ ∃ caller,
      state.returning action = some caller ∧
        state.retiredBy streamer = some caller ∧
          state.place caller ≠ .clearing streamer ∧
            state.place caller ≠ .halting streamer := by
  obtain ⟨caller, hby, hreturned⟩ := hretired
  rcases next_cases nextSample hbegun action with
    ⟨mover, access, hproceeds⟩ | hworks
  · have hturns := hproceeds.turns
    obtain ⟨setSources, stopAt, hlater⟩ := hproceeds.stages
    have hby' : (state.access access).retiredBy streamer = some caller := by
      rw [hlater] at hby
      exact hby
    by_cases hmover : caller = mover
    · subst hmover
      rw [hreturned] at hturns
      obtain ⟨hneutral, hidle⟩ := hturns.of_returned
      rcases retiredBy_access state access hby' with hbefore | ⟨side, rfl, _⟩
      · by_cases hplace : state.place caller = .returned
        · exact .inl ⟨caller, hbefore, hplace⟩
        · exact .inr ⟨caller, returning_of_returned hbegun hplace hreturned,
            hbefore, hidle streamer⟩
      · cases hneutral
    · rw [hproceeds.place, Function.update_of_ne hmover] at hreturned
      rcases retiredBy_access state access hby' with hbefore | ⟨side, rfl, _⟩
      · exact .inl ⟨caller, hbefore, hreturned⟩
      · generalize state.place mover = stage at hturns
        generalize (state.next nextSample action).place mover = last at hturns
        cases hturns with
        | passes _ hneutral => cases hneutral
        | takes => exact absurd rfl hmover
  · rw [hworks.place] at hreturned
    rw [hworks.retiredBy] at hby
    exact .inl ⟨caller, hby, hreturned⟩

theorem setSource_stores (id : Nat) (connected : Bool)
    (sources : Sources Reader) {stage : SetSourceAt} {side : StreamType}
    (hstores : (state.setSourceTurn id connected sources stage).2 =
      .store side streamer) : stage = .store side streamer := by
  cases stage with
  | store at_ other =>
      cases hstores
      rfl
  | lock at_ | take at_ | spawn at_ partner =>
      simp only [setSourceTurn] at hstores
      split at hstores <;> cases hstores
  | register at_ other =>
      simp only [setSourceTurn] at hstores
      split at hstores <;> cases hstores
  | _ => cases hstores

theorem stop_stores {stage : StopAt} {side : StreamType} :
    (state.stopTurn stage).2 ≠ .store side streamer := by
  intro hstores
  cases stage with
  | lock at_ | take at_ =>
      simp only [stopTurn] at hstores
      split at hstores <;> cases hstores
  | _ => cases hstores

/-- What `stop` has been to before its step, or goes to with it. -/
theorem emptied_stopTurn {stage : StopAt} {side : StreamType}
    (hlater : emptied side (state.stopTurn stage).1 = true) :
    emptied side stage = true ∨ stage = .take side := by
  cases stage with
  | take at_ =>
      have htaken : emptied side (state.stopTurn (.take at_)).1 =
          (at_ == .video || side == .audio) := by
        simp only [stopTurn]
        split <;> rfl
      rw [htaken] at hlater
      cases at_ <;> cases side <;> simp_all [emptied]
  | lock at_ =>
      left
      simp only [stopTurn] at hlater
      split at hlater <;> exact hlater
  | unlock at_ => cases at_ <;> cases side <;> simp_all [emptied, stopTurn]
  | idle => exact .inl hlater
  | clear _ _ | halt _ _ => exact .inl hlater
  | clearPaused | clearMuted | returned => exact .inl rfl

theorem slots_take (caller : Caller) (side : StreamType) :
    (state.access (.take side caller)).slots side = none := by
  simp only [access]
  split
  · simp
  · assumption

theorem emptied_stopStep (hemptied : ∀ side, emptied side state.stopAt = true →
      state.slots side = none) (side : StreamType)
    (hlater : emptied side state.stopStep.stopAt = true) :
    state.stopStep.slots side = none := by
  change (state.access (state.stopTurn state.stopAt).2).slots side = none
  rcases emptied_stopTurn hlater with hbefore | hat
  · cases hslot : (state.access (state.stopTurn state.stopAt).2).slots side with
    | none => rfl
    | some streamer =>
        rcases slots_access state _ hslot with hold | hstores
        · simp [hemptied side hbefore] at hold
        · exact absurd hstores stop_stores
  · rw [hat]
    simp only [stopTurn]
    split
    next old hold => exact slots_take .stop side
    next hnone => exact hnone

theorem emptied_next (hemptied : ∀ side, emptied side state.stopAt = true →
      state.slots side = none) {action : Action Reader}
    (hclean : state.Clean action) (side : StreamType)
    (hlater : emptied side (state.next nextSample action).stopAt = true) :
    (state.next nextSample action).slots side = none := by
  have hsame (hslots : (state.next nextSample action).slots = state.slots)
      (hcalls : SameCalls state (state.next nextSample action)) :
      (state.next nextSample action).slots side = none := by
    rw [hcalls.stopAt] at hlater
    rw [hslots]
    exact hemptied side hlater
  cases action with
  | setSource sources => exact hemptied side hlater
  | setSourceStep id connected =>
      cases hcall : state.setSources id with
      | none =>
          simp only [next, setSourceStep, hcall] at hlater ⊢
          exact hemptied side hlater
      | some call =>
          obtain ⟨sources, stage⟩ := call
          have hstages := stages_access state
            (state.setSourceTurn id connected sources stage).2
          simp only [next, setSourceStep, hcall, hstages.2.1] at hlater ⊢
          cases hslot : (state.access
              (state.setSourceTurn id connected sources stage).2).slots side with
          | none => rfl
          | some streamer =>
              rcases slots_access state _ hslot with hold | hstores
              · simp [hemptied side hlater] at hold
              · have hat := setSource_stores id connected sources hstores
                subst hat
                have hfills := hclean.fills side (by simp [filling, hcall])
                simp [hlater] at hfills
  | stop =>
      simp only [next] at hlater ⊢
      split at hlater
      next hclosed =>
        rw [if_pos hclosed]
        exact hemptied side hlater
      next => cases side <;> cases hlater
  | stopStep => exact emptied_stopStep hemptied side hlater
  | reader turn stalled => exact hemptied side hlater
  | pacing turn input =>
      exact hsame (works_pacing state turn input).slots
        (sameCalls_pacing state turn input)
  | report turn =>
      exact hsame (works_report state turn).slots (sameCalls_report state turn)
  | dispatch action =>
      exact hsame (works_dispatch state action).slots
        (sameCalls_dispatch state action)

theorem sound_next (state : Sourcing Reader) (action : Action Reader)
    (hsound : Sound state) (hclean : state.Clean action) :
    Sound (state.next nextSample action) := by
  obtain ⟨hbegun, hwired, hemptied, hhushed⟩ := hsound
  refine ⟨begun_next nextSample hbegun action,
    wired_next nextSample hbegun hwired action,
    emptied_next hemptied hclean, ?_⟩
  intro streamer hretired
  have hkeep (hnow : state.Hushed streamer) (hsettled : state.Settled streamer) :
      (state.next nextSample action).Hushed streamer :=
    (hnow.next (spares_next hwired hsettled hnow action)).1
  rcases retired_before hbegun hretired with
    hbefore | ⟨caller, hreturning, hby, hidle⟩
  · have hnow := hhushed streamer hbefore
    obtain ⟨caller, hby, _⟩ := hbefore
    exact hkeep hnow (hwired.retired streamer caller hby)
  · exact hkeep (hushed_returning hwired hclean hreturning hidle hby)
      (hwired.retired streamer caller hby)

theorem sound_new (paused muted onStreamEnd : Bool) (dispatcher : Option Nat) :
    Sound (new paused muted onStreamEnd dispatcher : Sourcing Reader) := by
  have hplace (caller : Caller) :
      (new paused muted onStreamEnd dispatcher : Sourcing Reader).place caller =
        .apart := by
    cases caller <;> rfl
  refine ⟨⟨fun _ _ => rfl, fun _ => rfl⟩, ?_, fun _ _ => rfl, ?_⟩
  · constructor
    · intro caller streamer htoken
      rw [hplace] at htoken
      cases htoken
    · intro caller other streamer htoken
      rw [hplace] at htoken
      cases htoken
    · exact fun _ _ _ => rfl
    · exact fun _ _ => rfl
    · intro streamer other hpartner
      cases hpartner
    · intro side streamer hslot
      cases hslot
    · intro streamer caller hby
      cases hby
    · intro streamer caller hby
      cases hby
  · rintro streamer ⟨caller, hby, _⟩
    cases hby

theorem vacated_of_sound (hsound : Sound state) : Vacated state := by
  intro hreturned _
  exact ⟨hsound.emptied .audio (by rw [hreturned]; rfl),
    hsound.emptied .video (by rw [hreturned]; rfl)⟩

variable (nextSample)

/-- In a clean run a retired streamer is silent from the return on, and a stopped
call comes to rest without streamers. -/
theorem retired_silent (paused muted onStreamEnd : Bool)
    (dispatcher : Option Nat) (actions : List (Action Reader))
    (hclean : Along (next nextSample) Clean
      (new paused muted onStreamEnd dispatcher) actions) :
    Silent nextSample (new paused muted onStreamEnd dispatcher) actions ∧
      Always (next nextSample) Vacated
        (new paused muted onStreamEnd dispatcher) actions := by
  have hnew : Sound (new paused muted onStreamEnd dispatcher : Sourcing Reader) :=
    sound_new paused muted onStreamEnd dispatcher
  constructor
  · rintro first second ⟨rest, rfl⟩ streamer hretired
    rw [List.append_assoc, along_append] at hclean
    have hsound := hclean.1.invariant sound_next hnew
    have hhushed := hsound.hushed streamer hretired
    obtain ⟨caller, hby, _⟩ := hretired
    rw [after_append]
    exact silent_after hsound.begun hsound.wired
      (hsound.wired.retired streamer caller hby) hhushed second
  · exact (hclean.always sound_next hnew).mono fun _ => vacated_of_sound

/-! A source of two frames, played and stopped. -/

def sampleNext : List Sample → Except RustTgCallsError Sample × List Sample
  | [] => (.error (.internal "eof"), [])
  | sample :: rest => (.ok sample, rest)

def frame : Sample := ⟨[1], 20⟩

def install (id : Nat) (sources : Sources (List Sample)) (steps : Nat) :
    List (Action (List Sample)) :=
  .setSource sources :: List.replicate steps (.setSourceStep id true)

def feed (streamer : Nat) : List (Action (List Sample)) :=
  List.replicate 5 (.reader streamer false)

def pace (streamer steps : Nat) : List (Action (List Sample)) :=
  List.replicate steps (.pacing streamer .proceed)

def hangUp : List (Action (List Sample)) :=
  .stop :: List.replicate 10 .stopStep

theorem retired_silent_between_frames :
    Silent sampleNext (new false false true none)
        (install 0 ⟨some [frame, frame], none⟩ 15 ++ feed 0 ++ pace 0 9 ++
          hangUp ++ pace 0 9 ++ [.report 0, .report 0]) ∧
      Always (next sampleNext) Vacated (new false false true none)
        (install 0 ⟨some [frame, frame], none⟩ 15 ++ feed 0 ++ pace 0 9 ++
          hangUp ++ pace 0 9 ++ [.report 0, .report 0]) :=
  retired_silent sampleNext false false true none _ (by decide +kernel)

/-- A frame past the last test of `running` is sent behind the return of
`stop`. -/
theorem stop_lets_frame_through :
    ¬ (Silent sampleNext (new false false true none)
          (install 0 ⟨some [frame, frame], none⟩ 15 ++ feed 0 ++ pace 0 7 ++
            hangUp ++ pace 0 1) ∧
        Always (next sampleNext) Vacated (new false false true none)
          (install 0 ⟨some [frame, frame], none⟩ 15 ++ feed 0 ++ pace 0 7 ++
            hangUp ++ pace 0 1)) := by
  rintro ⟨hsilent, _⟩
  have hlast := hsilent
    (install 0 ⟨some [frame, frame], none⟩ 15 ++ feed 0 ++ pace 0 7 ++ hangUp)
    (pace 0 1) (List.prefix_refl _) 0
    ⟨.stop, by decide +kernel, by decide +kernel⟩
  exact absurd hlast.1 (by decide +kernel)

instance (state : Sourcing Reader) : Decidable (Vacated state) :=
  inferInstanceAs (Decidable (_ → _ → _))

/-- A `set_source` that found the call open fills a slot `stop` has emptied. -/
example : ¬ Vacated (after (next sampleNext) (new false false true none)
    ([.setSource ⟨some [frame], none⟩, .setSourceStep 0 true] ++
      (.stop :: List.replicate 8 .stopStep) ++
        List.replicate 14 (.setSourceStep 0 true))) := by
  decide +kernel

end Sourcing

end RustTgCalls.Instances
