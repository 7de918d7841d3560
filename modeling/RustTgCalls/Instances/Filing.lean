import RustTgCalls.Instances.Toggling

namespace RustTgCalls.Instances

open Media Utils

/-! The calls of `on_stream_end` that were made or wait at the dispatcher. -/

namespace Sourcing

variable {Reader : Type}

/-- A call of `on_stream_end` is made at once, or finds the dispatcher open and
room in its queue. -/
def accepts (state : Sourcing Reader) : Bool :=
  match state.dispatcher with
  | some dispatcher =>
      !dispatcher.closed && decide (dispatcher.queue.length < dispatcher.size)
  | none => true

def jobOf (state : Sourcing Reader) (streamer task : Nat) :
    Option (Option RustTgCallsError) :=
  match state.jobs task with
  | some (owner, error) => if owner = streamer then some error else none
  | none => none

def pending (state : Sourcing Reader) : List Nat :=
  match state.dispatcher with
  | some dispatcher => queued dispatcher
  | none => []

/-- The calls of `on_stream_end` that were made for a streamer, then those that
wait to be made. -/
def filed (state : Sourcing Reader) (streamer : Nat) :
    List (Option RustTgCallsError) :=
  state.invoked streamer ++ state.pending.filterMap (state.jobOf streamer)

def Numbered (state : Sourcing Reader) : Prop :=
  ∀ dispatcher ∈ state.dispatcher, ∀ task ∈ queued dispatcher,
    task < dispatcher.submitted

end Sourcing

/-! What is filed for a streamer by a step. -/

namespace Sourcing

variable {Reader : Type} {state : Sourcing Reader} {streamer : Nat}

theorem filed_congr {later : Sourcing Reader}
    (hdispatcher : later.dispatcher = state.dispatcher)
    (hjobs : later.jobs = state.jobs) (hinvoked : later.invoked = state.invoked) :
    later.filed streamer = state.filed streamer := by
  have hjobOf : later.jobOf streamer = state.jobOf streamer := by
    funext task
    simp only [jobOf, hjobs]
  simp only [filed, pending, hdispatcher, hinvoked, hjobOf]

/-- A submission under a new number leaves the jobs that wait. -/
theorem filterMap_update (hnumbered : state.Numbered) {dispatcher : Dispatcher}
    (hdispatcher : state.dispatcher = some dispatcher)
    (job : Option (Nat × Option RustTgCallsError)) (later : Sourcing Reader)
    (hjobs : later.jobs = Function.update state.jobs dispatcher.submitted job) :
    (queued dispatcher).filterMap (later.jobOf streamer) =
      (queued dispatcher).filterMap (state.jobOf streamer) := by
  apply List.filterMap_congr
  intro task htask
  have hne : task ≠ dispatcher.submitted :=
    Nat.ne_of_lt (hnumbered dispatcher hdispatcher task htask)
  simp only [jobOf, hjobs, Function.update_of_ne hne]

/-- A task handed to the dispatcher waits behind the others, unless it is lost. -/
theorem filed_submit (hnumbered : state.Numbered) {dispatcher : Dispatcher}
    (hdispatcher : state.dispatcher = some dispatcher)
    (job : Option (Nat × Option RustTgCallsError)) {later : Sourcing Reader}
    (hlater : later.dispatcher = some dispatcher.submit)
    (hjobs : later.jobs = Function.update state.jobs dispatcher.submitted job)
    (hinvoked : later.invoked = state.invoked) :
    later.filed streamer =
      if state.accepts then
        state.filed streamer ++ (later.jobOf streamer dispatcher.submitted).toList
      else state.filed streamer := by
  have hwaiting := @filterMap_update _ _ streamer hnumbered _ hdispatcher job later hjobs
  have hbefore : state.filed streamer = state.invoked streamer ++
      (queued dispatcher).filterMap (later.jobOf streamer) := by
    rw [hwaiting]
    simp only [filed, pending, hdispatcher]
  have hafter : later.filed streamer = state.invoked streamer ++
      (queued dispatcher.submit).filterMap (later.jobOf streamer) := by
    simp only [filed, pending, hlater, hinvoked]
  rw [hafter, hbefore]
  simp only [accepts, hdispatcher, Dispatcher.submit]
  cases hclosed : dispatcher.closed with
  | true => simp [queued]
  | false =>
      by_cases hroom : dispatcher.queue.length < dispatcher.size
      · have hlast : [dispatcher.submitted].filterMap (later.jobOf streamer) =
            (later.jobOf streamer dispatcher.submitted).toList := by
          cases hjob : later.jobOf streamer dispatcher.submitted <;> simp [hjob]
        simp only [hroom, if_true, queued, decide_true, Bool.not_false,
          Bool.and_self, Bool.false_eq_true, if_false, List.filterMap_append,
          List.append_assoc, hlast]
      · simp [hroom, queued]

theorem numbered_submit (hnumbered : state.Numbered) {dispatcher : Dispatcher}
    (hdispatcher : state.dispatcher = some dispatcher) {later : Sourcing Reader}
    (hlater : later.dispatcher = some dispatcher.submit) : later.Numbered := by
  intro left hleft task htask
  rw [hlater] at hleft
  cases hleft
  have hmore : dispatcher.submit.submitted = dispatcher.submitted + 1 := by
    unfold Dispatcher.submit
    dsimp only
    split
    · rfl
    · split <;> rfl
  rw [hmore]
  obtain hbefore | rfl := queued_submit dispatcher htask
  · exact Nat.lt_succ_of_lt (hnumbered dispatcher hdispatcher task hbefore)
  · exact Nat.lt_succ_self _

theorem Numbered.congr (hnumbered : state.Numbered) {later : Sourcing Reader}
    (hdispatcher : later.dispatcher = state.dispatcher) : later.Numbered := by
  intro dispatcher hmem
  exact hnumbered dispatcher (hdispatcher ▸ hmem)

theorem fire_filed (hnumbered : state.Numbered) (turn : Nat)
    (error : Option RustTgCallsError) (hend : state.onStreamEnd = true) :
    (state.fire turn error).filed streamer =
        (if streamer = turn ∧ state.accepts = true then
          state.filed streamer ++ [error] else state.filed streamer) ∧
      (state.fire turn error).Numbered := by
  unfold fire
  rw [if_pos hend]
  split
  next dispatcher hdispatcher =>
    refine ⟨?_, numbered_submit hnumbered hdispatcher rfl⟩
    have hfiled := @filed_submit _ state streamer hnumbered dispatcher hdispatcher
      (some (turn, error)) { state with
        dispatcher := some dispatcher.submit
        jobs := Function.update state.jobs dispatcher.submitted
          (some (turn, error)) } rfl rfl rfl
    refine hfiled.trans ?_
    cases haccepts : state.accepts with
    | false => simp
    | true =>
        by_cases hturn : turn = streamer
        · simp [jobOf, hturn]
        · simp [jobOf, hturn, Ne.symm hturn]
  next hnone =>
    refine ⟨?_, hnumbered.congr rfl⟩
    have haccepts : state.accepts = true := by simp [accepts, hnone]
    by_cases hturn : streamer = turn
    · subst hturn
      simp [filed, pending, hnone, haccepts]
    · simp [filed, pending, hnone, hturn]

theorem Numbered.of_subset (hnumbered : state.Numbered) {dispatcher left : Dispatcher}
    (hdispatcher : state.dispatcher = some dispatcher)
    (hqueued : ∀ task ∈ queued left, task ∈ queued dispatcher)
    (hsubmitted : left.submitted = dispatcher.submitted) {later : Sourcing Reader}
    (hlater : later.dispatcher = some left) : later.Numbered := by
  intro other hother task htask
  rw [hlater] at hother
  cases hother
  rw [hsubmitted]
  exact hnumbered dispatcher hdispatcher task (hqueued task htask)

/-- What waits at the dispatcher goes on waiting. -/
theorem waiting_filed (hnumbered : state.Numbered) {dispatcher left : Dispatcher}
    (hdispatcher : state.dispatcher = some dispatcher)
    (hqueued : queued left = queued dispatcher)
    (hsubmitted : left.submitted = dispatcher.submitted) :
    Sourcing.filed { state with dispatcher := some left } streamer = state.filed streamer ∧
      Numbered { state with dispatcher := some left } := by
  constructor
  · simp only [filed, pending, hqueued, hdispatcher]
    rfl
  · apply hnumbered.of_subset hdispatcher _ hsubmitted rfl
    intro task htask
    rwa [hqueued] at htask

/-- The call that the worker makes stands before those that still wait. -/
theorem execute_filed (hnumbered : state.Numbered) {dispatcher : Dispatcher}
    (hdispatcher : state.dispatcher = some dispatcher) {task : Nat}
    (hrunning : dispatcher.running = some task) :
    (state.dispatch .execute).filed streamer = state.filed streamer ∧
      (state.dispatch .execute).Numbered := by
  have hexecuted : (dispatcher.next .execute).submitted = dispatcher.submitted := by
    simp [Dispatcher.next, Dispatcher.execute, hrunning]
  have hleft : Numbered { state with dispatcher := some (dispatcher.next .execute) } := by
    apply hnumbered.of_subset hdispatcher _ hexecuted rfl
    intro other hother
    exact queued_next dispatcher (by simp) hother
  have hbefore : state.filed streamer = state.invoked streamer ++
      ((state.jobOf streamer task).toList ++
        dispatcher.queue.filterMap (state.jobOf streamer)) := by
    cases hjob : state.jobOf streamer task <;>
      simp [filed, pending, hdispatcher, queued, hrunning, hjob]
  have hpending : queued (dispatcher.next .execute) = dispatcher.queue := by
    simp [queued, Dispatcher.next, Dispatcher.execute, hrunning]
  simp only [dispatch, hdispatcher, hrunning]
  rw [hbefore]
  split
  next owner error hjob =>
    refine ⟨?_, hleft.congr rfl⟩
    simp only [filed, pending, hpending]
    by_cases howner : owner = streamer
    · subst howner
      have hours : state.jobOf owner task = some error := by
        simp [jobOf, hjob]
      rw [hours, Function.update_self, Option.toList_some, List.append_assoc]
      rfl
    · have hother : state.jobOf streamer task = none := by
        simp [jobOf, hjob, howner]
      rw [hother, Function.update_of_ne (Ne.symm howner)]
      rfl
  next hjob =>
    refine ⟨?_, hleft.congr rfl⟩
    have hother : state.jobOf streamer task = none := by
      simp [jobOf, hjob]
    simp only [filed, pending, hpending, hother]
    rfl

theorem dispatch_filed (hnumbered : state.Numbered) (action : Dispatcher.Action) :
    (state.dispatch action).filed streamer = state.filed streamer ∧
      (state.dispatch action).Numbered := by
  cases hdispatcher : state.dispatcher with
  | none =>
      simp only [dispatch, hdispatcher]
      exact ⟨trivial, hnumbered⟩
  | some dispatcher =>
      cases action with
      | submit =>
          simp only [dispatch, hdispatcher]
          refine ⟨?_, numbered_submit hnumbered hdispatcher rfl⟩
          have hfiled := @filed_submit _ state streamer hnumbered dispatcher hdispatcher
            none { state with
              dispatcher := some dispatcher.submit
              jobs := Function.update state.jobs dispatcher.submitted none } rfl rfl rfl
          refine hfiled.trans ?_
          simp [jobOf]
      | recv =>
          simp only [dispatch, hdispatcher]
          apply waiting_filed hnumbered hdispatcher
          · simp only [Dispatcher.next, Dispatcher.recv]
            split
            next hrunning hqueue => simp [queued, hrunning, hqueue]
            next => rfl
          · simp only [Dispatcher.next, Dispatcher.recv]
            split <;> rfl
      | execute =>
          cases hrunning : dispatcher.running with
          | none =>
              simp only [dispatch, hdispatcher, hrunning]
              apply waiting_filed hnumbered hdispatcher
              · simp [Dispatcher.next, Dispatcher.execute, hrunning]
              · simp [Dispatcher.next, Dispatcher.execute, hrunning]
          | some task => exact execute_filed hnumbered hdispatcher hrunning
      | close =>
          simp only [dispatch, hdispatcher]
          exact waiting_filed hnumbered hdispatcher rfl rfl

/-- A step that has nothing to do with reports. -/
theorem filed_quiet {later : Sourcing Reader} (hnumbered : state.Numbered)
    (hdispatcher : later.dispatcher = state.dispatcher)
    (hjobs : later.jobs = state.jobs) (hinvoked : later.invoked = state.invoked) :
    later.filed streamer = state.filed streamer ∧ later.Numbered :=
  ⟨filed_congr hdispatcher hjobs hinvoked, hnumbered.congr hdispatcher⟩

theorem report_filed (hnumbered : state.Numbered) (hend : state.onStreamEnd = true)
    {turn : Nat} {playing : Playing Reader}
    (hplaying : state.streamers turn = some playing) :
    (state.report turn).filed streamer =
        (if streamer = turn ∧ firing playing = true ∧ state.accepts = true then
          state.filed streamer ++ [playing.leg.endError]
          else state.filed streamer) ∧
      (state.report turn).Numbered := by
  have hquiet : (state.alter turn Playing.report).filed streamer =
      state.filed streamer ∧ (state.alter turn Playing.report).Numbered :=
    filed_quiet hnumbered rfl rfl rfl
  simp only [Sourcing.report, hplaying]
  cases hfiring : firing playing with
  | false => simpa using hquiet
  | true =>
      have hfired := @fire_filed _ _ streamer hquiet.2 turn playing.leg.endError hend
      rw [hquiet.1] at hfired
      simp only [true_and]
      exact hfired

theorem onStreamEnd_report (state : Sourcing Reader) (turn : Nat) :
    (state.report turn).onStreamEnd = state.onStreamEnd := by
  unfold Sourcing.report
  split
  · dsimp only [fire]
    split
    · split
      · split <;> rfl
      · rfl
    · rfl
  · rfl

theorem onStreamEnd_dispatch (state : Sourcing Reader) (action : Utils.Dispatcher.Action) :
    (state.dispatch action).onStreamEnd = state.onStreamEnd := by
  unfold dispatch
  split
  · dsimp only
    split
    · rfl
    · split <;> rfl
    · rfl
  · rfl

theorem next_filed (nextSample : Reader → Except RustTgCallsError Sample × Reader)
    (hnumbered : state.Numbered) (hend : state.onStreamEnd = true)
    (action : Action Reader) :
    (action ≠ .report streamer →
        (state.next nextSample action).filed streamer = state.filed streamer) ∧
      (state.next nextSample action).Numbered ∧
        (state.next nextSample action).onStreamEnd = true := by
  have hquiet {later : Sourcing Reader} (hdispatcher : later.dispatcher = state.dispatcher)
      (hjobs : later.jobs = state.jobs) (hinvoked : later.invoked = state.invoked)
      (hlater : later.onStreamEnd = state.onStreamEnd) :
      (action ≠ .report streamer → later.filed streamer = state.filed streamer) ∧
        later.Numbered ∧ later.onStreamEnd = true := by
    obtain ⟨hsame, hkept⟩ := @filed_quiet _ _ streamer _ hnumbered hdispatcher hjobs
      hinvoked
    exact ⟨fun _ => hsame, hkept, hlater.trans hend⟩
  cases action with
  | setSource sources => exact hquiet rfl rfl rfl rfl
  | setSourceStep id connected =>
      simp only [next]
      cases hcall : state.setSources id with
      | none =>
          have hsame : state.setSourceStep id connected = state := by
            simp only [setSourceStep, hcall]
          rw [hsame]
          exact hquiet rfl rfl rfl rfl
      | some call =>
          obtain ⟨hlater, hdispatcher, hjobs, hinvoked⟩ := events_access state
            (state.setSourceTurn id connected call.sources call.stage).2
          simp only [setSourceStep, hcall]
          exact hquiet hdispatcher hjobs hinvoked hlater
  | stop =>
      simp only [next]
      split <;> exact hquiet rfl rfl rfl rfl
  | stopStep =>
      obtain ⟨hlater, hdispatcher, hjobs, hinvoked⟩ :=
        events_access state (state.stopTurn state.stopAt).2
      exact hquiet hdispatcher hjobs hinvoked hlater
  | reader turn stalled => exact hquiet rfl rfl rfl rfl
  | pacing turn input =>
      simp only [next, pacing]
      split
      · split <;> exact hquiet rfl rfl rfl rfl
      · exact hquiet rfl rfl rfl rfl
  | report turn =>
      simp only [next]
      cases hplaying : state.streamers turn with
      | none =>
          have hsame : state.report turn = state := by
            simp only [Sourcing.report, hplaying]
          rw [hsame]
          exact hquiet rfl rfl rfl rfl
      | some playing =>
          obtain ⟨hfiled, hkept⟩ := @report_filed _ _ streamer hnumbered hend _ _ hplaying
          refine ⟨fun hother => ?_, hkept, (onStreamEnd_report state turn).trans hend⟩
          have hne : streamer ≠ turn := fun hsame => hother (by rw [hsame])
          rw [hfiled, if_neg fun hours => hne hours.1]
  | dispatch action =>
      obtain ⟨hfiled, hkept⟩ := @dispatch_filed _ _ streamer hnumbered action
      exact ⟨fun _ => hfiled, hkept, (onStreamEnd_dispatch state action).trans hend⟩

end Sourcing

/-! How the report of a streamer's end goes on by a step. -/

namespace Toggling

open Sourcing

variable {Reader : Type}
  {nextSample : Reader → Except RustTgCallsError Sample × Reader}
  {state : Toggling Reader} {streamer : Nat} {playing : Playing Reader}

structure Reporting (state : Toggling Reader) : Prop where
  sound : Sound state
  numbered : state.sourcing.Numbered
  onStreamEnd : state.sourcing.onStreamEnd = true

theorem reporting_new (dispatcher : Option Nat) :
    Reporting (new true dispatcher : Toggling Reader) := by
  refine ⟨sound_new true dispatcher, ?_, rfl⟩
  intro left hleft task htask
  simp only [new, Sourcing.new, Option.mem_def, Option.map_eq_some_iff] at hleft
  obtain ⟨size, _, rfl⟩ := hleft
  cases htask

theorem toggler_events (toggler : Toggler) (nextSample) :
    let later := (state.next nextSample (.toggler toggler)).sourcing
    later.dispatcher = state.sourcing.dispatcher ∧
      later.jobs = state.sourcing.jobs ∧ later.invoked = state.sourcing.invoked ∧
        later.onStreamEnd = state.sourcing.onStreamEnd := by
  have htoggles := toggles_togglerTurn state.sourcing (state.togglers toggler)
  simp only [next]
  generalize (state.sourcing.togglerTurn (state.togglers toggler)).2 = later at htoggles
  cases htoggles with
  | idle | tells => exact ⟨rfl, rfl, rfl, rfl⟩
  | sets flag value => cases flag <;> exact ⟨rfl, rfl, rfl, rfl⟩

theorem filed_next (hreporting : Reporting state) (action : Action Reader)
    (hother : action ≠ .sourcing (.report streamer)) :
    (state.next nextSample action).sourcing.filed streamer =
      state.sourcing.filed streamer := by
  cases action with
  | sourcing action =>
      exact (next_filed nextSample hreporting.numbered hreporting.onStreamEnd
        action).1 fun hsame => hother (by rw [hsame])
  | call number toggle => rw [setSources_call]
  | toggler toggler =>
      obtain ⟨hdispatcher, hjobs, hinvoked, _⟩ :=
        @toggler_events _ state toggler nextSample
      exact filed_congr hdispatcher hjobs hinvoked

theorem reporting_next (state : Toggling Reader) (action : Action Reader)
    (hreporting : Reporting state) : Reporting (state.next nextSample action) := by
  obtain ⟨hsound, hnumbered, hend⟩ := hreporting
  have hsound' := @sound_next _ nextSample state action hsound
  cases action with
  | sourcing action =>
      obtain ⟨_, hnumbered', hend'⟩ :=
        @next_filed _ _ 0 nextSample hnumbered hend action
      exact ⟨hsound', hnumbered', hend'⟩
  | call number toggle =>
      refine ⟨hsound', ?_, ?_⟩
      · rw [setSources_call]
        exact hnumbered
      · rw [setSources_call]
        exact hend
  | toggler toggler =>
      obtain ⟨hdispatcher, _, _, hend'⟩ := @toggler_events _ state toggler nextSample
      exact ⟨hsound', hnumbered.congr hdispatcher, hend'.trans hend⟩

/-- What a step makes of the report of a streamer's end. -/
inductive Reports (state : Toggling Reader) (streamer : Nat)
    (playing held : Playing Reader) (action : Action Reader)
    (filed : List (Option RustTgCallsError)) : Prop
  | same (hat : held.reportAt = playing.reportAt)
      (hfiled : filed = state.sourcing.filed streamer)
  | takes (haction : action = .sourcing (.report streamer))
      (hended : playing.leg.pacingAt = .ended) (hat : playing.reportAt = .take)
      (hlater : held.reportAt = .call playing.onEnd)
      (hfiled : filed = state.sourcing.filed streamer)
  | calls (registered : Bool) (haction : action = .sourcing (.report streamer))
      (hended : playing.leg.pacingAt = .ended)
      (hat : playing.reportAt = .call registered)
      (hlater : held.reportAt = .returned)
      (hfiled : filed =
        if registered = true ∧ state.sourcing.accepts = true then
          state.sourcing.filed streamer ++ [playing.leg.endError]
        else state.sourcing.filed streamer)

theorem reportAt_told {access : Access Reader} {told : Playing Reader}
    (htold : Told streamer playing access told) : told.reportAt = playing.reportAt := by
  cases htold <;> rfl

theorem reportAt_moves {action : Action Reader} {held : Playing Reader}
    (hmoves : Moves nextSample state streamer playing action held)
    (hother : action ≠ .sourcing (.report streamer)) :
    held.reportAt = playing.reportAt := by
  cases hmoves with
  | same | reader | toggler => rfl
  | paced turn input hpaced => cases hpaced <;> rfl
  | reports => exact absurd rfl hother
  | setSource id connected hcall htold => exact reportAt_told htold
  | stop htold => exact reportAt_told htold

theorem reports_next (hreporting : Reporting state) {action : Action Reader}
    {held : Playing Reader}
    (hplaying : state.sourcing.streamers streamer = some playing)
    (hmoves : Moves nextSample state streamer playing action held) :
    Reports state streamer playing held action
      ((state.next nextSample action).sourcing.filed streamer) := by
  by_cases haction : action = .sourcing (.report streamer)
  · subst haction
    obtain ⟨hfiled, _⟩ := @report_filed _ _ streamer hreporting.numbered
      hreporting.onStreamEnd _ _ hplaying
    simp only [true_and] at hfiled
    have hreport : held = playing.report := by
      cases hmoves with
      | same hreport => exact absurd rfl hreport
      | reports => rfl
    subst hreport
    change Reports state streamer playing playing.report _
      ((state.sourcing.report streamer).filed streamer)
    cases hended : playing.leg.pacingAt with
    | ended =>
        cases hat : playing.reportAt with
        | take =>
            refine .takes rfl hended hat ?_ ?_
            · simp [Playing.report, hended, hat]
            · simpa [firing, hended, hat] using hfiled
        | call registered =>
            refine .calls registered rfl hended hat ?_ ?_
            · simp [Playing.report, hended, hat]
            · cases registered <;> simpa [firing, hended, hat] using hfiled
        | returned =>
            refine .same ?_ ?_
            · simp [Playing.report, hended, hat]
            · simpa [firing, hended, hat] using hfiled
    | _ =>
        refine .same ?_ ?_
        · simp [Playing.report, hended]
        · simpa [firing, hended] using hfiled
  · exact .same (reportAt_moves hmoves haction) (filed_next hreporting action haction)

/-- A streamer that is spawned has nothing filed for it. -/
structure Unfiled (state : Toggling Reader) (streamer : Nat) : Prop where
  absent : state.sourcing.streamers streamer = none →
    state.sourcing.filed streamer = []
  early : ∀ playing, state.sourcing.streamers streamer = some playing →
    playing.reportAt ≠ .returned → state.sourcing.filed streamer = []
  once : (state.sourcing.filed streamer).length ≤ 1

theorem unfiled_new (dispatcher : Option Nat) (streamer : Nat) :
    Unfiled (new true dispatcher : Toggling Reader) streamer := by
  have hempty : (new true dispatcher : Toggling Reader).sourcing.filed streamer = [] := by
    cases dispatcher <;> rfl
  exact ⟨fun _ => hempty, fun _ _ _ => hempty, by simp [hempty]⟩

theorem filed_absent (hreporting : Reporting state) (action : Action Reader)
    (habsent : state.sourcing.streamers streamer = none) :
    (state.next nextSample action).sourcing.filed streamer =
      state.sourcing.filed streamer := by
  by_cases haction : action = .sourcing (.report streamer)
  · subst haction
    simp only [next, Sourcing.next, Sourcing.report, habsent]
  · exact filed_next hreporting action haction

theorem unfiled_next (hreporting : Reporting state) (action : Action Reader)
    (hunfiled : Unfiled state streamer) :
    Unfiled (state.next nextSample action) streamer := by
  obtain ⟨habsent, hearly, honce⟩ := hunfiled
  cases hplaying : state.sourcing.streamers streamer with
  | none =>
      have hsame := @filed_absent _ nextSample _ _ hreporting action hplaying
      have hempty := habsent hplaying
      refine ⟨fun _ => hsame.trans hempty, fun _ _ _ => hsame.trans hempty, ?_⟩
      rw [hsame]
      exact honce
  | some playing =>
      obtain ⟨held, hheld, hmoves⟩ := @moves_next _ nextSample state _ _
        (Nat.ne_of_lt (hreporting.sound.present hplaying)) hplaying action
      have hreports := reports_next hreporting hplaying hmoves
      refine ⟨by simp [hheld], ?_, ?_⟩
      · intro later hlater hreturned
        rw [hheld] at hlater
        cases hlater
        cases hreports with
        | same hat hfiled =>
            exact hfiled.trans (hearly playing hplaying (hat ▸ hreturned))
        | takes _ _ hat _ hfiled =>
            exact hfiled.trans (hearly playing hplaying (by simp [hat]))
        | calls registered _ _ _ hlater => exact absurd hlater hreturned
      · cases hreports with
        | same _ hfiled | takes _ _ _ _ hfiled =>
            rw [hfiled]
            exact honce
        | calls registered _ _ hat _ hfiled =>
            rw [hfiled, hearly playing hplaying (by simp [hat])]
            split <;> simp

end Toggling

end RustTgCalls.Instances
