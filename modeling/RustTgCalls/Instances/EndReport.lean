import RustTgCalls.Library.Fairness
import RustTgCalls.Instances.Registering
import Mathlib.Order.RelClasses

namespace RustTgCalls.Instances

open Media Utils Transition

/-! How often `on_stream_end` is called for the source of one `set_source`. -/

namespace Toggling

open Sourcing

variable {Reader : Type}
  {nextSample : Reader → Except RustTgCallsError Sample × Reader}
  {state : Toggling Reader} {streamer : Nat} {playing : Playing Reader}

/-- The pacing task takes its callback only when `set_source` has registered it,
and calls it only when the call is accepted. -/
def InTime (streamer : Nat) (state : Toggling Reader) (action : Action Reader) :
    Prop :=
  action = .sourcing (.report streamer) →
    ∀ playing ∈ state.sourcing.streamers streamer,
      playing.leg.pacingAt = .ended →
        (playing.reportAt = .take → ¬ state.sourcing.Awaits streamer) ∧
          (playing.reportAt = .call true → state.sourcing.accepts = true)

/-- The report of the streamer's end and the work of the dispatcher. -/
def Needed (streamer : Nat) (action : Action Reader) : Prop :=
  action = .sourcing (.report streamer) ∨ action = .sourcing (.dispatch .recv) ∨
    action = .sourcing (.dispatch .execute)

/-! A report that is in time comes to be filed, and one that is not never does. -/

structure OnTime (state : Toggling Reader) (streamer : Nat) : Prop where
  called : ∀ playing, state.sourcing.streamers streamer = some playing →
    playing.reportAt ≠ .call false
  returned : ∀ playing, state.sourcing.streamers streamer = some playing →
    playing.reportAt = .returned → (state.sourcing.filed streamer).length = 1

theorem onTime_next (hreporting : Reporting state) (hunfiled : Unfiled state streamer)
    (hregistered : Registered state streamer) (action : Action Reader)
    (howns : streamer < (state.next nextSample action).sourcing.created →
      Owns (state.next nextSample action) streamer)
    (hkept : state.sourcing.retiredBy streamer = none)
    (hintime : InTime streamer state action) (honTime : OnTime state streamer) :
    OnTime (state.next nextSample action) streamer := by
  have hsound := hreporting.sound
  have hheld (held : Playing Reader)
      (hheld : (state.next nextSample action).sourcing.streamers streamer = some held) :
      held.reportAt ≠ .call false ∧ (held.reportAt = .returned →
        ((state.next nextSample action).sourcing.filed streamer).length = 1) := by
    obtain ⟨playing, hplaying, hmoves⟩ | ⟨_, _, _, _, _, _, _, _, _, _, _, hnew⟩ :=
      present_before hsound action hheld
    · have hcreated := hsound.present hplaying
      have howns' := (owns_next hsound action hcreated).mp
        (howns (created_next hsound action hcreated))
      cases reports_next hreporting hplaying hmoves with
      | same hat hfiled =>
          rw [hat, hfiled]
          exact ⟨honTime.called playing hplaying, honTime.returned playing hplaying⟩
      | takes haction hended hat hlater =>
          have hregister := (hintime haction playing hplaying hended).1 hat
          have honEnd := hregistered.ready howns' hkept hregister playing hplaying hat
          simp [hlater, honEnd]
      | calls registered haction hended hat hlater hfiled =>
          cases registered with
          | false => exact absurd hat (honTime.called playing hplaying)
          | true =>
              have haccepts := (hintime haction playing hplaying hended).2 hat
              have hempty := hunfiled.early playing hplaying (by simp [hat])
              simp [hlater, hfiled, haccepts, hempty]
    · simp [hnew, Playing.new]
  exact ⟨fun held hlater => (hheld held hlater).1, fun held hlater => (hheld held hlater).2⟩

/-- The callback was not there, or its call was dropped. -/
def Lost (state : Toggling Reader) (streamer : Nat) : Prop :=
  state.sourcing.filed streamer = [] ∧
    ∃ playing, state.sourcing.streamers streamer = some playing ∧
      (playing.reportAt = .call false ∨ playing.reportAt = .returned)

theorem lost_next (hreporting : Reporting state) (action : Action Reader)
    (hlost : Lost state streamer) : Lost (state.next nextSample action) streamer := by
  obtain ⟨hempty, playing, hplaying, hat⟩ := hlost
  obtain ⟨held, hheld, hmoves⟩ := @moves_next _ nextSample state _ _
    (Nat.ne_of_lt (hreporting.sound.present hplaying)) hplaying action
  cases reports_next hreporting hplaying hmoves with
  | same hsame hfiled => exact ⟨hfiled.trans hempty, held, hheld, hsame ▸ hat⟩
  | takes _ _ htake => simp [htake] at hat
  | calls registered _ _ hcall hlater hfiled =>
      have hfalse : registered = false := by simpa [hcall] using hat
      refine ⟨?_, held, hheld, .inr hlater⟩
      rw [hfiled, hfalse]
      simpa using hempty

theorem lost_of_late (hreporting : Reporting state) (hunfiled : Unfiled state streamer)
    (hregistered : Registered state streamer) (action : Action Reader)
    (hlate : ¬ InTime streamer state action) :
    Lost (state.next nextSample action) streamer := by
  simp only [InTime, not_forall, not_and_or] at hlate
  obtain ⟨haction, playing, hplaying, hended, hlate⟩ := hlate
  obtain ⟨held, hheld, hmoves⟩ := @moves_next _ nextSample state _ _
    (Nat.ne_of_lt (hreporting.sound.present hplaying)) hplaying action
  have hreport : held = playing.report := by
    subst haction
    cases hmoves with
    | same hreport => exact absurd rfl hreport
    | reports => rfl
  have hreports := reports_next hreporting hplaying hmoves
  obtain ⟨htake, hawaits⟩ | ⟨hcall, haccepts⟩ := hlate
  · have honEnd := hregistered.waiting (not_not.mp hawaits) playing hplaying
    have hempty := hunfiled.early playing hplaying (by simp [htake])
    have hlater : held.reportAt = .call false := by
      simp [hreport, Playing.report, hended, htake, honEnd]
    cases hreports with
    | same hsame => simp [hlater, htake] at hsame
    | takes _ _ _ _ hfiled => exact ⟨hfiled.trans hempty, held, hheld, .inl hlater⟩
    | calls _ _ _ hcall => simp [htake] at hcall
  · have hempty := hunfiled.early playing hplaying (by simp [hcall])
    have hlater : held.reportAt = .returned := by
      simp [hreport, Playing.report, hended, hcall]
    cases hreports with
    | same hsame => simp [hlater, hcall] at hsame
    | takes _ _ htake => simp [hcall] at htake
    | calls _ _ _ _ _ hfiled =>
        refine ⟨?_, held, hheld, .inr hlater⟩
        rw [hfiled, if_neg fun hboth => haccepts hboth.2]
        exact hempty

/-! What is filed comes to be called. -/

end Toggling

namespace Sourcing

variable {Reader : Type} {state later : Sourcing Reader} {streamer : Nat}

/-- How many tasks the dispatcher has to run before it comes to the streamer's. -/
def ahead (state : Sourcing Reader) (streamer : Nat) : Nat :=
  (state.pending.map fun task => (state.jobOf streamer task).isSome).idxOf true

def busy (state : Sourcing Reader) : Bool :=
  match state.dispatcher with
  | some dispatcher => dispatcher.running.isSome
  | none => false

/-- A step leaves the tasks in their order, takes the first one up or is done with
it. -/
inductive Serves (state later : Sourcing Reader) (streamer : Nat)
    (action : Option Dispatcher.Action) : Prop
  | grows (more : List Nat) (hpending : later.pending = state.pending ++ more)
      (hbusy : later.busy = state.busy)
      (hjobs : ∀ task ∈ state.pending,
        later.jobOf streamer task = state.jobOf streamer task)
      (hrecv : action = some .recv → state.busy = true ∨ state.pending = [])
      (hexecute : action = some .execute → state.busy = false)
  | recv (hidle : state.busy = false) (hbusy : later.busy = true)
      (hpending : later.pending = state.pending) (hjobs : later.jobs = state.jobs)
  | execute (task : Nat) (hbusy : state.busy = true) (hidle : later.busy = false)
      (hpending : state.pending = task :: later.pending)
      (hjobs : later.jobs = state.jobs)
      (hinvoked : later.invoked streamer =
        state.invoked streamer ++ (state.jobOf streamer task).toList)

theorem Serves.same {action : Option Dispatcher.Action}
    (hdispatcher : later.dispatcher = state.dispatcher) (hjobs : later.jobs = state.jobs)
    (hrecv : action = some .recv → state.busy = true ∨ state.pending = [])
    (hexecute : action = some .execute → state.busy = false) :
    Serves state later streamer action := by
  refine .grows [] ?_ ?_ ?_ hrecv hexecute
  · simp [pending, hdispatcher]
  · simp [busy, hdispatcher]
  · intro task _
    simp only [jobOf, hjobs]

theorem Serves.submits (hnumbered : state.Numbered) {dispatcher : Dispatcher}
    (hdispatcher : state.dispatcher = some dispatcher)
    (job : Option (Nat × Option RustTgCallsError))
    (hlater : later.dispatcher = some dispatcher.submit)
    (hjobs : later.jobs = Function.update state.jobs dispatcher.submitted job)
    {action : Option Dispatcher.Action} (hrecv : action ≠ some .recv)
    (hexecute : action ≠ some .execute) : Serves state later streamer action := by
  have hgrows : ∃ more, queued dispatcher.submit = queued dispatcher ++ more ∧
      dispatcher.submit.running = dispatcher.running := by
    unfold Dispatcher.submit
    dsimp only
    split
    · exact ⟨[], by simp [queued], rfl⟩
    · split
      · exact ⟨[dispatcher.submitted], by simp [queued], rfl⟩
      · exact ⟨[], by simp [queued], rfl⟩
  obtain ⟨more, hqueued, hrunning⟩ := hgrows
  refine .grows more ?_ ?_ ?_ (fun hsame => absurd hsame hrecv)
    (fun hsame => absurd hsame hexecute)
  · simpa only [pending, hlater, hdispatcher] using hqueued
  · simp only [busy, hlater, hdispatcher, hrunning]
  · intro task htask
    simp only [pending, hdispatcher] at htask
    have hne : task ≠ dispatcher.submitted :=
      Nat.ne_of_lt (hnumbered dispatcher hdispatcher task htask)
    simp only [jobOf, hjobs, Function.update_of_ne hne]

theorem serves_fire (hnumbered : state.Numbered) (turn : Nat)
    (error : Option RustTgCallsError) (hend : state.onStreamEnd = true) :
    Serves state (state.fire turn error) streamer none := by
  unfold fire
  rw [if_pos hend]
  split
  next dispatcher hdispatcher =>
    exact .submits hnumbered hdispatcher (some (turn, error)) rfl rfl (by simp) (by simp)
  next => exact .same rfl rfl (by simp) (by simp)

theorem serves_recv {dispatcher : Dispatcher}
    (hdispatcher : state.dispatcher = some dispatcher) :
    Serves state { state with dispatcher := some (dispatcher.next .recv) } streamer
      (some .recv) := by
  cases hrunning : dispatcher.running with
  | some task =>
      refine .grows [] ?_ ?_ (fun _ _ => rfl) ?_ (by simp)
      · simp [pending, hdispatcher, Dispatcher.next, Dispatcher.recv, hrunning]
      · simp [busy, hdispatcher, Dispatcher.next, Dispatcher.recv, hrunning]
      · simp [busy, hdispatcher, hrunning]
  | none =>
      cases hqueue : dispatcher.queue with
      | nil =>
          refine .grows [] ?_ ?_ (fun _ _ => rfl) ?_ (by simp)
          · simp [pending, hdispatcher, Dispatcher.next, Dispatcher.recv, hrunning, hqueue]
          · simp [busy, hdispatcher, Dispatcher.next, Dispatcher.recv, hrunning, hqueue]
          · simp [pending, hdispatcher, queued, hrunning, hqueue]
      | cons task rest =>
          refine .recv ?_ ?_ ?_ rfl
          · simp [busy, hdispatcher, hrunning]
          · simp [busy, Dispatcher.next, Dispatcher.recv, hrunning, hqueue]
          · simp [pending, hdispatcher, queued, Dispatcher.next, Dispatcher.recv, hrunning,
              hqueue]

theorem serves_execute {dispatcher : Dispatcher}
    (hdispatcher : state.dispatcher = some dispatcher) {task : Nat}
    (hrunning : dispatcher.running = some task) :
    Serves state (state.dispatch .execute) streamer (some .execute) := by
  have hbusy : state.busy = true := by simp [busy, hdispatcher, hrunning]
  have hpending : state.pending = task :: dispatcher.queue := by
    simp [pending, hdispatcher, queued, hrunning]
  have hleft : queued (dispatcher.next .execute) = dispatcher.queue := by
    simp [queued, Dispatcher.next, Dispatcher.execute, hrunning]
  have hidle : (dispatcher.next .execute).running.isSome = false := by
    simp [Dispatcher.next, Dispatcher.execute, hrunning]
  simp only [dispatch, hdispatcher, hrunning]
  split
  next owner error hjob =>
    refine .execute task hbusy hidle ?_ rfl ?_
    · rw [hpending]
      simp only [pending, hleft]
    · by_cases howner : owner = streamer
      · subst howner
        simp [jobOf, hjob]
      · simp [jobOf, hjob, howner, Ne.symm howner]
  next hjob =>
    refine .execute task hbusy hidle ?_ rfl ?_
    · rw [hpending]
      simp only [pending, hleft]
    · simp [jobOf, hjob]

theorem serves_dispatch (hnumbered : state.Numbered) (action : Dispatcher.Action) :
    Serves state (state.dispatch action) streamer (some action) := by
  cases hdispatcher : state.dispatcher with
  | none =>
      simp only [dispatch, hdispatcher]
      refine .same rfl rfl ?_ ?_
      · simp [pending, hdispatcher]
      · simp [busy, hdispatcher]
  | some dispatcher =>
      cases action with
      | submit =>
          simp only [dispatch, hdispatcher]
          exact .submits hnumbered hdispatcher none rfl rfl (by simp) (by simp)
      | recv =>
          simp only [dispatch, hdispatcher]
          exact serves_recv hdispatcher
      | execute =>
          cases hrunning : dispatcher.running with
          | none =>
              simp only [dispatch, hdispatcher, hrunning, Dispatcher.next, Dispatcher.execute]
              refine .same hdispatcher.symm rfl (by simp) ?_
              simp [busy, hdispatcher, hrunning]
          | some task => exact serves_execute hdispatcher hrunning
      | close =>
          simp only [dispatch, hdispatcher]
          refine .grows [] ?_ ?_ (fun _ _ => rfl) (by simp) (by simp)
          · simp [pending, hdispatcher, Dispatcher.next, queued]
          · simp [busy, hdispatcher, Dispatcher.next]

/-- Where the dispatcher and the jobs are those of the state before. -/
theorem Serves.congr {middle : Sourcing Reader} {action : Option Dispatcher.Action}
    (hserves : Serves middle later streamer action)
    (hdispatcher : middle.dispatcher = state.dispatcher)
    (hjobs : middle.jobs = state.jobs)
    (hinvoked : middle.invoked = state.invoked) :
    Serves state later streamer action := by
  have hpending : middle.pending = state.pending := by simp only [pending, hdispatcher]
  have hbusy : middle.busy = state.busy := by simp only [busy, hdispatcher]
  have hjobOf : middle.jobOf streamer = state.jobOf streamer := by
    funext task
    simp only [jobOf, hjobs]
  cases hserves with
  | grows more hgrows hsame hkept hrecv hexecute =>
      rw [hpending] at hgrows hrecv
      rw [hbusy] at hsame hrecv hexecute
      rw [hpending, hjobOf] at hkept
      exact .grows more hgrows hsame hkept hrecv hexecute
  | recv hidle hnow hsame hkept =>
      exact .recv (hbusy ▸ hidle) hnow (hsame.trans hpending) (hkept.trans hjobs)
  | execute task hnow hidle hdone hkept hcalled =>
      rw [hpending] at hdone
      rw [hinvoked, hjobOf] at hcalled
      exact .execute task (hbusy ▸ hnow) hidle hdone (hkept.trans hjobs) hcalled

theorem serves_report (hnumbered : state.Numbered) (hend : state.onStreamEnd = true)
    (turn : Nat) : Serves state (state.report turn) streamer none := by
  unfold Sourcing.report
  split
  next playing hplaying =>
    dsimp only
    split
    · have hfired := @serves_fire _ (state.alter turn Playing.report) streamer
        (hnumbered.congr rfl) turn playing.leg.endError hend
      exact hfired.congr rfl rfl rfl
    · exact .same rfl rfl (by simp) (by simp)
  next => exact .same rfl rfl (by simp) (by simp)

theorem invoked_fire (state : Sourcing Reader) (turn : Nat)
    (error : Option RustTgCallsError) :
    state.invoked streamer <+: (state.fire turn error).invoked streamer := by
  unfold fire
  split
  · split
    · exact List.prefix_refl _
    · by_cases hturn : streamer = turn
      · subst hturn
        simp
      · simp [hturn]
  · exact List.prefix_refl _

theorem invoked_dispatch (state : Sourcing Reader) (action : Dispatcher.Action) :
    state.invoked streamer <+: (state.dispatch action).invoked streamer := by
  unfold dispatch
  split
  · dsimp only
    split
    · exact List.prefix_refl _
    · split
      next owner error _ =>
        by_cases howner : streamer = owner
        · subst howner
          simp
        · simp [howner]
      next => exact List.prefix_refl _
    · exact List.prefix_refl _
  · exact List.prefix_refl _

theorem invoked_report (state : Sourcing Reader) (turn : Nat) :
    state.invoked streamer <+: (state.report turn).invoked streamer := by
  unfold Sourcing.report
  split
  · dsimp only
    split
    · exact invoked_fire (state.alter turn Playing.report) turn _
    · exact List.prefix_refl _
  · exact List.prefix_refl _

end Sourcing

namespace Toggling

open Sourcing

variable {Reader : Type}
  {nextSample : Reader → Except RustTgCallsError Sample × Reader}
  {state : Toggling Reader} {streamer : Nat} {playing : Playing Reader}

/-- The part of the dispatcher's worker in a step. -/
def dispatching : Action Reader → Option Dispatcher.Action
  | .sourcing (.dispatch action) => some action
  | _ => none

theorem events_setSourceStep (sourcing : Sourcing Reader) (id : Nat)
    (connected : Bool) :
    (sourcing.setSourceStep id connected).dispatcher = sourcing.dispatcher ∧
      (sourcing.setSourceStep id connected).jobs = sourcing.jobs ∧
        (sourcing.setSourceStep id connected).invoked = sourcing.invoked := by
  cases hcall : sourcing.setSources id with
  | none => simp only [setSourceStep, hcall, and_self]
  | some call =>
      simp only [setSourceStep, hcall]
      exact (events_access sourcing _).2

theorem events_pacing (sourcing : Sourcing Reader) (turn : Nat)
    (input : PacingInput) :
    (sourcing.pacing turn input).dispatcher = sourcing.dispatcher ∧
      (sourcing.pacing turn input).jobs = sourcing.jobs ∧
        (sourcing.pacing turn input).invoked = sourcing.invoked := by
  unfold Sourcing.pacing
  split
  · dsimp only
    split <;> exact ⟨rfl, rfl, rfl⟩
  · exact ⟨rfl, rfl, rfl⟩

theorem serves_next (hreporting : Reporting state) (action : Action Reader) :
    Serves state.sourcing (state.next nextSample action).sourcing streamer
        (dispatching action) ∧
      state.sourcing.invoked streamer <+:
        (state.next nextSample action).sourcing.invoked streamer := by
  have hsame {later : Sourcing Reader}
      (hevents : later.dispatcher = state.sourcing.dispatcher ∧
        later.jobs = state.sourcing.jobs ∧ later.invoked = state.sourcing.invoked) :
      Serves state.sourcing later streamer none ∧
        state.sourcing.invoked streamer <+: later.invoked streamer := by
    obtain ⟨hdispatcher, hjobs, hinvoked⟩ := hevents
    exact ⟨.same hdispatcher hjobs (by simp) (by simp), by simp [hinvoked]⟩
  cases action with
  | sourcing action =>
      cases action with
      | setSource sources | reader turn stalled => exact hsame ⟨rfl, rfl, rfl⟩
      | setSourceStep id connected => exact hsame (events_setSourceStep _ id connected)
      | stop =>
          simp only [next, Sourcing.next]
          split <;> exact hsame ⟨rfl, rfl, rfl⟩
      | stopStep => exact hsame (events_access state.sourcing _).2
      | pacing turn input => exact hsame (events_pacing _ turn input)
      | report turn =>
          exact ⟨serves_report hreporting.numbered hreporting.onStreamEnd turn,
            invoked_report state.sourcing turn⟩
      | dispatch action =>
          exact ⟨serves_dispatch hreporting.numbered action,
            invoked_dispatch state.sourcing action⟩
  | call number toggle =>
      rw [setSources_call]
      exact hsame ⟨rfl, rfl, rfl⟩
  | toggler toggler =>
      obtain ⟨hdispatcher, hjobs, hinvoked, _⟩ :=
        @toggler_events _ state toggler nextSample
      exact hsame ⟨hdispatcher, hjobs, hinvoked⟩

theorem ended_moves {action : Action Reader} {held : Playing Reader}
    (hmoves : Moves nextSample state streamer playing action held)
    (hended : playing.leg.pacingAt = .ended) : held.leg.pacingAt = .ended := by
  have htold {access : Access Reader} {told : Playing Reader}
      (htold : Told streamer playing access told) : told.leg.pacingAt = .ended := by
    cases htold <;> exact hended
  have hpaced (input : PacingInput) : (playing.pacing input).leg.pacingAt = .ended := by
    simp [Playing.pacing, Playing.pacingLeg, Leg.pacingStep, hended]
  cases hmoves with
  | same | toggler => exact hended
  | reader stalled =>
      have hsame := Leg.samePacing_readerStep nextSample playing.leg stalled
      exact hsame.pacingAt.trans hended
  | paced turn input hcase =>
      cases hcase with
      | other => exact hended
      | turn => exact hpaced input
      | meets _ harriving => simp [arriving, hended] at harriving
      | freed _ hwaits => simp [Leg.waits, hended] at hwaits
  | reports => rw [playing.report_frame.1]; exact hended
  | setSource id connected hcall hcase => exact htold hcase
  | stop hcase => exact htold hcase

/-- How far the report is from its call. -/
def remaining (streamer : Nat) (state : Toggling Reader) : Nat × Nat :=
  match (state.sourcing.streamers streamer).map Playing.reportAt with
  | none => (3, 0)
  | some .take => (2, 0)
  | some (.call _) => (1, 0)
  | some .returned =>
      (0, 2 * state.sourcing.ahead streamer + (!state.sourcing.busy).toNat)

def helpful (streamer : Nat) (state : Toggling Reader) : Action Reader :=
  match (state.sourcing.streamers streamer).map Playing.reportAt with
  | some .returned =>
      if state.sourcing.busy then .sourcing (.dispatch .execute)
      else .sourcing (.dispatch .recv)
  | _ => .sourcing (.report streamer)

theorem needed_helpful (streamer : Nat) (state : Toggling Reader) :
    Needed streamer (helpful streamer state) := by
  unfold helpful
  split
  · split
    · exact .inr (.inr rfl)
    · exact .inr (.inl rfl)
  · exact .inl rfl

def Nearer (first second : Nat × Nat) : Prop := Prod.Lex (· < ·) (· < ·) first second

theorem wellFounded_nearer : WellFounded Nearer :=
  WellFounded.prod_lex Nat.lt_wfRel.wf Nat.lt_wfRel.wf

/-- A task of the streamer waits at the dispatcher. -/
theorem waits_of_filed (hfiled : (state.sourcing.filed streamer).length = 1)
    (huncalled : state.sourcing.invoked streamer = []) :
    true ∈ state.sourcing.pending.map fun task =>
      (state.sourcing.jobOf streamer task).isSome := by
  obtain ⟨error, hone⟩ := List.length_eq_one_iff.mp hfiled
  simp only [filed, huncalled, List.nil_append] at hone
  have hmem : error ∈ state.sourcing.pending.filterMap
      (state.sourcing.jobOf streamer) := by simp [hone]
  obtain ⟨task, htask, hjob⟩ := List.mem_filterMap.mp hmem
  exact List.mem_map.mpr ⟨task, htask, by simp [hjob]⟩

/-- The task comes nearer, is called, or nothing changes for it. -/
theorem served (hserves : Serves state.sourcing later streamer action)
    (hwaits : true ∈ state.sourcing.pending.map fun task =>
      (state.sourcing.jobOf streamer task).isSome) :
    later.invoked streamer ≠ [] ∨
      2 * later.ahead streamer + (!later.busy).toNat <
          2 * state.sourcing.ahead streamer + (!state.sourcing.busy).toNat ∨
        (later.ahead streamer = state.sourcing.ahead streamer ∧
          later.busy = state.sourcing.busy) ∧
          (action = some .recv → state.sourcing.busy = true) ∧
            (action = some .execute → state.sourcing.busy = false) := by
  cases hserves with
  | grows more hpending hbusy hjobs hrecv hexecute =>
      right; right
      refine ⟨⟨?_, hbusy⟩, ?_, hexecute⟩
      · have hsame : state.sourcing.pending.map
            (fun task => (later.jobOf streamer task).isSome) =
            state.sourcing.pending.map
              fun task => (state.sourcing.jobOf streamer task).isSome := by
          apply List.map_congr_left
          intro task htask
          rw [hjobs task htask]
        simp only [ahead, hpending, List.map_append, hsame]
        rw [List.idxOf_append, if_pos hwaits]
      · intro hwas
        obtain hbusy | hempty := hrecv hwas
        · exact hbusy
        · simp [hempty] at hwaits
  | recv hidle hbusy hpending hjobs =>
      right; left
      have hsame : later.ahead streamer = state.sourcing.ahead streamer := by
        simp only [ahead, hpending, jobOf, hjobs]
      simp [hsame, hidle, hbusy]
  | execute task hbusy hidle hpending hjobs hinvoked =>
      cases hjob : state.sourcing.jobOf streamer task with
      | some error =>
          left
          simp [hinvoked, hjob]
      | none =>
          right; left
          have hahead : state.sourcing.ahead streamer = later.ahead streamer + 1 := by
            have hjobOf : later.jobOf streamer = state.sourcing.jobOf streamer := by
              funext other
              simp only [jobOf, hjobs]
            simp only [ahead, hpending, List.map_cons, hjob, hjobOf]
            rw [List.idxOf_cons_ne _ (by simp)]
          simp only [hahead, hbusy, hidle, Bool.not_true, Bool.not_false,
            Bool.toNat_true, Bool.toNat_false]
          omega

/-- A step leaves the report where it is or brings it nearer to its call, and the
helpful one does the latter. -/
def Advances (streamer : Nat) (state : Toggling Reader) (action : Action Reader)
    (later : Toggling Reader) : Prop :=
  later.sourcing.invoked streamer ≠ [] ∨
    Nearer (remaining streamer later) (remaining streamer state) ∨
      (remaining streamer later = remaining streamer state ∧
        helpful streamer later = helpful streamer state) ∧
        action ≠ helpful streamer state

theorem advances_next (hreporting : Reporting state) (honTime : OnTime state streamer)
    (hplaying : state.sourcing.streamers streamer = some playing)
    (hended : playing.leg.pacingAt = .ended)
    (huncalled : state.sourcing.invoked streamer = []) (action : Action Reader) :
    Advances streamer state action (state.next nextSample action) := by
  obtain ⟨held, hheld, hmoves⟩ := @moves_next _ nextSample state _ _
    (Nat.ne_of_lt (hreporting.sound.present hplaying)) hplaying action
  have hreport (haction : action = .sourcing (.report streamer)) :
      held = playing.report := by
    subst haction
    cases hmoves with
    | same hreport => exact absurd rfl hreport
    | reports => rfl
  have hstays (hat : held.reportAt = playing.reportAt)
      (hunreturned : playing.reportAt ≠ .returned) :
      remaining streamer (state.next nextSample action) = remaining streamer state ∧
        helpful streamer (state.next nextSample action) = helpful streamer state ∧
          helpful streamer state = .sourcing (.report streamer) := by
    simp only [remaining, helpful, hheld, hplaying, Option.map_some, hat]
    cases hwhere : playing.reportAt with
    | returned => exact absurd hwhere hunreturned
    | _ => exact ⟨rfl, rfl, rfl⟩
  cases reports_next hreporting hplaying hmoves with
  | same hat _ =>
      cases hwhere : playing.reportAt with
      | take =>
          obtain ⟨hremaining, hhelpful, hself⟩ := hstays hat (by simp [hwhere])
          refine .inr (.inr ⟨⟨hremaining, hhelpful⟩, fun haction => ?_⟩)
          rw [hreport (haction.trans hself)] at hat
          simp [Playing.report, hended, hwhere] at hat
      | call registered =>
          obtain ⟨hremaining, hhelpful, hself⟩ := hstays hat (by simp [hwhere])
          refine .inr (.inr ⟨⟨hremaining, hhelpful⟩, fun haction => ?_⟩)
          rw [hreport (haction.trans hself)] at hat
          simp [Playing.report, hended, hwhere] at hat
      | returned =>
          have hwaits := waits_of_filed (honTime.returned playing hplaying hwhere) huncalled
          obtain ⟨hserves, _⟩ :=
            @serves_next _ nextSample state streamer hreporting action
          simp only [Advances, remaining, helpful, hheld, hplaying, Option.map_some, hat,
            hwhere]
          obtain hcalled | hless | ⟨⟨hahead, hbusy⟩, hrecv, hexecute⟩ :=
            served hserves hwaits
          · exact .inl hcalled
          · exact .inr (.inl (.right _ hless))
          · refine .inr (.inr ⟨⟨by rw [hahead, hbusy], by rw [hbusy]⟩, ?_⟩)
            cases hnow : state.sourcing.busy with
            | true =>
                rintro rfl
                simp [hnow, dispatching] at hexecute
            | false =>
                rintro rfl
                simp [hnow, dispatching] at hrecv
  | takes _ _ hat hlater =>
      right; left
      simp only [remaining, hheld, hplaying, Option.map_some, hat, hlater]
      exact .left _ _ (by omega)
  | calls _ _ _ hat hlater =>
      right; left
      simp only [remaining, hheld, hplaying, Option.map_some, hat, hlater]
      exact .left _ _ (by omega)

/-! Whole runs. -/

/-- What every state of a run has. -/
structure Kept (streamer : Nat) (state : Toggling Reader) : Prop where
  reporting : Reporting state
  unfiled : Unfiled state streamer
  registered : Registered state streamer

theorem kept_new (dispatcher : Option Nat) (streamer : Nat) :
    Kept streamer (new true dispatcher : Toggling Reader) :=
  ⟨reporting_new dispatcher, unfiled_new dispatcher streamer,
    registered_new true dispatcher streamer⟩

theorem kept_next (state : Toggling Reader) (action : Action Reader)
    (hkept : Kept streamer state) : Kept streamer (state.next nextSample action) :=
  ⟨reporting_next state action hkept.reporting,
    unfiled_next hkept.reporting action hkept.unfiled,
    registered_next hkept.reporting action hkept.registered⟩

theorem kept_trace (dispatcher : Option Nat) (schedule : Nat → Action Reader)
    (streamer n : Nat) :
    Kept streamer (trace (next nextSample) (new true dispatcher) schedule n) :=
  trace_invariant (fun state action hkept (_ : True) => kept_next state action hkept)
    (kept_new dispatcher streamer) (fun _ => trivial) n

/-- Whether a leg owns the callback is settled at its creation. -/
theorem owns_trace {run : Nat → Toggling Reader} {schedule : Nat → Action Reader}
    (hrun : ∀ n, run (n + 1) = (run n).next nextSample (schedule n))
    (hsound : ∀ n, Sound (run n)) {n : Nat} (howns : Owns (run n) streamer)
    {m : Nat} (hcreated : streamer < (run m).sourcing.created) :
    Owns (run m) streamer := by
  have hsame (m k : Nat) (hcreated : streamer < (run m).sourcing.created) :
      streamer < (run (m + k)).sourcing.created ∧
        (Owns (run (m + k)) streamer ↔ Owns (run m) streamer) := by
    induction k with
    | zero => exact ⟨hcreated, Iff.rfl⟩
    | succ k ih =>
        rw [← Nat.add_assoc, hrun]
        exact ⟨created_next (hsound _) _ ih.1,
          (owns_next (hsound _) _ ih.1).trans ih.2⟩
  obtain ⟨k, rfl⟩ | ⟨k, rfl⟩ :=
    (Nat.le_total n m).imp Nat.exists_eq_add_of_le Nat.exists_eq_add_of_le
  · obtain ⟨_, _, _, hinstalled, _⟩ := id howns
    have hknown := (hsound n).known hinstalled
    exact (hsame n k hknown).2.mpr howns
  · exact (hsame m k hcreated).2.mp howns

section Runs

variable {dispatcher : Option Nat} {schedule : Nat → Action Reader}

theorem onTime_trace
    (howns : ∃ n, Owns (trace (next nextSample) (new true dispatcher) schedule n)
      streamer)
    (hslotted : ∀ n, (trace (next nextSample) (new true dispatcher)
      schedule n).sourcing.retiredBy streamer = none)
    (hintime : ∀ n, InTime streamer
      (trace (next nextSample) (new true dispatcher) schedule n) (schedule n))
    (n : Nat) :
    OnTime (trace (next nextSample) (new true dispatcher) schedule n) streamer := by
  have hkept := @kept_trace _ nextSample dispatcher schedule streamer
  obtain ⟨owner, howner⟩ := howns
  induction n with
  | zero =>
      have hnone : (new true dispatcher : Toggling Reader).sourcing.streamers streamer =
          none := rfl
      constructor <;> simp [trace, hnone]
  | succ n ih =>
      have hnow := hkept n
      refine onTime_next hnow.reporting hnow.unfiled hnow.registered _ ?_
        (hslotted n) (hintime n) ih
      exact fun hcreated => @owns_trace _ nextSample streamer
        (trace (next nextSample) (new true dispatcher) schedule) schedule
        (fun _ => rfl) (fun m => (hkept m).reporting.sound) owner howner (n + 1) hcreated

/-- An ended pacing task stays so. -/
theorem ended_trace {start : Nat} {playing : Playing Reader}
    (hplaying : (trace (next nextSample) (new true dispatcher)
      schedule start).sourcing.streamers streamer = some playing)
    (hended : playing.leg.pacingAt = .ended) (k : Nat) :
    ∃ held, (trace (next nextSample) (new true dispatcher)
        schedule (start + k)).sourcing.streamers streamer = some held ∧
      held.leg.pacingAt = .ended := by
  have hkept := @kept_trace _ nextSample dispatcher schedule streamer
  induction k with
  | zero => exact ⟨playing, hplaying, hended⟩
  | succ k ih =>
      obtain ⟨before, hbefore, hended⟩ := ih
      have hsound := (hkept (start + k)).reporting.sound
      obtain ⟨held, hheld, hmoves⟩ := @moves_next _ nextSample _ _ _
        (Nat.ne_of_lt (hsound.present hbefore)) hbefore (schedule (start + k))
      exact ⟨held, hheld, ended_moves hmoves hended⟩

theorem called_trace (hfair : Fair (Needed streamer) schedule)
    (honTime : ∀ n, OnTime
      (trace (next nextSample) (new true dispatcher) schedule n) streamer)
    {start : Nat} {playing : Playing Reader}
    (hplaying : (trace (next nextSample) (new true dispatcher)
      schedule start).sourcing.streamers streamer = some playing)
    (hended : playing.leg.pacingAt = .ended) :
    ∃ n, (trace (next nextSample) (new true dispatcher)
      schedule n).sourcing.invoked streamer ≠ [] := by
  have hkept := @kept_trace _ nextSample dispatcher schedule streamer
  have hadvances (m : Nat) (hm : start ≤ m)
      (huncalled : ¬ (trace (next nextSample) (new true dispatcher)
        schedule m).sourcing.invoked streamer ≠ []) :
      Advances streamer (trace (next nextSample) (new true dispatcher) schedule m)
        (schedule m)
        (trace (next nextSample) (new true dispatcher) schedule (m + 1)) := by
    obtain ⟨held, hheld, hlate⟩ := @ended_trace _ nextSample streamer dispatcher
      schedule _ _ hplaying hended (m - start)
    rw [Nat.add_sub_cancel' hm] at hheld
    exact @advances_next _ nextSample _ _ _ (hkept m).reporting (honTime m) hheld hlate
      (not_not.mp huncalled) (schedule m)
  obtain ⟨n, _, hcalled⟩ := @Fair.eventually_of_helpful _ _ _ _ _ _
    (remaining streamer) _ (fun now => now.sourcing.invoked streamer ≠ []) _ _ hfair
    wellFounded_nearer start (needed_helpful streamer)
    (fun m hm huncalled => (hadvances m hm huncalled).imp_right
      (Or.imp_right And.left))
    (fun m hm huncalled hscheduled => (hadvances m hm huncalled).imp_right
      fun hcase => hcase.resolve_right fun hsame => hsame.2 hscheduled)
  exact ⟨n, hcalled⟩

theorem lost_trace {m : Nat}
    (hlate : ¬ InTime streamer
      (trace (next nextSample) (new true dispatcher) schedule m) (schedule m)) (k : Nat) :
    Lost (trace (next nextSample) (new true dispatcher) schedule (m + 1 + k))
      streamer := by
  have hkept := @kept_trace _ nextSample dispatcher schedule streamer
  induction k with
  | zero =>
      have hnow := hkept m
      exact lost_of_late hnow.reporting hnow.unfiled hnow.registered _ hlate
  | succ k ih => exact lost_next (hkept _).reporting _ ih

theorem invoked_trace (n k : Nat) :
    (trace (next nextSample) (new true dispatcher)
        schedule n).sourcing.invoked streamer <+:
      (trace (next nextSample) (new true dispatcher)
        schedule (n + k)).sourcing.invoked streamer := by
  have hkept := @kept_trace _ nextSample dispatcher schedule streamer
  induction k with
  | zero => exact List.prefix_refl _
  | succ k ih => exact ih.trans (serves_next (hkept _).reporting _).2

end Runs

/-- The end of a source is reported at most once; and where the leg that owns the
callback has ended without being taken out of its slot, exactly once if and only if
the callback was registered when the pacing task took it and its call was
accepted. -/
theorem invoked_once_iff
    (nextSample : Reader → Except RustTgCallsError Sample × Reader)
    (dispatcher : Option Nat) (schedule : Nat → Action Reader) (streamer : Nat)
    (hfair : Fair (Needed streamer) schedule)
    (howns : ∃ n, Owns (trace (next nextSample) (new true dispatcher) schedule n)
      streamer)
    (hended : ∃ n, ∃ playing ∈ (trace (next nextSample) (new true dispatcher)
      schedule n).sourcing.streamers streamer, playing.leg.pacingAt = .ended)
    (hslotted : ∀ n, (trace (next nextSample) (new true dispatcher)
      schedule n).sourcing.retiredBy streamer = none) :
    let run := trace (next nextSample) (new true dispatcher) schedule
    (∀ n, ((run n).sourcing.invoked streamer).length ≤ 1) ∧
      ((∃ n, ∀ later, n ≤ later →
          ((run later).sourcing.invoked streamer).length = 1) ↔
        ∀ n, InTime streamer (run n) (schedule n)) := by
  intro run
  have honce (n : Nat) : ((run n).sourcing.invoked streamer).length ≤ 1 := by
    have hfiled := (@kept_trace _ nextSample dispatcher schedule streamer n).unfiled.once
    simp only [filed, List.length_append] at hfiled
    exact Nat.le_trans (Nat.le_add_right _ _) hfiled
  refine ⟨honce, ?_, ?_⟩
  · rintro ⟨n, hinvoked⟩ m
    by_contra hlate
    obtain ⟨hempty, _⟩ := lost_trace hlate n
    simp only [filed, List.append_eq_nil_iff] at hempty
    have hone := hinvoked (m + 1 + n) (by omega)
    simp [run, hempty.1] at hone
  · intro hintime
    have honTime := onTime_trace howns hslotted hintime
    obtain ⟨start, playing, hplaying, hended⟩ := hended
    obtain ⟨n, hcalled⟩ := called_trace hfair honTime hplaying hended
    refine ⟨n, fun later hlater => ?_⟩
    obtain ⟨k, rfl⟩ := Nat.exists_eq_add_of_le hlater
    have hpositive := List.length_pos_of_ne_nil hcalled
    have hmore := (@invoked_trace _ nextSample streamer dispatcher schedule n k).length_le
    have hmost := honce (n + k)
    simp only [run] at hmost ⊢
    omega

/-! A source that ends at once, behind the registration and before it. -/

def turns (n : Nat) : Action (List Sample) :=
  match n % 3 with
  | 0 => .sourcing (.report 0)
  | 1 => .sourcing (.dispatch .recv)
  | _ => .sourcing (.dispatch .execute)

def endAtOnce : List (Sourcing.Action (List Sample)) := feed 0 ++ pace 0 6

def registeredFirst : List (Action (List Sample)) :=
  (install 0 ⟨some [], none⟩ 15 ++ endAtOnce).map .sourcing

def callbackTaken : List (Sourcing.Action (List Sample)) :=
  .report 0 :: List.replicate 6 (.setSourceStep 0 true)

/-- Where `set_source` is yet to register the callback. -/
def endedFirst : List (Action (List Sample)) :=
  (install 0 ⟨some [], none⟩ 9 ++ endAtOnce ++ callbackTaken).map .sourcing

theorem fair_turns : Fair (Needed 0) turns := by
  rintro action hneeded n
  obtain rfl | rfl | rfl := hneeded
  · exact ⟨3 * n, by omega, by simp [turns]⟩
  · exact ⟨3 * n + 1, by omega, by simp [turns, Nat.add_mod]⟩
  · exact ⟨3 * n + 2, by omega, by simp [turns, Nat.add_mod]⟩

theorem retiredBy_turns (state : Toggling (List Sample)) (n : Nat) :
    (state.next sampleNext (turns n)).sourcing.retiredBy = state.sourcing.retiredBy := by
  unfold turns
  split
  · exact (works_report state.sourcing 0).retiredBy
  · exact (works_dispatch state.sourcing .recv).retiredBy
  · exact (works_dispatch state.sourcing .execute).retiredBy

theorem slotted_turns {first : List (Action (List Sample))}
    (hslotted : (after (next sampleNext) (new true (some 4))
      first).sourcing.retiredBy 0 = none) (n : Nat) :
    (trace (next sampleNext) (new true (some 4))
      (upon first turns) n).sourcing.retiredBy 0 = none := by
  have hkept := @kept_trace _ sampleNext (some 4) (upon first turns) 0
  have hlate (k : Nat) : (trace (next sampleNext) (new true (some 4))
      (upon first turns) (first.length + k)).sourcing.retiredBy 0 = none := by
    induction k with
    | zero => rwa [Nat.add_zero, trace_upon]
    | succ k ih =>
        have hnow : upon first turns (first.length + k) = turns (first.length + k) := by
          simp [upon]
        rw [← Nat.add_assoc, trace, hnow, retiredBy_turns]
        exact ih
  by_contra hretired
  have hstays (k : Nat) : (trace (next sampleNext) (new true (some 4))
      (upon first turns) (n + k)).sourcing.retiredBy 0 ≠ none := by
    induction k with
    | zero => exact hretired
    | succ k ih => exact retired_next (hkept (n + k)).reporting.sound _ ih
  exact hstays first.length (Nat.add_comm _ _ ▸ hlate n)

theorem invoked_once_registered :
    Fair (Needed 0) (upon registeredFirst turns) ∧
      let run := trace (next sampleNext) (new true (some 4)) (upon registeredFirst turns)
      (∀ n, ((run n).sourcing.invoked 0).length ≤ 1) ∧
        ((∃ n, ∀ later, n ≤ later → ((run later).sourcing.invoked 0).length = 1) ↔
          ∀ n, InTime 0 (run n) (upon registeredFirst turns n)) := by
  have hfair := fair_turns.upon registeredFirst
  refine ⟨hfair, invoked_once_iff sampleNext (some 4) _ 0 hfair ?_ ?_ ?_⟩
  · refine ⟨registeredFirst.length, ?_⟩
    rw [trace_upon]
    exact ⟨0, .audio, ⟨⟨some [], none⟩, .returned (.ok ())⟩, by decide +kernel, rfl,
      .inl rfl⟩
  · refine ⟨registeredFirst.length, ?_⟩
    rw [trace_upon]
    exact ⟨_, rfl, rfl⟩
  · exact slotted_turns (by decide +kernel)

/-- The pacing task takes its callback before `set_source` has registered it, and
the end of the source is never reported. -/
theorem end_unreported :
    let run := trace (next sampleNext) (new true (some 4)) (upon endedFirst turns)
    Fair (Needed 0) (upon endedFirst turns) ∧ (∃ n, Owns (run n) 0) ∧
      (∃ n, ∃ playing ∈ (run n).sourcing.streamers 0, playing.leg.pacingAt = .ended) ∧
        (∀ n, (run n).sourcing.retiredBy 0 = none) ∧
          ¬ ∃ n, ∀ later, n ≤ later → ((run later).sourcing.invoked 0).length = 1 := by
  intro run
  have hkept := @kept_trace _ sampleNext (some 4) (upon endedFirst turns) 0
  refine ⟨fair_turns.upon endedFirst, ?_, ?_, slotted_turns (by decide +kernel), ?_⟩
  · refine ⟨endedFirst.length, ?_⟩
    simp only [run, trace_upon]
    exact ⟨0, .audio, ⟨⟨some [], none⟩, .returned (.ok ())⟩, by decide +kernel, rfl,
      .inl rfl⟩
  · refine ⟨endedFirst.length, ?_⟩
    simp only [run, trace_upon]
    exact ⟨_, rfl, rfl⟩
  · rintro ⟨n, hinvoked⟩
    have hlost (k : Nat) : Lost (run (endedFirst.length + k)) 0 := by
      induction k with
      | zero =>
          simp only [run, Nat.add_zero, trace_upon]
          exact ⟨by decide +kernel, _, rfl, .inl rfl⟩
      | succ k ih => exact lost_next (hkept _).reporting _ ih
    obtain ⟨hempty, _⟩ := hlost n
    simp only [filed, List.append_eq_nil_iff] at hempty
    have hone := hinvoked (endedFirst.length + n) (Nat.le_add_left _ _)
    simp [hempty.1] at hone

end Toggling

end RustTgCalls.Instances
