import RustTgCalls.Wrtc.FactoryMonitor

namespace RustTgCalls.Wrtc

open Transition

/-! Until when the task of the factory's monitor can be stopped. -/

namespace FactoryMonitor

/-- Of the first `stop` and the end of the monitor, the `stop` is first, and the task
was there to hear it. -/
def StopHeard (started : Bool) : List Action → Prop
  | [] => True
  | .start :: rest => StopHeard true rest
  | .stop :: _ => started = true
  | .drop :: _ => False
  | _ :: rest => StopHeard started rest

section End

variable {monitor : FactoryMonitor}

structure SameFlags (monitor moved : FactoryMonitor) : Prop where
  started : moved.started = monitor.started
  stopped : moved.stopped = monitor.stopped
  value : moved.cancel.value = monitor.cancel.value
  senderDropped : moved.cancel.senderDropped = monitor.cancel.senderDropped

theorem SameFlags.call {called : FactoryMonitor} (hsame : SameFlags monitor called) :
    SameFlags monitor (monitor.call called) := by
  unfold FactoryMonitor.call
  split
  · exact ⟨rfl, rfl, rfl, rfl⟩
  · exact hsame

/-- Nothing else touches the flags. -/
theorem next_flags (monitor : FactoryMonitor) (action : Action) :
    action = .start ∨ action = .stop ∨ action = .drop ∨
      SameFlags monitor (monitor.next action) := by
  have hsame : SameFlags monitor monitor := ⟨rfl, rfl, rfl, rfl⟩
  cases action with
  | start => exact .inl rfl
  | stop => exact .inr (.inl rfl)
  | drop => exact .inr (.inr (.inl rfl))
  | register stack =>
      refine .inr (.inr (.inr (SameFlags.call ?_)))
      rw [FactoryMonitor.register, giveUp_frame]
      exact ⟨rfl, rfl, rfl, rfl⟩
  | unregister stack =>
      refine .inr (.inr (.inr (SameFlags.call ?_)))
      rw [FactoryMonitor.unregister, giveUp_frame]
      exact ⟨rfl, rfl, rfl, rfl⟩
  | tick =>
      refine .inr (.inr (.inr ?_))
      simp only [FactoryMonitor.next, FactoryMonitor.tick]
      split <;> exact ⟨rfl, rfl, rfl, rfl⟩
  | yield stack =>
      refine .inr (.inr (.inr ?_))
      simp only [FactoryMonitor.next, FactoryMonitor.yield]
      split
      · split <;> exact ⟨rfl, rfl, rfl, rfl⟩
      · exact hsame
  | visit state videoSsrc now now_pos =>
      refine .inr (.inr (.inr ?_))
      simp only [FactoryMonitor.next, FactoryMonitor.visit]
      split <;> exact ⟨rfl, rfl, rfl, rfl⟩
  | endPass =>
      refine .inr (.inr (.inr ?_))
      simp only [FactoryMonitor.next, FactoryMonitor.endPass]
      split <;> exact ⟨rfl, rfl, rfl, rfl⟩
  | changed =>
      refine .inr (.inr (.inr ?_))
      simp only [FactoryMonitor.next, FactoryMonitor.changed]
      split
      · split
        · split <;> exact ⟨rfl, rfl, rfl, rfl⟩
        · exact hsame
      · exact hsame

theorem steady_after (hsteady : Steady monitor) (actions : List Action) :
    Steady (after next monitor actions) := by
  induction actions generalizing monitor with
  | nil => exact hsteady
  | cons action rest ih => exact ih (hsteady.next action)

theorem mapped_after (hmapped : Mapped monitor) (actions : List Action) :
    Mapped (after next monitor actions) := by
  induction actions generalizing monitor with
  | nil => exact hmapped
  | cons action rest ih => exact ih (hmapped.next action)

/-- A pass that is under way comes to its end, by way of the entries it owes. -/
theorem finishes_pass {seen : Nat} {doKeepalive : Bool} {due yielded : List Nat}
    (hmapped : Mapped monitor)
    (htask : monitor.task = .visiting seen doKeepalive due yielded none) :
    ∃ rest, (after next monitor rest).task = .select seen ∧
      (after next monitor rest).cancel = monitor.cancel := by
  induction hlength : due.length using Nat.strong_induction_on
    generalizing monitor due yielded with
  | _ length ih =>
      cases due with
      | nil => exact ⟨[.endPass], by simp [next, endPass, htask], by simp [next, endPass, htask]⟩
      | cons stack due =>
          have hdue : stack ∈ monitor.task.due := by simp [htask, MonitorTask.due]
          have hahead := hmapped.ahead stack hdue
          rw [htask] at hahead
          obtain ⟨entry, hlookup⟩ :=
            Option.isSome_iff_exists.mp (AList.lookup_isSome.mpr (hmapped.due stack hdue))
          let visit : Action := .visit .connecting 0 1 Int.one_pos
          have hvisited : ∃ left, (after next monitor [.yield stack, visit]).task =
              .visiting seen doKeepalive (due.filter (· ≠ stack)) left none ∧
                (after next monitor [.yield stack, visit]).cancel = monitor.cancel := by
            have hnew : stack ∉ yielded := hahead
            refine ⟨stack :: yielded, ?_, ?_⟩ <;>
              simp [visit, next, FactoryMonitor.yield, FactoryMonitor.visit, htask, hlookup, hnew]
          obtain ⟨left, hstage, hcancel⟩ := hvisited
          have hshorter : (due.filter (· ≠ stack)).length < length := by
            rw [← hlength]
            exact Nat.lt_succ_of_le (List.length_filter_le _ _)
          obtain ⟨rest, hselect, hsame⟩ :=
            ih _ hshorter (mapped_after hmapped [.yield stack, visit]) hstage rfl
          refine ⟨[.yield stack, visit] ++ rest, ?_, ?_⟩
          · rwa [after_append]
          · rw [after_append, hsame, hcancel]

/-- A task that has been told to stop can come to its end. -/
theorem ends_of_value (hsteady : Steady monitor) (hmapped : Mapped monitor)
    (hvalue : monitor.cancel.value = true) : ∃ rest, (after next monitor rest).task = .ended := by
  have hversion := hsteady.version
  rw [if_pos hvalue] at hversion
  have hselect (now : FactoryMonitor) (htask : now.task = .select 0)
      (hcancel : now.cancel = monitor.cancel) : (after next now [.changed]).task = .ended := by
    have hchanged : now.cancel.changed 0 = some 1 := by
      rw [hcancel, Watch.changed_outdated (by rw [hversion]; decide), hversion]
    have hvalue : now.cancel.value = true := hcancel ▸ hvalue
    simp [next, FactoryMonitor.changed, htask, hchanged, hvalue]
  have hpass (now : FactoryMonitor) (hnow : Mapped now) (doKeepalive : Bool)
      (due yielded : List Nat) (htask : now.task = .visiting 0 doKeepalive due yielded none)
      (hcancel : now.cancel = monitor.cancel) :
      ∃ rest, (after next now rest).task = .ended := by
    obtain ⟨rest, hstage, hsame⟩ := finishes_pass hnow htask
    refine ⟨rest ++ [.changed], ?_⟩
    rw [after_append]
    exact hselect _ hstage (hsame.trans hcancel)
  cases htask : monitor.task with
  | unspawned =>
      cases hstarted : monitor.started with
      | false =>
          rw [(hsteady.unstarted hstarted).2.2] at hvalue
          cases hvalue
      | true => exact absurd htask (hsteady.spawned hstarted)
  | ended => exact ⟨[], htask⟩
  | select seen =>
      obtain ⟨rfl, _⟩ := hsteady.running seen (by rw [htask]; rfl)
      exact ⟨[.changed], hselect monitor htask rfl⟩
  | visiting seen doKeepalive due yielded loaded =>
      obtain ⟨rfl, _⟩ := hsteady.running seen (by rw [htask]; rfl)
      cases loaded with
      | none => exact hpass monitor hmapped doKeepalive due yielded htask rfl
      | some entry =>
          let visit : Action := .visit .connecting 0 1 Int.one_pos
          obtain ⟨rest, hended⟩ := hpass (monitor.next visit) (hmapped.next visit) doKeepalive due
            yielded (by simp [visit, next, FactoryMonitor.visit, htask])
            (by simp [visit, next, FactoryMonitor.visit, htask])
          exact ⟨visit :: rest, hended⟩

/-- What has been told cannot be taken back, and what can no longer be told stays so. -/
theorem value_next (hfixed : monitor.stopped = true ∨ monitor.cancel.senderDropped = true)
    (action : Action) :
    (monitor.next action).cancel.value = monitor.cancel.value ∧
      ((monitor.next action).stopped = true ∨
        (monitor.next action).cancel.senderDropped = true) := by
  obtain rfl | rfl | rfl | hsame := next_flags monitor action
  · simp only [next, call, FactoryMonitor.start]
    split
    · exact ⟨rfl, hfixed⟩
    · split <;> exact ⟨rfl, hfixed⟩
  · simp only [next, call, FactoryMonitor.stop]
    split
    next => exact ⟨rfl, hfixed⟩
    next hopen =>
      rw [if_pos (hfixed.resolve_right hopen)]
      exact ⟨rfl, hfixed⟩
  · exact ⟨rfl, .inr rfl⟩
  · rw [hsame.stopped, hsame.value, hsame.senderDropped]
    exact ⟨rfl, hfixed⟩

theorem value_after (hfixed : monitor.stopped = true ∨ monitor.cancel.senderDropped = true)
    (actions : List Action) :
    (after next monitor actions).cancel.value = monitor.cancel.value := by
  induction actions generalizing monitor with
  | nil => rfl
  | cons action rest ih =>
      obtain ⟨hvalue, hfixed⟩ := value_next hfixed action
      rw [after_cons, ih hfixed, hvalue]

/-- Once it is decided, what was told decides. -/
theorem ends_iff_value (hsteady : Steady monitor) (hmapped : Mapped monitor)
    (hfixed : monitor.stopped = true ∨ monitor.cancel.senderDropped = true)
    (actions : List Action) :
    (∃ rest, (after next monitor (actions ++ rest)).task = .ended) ↔
      monitor.cancel.value = true := by
  constructor
  · rintro ⟨rest, hended⟩
    rw [← value_after hfixed (actions ++ rest)]
    exact (steady_after hsteady _).ended hended
  · intro hvalue
    rw [← value_after hfixed actions] at hvalue
    obtain ⟨rest, hended⟩ :=
      ends_of_value (steady_after hsteady actions) (mapped_after hmapped actions) hvalue
    exact ⟨rest, by rwa [after_append]⟩

theorem value_unstopped (hsteady : Steady monitor) (hstopped : monitor.stopped = false) :
    monitor.cancel.value = false := by
  refine Bool.eq_false_iff.mpr fun hvalue => ?_
  rw [hsteady.stopped hvalue] at hstopped
  cases hstopped

theorem next_stop (hopen : monitor.cancel.senderDropped = false)
    (hstopped : monitor.stopped = false) :
    monitor.next .stop =
      { monitor with stopped := true, cancel := monitor.cancel.send true } := by
  simp [next, call, FactoryMonitor.stop, hopen, hstopped]

/-- The first stop is told exactly to a task that is there. -/
theorem value_stop (hsteady : Steady monitor) (hopen : monitor.cancel.senderDropped = false)
    (hstopped : monitor.stopped = false) :
    (monitor.next .stop).cancel.value = monitor.started := by
  have hvalue := value_unstopped hsteady hstopped
  rw [next_stop hopen hstopped]
  cases hstarted : monitor.started with
  | false => simp [(hsteady.unstarted hstarted).2.1, hvalue]
  | true =>
      have hreceivers : monitor.cancel.receivers = 1 := by
        cases htask : monitor.task with
        | unspawned => exact absurd htask (hsteady.spawned hstarted)
        | ended =>
            rw [hsteady.ended htask] at hvalue
            cases hvalue
        | select seen => exact (hsteady.running seen (by rw [htask]; rfl)).2
        | visiting seen => exact (hsteady.running seen (by rw [htask]; rfl)).2
      simp [Watch.send, hreceivers]

theorem start_flags (hopen : monitor.cancel.senderDropped = false) :
    (monitor.next .start).started = true ∧
      (monitor.next .start).stopped = monitor.stopped ∧
        (monitor.next .start).cancel.senderDropped = false := by
  simp only [next, call, hopen, FactoryMonitor.start]
  split
  next hdropped => cases hdropped
  next =>
    split
    next hstarted => exact ⟨hstarted, rfl, hopen⟩
    next => exact ⟨rfl, rfl, hopen⟩

theorem ends_iff_from (hsteady : Steady monitor) (hmapped : Mapped monitor)
    (hstopped : monitor.stopped = false) (hopen : monitor.cancel.senderDropped = false)
    (actions : List Action) :
    (∃ rest, (after next monitor (actions ++ rest)).task = .ended) ↔
      StopHeard monitor.started actions := by
  induction actions generalizing monitor with
  | nil =>
      refine ⟨fun _ => trivial, fun _ => ?_⟩
      obtain ⟨hstarted, hstill, hopen⟩ := start_flags hopen
      have hnow := hsteady.next .start
      have hvalue := value_stop hnow hopen (hstill.trans hstopped)
      rw [hstarted] at hvalue
      obtain ⟨rest, hended⟩ :=
        ends_of_value (hnow.next .stop) ((hmapped.next .start).next .stop) hvalue
      exact ⟨.start :: .stop :: rest, hended⟩
  | cons action rest ih =>
      simp only [List.cons_append, after_cons]
      have hsteady' := hsteady.next action
      have hmapped' := hmapped.next action
      obtain rfl | rfl | rfl | hsame := next_flags monitor action
      · obtain ⟨hstarted, hstill, hopen⟩ := start_flags hopen
        rw [ih hsteady' hmapped' (hstill.trans hstopped) hopen, hstarted]
        exact Iff.rfl
      · have hfixed : (monitor.next .stop).stopped = true := by rw [next_stop hopen hstopped]
        rw [ends_iff_value hsteady' hmapped' (.inl hfixed), value_stop hsteady hopen hstopped]
        exact Iff.rfl
      · rw [ends_iff_value hsteady' hmapped' (.inr rfl)]
        have hvalue := value_unstopped hsteady hstopped
        simp [next, Watch.dropSender, hvalue, StopHeard]
      · rw [ih hsteady' hmapped' (hsame.stopped.trans hstopped)
          (hsame.senderDropped.trans hopen)]
        cases action with
        | start => rw [(start_flags hopen).1, StopHeard]
        | stop =>
            have hstill := hsame.stopped
            rw [next_stop hopen hstopped, hstopped] at hstill
            cases hstill
        | drop =>
            have hstill := hsame.senderDropped
            rw [hopen] at hstill
            cases hstill
        | _ =>
            rw [hsame.started]
            exact Iff.rfl

/-- After any calls, the task can still come to its end exactly if the first of the
calls that stop or drop the monitor, if there is one, is a stop and comes after a start. -/
theorem ends_iff (actions : List Action) :
    (∃ rest, (after next new (actions ++ rest)).task = .ended) ↔ StopHeard false actions :=
  ends_iff_from steady_new mapped_new rfl rfl actions

end End

end FactoryMonitor

end RustTgCalls.Wrtc
