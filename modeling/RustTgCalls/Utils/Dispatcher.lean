import RustTgCalls.Library.Transition
import RustTgCalls.Library.DropOldest

namespace RustTgCalls.Utils

open Transition

/-! The dispatcher's bounded channel and the worker that drains it.  A task is
known by the number of its submission. -/

structure Dispatcher where
  size : Nat
  queue : List Nat
  running : Option Nat
  closed : Bool
  submitted : Nat
  executed : List Nat
  dropped : List Nat
  deriving DecidableEq, Repr

namespace Dispatcher

def new (bufSize : Nat) : Dispatcher where
  size := if bufSize = 0 then 256 else bufSize
  queue := []
  running := none
  closed := false
  submitted := 0
  executed := []
  dropped := []

inductive Action where
  | submit
  | recv
  | execute
  | close
  deriving DecidableEq, Repr

/-- `try_send` hands the task back when the channel is full, and `submit` drops
what it is handed. -/
def submit (dispatcher : Dispatcher) : Dispatcher :=
  let task := dispatcher.submitted
  let counted := { dispatcher with submitted := task + 1 }
  if dispatcher.closed then counted
  else if dispatcher.queue.length < dispatcher.size then
    { counted with queue := dispatcher.queue ++ [task] }
  else { counted with dropped := dispatcher.dropped ++ [task] }

/-- The worker takes a task when it has run the one before. -/
def recv (dispatcher : Dispatcher) : Dispatcher :=
  match dispatcher.running, dispatcher.queue with
  | none, task :: rest => { dispatcher with queue := rest, running := some task }
  | _, _ => dispatcher

def execute (dispatcher : Dispatcher) : Dispatcher :=
  match dispatcher.running with
  | some task =>
      { dispatcher with
        running := none
        executed := dispatcher.executed ++ [task] }
  | none => dispatcher

def next (dispatcher : Dispatcher) : Action → Dispatcher
  | .submit => dispatcher.submit
  | .recv => dispatcher.recv
  | .execute => dispatcher.execute
  | .close => { dispatcher with closed := true }

/-! The law of a queue that drops its oldest task. -/

/-- Each task is executed at most once and in the order of submission. -/
def InOrder (dispatcher : Dispatcher) : Prop :=
  dispatcher.executed.Sublist (List.range dispatcher.submitted)

/-- A submission treats the queue as one that drops its oldest task when it is
full and has the new one last, and nothing else drops a task. -/
def DropsOldest (dispatcher : Dispatcher) (action : Action) : Prop :=
  let left := dispatcher.next action
  match action with
  | .submit =>
      let (queue, oldest) :=
        DropOldest.push dispatcher.size dispatcher.queue dispatcher.submitted
      left.queue = queue ∧ left.dropped = dispatcher.dropped ++ oldest.toList ∧
        left.queue.getLast? = some dispatcher.submitted
  | _ => left.dropped = dispatcher.dropped

def Open (_ : Dispatcher) (action : Action) : Prop := action ≠ .close

/-- A submission finds room in the queue. -/
def Roomy (dispatcher : Dispatcher) (action : Action) : Prop :=
  action = .submit → dispatcher.queue.length < dispatcher.size

/-! What a run keeps: the tasks executed, running and queued are those
submitted, in order, less the dropped ones. -/

def pending (dispatcher : Dispatcher) : List Nat :=
  dispatcher.executed ++ (dispatcher.running.toList ++ dispatcher.queue)

structure Consistent (dispatcher : Dispatcher) : Prop where
  ordered : dispatcher.pending.Sublist (List.range dispatcher.submitted)
  opened : dispatcher.closed = false
  positive : 0 < dispatcher.size

theorem consistent_new (bufSize : Nat) : Consistent (new bufSize) where
  ordered := by simp [new, pending]
  opened := rfl
  positive := by
    simp only [new]
    split <;> omega

/-- The dispatcher's part in a submission while it is open. -/
theorem submit_open {dispatcher : Dispatcher} (hopen : dispatcher.closed = false) :
    dispatcher.submit =
      { dispatcher with
        submitted := dispatcher.submitted + 1
        queue :=
          if dispatcher.queue.length < dispatcher.size then
            dispatcher.queue ++ [dispatcher.submitted]
          else dispatcher.queue
        dropped :=
          if dispatcher.queue.length < dispatcher.size then dispatcher.dropped
          else dispatcher.dropped ++ [dispatcher.submitted] } := by
  unfold submit
  simp only [hopen, Bool.false_eq_true, if_false]
  split <;> rfl

theorem pending_recv (dispatcher : Dispatcher) :
    dispatcher.recv.pending = dispatcher.pending := by
  unfold recv
  split
  next hrunning hqueue => simp [pending, hrunning, hqueue]
  next => rfl

theorem pending_execute (dispatcher : Dispatcher) :
    dispatcher.execute.pending = dispatcher.pending := by
  unfold execute
  split
  next hrunning => simp [pending, hrunning]
  next => rfl

theorem pending_submit {dispatcher : Dispatcher}
    (hconsistent : Consistent dispatcher) :
    dispatcher.submit.pending.Sublist (List.range (dispatcher.submitted + 1)) := by
  have hbefore := hconsistent.ordered
  rw [submit_open hconsistent.opened, List.range_succ]
  by_cases hroom : dispatcher.queue.length < dispatcher.size
  · have hlast := hbefore.append (List.Sublist.refl [dispatcher.submitted])
    simpa [pending, hroom] using hlast
  · have hlast := hbefore.trans (List.sublist_append_left _ [dispatcher.submitted])
    simpa [pending, hroom] using hlast

theorem consistent_next (dispatcher : Dispatcher) (action : Action)
    (hconsistent : Consistent dispatcher) (hopen : Open dispatcher action) :
    Consistent (dispatcher.next action) := by
  obtain ⟨hordered, hopened, hpositive⟩ := hconsistent
  cases action with
  | submit =>
      refine ⟨?_, ?_, ?_⟩
      · have hsubmit := pending_submit ⟨hordered, hopened, hpositive⟩
        simpa [next, submit_open hopened] using hsubmit
      · simpa [next, submit_open hopened] using hopened
      · simpa [next, submit_open hopened] using hpositive
  | recv =>
      have hsame : dispatcher.recv.submitted = dispatcher.submitted ∧
          dispatcher.recv.closed = dispatcher.closed ∧
          dispatcher.recv.size = dispatcher.size := by
        unfold recv
        split <;> simp
      obtain ⟨hsubmitted, hclosed, hsize⟩ := hsame
      exact ⟨by simpa [next, pending_recv, hsubmitted] using hordered,
        by simpa [next, hclosed] using hopened,
        by simpa [next, hsize] using hpositive⟩
  | execute =>
      have hsame : dispatcher.execute.submitted = dispatcher.submitted ∧
          dispatcher.execute.closed = dispatcher.closed ∧
          dispatcher.execute.size = dispatcher.size := by
        unfold execute
        split <;> simp
      obtain ⟨hsubmitted, hclosed, hsize⟩ := hsame
      exact ⟨by simpa [next, pending_execute, hsubmitted] using hordered,
        by simpa [next, hclosed] using hopened,
        by simpa [next, hsize] using hpositive⟩
  | close => exact absurd rfl hopen

theorem Consistent.inOrder {dispatcher : Dispatcher}
    (hconsistent : Consistent dispatcher) : InOrder dispatcher :=
  (List.sublist_append_left _ _).trans hconsistent.ordered

/-- A task that has been submitted before is not the one submitted now. -/
theorem Consistent.queued_lt {dispatcher : Dispatcher}
    (hconsistent : Consistent dispatcher) {task : Nat}
    (hqueued : task ∈ dispatcher.queue) : task < dispatcher.submitted := by
  have hpending : task ∈ dispatcher.pending := by simp [pending, hqueued]
  exact List.mem_range.mp (hconsistent.ordered.subset hpending)

theorem dropped_recv (dispatcher : Dispatcher) :
    dispatcher.recv.dropped = dispatcher.dropped := by
  unfold recv
  split <;> rfl

theorem dropped_execute (dispatcher : Dispatcher) :
    dispatcher.execute.dropped = dispatcher.dropped := by
  unfold execute
  split <;> rfl

/-- A full queue that keeps its tasks does not have the new one last. -/
theorem dropsOldest_submit_iff {dispatcher : Dispatcher}
    (hconsistent : Consistent dispatcher) :
    DropsOldest dispatcher .submit ↔
      dispatcher.queue.length < dispatcher.size := by
  have hsubmit := submit_open hconsistent.opened
  constructor
  · intro hdrops
    by_contra hfull
    obtain ⟨_, _, hlast⟩ := hdrops
    simp only [next, hsubmit, hfull, if_false] at hlast
    have hqueued := List.mem_of_getLast? hlast
    have hbefore := hconsistent.queued_lt hqueued
    omega
  · intro hroom
    have hpush := DropOldest.push_room hroom dispatcher.submitted
    simp [DropsOldest, next, hsubmit, hroom, hpush]

theorem dropsOldest_iff_roomy (dispatcher : Dispatcher) (action : Action)
    (hconsistent : Consistent dispatcher) (_ : Open dispatcher action) :
    DropsOldest dispatcher action ↔ Roomy dispatcher action := by
  cases action with
  | submit => simpa [Roomy] using dropsOldest_submit_iff hconsistent
  | recv => simp [DropsOldest, Roomy, next, dropped_recv]
  | execute => simp [DropsOldest, Roomy, next, dropped_execute]
  | close => simp [DropsOldest, Roomy, next]

theorem queueLaw_iff (bufSize : Nat) (actions : List Action)
    (hopen : Along next Open (new bufSize) actions) :
    (Always next InOrder (new bufSize) actions ∧
        Along next DropsOldest (new bufSize) actions) ↔
      Along next Roomy (new bufSize) actions := by
  have hstart := consistent_new bufSize
  have hconsistent := hopen.always consistent_next hstart
  have hinOrder := hconsistent.mono fun _ => Consistent.inOrder
  have hagree := along_congr_of consistent_next dropsOldest_iff_roomy hstart hopen
  simp [hinOrder, hagree]

theorem queueLaw_burst :
    Along next Open (new 2) [.submit, .submit, .recv, .submit, .execute] ∧
      ((Always next InOrder (new 2) [.submit, .submit, .recv, .submit, .execute] ∧
          Along next DropsOldest (new 2)
            [.submit, .submit, .recv, .submit, .execute]) ↔
        Along next Roomy (new 2) [.submit, .submit, .recv, .submit, .execute]) := by
  have hopen :
      Along next Open (new 2) [.submit, .submit, .recv, .submit, .execute] := by
    simp [Open]
  exact ⟨hopen, queueLaw_iff 2 _ hopen⟩

/-- The second event is lost to a full queue and the first one stays. -/
theorem full_queue_drops_newest :
    Along next Open (new 1) [.submit, .submit] ∧
      (after next (new 1) [.submit, .submit]).queue = [0] ∧
      (after next (new 1) [.submit, .submit]).dropped = [1] ∧
      ¬ Along next DropsOldest (new 1) [.submit, .submit] := by
  simp [Open, DropsOldest, next, new, submit, DropOldest.push]

end Dispatcher

end RustTgCalls.Utils
