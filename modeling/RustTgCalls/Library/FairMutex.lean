import Mathlib.Data.List.Nodup

/-- A mutex that is handed over in the order of the requests: nobody waits for a
free one. -/
inductive FairMutex (Task : Type) where
  | free
  | held (holder : Task) (waiting : List Task)
  deriving DecidableEq, Repr

namespace FairMutex

variable {Task : Type}

def holder : FairMutex Task → Option Task
  | .free => none
  | .held holder _ => some holder

def request (task : Task) : FairMutex Task → FairMutex Task
  | .free => .held task []
  | .held holder waiting => .held holder (waiting ++ [task])

def release : FairMutex Task → FairMutex Task
  | .free => .free
  | .held _ [] => .free
  | .held _ (task :: waiting) => .held task waiting

@[simp] theorem holder_free : (free : FairMutex Task).holder = none := rfl

@[simp] theorem holder_held (task : Task) (waiting : List Task) :
    (held task waiting).holder = some task := rfl

@[simp] theorem request_free (task : Task) : request task free = held task [] :=
  rfl

@[simp] theorem request_held (task holder : Task) (waiting : List Task) :
    request task (held holder waiting) = held holder (waiting ++ [task]) := rfl

@[simp] theorem release_held_nil (holder : Task) :
    release (held holder []) = free := rfl

@[simp] theorem release_held_cons (holder task : Task) (waiting : List Task) :
    release (held holder (task :: waiting)) = held task waiting := rfl

/-- The holder and those behind it, in order. -/
def tasks : FairMutex Task → List Task
  | .free => []
  | .held holder waiting => holder :: waiting

theorem holder_eq_head (mutex : FairMutex Task) :
    mutex.holder = mutex.tasks.head? := by
  cases mutex <;> rfl

@[simp] theorem tasks_request (mutex : FairMutex Task) (task : Task) :
    (mutex.request task).tasks = mutex.tasks ++ [task] := by
  cases mutex <;> rfl

@[simp] theorem tasks_release (mutex : FairMutex Task) :
    mutex.release.tasks = mutex.tasks.tail := by
  cases mutex with
  | free => rfl
  | held holder waiting => cases waiting <;> rfl

theorem mem_of_holder {mutex : FairMutex Task} {task : Task}
    (hholder : mutex.holder = some task) : task ∈ mutex.tasks := by
  rw [holder_eq_head] at hholder
  exact List.mem_of_mem_head? hholder

/-- Who waits for a mutex waits behind its holder. -/
theorem holder_of_mem {mutex : FairMutex Task} {task : Task}
    (hmem : task ∈ mutex.tasks) : ∃ holder, mutex.holder = some holder := by
  cases mutex with
  | free => cases hmem
  | held holder waiting => exact ⟨holder, rfl⟩

/-- A request leaves the mutex to its holder. -/
theorem holder_request {mutex : FairMutex Task} {task holder : Task}
    (hholder : mutex.holder = some holder) :
    (mutex.request task).holder = some holder := by
  cases mutex with
  | free => cases hholder
  | held found waiting => exact hholder

theorem not_mem_release {mutex : FairMutex Task} {holder : Task}
    (hnodup : mutex.tasks.Nodup) (hholder : mutex.holder = some holder) :
    holder ∉ mutex.release.tasks := by
  cases mutex with
  | free => cases hholder
  | held found waiting =>
      obtain rfl := Option.some.inj hholder
      rw [tasks_release]
      exact (List.nodup_cons.mp hnodup).1

theorem nodup_request {mutex : FairMutex Task} {task : Task}
    (hnodup : mutex.tasks.Nodup) (hnew : task ∉ mutex.tasks) :
    (mutex.request task).tasks.Nodup := by
  rw [tasks_request]
  rw [← List.concat_eq_append]
  exact hnodup.concat hnew

theorem nodup_release {mutex : FairMutex Task} (hnodup : mutex.tasks.Nodup) :
    mutex.release.tasks.Nodup := by
  rw [tasks_release]
  exact hnodup.tail

theorem mem_of_mem_release {mutex : FairMutex Task} {task : Task}
    (hmem : task ∈ mutex.release.tasks) : task ∈ mutex.tasks := by
  rw [tasks_release] at hmem
  exact List.mem_of_mem_tail hmem

/-- A release by the holder takes nobody else out. -/
theorem mem_release {mutex : FairMutex Task} {task holder : Task}
    (hholder : mutex.holder = some holder) (hother : task ≠ holder)
    (hmem : task ∈ mutex.tasks) : task ∈ mutex.release.tasks := by
  cases mutex with
  | free => cases hmem
  | held found waiting =>
      obtain rfl := Option.some.inj hholder
      rw [tasks_release]
      exact (List.mem_cons.mp hmem).resolve_left hother

end FairMutex
