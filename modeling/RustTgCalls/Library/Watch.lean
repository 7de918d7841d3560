import Mathlib.Data.List.Basic

/-- A channel that holds one value, with receivers that wait for it to change. -/
structure Watch (α : Type) where
  value : α
  version : Nat
  receivers : Nat
  senderDropped : Bool
  deriving DecidableEq, Repr

namespace Watch

variable {α : Type}

/-- The channel with its first receiver. -/
def channel (value : α) : Watch α where
  value := value
  version := 0
  receivers := 1
  senderDropped := false

def dropReceiver (watch : Watch α) : Watch α :=
  { watch with receivers := watch.receivers - 1 }

/-- The new receiver has seen the value that is there. -/
def subscribe (watch : Watch α) : Watch α × Nat :=
  ({ watch with receivers := watch.receivers + 1 }, watch.version)

/-- Nothing is stored where nobody receives. -/
def send (watch : Watch α) (value : α) : Watch α :=
  if watch.receivers = 0 then watch
  else { watch with value, version := watch.version + 1 }

def dropSender (watch : Watch α) : Watch α := { watch with senderDropped := true }

/-- What a receiver has seen once its wait ends; `none` while it waits. -/
def changed (watch : Watch α) (seen : Nat) : Option Nat :=
  if watch.version ≠ seen then some watch.version
  else if watch.senderDropped then some seen
  else none

@[simp] theorem send_unreceived {watch : Watch α} (hnone : watch.receivers = 0) (value : α) :
    watch.send value = watch := by
  rw [send, if_pos hnone]

/-- The wait of a receiver that is up to date ends only with the sender. -/
theorem changed_upToDate {watch : Watch α} {seen now : Nat} (hversion : watch.version = seen)
    (hnow : watch.changed seen = some now) : now = seen ∧ watch.senderDropped = true := by
  simp only [changed, hversion, ne_eq, not_true_eq_false, if_false] at hnow
  split at hnow
  next hdropped => exact ⟨(Option.some.inj hnow).symm, hdropped⟩
  next => cases hnow

theorem changed_outdated {watch : Watch α} {seen : Nat} (hversion : watch.version ≠ seen) :
    watch.changed seen = some watch.version := by
  rw [changed, if_pos hversion]

end Watch
