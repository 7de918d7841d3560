import Mathlib.Data.List.Basic

namespace DropOldest

/-! A bounded queue that makes room for a new item by dropping its oldest. -/

variable {Item : Type _} {capacity : Nat}

/-- The queue after the arrival of an item, and the item dropped for it. -/
def push (capacity : Nat) (queue : List Item) (item : Item) :
    List Item × Option Item :=
  if queue.length < capacity then (queue ++ [item], none)
  else (queue.tail ++ [item], queue.head?)

theorem push_room {queue : List Item} (hroom : queue.length < capacity)
    (item : Item) : push capacity queue item = (queue ++ [item], none) := by
  simp [push, hroom]

end DropOldest
