import Mathlib.Algebra.BigOperators.Group.List.Basic
import Mathlib.Algebra.Order.Monoid.Defs

namespace Deadline

/-! Work that is paced by a deadline: every item begins no earlier than the
deadline, which then moves on by the length of the item.  A late deadline may be
moved to the present, and one that is not moved lags behind it by no more than
the slack. -/

structure Slot (Time : Type _) where
  start : Time
  length : Time
  deriving DecidableEq, Repr

variable {Time : Type _} [AddCommMonoid Time]

def total (slots : List (Slot Time)) : Time := (slots.map Slot.length).sum

@[simp] theorem total_nil : total ([] : List (Slot Time)) = 0 := rfl

theorem total_append (first second : List (Slot Time)) :
    total (first ++ second) = total first + total second := by
  simp [total]

theorem total_singleton (slot : Slot Time) : total [slot] = slot.length := by
  simp [total]

variable [PartialOrder Time]

/-- From each slot on, the deadline has moved by the slots behind it, but for
the slack. -/
def Covers (slack deadline : Time) (slots : List (Slot Time)) : Prop :=
  ∀ i slot, slots[i]? = some slot →
    slot.start + total (slots.drop (i + 1)) ≤ deadline + slack

/-- No two slots are closer than the lengths of those between them, but for the
slack. -/
def Spaced (slack : Time) (slots : List (Slot Time)) : Prop :=
  ∀ i j first second, i < j → slots[i]? = some first → slots[j]? = some second →
    first.start + total ((slots.take j).drop (i + 1)) ≤ second.start + slack

variable {slack deadline later : Time} {slots : List (Slot Time)}

theorem covers_nil : Covers slack deadline [] := by
  intro i slot hslot
  cases hslot

theorem spaced_nil : Spaced slack ([] : List (Slot Time)) := by
  intro i j first second _ hfirst
  cases hfirst

section Ordered

variable [IsOrderedAddMonoid Time]

theorem Covers.mono (hcovers : Covers slack deadline slots)
    (hlater : deadline ≤ later) : Covers slack later slots := by
  intro i slot hslot
  exact (hcovers i slot hslot).trans (add_le_add_left hlater slack)

/-- The deadline moves on by the length of the newest slot. -/
theorem Covers.push (hcovers : Covers slack deadline slots) {slot : Slot Time}
    (hmoved : deadline + slot.length ≤ later)
    (hlag : slot.start ≤ later + slack) :
    Covers slack later (slots ++ [slot]) := by
  intro i each heach
  by_cases hold : i < slots.length
  · rw [List.getElem?_append_left hold] at heach
    have hdrop : (slots ++ [slot]).drop (i + 1) = slots.drop (i + 1) ++ [slot] :=
      List.drop_append_of_le_length hold
    calc each.start + total ((slots ++ [slot]).drop (i + 1))
        = each.start + total (slots.drop (i + 1)) + slot.length := by
          rw [hdrop, total_append, total_singleton, add_assoc]
      _ ≤ deadline + slack + slot.length :=
          add_le_add_left (hcovers i each heach) slot.length
      _ = deadline + slot.length + slack := add_right_comm _ _ _
      _ ≤ later + slack := add_le_add_left hmoved slack
  · have hnew : (slots ++ [slot])[i]? = [slot][i - slots.length]? :=
      List.getElem?_append_right (Nat.le_of_not_lt hold)
    rw [hnew] at heach
    obtain ⟨hlast, rfl⟩ := List.getElem?_eq_some_iff.mp heach
    have hend : i = slots.length := by
      simp only [List.length_singleton] at hlast
      omega
    subst hend
    simpa [total] using hlag

/-- A slot that begins no earlier than the deadline. -/
theorem Spaced.push (hspaced : Spaced slack slots)
    (hcovers : Covers slack deadline slots) {slot : Slot Time}
    (hstart : deadline ≤ slot.start) : Spaced slack (slots ++ [slot]) := by
  intro i j first second hij hfirst hsecond
  have hlength := (List.getElem?_eq_some_iff.mp hsecond).1
  rw [List.length_append, List.length_singleton] at hlength
  have hi : i < slots.length := by omega
  rw [List.getElem?_append_left hi] at hfirst
  have htake : (slots ++ [slot]).take j = slots.take j :=
    List.take_append_of_le_length (by omega)
  rw [htake]
  by_cases hold : j < slots.length
  · rw [List.getElem?_append_left hold] at hsecond
    exact hspaced i j first second hij hfirst hsecond
  · have hend : j = slots.length := by omega
    subst hend
    have hslot : slot = second := by simpa using hsecond
    subst hslot
    rw [List.take_length]
    exact (hcovers i first hfirst).trans (add_le_add_left hstart slack)

end Ordered

end Deadline
