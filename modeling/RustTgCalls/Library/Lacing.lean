import Mathlib.Data.List.Basic
import RustTgCalls.Library.Delimited

namespace Lacing

/-! Packets cut into segments of at most `size` symbols.  A segment shorter than
`size` ends its packet, so a packet whose length is a multiple of `size` ends in
an empty segment. -/

variable {α : Type _} {size : Nat}

inductive Laces (size : Nat) : List α → List (List α) → Prop
  | last (short : packet.length < size) : Laces size packet [packet]
  | full {segment rest : List α} (filled : segment.length = size)
      (tail : Laces size rest segments) :
      Laces size (segment ++ rest) (segment :: segments)

inductive LacesAll (size : Nat) : List (List α) → List (List α) → Prop
  | nil : LacesAll size [] []
  | cons (head : Laces size packet segments)
      (tail : LacesAll size packets rest) :
      LacesAll size (packet :: packets) (segments ++ rest)

theorem LacesAll.append {first second before behind : List (List α)}
    (hfirst : LacesAll size first before) (hsecond : LacesAll size second behind) :
    LacesAll size (first ++ second) (before ++ behind) := by
  induction hfirst with
  | nil => exact hsecond
  | cons hhead _ ih =>
      rw [List.append_assoc]
      exact .cons hhead ih

/-- The packets the segments complete, after `current` was collected, and what
is left of the packet still open. -/
def unlace (size : Nat) : List α → List (List α) → List (List α) × List α
  | current, [] => ([], current)
  | current, segment :: rest =>
      if segment.length < size then
        let (packets, left) := unlace size [] rest
        ((current ++ segment) :: packets, left)
      else
        unlace size (current ++ segment) rest

@[simp] theorem unlace_nil (current : List α) :
    unlace size current [] = ([], current) := rfl

theorem unlace_short {segment : List α} (hshort : segment.length < size)
    (current : List α) (rest : List (List α)) :
    unlace size current (segment :: rest) =
      ((current ++ segment) :: (unlace size [] rest).1,
        (unlace size [] rest).2) := by
  simp [unlace, hshort]

theorem unlace_full {segment : List α} (hfull : ¬ segment.length < size)
    (current : List α) (rest : List (List α)) :
    unlace size current (segment :: rest) =
      unlace size (current ++ segment) rest := by
  simp [unlace, hfull]

theorem unlace_append (current : List α) (first second : List (List α)) :
    unlace size current (first ++ second) =
      ((unlace size current first).1 ++
          (unlace size (unlace size current first).2 second).1,
        (unlace size (unlace size current first).2 second).2) := by
  induction first generalizing current with
  | nil => simp
  | cons segment rest ih =>
      rw [List.cons_append]
      by_cases hshort : segment.length < size
      · rw [unlace_short hshort, unlace_short hshort, ih]
        rfl
      · rw [unlace_full hshort, unlace_full hshort, ih]

/-- Unlacing items that stand for segments puts together the items of every packet. -/
theorem unlace_map {Item : Type _} {ends : Item → Prop} [DecidablePred ends]
    {data : Item → List α} (hends : ∀ item, ends item ↔ (data item).length < size)
    (current items : List Item) :
    unlace size (current.flatMap data) (items.map data) =
      ((Delimited.groups ends current items).map (List.flatMap data),
        (Delimited.pending ends current items).flatMap data) := by
  induction items generalizing current with
  | nil => rfl
  | cons item rest ih =>
      have hjoined : current.flatMap data ++ data item = (current ++ [item]).flatMap data := by
        simp
      rw [List.map_cons]
      by_cases hitem : ends item
      · have hrest := ih []
        rw [List.flatMap_nil] at hrest
        rw [unlace_short ((hends item).mp hitem), Delimited.groups_ends hitem,
          Delimited.pending_ends hitem, hjoined, hrest]
        rfl
      · have hfull : ¬ (data item).length < size := fun hshort => hitem ((hends item).mpr hshort)
        rw [unlace_full hfull, Delimited.groups_open hitem, Delimited.pending_open hitem,
          hjoined, ih]

/-- Unlacing loses nothing. -/
theorem flatten_unlace (current : List α) (segments : List (List α)) :
    (unlace size current segments).1.flatten ++ (unlace size current segments).2 =
      current ++ segments.flatten := by
  induction segments generalizing current with
  | nil => simp
  | cons segment rest ih =>
      by_cases hshort : segment.length < size
      · rw [unlace_short hshort, List.flatten_cons, List.append_assoc, ih]
        simp
      · rw [unlace_full hshort, ih]
        simp

theorem unlace_laces {packet : List α} {segments : List (List α)}
    (hlaces : Laces size packet segments) (current : List α) :
    unlace size current segments = ([current ++ packet], []) := by
  induction hlaces generalizing current with
  | last hshort => simp [unlace_short hshort]
  | full hfilled _ ih =>
      rw [unlace_full (by omega), ih]
      simp

/-- Unlacing undoes lacing. -/
theorem unlace_lacesAll {packets segments : List (List α)}
    (hlaces : LacesAll size packets segments) :
    unlace size [] segments = (packets, []) := by
  induction hlaces with
  | nil => rfl
  | cons hhead _ ih =>
      rw [unlace_append, unlace_laces hhead, ih]
      simp

end Lacing
