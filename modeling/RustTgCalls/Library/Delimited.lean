import Mathlib.Data.List.Induction
import Mathlib.Data.List.Nodup

namespace Delimited

/-! Lists cut behind the items that end a group, and what is left of the groups
once items are erased. -/

variable {α : Type _} (ends : α → Prop) [DecidablePred ends]

/-- The groups the items complete, after `current` was collected. -/
def groups : List α → List α → List (List α)
  | _, [] => []
  | current, item :: rest =>
      if ends item then (current ++ [item]) :: groups [] rest
      else groups (current ++ [item]) rest

/-- What is left of the group still open. -/
def pending : List α → List α → List α
  | current, [] => current
  | current, item :: rest =>
      if ends item then pending [] rest else pending (current ++ [item]) rest

variable {ends}

@[simp] theorem groups_nil (current : List α) : groups ends current [] = [] := rfl

@[simp] theorem pending_nil (current : List α) : pending ends current [] = current := rfl

theorem groups_ends (hends : ends item) (current rest : List α) :
    groups ends current (item :: rest) = (current ++ [item]) :: groups ends [] rest :=
  if_pos hends

theorem groups_open (hopen : ¬ ends item) (current rest : List α) :
    groups ends current (item :: rest) = groups ends (current ++ [item]) rest :=
  if_neg hopen

theorem pending_ends (hends : ends item) (current rest : List α) :
    pending ends current (item :: rest) = pending ends [] rest :=
  if_pos hends

theorem pending_open (hopen : ¬ ends item) (current rest : List α) :
    pending ends current (item :: rest) = pending ends (current ++ [item]) rest :=
  if_neg hopen

theorem groups_append (current first second : List α) :
    groups ends current (first ++ second) =
      groups ends current first ++ groups ends (pending ends current first) second := by
  induction first generalizing current with
  | nil => rfl
  | cons item rest ih =>
      rw [List.cons_append]
      by_cases hends : ends item
      · rw [groups_ends hends, groups_ends hends, pending_ends hends, ih, List.cons_append]
      · rw [groups_open hends, groups_open hends, pending_open hends, ih]

theorem pending_append (current first second : List α) :
    pending ends current (first ++ second) =
      pending ends (pending ends current first) second := by
  induction first generalizing current with
  | nil => rfl
  | cons item rest ih =>
      rw [List.cons_append]
      by_cases hends : ends item
      · rw [pending_ends hends, pending_ends hends, ih]
      · rw [pending_open hends, pending_open hends, ih]

theorem groups_of_open {items : List α} (hopen : ∀ item ∈ items, ¬ ends item)
    (current : List α) : groups ends current items = [] := by
  induction items generalizing current with
  | nil => rfl
  | cons item rest ih =>
      rw [groups_open (hopen item (by simp))]
      exact ih (fun other hother => hopen other (by simp [hother])) _

theorem pending_of_open {items : List α} (hopen : ∀ item ∈ items, ¬ ends item)
    (current : List α) : pending ends current items = current ++ items := by
  induction items generalizing current with
  | nil => simp
  | cons item rest ih =>
      rw [pending_open (hopen item (by simp)),
        ih (fun other hother => hopen other (by simp [hother]))]
      simp

/-- The one item behind a list either ends its group or joins what is open. -/
theorem pending_concat (current items : List α) (item : α) :
    pending ends current (items ++ [item]) =
      if ends item then [] else pending ends current items ++ [item] := by
  rw [pending_append]
  rfl

theorem pending_subset (items : List α) : pending ends [] items ⊆ items := by
  induction items using List.reverseRecOn with
  | nil => simp
  | append_singleton items item ih =>
      rw [pending_concat]
      split
      · exact List.nil_subset _
      · exact List.append_subset.mpr
          ⟨List.subset_append_of_subset_left _ ih, List.subset_append_right _ _⟩

theorem not_ends_of_mem_pending {items : List α} (hmem : item ∈ pending ends [] items) :
    ¬ ends item := by
  induction items using List.reverseRecOn with
  | nil => simp at hmem
  | append_singleton items last ih =>
      rw [pending_concat] at hmem
      split at hmem
      · simp at hmem
      next hopen =>
        obtain hmem | hlast := List.mem_append.mp hmem
        · exact ih hmem
        · rw [List.mem_singleton.mp hlast]
          exact hopen

/-- Every group has its place in the list. -/
theorem exists_of_groups {items : List α} {before behind : List (List α)} {group : List α}
    (hgroups : groups ends [] items = before ++ group :: behind) :
    ∃ front last back, items = front ++ last :: back ∧ ends last ∧
      before = groups ends [] front ∧ group = pending ends [] front ++ [last] := by
  induction items using List.reverseRecOn generalizing behind with
  | nil => simp at hgroups
  | append_singleton items item ih =>
      rw [groups_append] at hgroups
      by_cases hends : ends item
      · rw [groups_ends hends, groups_nil] at hgroups
        obtain rfl | ⟨others, last, rfl⟩ := behind.eq_nil_or_concat'
        · obtain ⟨hbefore, hgroup⟩ := List.append_inj' hgroups rfl
          simp only [List.cons.injEq, and_true] at hgroup
          exact ⟨items, item, [], rfl, hends, hbefore.symm, hgroup.symm⟩
        · rw [← List.cons_append, ← List.append_assoc] at hgroups
          obtain ⟨hrest, _⟩ := List.append_inj' hgroups rfl
          obtain ⟨front, last, back, rfl, hfound⟩ := ih hrest
          exact ⟨front, last, back ++ [item], by simp, hfound⟩
      · rw [groups_open hends, groups_nil, List.append_nil] at hgroups
        obtain ⟨front, last, back, rfl, hfound⟩ := ih hgroups
        exact ⟨front, last, back ++ [item], by simp, hfound⟩

/-- The first group that is completed from here on. -/
theorem exists_of_head_groups {current items group : List α}
    (hhead : group ∈ (groups ends current items).head?) :
    ∃ run last back, items = run ++ last :: back ∧ (∀ item ∈ run, ¬ ends item) ∧
      ends last ∧ group = current ++ run ++ [last] := by
  induction items generalizing current with
  | nil => simp at hhead
  | cons item rest ih =>
      by_cases hends : ends item
      · rw [groups_ends hends, List.head?_cons, Option.mem_some_iff] at hhead
        exact ⟨[], item, rest, rfl, by simp, hends, by simp [← hhead]⟩
      · rw [groups_open hends] at hhead
        obtain ⟨run, last, back, rfl, hrun, hlast, rfl⟩ := ih hhead
        refine ⟨item :: run, last, back, rfl, ?_, hlast, by simp⟩
        intro other hother
        obtain rfl | hrest := List.mem_cons.mp hother
        · exact hends
        · exact hrun other hrest

theorem eq_of_nodup_append_cons {front back front' back' : List α} {item : α}
    (hnodup : (front ++ item :: back).Nodup)
    (hsame : front ++ item :: back = front' ++ item :: back') : front = front' := by
  have hsplit := List.nodup_middle.mp hnodup
  have hnotin := (List.nodup_cons.mp hsplit).1
  simp only [List.mem_append, not_or] at hnotin
  exact ((List.append_cons_inj_of_notMem hnotin.1 hnotin.2).mp hsame).1

/-- A group that ends where one of the list does is that one. -/
theorem mem_groups_iff {front back collected : List α} {last : α}
    (hnodup : (front ++ last :: back).Nodup) (hends : ends last) :
    collected ++ [last] ∈ groups ends [] (front ++ last :: back) ↔
      collected = pending ends [] front := by
  constructor
  · intro hmem
    obtain ⟨before, behind, hgroups⟩ := List.append_of_mem hmem
    obtain ⟨front', last', back', hsplit, _, _, hgroup⟩ := exists_of_groups hgroups
    obtain ⟨hcollected, hlast⟩ := List.append_inj' hgroup rfl
    cases hlast
    rw [hcollected, eq_of_nodup_append_cons hnodup hsplit]
  · rintro rfl
    rw [groups_append, groups_ends hends]
    simp

/-- What is open reaches back to the last end. -/
theorem pending_of_mem {front behind : List α} {item : α}
    (hnodup : (front ++ item :: behind).Nodup)
    (hmem : item ∈ pending ends [] (front ++ item :: behind)) :
    pending ends [] (front ++ item :: behind) = pending ends [] front ++ item :: behind := by
  induction behind using List.reverseRecOn with
  | nil =>
      rw [pending_concat] at hmem ⊢
      split at hmem
      · simp at hmem
      next hopen => rw [if_neg hopen]
  | append_singleton behind other ih =>
      have hassoc : front ++ item :: (behind ++ [other]) =
          (front ++ item :: behind) ++ [other] := by simp
      rw [hassoc] at hnodup hmem ⊢
      rw [pending_concat] at hmem ⊢
      split at hmem
      · simp at hmem
      next hopen =>
        obtain ⟨hrest, _, hdisjoint⟩ := List.nodup_append'.mp hnodup
        have hother : item ∉ [other] := by
          apply hdisjoint
          simp
        have hearlier := (List.mem_append.mp hmem).resolve_right hother
        rw [if_neg hopen, ih hrest hearlier]
        simp

/-! Some of the items are erased. -/

section Erased

variable (ends) (kept : α → Prop) [DecidablePred kept]

/-- The item is kept and the one before it is not. -/
structure Seam (all front : List α) (item : α) (back : List α) : Prop where
  split : all = front ++ item :: back
  item_kept : kept item
  last_erased : ∃ last ∈ front.getLast?, ¬ kept last

/-- The open group as the erasure leaves it. -/
def carried (front : List α) : List α := pending ends [] (front.filter kept)

variable {ends kept}

theorem carried_subset (front : List α) : carried ends kept front ⊆ front :=
  List.Subset.trans (pending_subset _) (List.filter_subset_self front)

/-- Right behind an erased item, a group is collected as in the whole list only
if none is open. -/
theorem carried_eq_pending_iff {front : List α}
    (hlast : ∃ last ∈ front.getLast?, ¬ kept last) :
    carried ends kept front = pending ends [] front ↔
      pending ends [] front = [] ∧ carried ends kept front = [] := by
  obtain ⟨last, hlast, herased⟩ := hlast
  obtain ⟨before, rfl⟩ := List.getLast?_eq_some_iff.mp hlast
  constructor
  · intro hsame
    have hempty : pending ends [] (before ++ [last]) = [] := by
      rw [pending_concat]
      split
      · rfl
      next hopen =>
        rw [pending_concat, if_neg hopen] at hsame
        have hmem : last ∈ carried ends kept (before ++ [last]) := by simp [hsame]
        have hfilter := pending_subset _ hmem
        simp [herased] at hfilter
    exact ⟨hempty, hsame.trans hempty⟩
  · rintro ⟨hpending, hcarried⟩
    rw [hpending, hcarried]

/-- Where the collected items are not those of the whole list, they have not been
since the last seam. -/
theorem exists_seam {front : List α}
    (htorn : carried ends kept front ≠ pending ends [] front) :
    ∃ before run, front = before ++ run ∧ (∀ item ∈ run, kept item ∧ ¬ ends item) ∧
      (∃ last ∈ before.getLast?, ¬ kept last) ∧
      carried ends kept before ≠ pending ends [] before := by
  induction front using List.reverseRecOn with
  | nil => exact absurd rfl htorn
  | append_singleton front item ih =>
      by_cases hkept : kept item
      · have hcarried : carried ends kept (front ++ [item]) =
            if ends item then [] else carried ends kept front ++ [item] := by
          simp only [carried, List.filter_append, List.filter_cons, hkept, decide_true, if_true,
            List.filter_nil, pending_concat]
        rw [hcarried, pending_concat] at htorn
        by_cases hends : ends item
        · simp [hends] at htorn
        · simp only [hends, if_false, ne_eq, List.append_cancel_right_eq] at htorn
          obtain ⟨before, run, rfl, hrun, hseam⟩ := ih htorn
          refine ⟨before, run ++ [item], by simp, ?_, hseam⟩
          intro other hother
          obtain hother | hother := List.mem_append.mp hother
          · exact hrun other hother
          · rw [List.mem_singleton.mp hother]
            exact ⟨hkept, hends⟩
      · exact ⟨front ++ [item], [], by simp, by simp, ⟨item, by simp, hkept⟩, htorn⟩

theorem carried_append_open {front run : List α} (hopen : ∀ item ∈ run.filter kept, ¬ ends item) :
    carried ends kept (front ++ run) = carried ends kept front ++ run.filter kept := by
  rw [carried, List.filter_append, pending_append, pending_of_open hopen]
  rfl

/-- A group that was not collected rightly up to a seam stays torn. -/
theorem carried_ne_pending {front run : List α} {item : α} (hnodup : (front ++ item :: run).Nodup)
    (hitem : kept item) (hopen : ∀ other ∈ (item :: run).filter kept, ¬ ends other)
    (htorn : carried ends kept front ≠ pending ends [] front) :
    carried ends kept (front ++ item :: run) ≠ pending ends [] (front ++ item :: run) := by
  intro hsame
  have hcollected : carried ends kept (front ++ item :: run) =
      carried ends kept front ++ item :: run.filter kept := by
    rw [carried_append_open hopen]
    simp [hitem]
  have hmem : item ∈ pending ends [] (front ++ item :: run) := by
    rw [← hsame, hcollected]
    simp
  rw [hcollected, pending_of_mem hnodup hmem] at hsame
  have hnotin := (List.nodup_cons.mp (List.nodup_middle.mp hnodup)).1
  simp only [List.mem_append, not_or] at hnotin
  have hcarried : item ∉ carried ends kept front := fun hin => hnotin.1 (carried_subset _ hin)
  have hrun : item ∉ run.filter kept := fun hin => hnotin.2 (List.mem_of_mem_filter hin)
  exact htorn ((List.append_cons_inj_of_notMem hcarried hrun).mp hsame).1

theorem exists_of_filter {items run behind : List α} {last : α}
    (hfilter : items.filter kept = run ++ last :: behind) :
    ∃ front back, items = front ++ last :: back ∧ front.filter kept = run ∧ kept last := by
  obtain ⟨front, rest, rfl, hfront, hrest⟩ := List.filter_eq_append_iff.mp hfilter
  obtain ⟨erased, back, rfl, herased, hlast, _⟩ := List.filter_eq_cons_iff.mp hrest
  refine ⟨front ++ erased, back, by simp, ?_, of_decide_eq_true hlast⟩
  rw [List.filter_append, hfront, List.filter_eq_nil_iff.mpr herased, List.append_nil]

/-- The first group completed behind a seam where one was open is none of the list. -/
theorem not_mem_groups_of_seam {all front back group : List α} {item : α}
    (hnodup : all.Nodup) (hseam : Seam kept all front item back)
    (hopen : pending ends [] front ≠ [] ∨ carried ends kept front ≠ [])
    (hhead : group ∈
      (groups ends (carried ends kept front) ((item :: back).filter kept)).head?) :
    group ∉ groups ends [] all := by
  obtain ⟨run, last, _, hfilter, hrun, hends, rfl⟩ := exists_of_head_groups hhead
  obtain ⟨middle, rest, hmiddle, rfl, _⟩ := exists_of_filter hfilter
  have hall : all = (front ++ middle) ++ last :: rest := by
    rw [hseam.split, hmiddle, List.append_assoc]
  have htorn : carried ends kept front ≠ pending ends [] front := by
    rw [ne_eq, carried_eq_pending_iff hseam.last_erased, not_and_or]
    exact hopen
  rw [hall] at hnodup ⊢
  rw [← carried_append_open hrun, mem_groups_iff hnodup hends]
  cases middle with
  | nil =>
      rw [List.append_nil]
      exact htorn
  | cons first middle =>
      obtain ⟨rfl, _⟩ := List.cons.inj hmiddle
      have hfront := hnodup.sublist (List.sublist_append_left _ _)
      exact carried_ne_pending hfront hseam.item_kept hrun htorn

/-- A group that is none of the list is the first one behind such a seam. -/
theorem exists_seam_of_not_mem {all group : List α} {before behind : List (List α)}
    (hnodup : all.Nodup)
    (hgroups : groups ends [] (all.filter kept) = before ++ group :: behind)
    (htorn : group ∉ groups ends [] all) :
    ∃ front item back, Seam kept all front item back ∧
      (pending ends [] front ≠ [] ∨ carried ends kept front ≠ []) ∧
      group ∈ (groups ends (carried ends kept front) ((item :: back).filter kept)).head? ∧
      before = groups ends [] (front.filter kept) := by
  obtain ⟨_, last, _, hfilter, hends, rfl, rfl⟩ := exists_of_groups hgroups
  obtain ⟨front, back, rfl, rfl, hlast⟩ := exists_of_filter hfilter
  rw [mem_groups_iff hnodup hends] at htorn
  obtain ⟨earlier, run, rfl, hrun, herased, hseam⟩ := exists_seam htorn
  rw [ne_eq, carried_eq_pending_iff herased, not_and_or] at hseam
  have hkept : run.filter kept = run :=
    List.filter_eq_self.mpr fun item hitem => decide_eq_true (hrun item hitem).1
  have hopen : ∀ item ∈ run, ¬ ends item := fun item hitem => (hrun item hitem).2
  have hcarried : pending ends [] ((earlier ++ run).filter kept) =
      carried ends kept earlier ++ run := by
    rw [List.filter_append, hkept, pending_append, pending_of_open hopen]
    rfl
  have hbefore : groups ends [] ((earlier ++ run).filter kept) =
      groups ends [] (earlier.filter kept) := by
    rw [List.filter_append, hkept, groups_append, groups_of_open hopen, List.append_nil]
  have hhead : pending ends [] ((earlier ++ run).filter kept) ++ [last] ∈
      (groups ends (carried ends kept earlier) ((run ++ last :: back).filter kept)).head? := by
    rw [hcarried, List.filter_append, hkept, groups_append, groups_of_open hopen,
      pending_of_open hopen]
    simp [hlast, groups_ends hends]
  -- the seam is at the first item of the run, or else at the last one of the group
  cases run with
  | nil =>
      have hsplit : (earlier ++ []) ++ last :: back = earlier ++ last :: back := by simp
      exact ⟨earlier, last, back, ⟨hsplit, hlast, herased⟩, hseam, hhead, hbefore⟩
  | cons item run =>
      have hsplit : (earlier ++ item :: run) ++ last :: back =
          earlier ++ item :: (run ++ last :: back) := by simp
      have hitem := (hrun item (by simp)).1
      exact ⟨earlier, item, _, ⟨hsplit, hitem, herased⟩, hseam, hhead, hbefore⟩

/-- What the erasure leaves of a list is cut into groups of the list but for those
excused, if and only if the first group completed behind every seam where one was
open is excused. -/
theorem forall_mem_or_iff {all : List α} (hnodup : all.Nodup)
    {excused : List (List α) → List α → Prop} :
    (∀ before group behind, groups ends [] (all.filter kept) = before ++ group :: behind →
        group ∈ groups ends [] all ∨ excused before group) ↔
      ∀ front item back, Seam kept all front item back →
        (pending ends [] front ≠ [] ∨ carried ends kept front ≠ []) →
        ∀ group ∈ (groups ends (carried ends kept front) ((item :: back).filter kept)).head?,
          excused (groups ends [] (front.filter kept)) group := by
  constructor
  · intro hwhole front item back hseam hopen group hhead
    have htorn := not_mem_groups_of_seam hnodup hseam hopen hhead
    obtain ⟨behind, hbehind⟩ := List.head?_eq_some_iff.mp hhead
    have hgroups : groups ends [] (all.filter kept) =
        groups ends [] (front.filter kept) ++ group :: behind := by
      rw [hseam.split, List.filter_append, groups_append, ← hbehind]
      rfl
    exact (hwhole _ group behind hgroups).resolve_left htorn
  · intro hseams before group behind hgroups
    by_cases hmem : group ∈ groups ends [] all
    · exact .inl hmem
    · obtain ⟨front, item, back, hseam, hopen, hhead, rfl⟩ :=
        exists_seam_of_not_mem hnodup hgroups hmem
      exact .inr (hseams front item back hseam hopen group hhead)

end Erased

end Delimited
