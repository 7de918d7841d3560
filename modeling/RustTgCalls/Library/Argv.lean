import Mathlib.Data.List.Basic

namespace Argv

/-! Command lines on which inputs are named by pairs of a mark and a value, and
on which what follows the last of these pairs describes the output. -/

variable {Token : Type _} [DecidableEq Token] {mark : Token}

/-- What follows the last pair, if there is one. -/
def afterInputs (mark : Token) : List Token → Option (List Token)
  | [] => none
  | [_] => none
  | token :: value :: rest =>
      if token = mark then some ((afterInputs mark rest).getD rest)
      else afterInputs mark (value :: rest)

/-- The output section; without an input the whole line. -/
def outputSection (mark : Token) (args : List Token) : List Token :=
  (afterInputs mark args).getD args

theorem findIdx_none {args : List Token} (hargs : mark ∉ args) :
    (args.findIdx? fun token => token == mark) = none := by
  rw [List.findIdx?_eq_none_iff]
  intro token htoken
  exact beq_eq_false_iff_ne.mpr fun hsame => hargs (hsame ▸ htoken)

theorem findIdx_mark {front : List Token} (hfront : mark ∉ front) (rest : List Token) :
    ((front ++ mark :: rest).findIdx? fun token => token == mark) = some front.length := by
  rw [List.findIdx?_append, findIdx_none hfront, List.findIdx?_cons]
  simp

theorem before_mark_unique {first second before after : List Token}
    (hfirst : mark ∉ first) (hbefore : mark ∉ before)
    (hsame : first ++ mark :: second = before ++ mark :: after) : first = before := by
  have hidx := findIdx_mark hfirst second
  rw [hsame, findIdx_mark hbefore after] at hidx
  exact (List.append_inj hsame (Option.some.inj hidx).symm).1

/-- The line ends in a mark that has no value. -/
def dangling (mark : Token) : List Token → Bool
  | [] => false
  | [token] => decide (token = mark)
  | token :: value :: rest =>
      if token = mark then dangling mark rest else dangling mark (value :: rest)

theorem afterInputs_cons {token : Token} (hother : token ≠ mark) (rest : List Token) :
    afterInputs mark (token :: rest) = afterInputs mark rest := by
  cases rest with
  | nil => rfl
  | cons value rest => rw [afterInputs, if_neg hother]

theorem dangling_cons {token : Token} (hother : token ≠ mark) (rest : List Token) :
    dangling mark (token :: rest) = dangling mark rest := by
  cases rest with
  | nil => simp [dangling, hother]
  | cons value rest => rw [dangling, if_neg hother]

/-- Tokens before the first mark are no part of a pair. -/
theorem afterInputs_append_left {front : List Token} (hfront : mark ∉ front)
    (rest : List Token) : afterInputs mark (front ++ rest) = afterInputs mark rest := by
  induction front with
  | nil => rfl
  | cons token front ih =>
      have hhead := List.ne_of_not_mem_cons hfront
      have htail := List.not_mem_of_not_mem_cons hfront
      rw [List.cons_append, afterInputs_cons (Ne.symm hhead), ih htail]

theorem afterInputs_none {args : List Token} (hargs : mark ∉ args) :
    afterInputs mark args = none := by
  simpa [afterInputs] using afterInputs_append_left hargs []

/-- Tokens that follow the line belong to its output section. -/
theorem afterInputs_append {args tail : List Token} (htail : mark ∉ tail)
    (hclosed : dangling mark args = false) :
    afterInputs mark (args ++ tail) = (afterInputs mark args).map (· ++ tail) := by
  fun_induction afterInputs mark args with
  | case1 => simp [afterInputs_none htail]
  | case2 token =>
      have hother : token ≠ mark := by simpa [dangling] using hclosed
      rw [List.singleton_append, afterInputs_cons hother, afterInputs_none htail]
      rfl
  | case3 value rest ih =>
      have hrest : dangling mark rest = false := by simpa [dangling] using hclosed
      have hpair : afterInputs mark (mark :: value :: rest ++ tail) =
          some ((afterInputs mark (rest ++ tail)).getD (rest ++ tail)) := by
        simp [afterInputs]
      rw [hpair, ih hrest]
      cases afterInputs mark rest <;> rfl
  | case4 token value rest hother ih =>
      have hrest : dangling mark (value :: rest) = false := by
        rwa [dangling_cons hother] at hclosed
      rw [List.cons_append, afterInputs_cons hother, ih hrest]

/-- A dangling mark takes the first token that follows the line. -/
theorem afterInputs_dangling {args tail : List Token} (htail : mark ∉ tail) {value : Token}
    (hdangling : dangling mark args = true) :
    afterInputs mark (args ++ value :: tail) = some tail := by
  fun_induction dangling mark args with
  | case1 => simp at hdangling
  | case2 token =>
      have hmark : token = mark := of_decide_eq_true hdangling
      simp [hmark, afterInputs, afterInputs_none htail]
  | case3 value rest ih =>
      have hpair : ∀ later, afterInputs mark (mark :: value :: rest ++ later) =
          some ((afterInputs mark (rest ++ later)).getD (rest ++ later)) := by
        simp [afterInputs]
      rw [hpair, ih hdangling]
      rfl
  | case4 token value rest hother ih =>
      rw [List.cons_append, afterInputs_cons hother, ih hdangling]

theorem afterInputs_isSome {args : List Token} (hmark : mark ∈ args)
    (hclosed : dangling mark args = false) : (afterInputs mark args).isSome := by
  fun_induction afterInputs mark args with
  | case1 => simp at hmark
  | case2 token =>
      have hother : token ≠ mark := by simpa [dangling] using hclosed
      exact absurd (List.mem_singleton.mp hmark).symm hother
  | case3 => rfl
  | case4 token value rest hother ih =>
      rw [dangling_cons hother] at hclosed
      exact ih ((List.mem_cons.mp hmark).resolve_left (Ne.symm hother)) hclosed

/-- The output section ends the line. -/
theorem outputSection_suffix (mark : Token) (args : List Token) :
    outputSection mark args <:+ args := by
  have hafter : ∀ output, afterInputs mark args = some output → output <:+ args := by
    fun_induction afterInputs mark args with
    | case1 => simp
    | case2 => simp
    | case3 value rest ih =>
        intro output hsome
        have hsuffix : output <:+ rest := by
          cases hrest : afterInputs mark rest with
          | none => simp [← Option.some.inj hsome, hrest]
          | some inner => simpa [← Option.some.inj hsome, hrest] using ih inner hrest
        exact (hsuffix.trans (List.suffix_cons _ _)).trans (List.suffix_cons _ _)
    | case4 token value rest hother ih =>
        exact fun output hsome => (ih output hsome).trans (List.suffix_cons _ _)
  unfold outputSection
  cases hsome : afterInputs mark args with
  | none => exact List.suffix_refl _
  | some output => exact hafter output hsome

end Argv
