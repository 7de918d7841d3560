import RustTgCalls.Library.Argv
import RustTgCalls.Models

namespace RustTgCalls.Media.ShellSource

/-! `inject_seek` -/

/-- The locals of the loop. -/
structure Seeking where
  cleaned : List String
  inputIdx : Option Nat
  skipNext : Bool
  deriving DecidableEq, Repr

namespace Seeking

/-- One round of the loop; `last` is whether no token follows. -/
def take (seeking : Seeking) (a : String) (last : Bool) : Seeking :=
  if seeking.skipNext then { seeking with skipNext := false }
  else if a = "-ss" ∧ seeking.inputIdx = none ∧ last = false then
    { seeking with skipNext := true }
  else
    let inputIdx :=
      if a = "-i" ∧ seeking.inputIdx = none then some seeking.cleaned.length
      else seeking.inputIdx
    { seeking with cleaned := seeking.cleaned ++ [a], inputIdx := inputIdx }

def scan (seeking : Seeking) : List String → Seeking
  | [] => seeking
  | a :: rest => (seeking.take a rest.isEmpty).scan rest

end Seeking

/-- `formatOffset` renders an offset as seconds with three decimals. -/
def injectSeek (formatOffset : Duration → String) (args : List String) (offset : Duration) :
    List String :=
  let seeking := (⟨[], none, false⟩ : Seeking).scan args
  match seeking.inputIdx with
  | some idx =>
      seeking.cleaned.take idx ++ ["-ss", formatOffset offset] ++ seeking.cleaned.drop idx
  | none => ["-ss", formatOffset offset] ++ seeking.cleaned

/-! The argv without its seek. -/

/-- Without the `-ss` pairs up to the first `-i` that is not the value of one; a
last `-ss` without a value stays. -/
def stripSeek : List String → List String
  | [] => []
  | [a] => [a]
  | a :: value :: rest =>
      if a = "-ss" then stripSeek rest
      else if a = "-i" then a :: value :: rest
      else a :: stripSeek (value :: rest)

theorem stripSeek_cons {a : String} (hseek : a ≠ "-ss") (hinput : a ≠ "-i")
    (rest : List String) : stripSeek (a :: rest) = a :: stripSeek rest := by
  cases rest with
  | nil => rfl
  | cons value rest => rw [stripSeek, if_neg hseek, if_neg hinput]

theorem stripSeek_input (rest : List String) : stripSeek ("-i" :: rest) = "-i" :: rest := by
  cases rest with
  | nil => rfl
  | cons value rest => rw [stripSeek, if_neg (by decide), if_pos rfl]

theorem stripSeek_pair (value : String) (rest : List String) :
    stripSeek ("-ss" :: value :: rest) = stripSeek rest := by
  rw [stripSeek, if_pos rfl]

theorem stripSeek_append {front : List String} (hseek : "-ss" ∉ front) (hinput : "-i" ∉ front)
    (rest : List String) : stripSeek (front ++ rest) = front ++ stripSeek rest := by
  induction front with
  | nil => rfl
  | cons a front ih =>
      have hrest := ih (List.not_mem_of_not_mem_cons hseek) (List.not_mem_of_not_mem_cons hinput)
      rw [List.cons_append,
        stripSeek_cons (Ne.symm (List.ne_of_not_mem_cons hseek))
          (Ne.symm (List.ne_of_not_mem_cons hinput)), hrest, List.cons_append]

theorem stripSeek_stripSeek (args : List String) :
    stripSeek (stripSeek args) = stripSeek args := by
  fun_induction stripSeek args with
  | case1 => rfl
  | case2 a => rfl
  | case3 value rest ih => exact ih
  | case4 value rest hseek => exact stripSeek_input _
  | case5 a value rest hseek hinput ih => rw [stripSeek_cons hseek hinput, ih]

/-- What stands before the first `-i` holds no seek any more. -/
theorem stripSeek_split {args : List String} (hinput : "-i" ∈ stripSeek args) :
    ∃ front rest, stripSeek args = front ++ "-i" :: rest ∧ "-i" ∉ front ∧ "-ss" ∉ front := by
  fun_induction stripSeek args with
  | case1 => cases hinput
  | case2 a =>
      obtain rfl := List.mem_singleton.mp hinput
      exact ⟨[], [], rfl, List.not_mem_nil, List.not_mem_nil⟩
  | case3 value rest ih => exact ih hinput
  | case4 value rest hseek => exact ⟨[], value :: rest, rfl, List.not_mem_nil, List.not_mem_nil⟩
  | case5 a value rest hseek hother ih =>
      have hlater := (List.mem_cons.mp hinput).resolve_left (Ne.symm hother)
      obtain ⟨front, tail, hsplit, hfront, hclean⟩ := ih hlater
      refine ⟨a :: front, tail, by rw [hsplit, List.cons_append], ?_, ?_⟩
      · simp [Ne.symm hother, hfront]
      · simp [Ne.symm hseek, hclean]

/-! The loop strips and remembers where the input stands. -/

theorem scan_found (cleaned args : List String) (idx : Nat) :
    (⟨cleaned, some idx, false⟩ : Seeking).scan args = ⟨cleaned ++ args, some idx, false⟩ := by
  induction args generalizing cleaned with
  | nil => simp [Seeking.scan]
  | cons a rest ih => simp [Seeking.scan, Seeking.take, ih]

theorem scan_eq (cleaned args : List String) (hcleaned : "-i" ∉ cleaned) :
    (⟨cleaned, none, false⟩ : Seeking).scan args =
      ⟨cleaned ++ stripSeek args,
        ((cleaned ++ stripSeek args).findIdx? fun a => a == "-i"), false⟩ := by
  fun_induction stripSeek args generalizing cleaned with
  | case1 => simp [Seeking.scan, Argv.findIdx_none hcleaned]
  | case2 a =>
      by_cases hinput : a = "-i"
      · subst hinput
        simp [Seeking.scan, Seeking.take, Argv.findIdx_mark hcleaned]
      · have hall : "-i" ∉ cleaned ++ [a] := by simp [hcleaned, Ne.symm hinput]
        simp [Seeking.scan, Seeking.take, hinput, Argv.findIdx_none hall]
  | case3 value rest ih =>
      rw [← ih cleaned hcleaned]
      simp [Seeking.scan, Seeking.take]
  | case4 value rest =>
      rw [Argv.findIdx_mark hcleaned]
      have hround : (⟨cleaned, none, false⟩ : Seeking).scan ("-i" :: value :: rest) =
          (⟨cleaned ++ ["-i"], some cleaned.length, false⟩ : Seeking).scan (value :: rest) := by
        simp [Seeking.scan, Seeking.take]
      rw [hround, scan_found, List.append_assoc, List.singleton_append]
  | case5 a value rest hseek hinput ih =>
      have hall : "-i" ∉ cleaned ++ [a] := by simp [hcleaned, Ne.symm hinput]
      have hround : (⟨cleaned, none, false⟩ : Seeking).scan (a :: value :: rest) =
          (⟨cleaned ++ [a], none, false⟩ : Seeking).scan (value :: rest) := by
        simp [Seeking.scan, Seeking.take, hseek, hinput]
      rw [hround, ih _ hall, List.append_assoc, List.singleton_append]

section Inject

variable {formatOffset : Duration → String} {args : List String}

theorem injectSeek_input {front rest : List String}
    (hsplit : stripSeek args = front ++ "-i" :: rest) (hfront : "-i" ∉ front)
    (offset : Duration) :
    injectSeek formatOffset args offset =
      front ++ ["-ss", formatOffset offset] ++ "-i" :: rest := by
  have hscan := scan_eq [] args List.not_mem_nil
  rw [List.nil_append, hsplit, Argv.findIdx_mark hfront] at hscan
  unfold injectSeek
  rw [hscan]
  simp

theorem injectSeek_none (hinput : "-i" ∉ stripSeek args) (offset : Duration) :
    injectSeek formatOffset args offset = ["-ss", formatOffset offset] ++ stripSeek args := by
  have hscan := scan_eq [] args List.not_mem_nil
  rw [List.nil_append, Argv.findIdx_none hinput] at hscan
  unfold injectSeek
  rw [hscan]

/-- What is injected is stripped again. -/
theorem stripSeek_injectSeek (offset : Duration) :
    stripSeek (injectSeek formatOffset args offset) = stripSeek args := by
  by_cases hinput : "-i" ∈ stripSeek args
  · obtain ⟨front, rest, hsplit, hfront, hclean⟩ := stripSeek_split hinput
    rw [injectSeek_input hsplit hfront, List.append_assoc, stripSeek_append hclean hfront,
      hsplit, List.cons_append, List.singleton_append, stripSeek_pair, stripSeek_input]
  · rw [injectSeek_none hinput, List.cons_append, List.singleton_append, stripSeek_pair,
      stripSeek_stripSeek]

theorem injectSeek_congr {other : List String} (hsame : stripSeek args = stripSeek other)
    (offset : Duration) :
    injectSeek formatOffset args offset = injectSeek formatOffset other offset := by
  unfold injectSeek
  rw [scan_eq [] args List.not_mem_nil, scan_eq [] other List.not_mem_nil, hsame]

end Inject

/-- The argv with its seek put in: what the pair stands between makes the argv
without its seeks, and if there is an input, the pair stands before the first. -/
structure Sought (args : List String) (value : String) (result : List String) : Prop where
  inserted : ∃ before after, result = before ++ ["-ss", value] ++ after ∧
    before ++ after = stripSeek args ∧ "-i" ∉ before ∧
    ("-i" ∈ result → after.head? = some "-i") ∧ ("-i" ∉ result → before = [])
  single : ∀ before after, result = before ++ "-i" :: after → "-i" ∉ before →
    before.count "-ss" = 1 ∧ ["-ss", value] <:+ before

theorem injectSeek_overwrites (formatOffset : Duration → String)
    (hformat : ∀ offset, formatOffset offset ≠ "-i" ∧ formatOffset offset ≠ "-ss")
    (args : List String) (first second : Duration) :
    injectSeek formatOffset (injectSeek formatOffset args first) second =
        injectSeek formatOffset args second ∧
      Sought args (formatOffset first) (injectSeek formatOffset args first) := by
  obtain ⟨hvalue, hother⟩ := hformat first
  refine ⟨injectSeek_congr (stripSeek_injectSeek first) second, ?_⟩
  by_cases hinput : "-i" ∈ stripSeek args
  · obtain ⟨front, rest, hsplit, hfront, hclean⟩ := stripSeek_split hinput
    rw [injectSeek_input hsplit hfront]
    have hbefore : "-i" ∉ front ++ ["-ss", formatOffset first] := by
      simp [hfront, Ne.symm hvalue]
    refine ⟨⟨front, "-i" :: rest, rfl, hsplit.symm, hfront, by simp, fun hnone => ?_⟩, ?_⟩
    · exact absurd (by simp) hnone
    · intro before after hresult hnone
      obtain rfl := Argv.before_mark_unique hbefore hnone hresult
      refine ⟨?_, List.suffix_append _ _⟩
      rw [List.count_append, List.count_eq_zero_of_not_mem hclean]
      simp [hother]
  · have hresult : "-i" ∉ ["-ss", formatOffset first] ++ stripSeek args := by
      simp [Ne.symm hvalue, hinput]
    rw [injectSeek_none hinput]
    refine ⟨⟨[], stripSeek args, rfl, rfl, List.not_mem_nil, fun hmem => absurd hmem hresult,
      fun _ => rfl⟩, fun before after hsplit => ?_⟩
    rw [hsplit] at hresult
    simp at hresult

/-- Whole numbers of seconds. -/
def formatSample (offset : Duration) : String :=
  if offset = Duration.fromMillis 12000 then "12.000" else "5.000"

/-- A first `-ss` whose value is `-i`, and another after the input. -/
theorem injectSeek_sample :
    injectSeek formatSample (injectSeek formatSample
        ["-ss", "-i", "-i", "a.mp4", "-ss", "3"] (Duration.fromMillis 5000))
        (Duration.fromMillis 12000) =
      injectSeek formatSample ["-ss", "-i", "-i", "a.mp4", "-ss", "3"]
        (Duration.fromMillis 12000) ∧
    Sought ["-ss", "-i", "-i", "a.mp4", "-ss", "3"] (formatSample (Duration.fromMillis 5000))
      (injectSeek formatSample ["-ss", "-i", "-i", "a.mp4", "-ss", "3"]
        (Duration.fromMillis 5000)) := by
  have hformat (offset : Duration) :
      formatSample offset ≠ "-i" ∧ formatSample offset ≠ "-ss" := by
    unfold formatSample
    split <;> decide
  exact injectSeek_overwrites formatSample hformat _ _ _

end RustTgCalls.Media.ShellSource
