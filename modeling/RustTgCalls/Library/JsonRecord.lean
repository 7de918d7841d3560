import Mathlib
import RustTgCalls.Library.Json

namespace Json

variable {α : Type _}

/-! Numbers, maps and options. -/

/-- An unsigned number of the given size. -/
def unsigned? (size : Nat) : Json → Option Nat
  | .number text => text.toNat?.filter (· < size)
  | _ => none

def ofUnsigned (number : Nat) : Json := .number number.repr

theorem unsigned_ofUnsigned {size number : Nat} (hnumber : number < size) :
    unsigned? size (ofUnsigned number) = some number := by
  simp [unsigned?, ofUnsigned, Nat.toNat?_repr, hnumber]

def option? (decode : Json → Option α) : Json → Option (Option α)
  | .null => some none
  | value => (decode value).map some

/-- The entries that remain when each takes the place of an earlier one of its key. -/
def lastEntries : List (String × α) → List (String × α)
  | [] => []
  | (key, value) :: rest =>
      if key ∈ (lastEntries rest).map Prod.fst then lastEntries rest
      else (key, value) :: lastEntries rest

def entries? (decode : Json → Option α) : List (String × Json) → Option (List (String × α))
  | [] => some []
  | (key, json) :: rest =>
      match decode json, entries? decode rest with
      | some value, some entries => some ((key, value) :: entries)
      | _, _ => none

def map? (decode : Json → Option α) : Json → Option (List (String × α))
  | .object fields => (entries? decode fields).map lastEntries
  | _ => none

def ofMap (encode : α → Json) (entries : List (String × α)) : Json :=
  .object (entries.map fun entry => (entry.1, encode entry.2))

theorem lastEntries_of_nodup {entries : List (String × α)}
    (hkeys : (entries.map Prod.fst).Nodup) : lastEntries entries = entries := by
  induction entries with
  | nil => rfl
  | cons entry rest ih =>
      obtain ⟨hfresh, hrest⟩ := List.nodup_cons.mp hkeys
      rw [lastEntries, ih hrest, if_neg hfresh]

theorem map_ofMap {decode : Json → Option α} {encode : α → Json}
    (hdecode : ∀ value, decode (encode value) = some value)
    {entries : List (String × α)} (hkeys : (entries.map Prod.fst).Nodup) :
    map? decode (ofMap encode entries) = some entries := by
  have hentries : entries? decode (entries.map fun entry => (entry.1, encode entry.2)) =
      some entries := by
    clear hkeys
    induction entries with
    | nil => rfl
    | cons entry rest ih => simp [entries?, hdecode, ih]
  rw [ofMap, map?, hentries, Option.map_some, lastEntries_of_nodup hkeys]

/-! Records of which some fields may be left out. -/

def present (slots : List (String × Option Json)) : List (String × Json) :=
  slots.filterMap fun slot => slot.2.map fun value => (slot.1, value)

theorem values_present_absent {slots : List (String × Option Json)} {name : String}
    (habsent : name ∉ slots.map Prod.fst) : values (present slots) name = [] := by
  apply values_absent
  intro value hvalue
  obtain ⟨⟨key, found⟩, hfound, hsame⟩ := List.mem_filterMap.mp hvalue
  obtain ⟨_, _, heq⟩ := Option.map_eq_some_iff.mp hsame
  cases heq
  exact habsent (List.mem_map.mpr ⟨_, hfound, rfl⟩)

theorem values_present {slots : List (String × Option Json)} {name : String}
    {slot : Option Json} (hnames : (slots.map Prod.fst).Nodup)
    (hmem : (name, slot) ∈ slots) : values (present slots) name = slot.toList := by
  induction slots with
  | nil => cases hmem
  | cons first rest ih =>
      obtain ⟨key, found⟩ := first
      obtain ⟨hfresh, hrest⟩ := List.nodup_cons.mp hnames
      obtain hhead | htail := List.mem_cons.mp hmem
      · cases hhead
        cases slot with
        | none =>
            change values (present rest) name = []
            exact values_present_absent hfresh
        | some value =>
            change values ((name, value) :: present rest) name = [value]
            rw [values_cons, if_pos rfl, values_present_absent hfresh]
      · have hother : key ≠ name := by
          rintro rfl
          exact hfresh (List.mem_map.mpr ⟨_, htail, rfl⟩)
        cases found with
        | none => exact ih hrest htail
        | some value =>
            change values ((key, value) :: present rest) name = slot.toList
            rw [values_cons, if_neg hother, ih hrest htail]

/-- A field is decoded from its slot. -/
theorem field_present {slots : List (String × Option Json)} {name : String}
    {slot : Option Json} {decode : Json → Option α} (hnames : (slots.map Prod.fst).Nodup)
    (hmem : (name, slot) ∈ slots) (absent : Option α) :
    (Record.map (present slots)).field name absent decode = slot.elim absent decode := by
  rw [Record.field, values_present hnames hmem]
  cases slot <;> rfl

theorem each_encoded_mem {decode : Json → Option α} {encode : α → Json} {items : List α}
    (hdecode : ∀ item ∈ items, decode (encode item) = some item) :
    each? decode (items.map encode) = some items := by
  induction items with
  | nil => rfl
  | cons item rest ih =>
      obtain ⟨hitem, hrest⟩ := List.forall_mem_cons.mp hdecode
      simp [each?, hitem, ih hrest]

end Json
