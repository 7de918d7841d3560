import Mathlib.Data.List.Basic
import Mathlib.Data.List.Nodup

/-! JSON documents and the decoding of records from them, by name from an object
or in their declared order from an array. -/

inductive Json where
  | null
  | bool (value : Bool)
  | number (text : String)
  | string (text : String)
  | array (items : List Json)
  | object (fields : List (String × Json))

namespace Json

/-- The values a name has among the fields of an object. -/
def values (fields : List (String × Json)) (name : String) : List Json :=
  (fields.filter fun field => field.1 = name).map Prod.snd

theorem mem_values {fields : List (String × Json)} {name : String}
    {value : Json} :
    value ∈ values fields name ↔ (name, value) ∈ fields := by
  simp only [values, List.mem_map, List.mem_filter, decide_eq_true_eq]
  constructor
  · rintro ⟨⟨key, found⟩, ⟨hmem, rfl⟩, rfl⟩
    exact hmem
  · intro hmem
    exact ⟨(name, value), ⟨hmem, rfl⟩, rfl⟩

@[simp] theorem values_empty (name : String) : values [] name = [] := rfl

theorem values_cons (key : String) (value : Json)
    (rest : List (String × Json)) (name : String) :
    values ((key, value) :: rest) name =
      if key = name then value :: values rest name else values rest name := by
  by_cases hname : key = name <;> simp [values, hname]

theorem values_append (first second : List (String × Json)) (name : String) :
    values (first ++ second) name = values first name ++ values second name := by
  simp [values]

def UniqueKeys (fields : List (String × Json)) : Prop :=
  (fields.map Prod.fst).Nodup

instance : DecidablePred UniqueKeys := fun _ =>
  inferInstanceAs (Decidable (List.Nodup _))

theorem values_absent {fields : List (String × Json)} {name : String}
    (habsent : ∀ value, (name, value) ∉ fields) : values fields name = [] := by
  apply List.eq_nil_iff_forall_not_mem.mpr
  intro value hvalue
  exact habsent value (mem_values.mp hvalue)

theorem values_of_mem {fields : List (String × Json)} {name : String}
    {value : Json} (hunique : UniqueKeys fields)
    (hmem : (name, value) ∈ fields) : values fields name = [value] := by
  induction fields with
  | nil => cases hmem
  | cons field rest ih =>
      obtain ⟨key, found⟩ := field
      obtain ⟨hfresh, hrest⟩ := List.nodup_cons.mp hunique
      rcases List.mem_cons.mp hmem with hhead | htail
      · cases hhead
        have hnone : values rest name = [] := by
          apply values_absent
          intro other hother
          exact hfresh (List.mem_map.mpr ⟨(name, other), hother, rfl⟩)
        rw [values_cons, if_pos rfl, hnone]
      · have hother : key ≠ name := by
          rintro rfl
          exact hfresh (List.mem_map.mpr ⟨(key, value), htail, rfl⟩)
        rw [values_cons, if_neg hother, ih hrest htail]

/-! Decoding. -/

def text? : Json → Option String
  | .string text => some text
  | _ => none

variable {α : Type _}

/-- Every item, or none. -/
def each? (decode : Json → Option α) : List Json → Option (List α)
  | [] => some []
  | item :: rest =>
      match decode item, each? decode rest with
      | some value, some values => some (value :: values)
      | _, _ => none

def list? (decode : Json → Option α) : Json → Option (List α)
  | .array items => each? decode items
  | _ => none

/-- What a record of the given names is decoded from. -/
inductive Record where
  | map (fields : List (String × Json))
  | seq (names : List String) (items : List Json)

/-- What an array has beyond the names is not looked at. -/
def record? (names : List String) : Json → Option Record
  | .object fields => some (.map fields)
  | .array items => some (.seq names items)
  | _ => none

/-- A name that occurs twice is refused. -/
def pick (absent : Option α) (decode : Json → Option α) :
    List Json → Option α
  | [] => absent
  | [value] => decode value
  | _ => none

@[simp] theorem pick_nil (absent : Option α) (decode : Json → Option α) :
    pick absent decode [] = absent := rfl

@[simp] theorem pick_singleton (absent : Option α) (decode : Json → Option α)
    (value : Json) : pick absent decode [value] = decode value := rfl

namespace Record

def field (record : Record) (name : String) (absent : Option α)
    (decode : Json → Option α) : Option α :=
  match record with
  | .map fields => pick absent decode (values fields name)
  | .seq names items =>
      match items[names.idxOf name]? with
      | some value => decode value
      | none => absent

def required (record : Record) (name : String) (decode : Json → Option α) :
    Option α :=
  record.field name none decode

def defaulted (record : Record) (name : String) (default : α)
    (decode : Json → Option α) : Option α :=
  record.field name (some default) decode

end Record

/-- Where the rest of a decoding does not depend on what this part gives. -/
theorem any_const (part : Option α) (rest : Bool) :
    part.any (fun _ => rest) = (part.isSome && rest) := by
  cases part <;> rfl

/-- A part, and what is decoded behind it whatever it is. -/
theorem isSome_bind_iff {part : Option α} {decode : α → Option β} {rest : Prop}
    (hrest : ∀ value, (decode value).isSome = true ↔ rest) :
    (part.bind decode).isSome = true ↔ part.isSome = true ∧ rest := by
  cases part with
  | none => simp
  | some value => simp [hrest value]

/-! What is decoded of an object whose keys are unique. -/

section Unique

variable {fields : List (String × Json)} {name : String} {decode : Json → Option α}

theorem field_of_mem (hunique : UniqueKeys fields) {value : Json}
    (hmem : (name, value) ∈ fields) (absent : Option α) :
    (Record.map fields).field name absent decode = decode value := by
  simp [Record.field, values_of_mem hunique hmem]

theorem field_of_absent (habsent : ∀ value, (name, value) ∉ fields)
    (absent : Option α) :
    (Record.map fields).field name absent decode = absent := by
  simp [Record.field, values_absent habsent]

theorem field_cases (hunique : UniqueKeys fields) (absent : Option α) :
    (∃ value, (name, value) ∈ fields ∧
        (Record.map fields).field name absent decode = decode value) ∨
      (∀ value, (name, value) ∉ fields) ∧
        (Record.map fields).field name absent decode = absent := by
  by_cases hpresent : ∃ value, (name, value) ∈ fields
  · obtain ⟨value, hmem⟩ := hpresent
    exact .inl ⟨value, hmem, field_of_mem hunique hmem absent⟩
  · have habsent (value : Json) (hmem : (name, value) ∈ fields) : False :=
      hpresent ⟨value, hmem⟩
    exact .inr ⟨habsent, field_of_absent habsent absent⟩

theorem required_eq_some (hunique : UniqueKeys fields) {result : α} :
    (Record.map fields).required name decode = some result ↔
      ∃ value, (name, value) ∈ fields ∧ decode value = some result := by
  constructor
  · intro hsome
    unfold Record.required at hsome
    rcases @field_cases _ _ name decode hunique none with
      ⟨value, hmem, hfield⟩ | ⟨_, hfield⟩
    · exact ⟨value, hmem, hfield ▸ hsome⟩
    · rw [hfield] at hsome
      cases hsome
  · rintro ⟨value, hmem, hsome⟩
    rwa [Record.required, field_of_mem hunique hmem]

theorem isSome_required (hunique : UniqueKeys fields) :
    ((Record.map fields).required name decode).isSome = true ↔
      ∃ value, (name, value) ∈ fields ∧ (decode value).isSome = true := by
  simp only [Option.isSome_iff_exists, required_eq_some hunique]
  constructor
  · rintro ⟨result, value, hmem, hsome⟩
    exact ⟨value, hmem, result, hsome⟩
  · rintro ⟨value, hmem, result, hsome⟩
    exact ⟨result, value, hmem, hsome⟩

theorem isSome_defaulted (hunique : UniqueKeys fields) (default : α) :
    ((Record.map fields).defaulted name default decode).isSome = true ↔
      ∀ value, (name, value) ∈ fields → (decode value).isSome = true := by
  constructor
  · intro hsome value hmem
    rwa [Record.defaulted, field_of_mem hunique hmem] at hsome
  · intro hall
    unfold Record.defaulted
    rcases @field_cases _ _ name decode hunique (some default) with
      ⟨value, hmem, hfield⟩ | ⟨_, hfield⟩
    · rw [hfield]
      exact hall value hmem
    · rw [hfield]
      rfl

end Unique

theorem isSome_text {value : Json} :
    value.text?.isSome = true ↔ ∃ text, value = .string text := by
  cases value <;> simp [text?]

theorem isSome_each {decode : Json → Option α} {items : List Json} :
    (each? decode items).isSome = true ↔
      ∀ item ∈ items, (decode item).isSome = true := by
  induction items with
  | nil => simp [each?]
  | cons item rest ih =>
      rw [List.forall_mem_cons, ← ih]
      cases hitem : decode item <;> cases hrest : each? decode rest <;>
        simp [each?, hitem, hrest]

theorem length_each {decode : Json → Option α} {items : List Json}
    {values : List α} (heach : each? decode items = some values) :
    values.length = items.length := by
  induction items generalizing values with
  | nil =>
      cases heach
      rfl
  | cons item rest ih =>
      cases hitem : decode item with
      | none => simp [each?, hitem] at heach
      | some value =>
          cases hrest : each? decode rest with
          | none => simp [each?, hitem, hrest] at heach
          | some left =>
              obtain rfl : value :: left = values := by
                simpa [each?, hitem, hrest] using heach
              rw [List.length_cons, List.length_cons, ih hrest]

theorem each_encoded {decode : Json → Option α} {encode : α → Json}
    (hdecode : ∀ value, decode (encode value) = some value) (items : List α) :
    each? decode (items.map encode) = some items := by
  induction items with
  | nil => rfl
  | cons item rest ih => simp [each?, hdecode, ih]

/-! A document with more in it: fields whose names mean nothing where they
stand. -/

inductive Step where
  | key (name : String)
  | item
  deriving DecidableEq, Repr

mutual
inductive Adds (known : List Step → List String) :
    List Step → Json → Json → Prop
  | same {path : List Step} (value : Json) : Adds known path value value
  | array {path : List Step} {items more : List Json}
      (hitems : AddsItems known path items more) :
      Adds known path (.array items) (.array more)
  | object {path : List Step} {fields more : List (String × Json)}
      (hfields : AddsFields known path fields more) :
      Adds known path (.object fields) (.object more)

inductive AddsItems (known : List Step → List String) :
    List Step → List Json → List Json → Prop
  | nil {path : List Step} : AddsItems known path [] []
  | cons {path : List Step} {item more : Json} {rest left : List Json}
      (hitem : Adds known (.item :: path) item more)
      (hrest : AddsItems known path rest left) :
      AddsItems known path (item :: rest) (more :: left)

inductive AddsFields (known : List Step → List String) :
    List Step → List (String × Json) → List (String × Json) → Prop
  | nil {path : List Step} : AddsFields known path [] []
  | keep {path : List Step} {name : String} {value more : Json}
      {rest left : List (String × Json)}
      (hvalue : Adds known (.key name :: path) value more)
      (hrest : AddsFields known path rest left) :
      AddsFields known path ((name, value) :: rest) ((name, more) :: left)
  | add {path : List Step} {name : String} {value : Json}
      {rest left : List (String × Json)} (hunknown : name ∉ known path)
      (hrest : AddsFields known path rest left) :
      AddsFields known path rest ((name, value) :: left)
end

section Adds

variable {known : List Step → List String} {path : List Step}

theorem text_adds {value more : Json} (hadds : Adds known path value more) :
    more.text? = value.text? := by
  cases hadds <;> rfl

theorem each_adds {decode : Json → Option α} {items more : List Json}
    (hadds : AddsItems known path items more)
    (hdecode : ∀ item ∈ items, ∀ other,
      Adds known (.item :: path) item other → decode other = decode item) :
    each? decode more = each? decode items := by
  induction items generalizing more with
  | nil =>
      cases hadds
      rfl
  | cons item rest ih =>
      cases hadds with
      | cons hitem hrest =>
          have htail := ih hrest fun each hmem =>
            hdecode each (List.mem_cons_of_mem _ hmem)
          rw [each?, each?, htail,
            hdecode item List.mem_cons_self _ hitem]

theorem list_adds {decode : Json → Option α} {value more : Json}
    (hadds : Adds known path value more)
    (hdecode : ∀ items, value = .array items → ∀ item ∈ items, ∀ other,
      Adds known (.item :: path) item other → decode other = decode item) :
    list? decode more = list? decode value := by
  cases hadds with
  | same => rfl
  | object => rfl
  | array hitems => exact each_adds hitems (hdecode _ rfl)

/-- The fields of a known name are those that were there, each with more in
it. -/
theorem values_adds {fields more : List (String × Json)} {name : String}
    (hadds : AddsFields known path fields more) (hknown : name ∈ known path) :
    List.Forall₂ (Adds known (.key name :: path)) (values fields name)
      (values more name) := by
  induction more generalizing fields with
  | nil =>
      cases hadds
      exact .nil
  | cons field left ih =>
      cases hadds with
      | @keep _ key value other rest _ hvalue hrest =>
          have htail := ih hrest
          by_cases hname : key = name
          · subst hname
            simpa [values] using List.Forall₂.cons hvalue htail
          · simpa [values, hname] using htail
      | @add _ key value _ _ hunknown hrest =>
          have hname : key ≠ name := by
            rintro rfl
            exact hunknown hknown
          simpa [values, hname] using ih hrest

variable {fields more : List (String × Json)} {name : String}
  {decode : Json → Option α}

theorem field_adds (hadds : AddsFields known path fields more)
    (hknown : name ∈ known path) (absent : Option α)
    (hdecode : ∀ value, (name, value) ∈ fields → ∀ other,
      Adds known (.key name :: path) value other → decode other = decode value) :
    (Record.map more).field name absent decode =
      (Record.map fields).field name absent decode := by
  have hvalues := values_adds hadds hknown
  have hmem (value : Json) (hvalue : value ∈ values fields name) :
      (name, value) ∈ fields := mem_values.mp hvalue
  simp only [Record.field]
  generalize values fields name = old at hvalues hmem
  generalize values more name = new at hvalues
  cases hvalues with
  | nil => rfl
  | cons hvalue hrest =>
      cases hrest with
      | nil => exact hdecode _ (hmem _ List.mem_cons_self) _ hvalue
      | cons _ _ => rfl

end Adds

end Json
