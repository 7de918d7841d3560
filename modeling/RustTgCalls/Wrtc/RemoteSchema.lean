import RustTgCalls.Library.Json
import RustTgCalls.Wrtc.Remote
import Mathlib.Data.Option.Basic

namespace RustTgCalls.Wrtc

open Json

/-! What `parse_remote` makes of a JSON document, with the decoding that serde
derives for its records. -/

namespace Fingerprint

def names : List String := ["hash", "setup", "fingerprint"]

def decode (json : Json) : Option Fingerprint := do
  let record ← record? names json
  let hash ← record.required "hash" text?
  let setup ← record.defaulted "setup" "" text?
  let fingerprint ← record.required "fingerprint" text?
  some { hash, setup, fingerprint }

end Fingerprint

namespace Candidate

def mandatory : List String :=
  ["generation", "component", "protocol", "port", "ip", "foundation", "id",
    "priority", "type", "network"]

def optional : List String := ["rel-addr", "rel-port", "tcptype"]

def decode (json : Json) : Option Candidate := do
  let record ← record? (mandatory ++ optional) json
  let generation ← record.required "generation" text?
  let component ← record.required "component" text?
  let protocol ← record.required "protocol" text?
  let port ← record.required "port" text?
  let ip ← record.required "ip" text?
  let foundation ← record.required "foundation" text?
  let id ← record.required "id" text?
  let priority ← record.required "priority" text?
  let candidateType ← record.required "type" text?
  let network ← record.required "network" text?
  let relAddr ← record.defaulted "rel-addr" "" text?
  let relPort ← record.defaulted "rel-port" "" text?
  let tcpType ← record.defaulted "tcptype" "" text?
  some
    { generation, component, protocol, port, ip, foundation, id, priority,
      candidateType, network, relAddr, relPort, tcpType }

end Candidate

namespace RemoteParams

def transportNames : List String := ["ufrag", "pwd", "fingerprints", "candidates"]

def decodeTransport (json : Json) : Option RemoteParams := do
  let record ← record? transportNames json
  let ufrag ← record.required "ufrag" text?
  let pwd ← record.required "pwd" text?
  let fingerprints ← record.required "fingerprints" (list? Fingerprint.decode)
  let candidates ← record.required "candidates" (list? Candidate.decode)
  some { ufrag, pwd, fingerprints, candidates }

def decode (json : Json) : Option RemoteParams := do
  let record ← record? ["transport"] json
  record.required "transport" decodeTransport

end RemoteParams

def isNull : Json → Bool
  | .null => true
  | _ => false

def Probe.decode (json : Json) : Option Probe := do
  let record ← record? ["rtmp", "stream"] json
  let rtmp ← record.defaulted "rtmp" .null some
  let stream ← record.defaulted "stream" .null some
  some { rtmp := !isNull rtmp, stream := !isNull stream }

/-- The two JSON libraries; `refusal` is what serde says of a text that it does
not decode. -/
structure JsonParsers where
  simd : String → Option Json
  serde : String → Option Json
  refusal : String → String
  parseIp : String → Option IpAddr

def JsonParsers.codec (parsers : JsonParsers) : Codec where
  probe := fun raw => (parsers.simd raw).bind Probe.decode
  decode := fun raw =>
    match ((parsers.simd raw).bind RemoteParams.decode).or
      ((parsers.serde raw).bind RemoteParams.decode) with
    | some params => .ok params
    | none => .error (parsers.refusal raw)
  parseIp := parsers.parseIp

/-! Serialisation, which leaves empty optional fields out. -/

def unlessEmpty (name text : String) : List (String × Json) :=
  if text = "" then [] else [(name, .string text)]

def Fingerprint.encode (fingerprint : Fingerprint) : Json :=
  .object <|
    ("hash", .string fingerprint.hash) :: unlessEmpty "setup" fingerprint.setup ++
      [("fingerprint", .string fingerprint.fingerprint)]

def Candidate.encode (candidate : Candidate) : Json :=
  .object <|
    [("generation", .string candidate.generation),
      ("component", .string candidate.component),
      ("protocol", .string candidate.protocol),
      ("port", .string candidate.port),
      ("ip", .string candidate.ip),
      ("foundation", .string candidate.foundation),
      ("id", .string candidate.id),
      ("priority", .string candidate.priority),
      ("type", .string candidate.candidateType),
      ("network", .string candidate.network)] ++
    unlessEmpty "rel-addr" candidate.relAddr ++
    unlessEmpty "rel-port" candidate.relPort ++
    unlessEmpty "tcptype" candidate.tcpType

def RemoteParams.encode (params : RemoteParams) : Json :=
  .object
    [("transport", .object
      [("ufrag", .string params.ufrag),
        ("pwd", .string params.pwd),
        ("fingerprints", .array (params.fingerprints.map Fingerprint.encode)),
        ("candidates", .array (params.candidates.map Candidate.encode))])]

/-! The schema. -/

def Text (fields : List (String × Json)) (name : String) : Prop :=
  ∃ text, (name, .string text) ∈ fields

def OptionalText (fields : List (String × Json)) (name : String) : Prop :=
  ∀ value, (name, value) ∈ fields → ∃ text, value = .string text

structure FingerprintForm (fields : List (String × Json)) : Prop where
  hash : Text fields "hash"
  fingerprint : Text fields "fingerprint"
  setup : OptionalText fields "setup"

structure CandidateForm (fields : List (String × Json)) : Prop where
  mandatory : ∀ name ∈ Candidate.mandatory, Text fields name
  optional : ∀ name ∈ Candidate.optional, OptionalText fields name

/-- An array of objects of the given form. -/
def Each (form : List (String × Json) → Prop) (items : List Json) : Prop :=
  ∀ item ∈ items, ∃ fields, item = .object fields ∧ form fields

structure TransportForm (fields : List (String × Json)) : Prop where
  ufrag : ∃ text, text ≠ "" ∧ ("ufrag", .string text) ∈ fields
  pwd : ∃ text, text ≠ "" ∧ ("pwd", .string text) ∈ fields
  fingerprints : ∃ items, items ≠ [] ∧
    ("fingerprints", .array items) ∈ fields ∧ Each FingerprintForm items
  candidates : ∃ items,
    ("candidates", .array items) ∈ fields ∧ Each CandidateForm items

def WebRtcForm (fields : List (String × Json)) : Prop :=
  ∃ inner, ("transport", .object inner) ∈ fields ∧ TransportForm inner

/-- An RTMP livestream or a broadcast stream. -/
def Unsupported (fields : List (String × Json)) : Prop :=
  ∃ name ∈ ["rtmp", "stream"], ∃ value, (name, value) ∈ fields ∧ value ≠ .null

/-- What may stand where a record is expected: an object with unique keys, or
nothing that serde could take for a record. -/
def Plain : Json → Prop
  | .object fields => UniqueKeys fields
  | .array _ => False
  | _ => True

structure Records (fields : List (String × Json)) : Prop where
  unique : UniqueKeys fields
  transport : ∀ value, ("transport", value) ∈ fields → Plain value
  items : ∀ inner, ("transport", .object inner) ∈ fields →
    ∀ name ∈ ["fingerprints", "candidates"], ∀ items,
      (name, .array items) ∈ inner → ∀ item ∈ items, Plain item

/-- The names that mean something, by the place of the object. -/
def knownNames : List Step → List String
  | [] => ["rtmp", "stream", "transport"]
  | [.key "transport"] => RemoteParams.transportNames
  | [.item, .key "fingerprints", .key "transport"] => Fingerprint.names
  | [.item, .key "candidates", .key "transport"] =>
      Candidate.mandatory ++ Candidate.optional
  | _ => []

/-! Each record is decoded exactly if it has its form. -/

section Forms

variable {fields : List (String × Json)} {name : String}

theorem isSome_text_iff (hunique : UniqueKeys fields) :
    ((Record.map fields).required name text?).isSome = true ↔
      Text fields name := by
  rw [isSome_required hunique]
  simp only [isSome_text]
  constructor
  · rintro ⟨value, hmem, text, rfl⟩
    exact ⟨text, hmem⟩
  · rintro ⟨text, hmem⟩
    exact ⟨.string text, hmem, text, rfl⟩

theorem isSome_optionalText_iff (hunique : UniqueKeys fields) :
    ((Record.map fields).defaulted name "" text?).isSome = true ↔
      OptionalText fields name := by
  rw [isSome_defaulted hunique]
  simp only [isSome_text]
  rfl

theorem isSome_fingerprint (hunique : UniqueKeys fields) :
    (Fingerprint.decode (.object fields)).isSome = true ↔
      FingerprintForm fields := by
  have hrecord : (Fingerprint.decode (.object fields)).isSome = true ↔
      ((Record.map fields).required "hash" text?).isSome = true ∧
        ((Record.map fields).defaulted "setup" "" text?).isSome = true ∧
        ((Record.map fields).required "fingerprint" text?).isSome = true := by
    simp [Fingerprint.decode, record?, Option.isSome_bind, any_const]
  rw [hrecord, isSome_text_iff hunique, isSome_optionalText_iff hunique,
    isSome_text_iff hunique]
  constructor
  · rintro ⟨hhash, hsetup, hfingerprint⟩
    exact ⟨hhash, hfingerprint, hsetup⟩
  · rintro ⟨hhash, hfingerprint, hsetup⟩
    exact ⟨hhash, hsetup, hfingerprint⟩

theorem isSome_candidate (hunique : UniqueKeys fields) :
    (Candidate.decode (.object fields)).isSome = true ↔ CandidateForm fields := by
  have hrecord : (Candidate.decode (.object fields)).isSome = true ↔
      (∀ name ∈ Candidate.mandatory,
        ((Record.map fields).required name text?).isSome = true) ∧
      (∀ name ∈ Candidate.optional,
        ((Record.map fields).defaulted name "" text?).isSome = true) := by
    simp only [Candidate.mandatory, Candidate.optional, List.forall_mem_cons,
      List.not_mem_nil, IsEmpty.forall_iff, forall_const, and_true, and_assoc]
    iterate 12 refine isSome_bind_iff fun _ => ?_
    refine (isSome_bind_iff fun _ => ?_).trans (and_iff_left trivial)
    exact iff_true_intro rfl
  rw [hrecord]
  simp only [isSome_text_iff hunique, isSome_optionalText_iff hunique]
  constructor
  · rintro ⟨hmandatory, hoptional⟩
    exact ⟨hmandatory, hoptional⟩
  · rintro ⟨hmandatory, hoptional⟩
    exact ⟨hmandatory, hoptional⟩

/-- A list of records, none of which is an array. -/
theorem isSome_items {α : Type} {decode : Json → Option α}
    {form : List (String × Json) → Prop} {items : List Json}
    (hobject : ∀ fields, UniqueKeys fields →
      ((decode (.object fields)).isSome = true ↔ form fields))
    (hother : ∀ item, Plain item → (∀ fields, item ≠ .object fields) →
      decode item = none)
    (hplain : ∀ item ∈ items, Plain item) :
    (each? decode items).isSome = true ↔ Each form items := by
  rw [isSome_each]
  constructor
  · intro hsome item hmem
    by_cases hfields : ∃ fields, item = .object fields
    · obtain ⟨fields, rfl⟩ := hfields
      exact ⟨fields, rfl, (hobject fields (hplain _ hmem)).mp (hsome _ hmem)⟩
    · have hnone := hother item (hplain _ hmem) fun fields hsame =>
        hfields ⟨fields, hsame⟩
      have hthis := hsome item hmem
      rw [hnone] at hthis
      cases hthis
  · intro heach item hmem
    obtain ⟨fields, rfl, hform⟩ := heach item hmem
    exact (hobject fields (hplain _ hmem)).mpr hform

theorem record?_of_plain {names : List String} {item : Json} (hplain : Plain item)
    (hother : ∀ fields, item ≠ .object fields) : record? names item = none := by
  cases item with
  | object fields => exact absurd rfl (hother fields)
  | array items => cases hplain
  | _ => rfl

theorem text_eq_some {value : Json} {text : String} :
    value.text? = some text ↔ value = .string text := by
  cases value <;> simp [text?]

theorem required_text_iff (hunique : UniqueKeys fields) {text : String} :
    (Record.map fields).required name text? = some text ↔
      (name, .string text) ∈ fields := by
  simp [required_eq_some hunique, text_eq_some]

/-- A list decoded from a field is as long as the array there. -/
theorem required_list_iff {α : Type} {decode : Json → Option α}
    (hunique : UniqueKeys fields) {values : List α} :
    (Record.map fields).required name (list? decode) = some values ↔
      ∃ items, (name, .array items) ∈ fields ∧ each? decode items = some values := by
  rw [required_eq_some hunique]
  constructor
  · rintro ⟨value, hmem, hsome⟩
    cases value with
    | array items => exact ⟨items, hmem, hsome⟩
    | _ => cases hsome
  · rintro ⟨items, hmem, hsome⟩
    exact ⟨.array items, hmem, hsome⟩

end Forms

/-- What `parse_remote` asks of decoded parameters. -/
structure Complete (params : RemoteParams) : Prop where
  ufrag : params.ufrag ≠ ""
  pwd : params.pwd ≠ ""
  fingerprints : params.fingerprints ≠ []

section Schema

variable {fields inner : List (String × Json)} {params : RemoteParams}

theorem decodeTransport_eq_some (hunique : UniqueKeys inner) :
    RemoteParams.decodeTransport (.object inner) = some params ↔
      ("ufrag", .string params.ufrag) ∈ inner ∧
        ("pwd", .string params.pwd) ∈ inner ∧
        (∃ items, ("fingerprints", .array items) ∈ inner ∧
          each? Fingerprint.decode items = some params.fingerprints) ∧
        ∃ items, ("candidates", .array items) ∈ inner ∧
          each? Candidate.decode items = some params.candidates := by
  rw [← required_text_iff hunique, ← required_text_iff hunique,
    ← required_list_iff hunique, ← required_list_iff hunique]
  simp only [RemoteParams.decodeTransport, record?, Option.bind_eq_bind,
    Option.bind_some, Option.bind_eq_some_iff, Option.some.injEq]
  constructor
  · rintro ⟨ufrag, hufrag, pwd, hpwd, fingerprints, hfingerprints, candidates,
      hcandidates, rfl⟩
    exact ⟨hufrag, hpwd, hfingerprints, hcandidates⟩
  · rintro ⟨hufrag, hpwd, hfingerprints, hcandidates⟩
    exact ⟨_, hufrag, _, hpwd, _, hfingerprints, _, hcandidates, rfl⟩

theorem isSome_each_fingerprint {items : List Json}
    (hplain : ∀ item ∈ items, Plain item) :
    (each? Fingerprint.decode items).isSome = true ↔ Each FingerprintForm items :=
  isSome_items (fun _ hunique => isSome_fingerprint hunique)
    (fun item hitem hother => by
      simp [Fingerprint.decode, record?_of_plain hitem hother]) hplain

theorem isSome_each_candidate {items : List Json}
    (hplain : ∀ item ∈ items, Plain item) :
    (each? Candidate.decode items).isSome = true ↔ Each CandidateForm items :=
  isSome_items (fun _ hunique => isSome_candidate hunique)
    (fun item hitem hother => by
      rw [Candidate.decode, record?_of_plain hitem hother]
      rfl) hplain

theorem complete_transport_iff (hunique : UniqueKeys inner)
    (hplain : ∀ name ∈ ["fingerprints", "candidates"], ∀ items,
      (name, .array items) ∈ inner → ∀ item ∈ items, Plain item) :
    (∃ params, RemoteParams.decodeTransport (.object inner) = some params ∧
        Complete params) ↔ TransportForm inner := by
  have hfingerprint {items : List Json}
      (hmem : ("fingerprints", .array items) ∈ inner) :=
    isSome_each_fingerprint (hplain "fingerprints" (by simp) items hmem)
  have hcandidate {items : List Json}
      (hmem : ("candidates", .array items) ∈ inner) :=
    isSome_each_candidate (hplain "candidates" (by simp) items hmem)
  constructor
  · rintro ⟨params, hdecode, hcomplete⟩
    obtain ⟨hufrag, hpwd, ⟨fingerprints, hfingerprints, hfirst⟩,
      ⟨candidates, hcandidates, hsecond⟩⟩ := (decodeTransport_eq_some hunique).mp hdecode
    refine ⟨⟨_, hcomplete.ufrag, hufrag⟩, ⟨_, hcomplete.pwd, hpwd⟩,
      ⟨fingerprints, ?_, hfingerprints, ?_⟩, ⟨candidates, hcandidates, ?_⟩⟩
    · rintro rfl
      exact hcomplete.fingerprints
        (List.eq_nil_of_length_eq_zero (length_each hfirst))
    · exact (hfingerprint hfingerprints).mp (by simp [hfirst])
    · exact (hcandidate hcandidates).mp (by simp [hsecond])
  · rintro ⟨⟨ufrag, hufrag, hufragMem⟩, ⟨pwd, hpwd, hpwdMem⟩,
      ⟨fingerprints, hsome, hfingerprints, hfirst⟩,
      ⟨candidates, hcandidates, hsecond⟩⟩
    obtain ⟨first, hfirst⟩ :=
      Option.isSome_iff_exists.mp ((hfingerprint hfingerprints).mpr hfirst)
    obtain ⟨second, hsecond⟩ :=
      Option.isSome_iff_exists.mp ((hcandidate hcandidates).mpr hsecond)
    refine ⟨⟨ufrag, pwd, first, second⟩, (decodeTransport_eq_some hunique).mpr
      ⟨hufragMem, hpwdMem, ⟨fingerprints, hfingerprints, hfirst⟩,
        ⟨candidates, hcandidates, hsecond⟩⟩, hufrag, hpwd, ?_⟩
    rintro rfl
    exact hsome (List.eq_nil_of_length_eq_zero (length_each hfirst).symm)

theorem complete_iff (hrecords : Records fields) :
    (∃ params, RemoteParams.decode (.object fields) = some params ∧
        Complete params) ↔ WebRtcForm fields := by
  have hdecode (params : RemoteParams) :
      RemoteParams.decode (.object fields) = some params ↔
        ∃ value, ("transport", value) ∈ fields ∧
          RemoteParams.decodeTransport value = some params := by
    rw [← required_eq_some hrecords.unique]
    rfl
  simp only [hdecode]
  constructor
  · rintro ⟨params, ⟨value, hmem, hvalue⟩, hcomplete⟩
    by_cases hobject : ∃ inner, value = .object inner
    · obtain ⟨inner, rfl⟩ := hobject
      have hunique : UniqueKeys inner := hrecords.transport _ hmem
      exact ⟨inner, hmem, (complete_transport_iff hunique
        (hrecords.items inner hmem)).mp ⟨params, hvalue, hcomplete⟩⟩
    · have hnone := @record?_of_plain RemoteParams.transportNames value
        (hrecords.transport _ hmem) fun inner hsame => hobject ⟨inner, hsame⟩
      simp [RemoteParams.decodeTransport, hnone] at hvalue
  · rintro ⟨inner, hmem, hform⟩
    have hunique : UniqueKeys inner := hrecords.transport _ hmem
    obtain ⟨params, hvalue, hcomplete⟩ := (complete_transport_iff hunique
      (hrecords.items inner hmem)).mpr hform
    exact ⟨params, ⟨.object inner, hmem, hvalue⟩, hcomplete⟩

/-! The probe. -/

def probes (json : Json) : Bool :=
  match Probe.decode json with
  | some probe => probe.rtmp || probe.stream
  | none => false

theorem isNull_iff {value : Json} : isNull value = true ↔ value = .null := by
  cases value <;> simp [isNull]

/-- A field that is missing probes as null. -/
theorem probed (hunique : UniqueKeys fields) (name : String) :
    ∃ value, (Record.map fields).defaulted name .null some = some value ∧
      (isNull value = false ↔ ∃ value, (name, value) ∈ fields ∧ value ≠ .null) := by
  unfold Record.defaulted
  rcases @field_cases _ _ name some hunique (some Json.null) with
    ⟨value, hmem, hfield⟩ | ⟨habsent, hfield⟩
  · refine ⟨value, hfield, ?_⟩
    rw [← Bool.not_eq_true, isNull_iff]
    constructor
    · intro hvalue
      exact ⟨value, hmem, hvalue⟩
    · rintro ⟨other, hother, hnull⟩
      have hsame := (values_of_mem hunique hmem).symm.trans
        (values_of_mem hunique hother)
      cases hsame
      exact hnull
  · refine ⟨.null, hfield, ?_⟩
    simp only [isNull, Bool.true_eq_false, false_iff]
    rintro ⟨value, hmem, _⟩
    exact habsent value hmem

theorem probes_iff (hunique : UniqueKeys fields) :
    probes (.object fields) = true ↔ Unsupported fields := by
  obtain ⟨rtmp, hrtmp, hrtmpNull⟩ := probed hunique "rtmp"
  obtain ⟨stream, hstream, hstreamNull⟩ := probed hunique "stream"
  have hprobe : Probe.decode (.object fields) =
      some ⟨!isNull rtmp, !isNull stream⟩ := by
    simp [Probe.decode, record?, hrtmp, hstream]
  simp [probes, hprobe, hrtmpNull, hstreamNull, Unsupported]

/-! Serialised parameters are decoded again. -/

theorem values_unlessEmpty (key text name : String) :
    values (unlessEmpty key text) name =
      if key = name ∧ text ≠ "" then [.string text] else [] := by
  by_cases htext : text = "" <;> by_cases hkey : key = name <;>
    simp [values, unlessEmpty, htext, hkey]

/-- What was left out because it is empty is the default. -/
theorem pick_unlessEmpty (text : String) :
    pick (some "") text? (if text = "" then [] else [.string text]) =
      some text := by
  by_cases htext : text = "" <;> simp [htext, text?]

theorem decode_encode_fingerprint (fingerprint : Fingerprint) :
    Fingerprint.decode fingerprint.encode = some fingerprint := by
  simp [Fingerprint.decode, Fingerprint.encode, record?, Record.required,
    Record.defaulted, Record.field, values_cons, values_append,
    values_unlessEmpty, pick_unlessEmpty, text?]

theorem decode_encode_candidate (candidate : Candidate) :
    Candidate.decode candidate.encode = some candidate := by
  have hrecord : ∃ fields, candidate.encode = .object fields ∧
      (∀ name text, (name, text) ∈
        [("generation", candidate.generation), ("component", candidate.component),
          ("protocol", candidate.protocol), ("port", candidate.port),
          ("ip", candidate.ip), ("foundation", candidate.foundation),
          ("id", candidate.id), ("priority", candidate.priority),
          ("type", candidate.candidateType), ("network", candidate.network)] →
        (Record.map fields).required name text? = some text) ∧
      ∀ name text, (name, text) ∈
        [("rel-addr", candidate.relAddr), ("rel-port", candidate.relPort),
          ("tcptype", candidate.tcpType)] →
        (Record.map fields).defaulted name "" text? = some text := by
    refine ⟨_, rfl, ?_, ?_⟩ <;> intro name text hfield <;>
      simp only [List.mem_cons, List.not_mem_nil, or_false, Prod.mk.injEq] at hfield
    · rcases hfield with ⟨rfl, rfl⟩ | ⟨rfl, rfl⟩ | ⟨rfl, rfl⟩ | ⟨rfl, rfl⟩ | ⟨rfl, rfl⟩ |
        ⟨rfl, rfl⟩ | ⟨rfl, rfl⟩ | ⟨rfl, rfl⟩ | ⟨rfl, rfl⟩ | ⟨rfl, rfl⟩ <;>
      simp [Record.required, Record.field, values_cons, values_append,
        values_unlessEmpty, text?]
    · rcases hfield with ⟨rfl, rfl⟩ | ⟨rfl, rfl⟩ | ⟨rfl, rfl⟩ <;>
      simp [Record.defaulted, Record.field, values_cons, values_append,
        values_unlessEmpty, pick_unlessEmpty]
  obtain ⟨fields, hencode, hmandatory, hoptional⟩ := hrecord
  rw [hencode]
  refine Option.bind_eq_some_iff.mpr ⟨candidate.generation, hmandatory _ _ (by simp), ?_⟩
  refine Option.bind_eq_some_iff.mpr ⟨candidate.component, hmandatory _ _ (by simp), ?_⟩
  refine Option.bind_eq_some_iff.mpr ⟨candidate.protocol, hmandatory _ _ (by simp), ?_⟩
  refine Option.bind_eq_some_iff.mpr ⟨candidate.port, hmandatory _ _ (by simp), ?_⟩
  refine Option.bind_eq_some_iff.mpr ⟨candidate.ip, hmandatory _ _ (by simp), ?_⟩
  refine Option.bind_eq_some_iff.mpr ⟨candidate.foundation, hmandatory _ _ (by simp), ?_⟩
  refine Option.bind_eq_some_iff.mpr ⟨candidate.id, hmandatory _ _ (by simp), ?_⟩
  refine Option.bind_eq_some_iff.mpr ⟨candidate.priority, hmandatory _ _ (by simp), ?_⟩
  refine Option.bind_eq_some_iff.mpr ⟨candidate.candidateType, hmandatory _ _ (by simp), ?_⟩
  refine Option.bind_eq_some_iff.mpr ⟨candidate.network, hmandatory _ _ (by simp), ?_⟩
  refine Option.bind_eq_some_iff.mpr ⟨candidate.relAddr, hoptional _ _ (by simp), ?_⟩
  refine Option.bind_eq_some_iff.mpr ⟨candidate.relPort, hoptional _ _ (by simp), ?_⟩
  refine Option.bind_eq_some_iff.mpr ⟨candidate.tcpType, hoptional _ _ (by simp), ?_⟩
  rfl

theorem decode_encode (params : RemoteParams) :
    RemoteParams.decode params.encode = some params := by
  have hfingerprints :=
    each_encoded decode_encode_fingerprint params.fingerprints
  have hcandidates := each_encoded decode_encode_candidate params.candidates
  have htransport : RemoteParams.decodeTransport (.object
      [("ufrag", .string params.ufrag), ("pwd", .string params.pwd),
        ("fingerprints", .array (params.fingerprints.map Fingerprint.encode)),
        ("candidates", .array (params.candidates.map Candidate.encode))]) =
      some params := by
    rw [decodeTransport_eq_some (by simp [UniqueKeys])]
    simp [hfingerprints, hcandidates]
  simpa [RemoteParams.decode, RemoteParams.encode, record?, Record.required,
    Record.field, values] using htransport

/-! More in a document changes nothing. -/

section Adds

variable {path : List Step} {more : List (String × Json)} {name : String}

theorem required_text_adds (hadds : AddsFields knownNames path fields more)
    (hknown : name ∈ knownNames path) :
    (Record.map more).required name text? =
      (Record.map fields).required name text? :=
  field_adds hadds hknown none fun _ _ _ hvalue => text_adds hvalue

theorem defaulted_text_adds (hadds : AddsFields knownNames path fields more)
    (hknown : name ∈ knownNames path) :
    (Record.map more).defaulted name "" text? =
      (Record.map fields).defaulted name "" text? :=
  field_adds hadds hknown (some "") fun _ _ _ hvalue => text_adds hvalue

theorem fingerprint_adds {item other : Json} (hplain : Plain item)
    (hadds : Adds knownNames [.item, .key "fingerprints", .key "transport"]
      item other) : Fingerprint.decode other = Fingerprint.decode item := by
  cases hadds with
  | same => rfl
  | array _ => cases hplain
  | object hfields =>
      simp [Fingerprint.decode, record?,
        required_text_adds hfields (List.mem_cons_self : "hash" ∈ _),
        defaulted_text_adds hfields (show "setup" ∈ Fingerprint.names by decide),
        required_text_adds hfields (show "fingerprint" ∈ Fingerprint.names by decide)]

theorem candidate_adds {item other : Json} (hplain : Plain item)
    (hadds : Adds knownNames [.item, .key "candidates", .key "transport"]
      item other) : Candidate.decode other = Candidate.decode item := by
  cases hadds with
  | same => rfl
  | array _ => cases hplain
  | object hfields =>
      have hmandatory (name : String) (hname : name ∈ Candidate.mandatory) :=
        required_text_adds hfields (List.mem_append_left Candidate.optional hname)
      have hoptional (name : String) (hname : name ∈ Candidate.optional) :=
        defaulted_text_adds hfields (List.mem_append_right Candidate.mandatory hname)
      iterate 10
        refine Option.bind_congr' (hmandatory _ (by simp [Candidate.mandatory])) ?_
        intro _ _
      iterate 3
        refine Option.bind_congr' (hoptional _ (by simp [Candidate.optional])) ?_
        intro _ _
      rfl

theorem transport_adds {value other : Json} (hplain : Plain value)
    (hitems : ∀ inner, value = .object inner →
      ∀ name ∈ ["fingerprints", "candidates"], ∀ items,
        (name, .array items) ∈ inner → ∀ item ∈ items, Plain item)
    (hadds : Adds knownNames [.key "transport"] value other) :
    RemoteParams.decodeTransport other = RemoteParams.decodeTransport value := by
  cases hadds with
  | same => rfl
  | array _ => cases hplain
  | @object _ inner more hfields =>
      have hfingerprints : (Record.map more).required "fingerprints"
            (list? Fingerprint.decode) =
          (Record.map inner).required "fingerprints" (list? Fingerprint.decode) := by
        apply field_adds hfields
          (show "fingerprints" ∈ RemoteParams.transportNames by decide)
        rintro value hmem other hvalue
        apply list_adds hvalue
        rintro items rfl item hitem each heach
        exact fingerprint_adds
          (hitems inner rfl "fingerprints" (by simp) items hmem item hitem) heach
      have hcandidates : (Record.map more).required "candidates"
            (list? Candidate.decode) =
          (Record.map inner).required "candidates" (list? Candidate.decode) := by
        apply field_adds hfields
          (show "candidates" ∈ RemoteParams.transportNames by decide)
        rintro value hmem other hvalue
        apply list_adds hvalue
        rintro items rfl item hitem each heach
        exact candidate_adds
          (hitems inner rfl "candidates" (by simp) items hmem item hitem) heach
      simp [RemoteParams.decodeTransport, record?, hfingerprints, hcandidates,
        required_text_adds hfields
          (show "ufrag" ∈ RemoteParams.transportNames by decide),
        required_text_adds hfields
          (show "pwd" ∈ RemoteParams.transportNames by decide)]

theorem decode_adds (hrecords : Records fields)
    (hadds : AddsFields knownNames [] fields more) :
    RemoteParams.decode (.object more) = RemoteParams.decode (.object fields) := by
  change (Record.map more).required "transport" _ =
    (Record.map fields).required "transport" _
  apply field_adds hadds (show "transport" ∈ knownNames [] by decide)
  intro value hmem other hvalue
  apply transport_adds (hrecords.transport value hmem) _ hvalue
  rintro inner rfl
  exact hrecords.items inner hmem

theorem isNull_adds {value other : Json} (hadds : Adds knownNames path value other) :
    isNull other = isNull value := by
  cases hadds <;> rfl

theorem probes_adds (hadds : AddsFields knownNames [] fields more) :
    probes (.object more) = probes (.object fields) := by
  have hprobed (name : String) (hname : name ∈ knownNames []) :
      ((Record.map more).defaulted name .null some).map isNull =
        ((Record.map fields).defaulted name .null some).map isNull := by
    have hmapped (fields : List (String × Json)) :
        ((Record.map fields).defaulted name .null some).map isNull =
          (Record.map fields).field name (some true) fun value =>
            some (isNull value) := by
      simp only [Record.defaulted, Record.field]
      rcases values fields name with _ | ⟨value, _ | _⟩ <;> rfl
    rw [hmapped, hmapped]
    exact field_adds hadds hname (some true) fun value _ other hvalue =>
      congrArg some (isNull_adds hvalue)
  have hform (fields : List (String × Json)) :
      probes (.object fields) =
        ((((Record.map fields).defaulted "rtmp" .null some).map isNull).bind fun rtmp =>
          (((Record.map fields).defaulted "stream" .null some).map isNull).map
            fun stream => !rtmp || !stream).getD false := by
    simp only [probes, Probe.decode, record?, Option.bind_eq_bind, Option.bind_some]
    cases (Record.map fields).defaulted "rtmp" .null some <;>
      cases (Record.map fields).defaulted "stream" .null some <;> rfl
  rw [hform, hform, hprobed "rtmp" (by decide), hprobed "stream" (by decide)]

end Adds

/-! `parse_remote`. -/

/-- Both libraries take the text for the document. -/
structure Reads (parsers : JsonParsers) (raw : String) (json : Json) : Prop where
  simd : parsers.simd raw = some json
  serde : parsers.serde raw = some json

variable {parsers : JsonParsers} {raw : String} {json : Json}

def JsonParsers.refused (parsers : JsonParsers) (raw : String) :
    Except RustTgCallsError RemoteParams :=
  .error (.invalidParams ("decode remote params: " ++ parsers.refusal raw))

theorem parseRemote_unsupported (hreads : Reads parsers raw json)
    (hprobes : probes json = true) :
    parsers.codec.parseRemote raw = .error .unsupportedCallMode := by
  have hprobe : parsers.codec.probe raw = Probe.decode json := by
    simp [JsonParsers.codec, hreads.simd]
  rw [Codec.parseRemote, hprobe]
  exact if_pos hprobes

theorem parseRemote_of_reads (hreads : Reads parsers raw json)
    (hprobes : probes json = false) :
    parsers.codec.parseRemote raw =
      match RemoteParams.decode json with
      | none => parsers.refused raw
      | some params =>
          if params.ufrag = "" ∨ params.pwd = "" then
            .error (.invalidParams "remote params missing ice creds")
          else if params.fingerprints = [] then
            .error (.invalidParams "remote params missing fingerprint")
          else
            .ok params := by
  have hprobe : parsers.codec.probe raw = Probe.decode json := by
    simp [JsonParsers.codec, hreads.simd]
  have hdecode : parsers.codec.decode raw =
      match RemoteParams.decode json with
      | some params => .ok params
      | none => .error (parsers.refusal raw) := by
    simp only [JsonParsers.codec, hreads.simd, hreads.serde, Option.bind_some,
      Option.or_self]
  rw [Codec.parseRemote, hprobe, hdecode]
  refine (if_neg (ne_true_of_eq_false hprobes)).trans ?_
  cases RemoteParams.decode json <;> rfl

theorem parseRemote_complete (hreads : Reads parsers raw json)
    (hprobes : probes json = false) {params : RemoteParams}
    (hdecode : RemoteParams.decode json = some params)
    (hcomplete : Complete params) :
    parsers.codec.parseRemote raw = .ok params := by
  simp [parseRemote_of_reads hreads hprobes, hdecode, hcomplete.ufrag,
    hcomplete.pwd, hcomplete.fingerprints]

theorem parseRemote_incomplete (hreads : Reads parsers raw json)
    (hprobes : probes json = false)
    (hincomplete : ¬ ∃ params, RemoteParams.decode json = some params ∧
      Complete params) :
    ∃ detail, parsers.codec.parseRemote raw = .error (.invalidParams detail) := by
  rw [parseRemote_of_reads hreads hprobes]
  cases hdecode : RemoteParams.decode json with
  | none => exact ⟨_, rfl⟩
  | some params =>
      by_cases hcreds : params.ufrag = "" ∨ params.pwd = ""
      · exact ⟨"remote params missing ice creds", if_pos hcreds⟩
      · refine ⟨"remote params missing fingerprint", ?_⟩
        have hfingerprints : params.fingerprints = [] := by
          by_contra hsome
          rw [not_or] at hcreds
          exact hincomplete ⟨params, hdecode, hcreds.1, hcreds.2, hsome⟩
        simp [hcreds, hfingerprints]

/-- The same result, but for what serde says of a text it does not decode. -/
def SameVerdict (parsers : JsonParsers) (raw other : String) : Prop :=
  parsers.codec.parseRemote other = parsers.codec.parseRemote raw ∨
    parsers.codec.parseRemote raw = parsers.refused raw ∧
      parsers.codec.parseRemote other = parsers.refused other

theorem sameVerdict_adds (hreads : Reads parsers raw (.object fields))
    (hrecords : Records fields) {other : String}
    (hother : Reads parsers other (.object more))
    (hadds : AddsFields knownNames [] fields more) :
    SameVerdict parsers raw other := by
  have hprobe := probes_adds hadds
  have hdecode := decode_adds hrecords hadds
  cases hprobes : probes (.object fields) with
  | true =>
      left
      rw [parseRemote_unsupported hreads hprobes,
        parseRemote_unsupported hother (hprobe.trans hprobes)]
  | false =>
      rw [SameVerdict, parseRemote_of_reads hreads hprobes,
        parseRemote_of_reads hother (hprobe.trans hprobes), hdecode]
      cases RemoteParams.decode (.object fields) with
      | none => exact .inr ⟨rfl, rfl⟩
      | some params => exact .inl rfl

theorem ok_parseRemote (hreads : Reads parsers raw json) {params : RemoteParams}
    (hok : parsers.codec.parseRemote raw = .ok params) :
    probes json = false ∧ RemoteParams.decode json = some params ∧
      Complete params := by
  cases hprobes : probes json with
  | true =>
      rw [parseRemote_unsupported hreads hprobes] at hok
      cases hok
  | false =>
      by_cases hcomplete : ∃ params, RemoteParams.decode json = some params ∧
          Complete params
      · obtain ⟨found, hdecode, hfound⟩ := hcomplete
        rw [parseRemote_complete hreads hprobes hdecode hfound] at hok
        cases hok
        exact ⟨rfl, hdecode, hfound⟩
      · obtain ⟨detail, hinvalid⟩ :=
          parseRemote_incomplete hreads hprobes hcomplete
        rw [hinvalid] at hok
        cases hok

theorem parseRemote_schema (hreads : Reads parsers raw (.object fields))
    (hrecords : Records fields) :
    (Unsupported fields →
        parsers.codec.parseRemote raw = .error .unsupportedCallMode) ∧
      (¬ Unsupported fields →
        ((∃ params, parsers.codec.parseRemote raw = .ok params) ↔
            WebRtcForm fields) ∧
          (¬ WebRtcForm fields → ∃ detail,
            parsers.codec.parseRemote raw = .error (.invalidParams detail))) ∧
      (∀ other more, Reads parsers other (.object more) →
        AddsFields knownNames [] fields more → SameVerdict parsers raw other) ∧
      ∀ params, parsers.codec.parseRemote raw = .ok params →
        ∀ other, Reads parsers other params.encode →
          parsers.codec.parseRemote other = .ok params := by
  refine ⟨?_, ?_, ?_, ?_⟩
  · intro hunsupported
    exact parseRemote_unsupported hreads
      ((probes_iff hrecords.unique).mpr hunsupported)
  · intro hsupported
    have hprobes : probes (.object fields) = false := by
      rwa [← Bool.not_eq_true, probes_iff hrecords.unique]
    rw [← complete_iff hrecords]
    refine ⟨?_, parseRemote_incomplete hreads hprobes⟩
    constructor
    · rintro ⟨params, hok⟩
      exact ⟨params, (ok_parseRemote hreads hok).2⟩
    · rintro ⟨params, hdecode, hcomplete⟩
      exact ⟨params, parseRemote_complete hreads hprobes hdecode hcomplete⟩
  · intro other more hother hadds
    exact sameVerdict_adds hreads hrecords hother hadds
  · intro params hok other hother
    exact parseRemote_complete hother rfl (decode_encode params)
      (ok_parseRemote hreads hok).2.2

end Schema

/-! A transport with one fingerprint and no candidate. -/

def soleText : String :=
  "\x7b\"transport\":\x7b\"ufrag\":\"u\",\"pwd\":\"p\"," ++
    "\"fingerprints\":[\x7b\"hash\":\"sha-256\",\"fingerprint\":\"AA\"\x7d]," ++
    "\"candidates\":[]\x7d\x7d"

def soleFingerprint : List (String × Json) :=
  [("hash", .string "sha-256"), ("fingerprint", .string "AA")]

def soleTransport : List (String × Json) :=
  [("ufrag", .string "u"), ("pwd", .string "p"),
    ("fingerprints", .array [.object soleFingerprint]), ("candidates", .array [])]

def soleFields : List (String × Json) := [("transport", .object soleTransport)]

def soleParsers : JsonParsers where
  simd := fun raw => if raw = soleText then some (.object soleFields) else none
  serde := fun raw => if raw = soleText then some (.object soleFields) else none
  refusal := fun _ => "EOF while parsing a value at line 1 column 0"
  parseIp := fun _ => none

theorem soleRecords : Records soleFields where
  unique := by decide
  transport := by simp [soleFields, Plain, show UniqueKeys soleTransport by decide]
  items := by
    simp [soleFields, soleTransport, Plain,
      show UniqueKeys soleFingerprint by decide]

theorem soleForm : WebRtcForm soleFields := by
  refine ⟨soleTransport, List.mem_singleton_self _, ⟨"u", by decide, ?_⟩,
    ⟨"p", by decide, ?_⟩, ⟨[.object soleFingerprint], by simp, ?_, ?_⟩,
    ⟨[], ?_, ?_⟩⟩
  · simp [soleTransport]
  · simp [soleTransport]
  · simp [soleTransport]
  · simp only [Each, List.mem_singleton]
    rintro item rfl
    refine ⟨soleFingerprint, rfl, ⟨"sha-256", ?_⟩, ⟨"AA", ?_⟩, ?_⟩ <;>
      simp [soleFingerprint, OptionalText]
  · simp [soleTransport]
  · simp [Each]

theorem parseRemote_schema_sole :
    ∃ params, soleParsers.codec.parseRemote soleText = .ok params := by
  have hreads : Reads soleParsers soleText (.object soleFields) := by
    constructor <;> simp [soleParsers]
  have hsupported : ¬ Unsupported soleFields := by
    simp [Unsupported, soleFields]
  exact ((parseRemote_schema hreads soleRecords).2.1 hsupported).1.mpr soleForm

end RustTgCalls.Wrtc
