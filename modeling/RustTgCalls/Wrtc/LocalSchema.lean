import RustTgCalls.Library.JsonRecord
import RustTgCalls.Wrtc.RemoteSchema
import RustTgCalls.Wrtc.Signaling

namespace RustTgCalls.Wrtc

open Json

/-! The JSON of the local parameters, as serde derives it from the records. -/

/-- A field that is left out when it is empty. -/
def unlessZero (number : Nat) : Option Json :=
  if number = 0 then none else some (ofUnsigned number)

def unlessBlank (text : String) : Option Json :=
  if text = "" then none else some (.string text)

def unlessNil {α : Type} (encode : α → Json) (items : List α) : Option Json :=
  if items.isEmpty then none else some (.array (items.map encode))

def u8? (json : Json) : Option UInt8 := (unsigned? 256 json).map UInt8.ofNat

def u32? (json : Json) : Option UInt32 := (unsigned? 4294967296 json).map UInt32.ofNat

namespace SSRCGroup

def names : List String := ["semantics", "sources"]

def encode (group : SSRCGroup) : Json :=
  .object <| present
    [("semantics", some (.string group.semantics)),
      ("sources", some (.array (group.sources.map fun ssrc => ofUnsigned ssrc.toNat)))]

def decode (json : Json) : Option SSRCGroup := do
  let record ← record? names json
  let semantics ← record.required "semantics" text?
  let sources ← record.required "sources" (list? u32?)
  some { semantics, sources }

end SSRCGroup

namespace RTCPFb

def names : List String := ["type", "subtype"]

def encode (feedback : RTCPFb) : Json :=
  .object <| present
    [("type", some (.string feedback.feedbackType)),
      ("subtype", unlessBlank feedback.subtype)]

def decode (json : Json) : Option RTCPFb := do
  let record ← record? names json
  let feedbackType ← record.required "type" text?
  let subtype ← record.defaulted "subtype" "" text?
  some { feedbackType, subtype }

end RTCPFb

namespace PayloadType

def names : List String :=
  ["id", "name", "clockrate", "channels", "parameters", "rtcp-fbs"]

/-- The entries of the map are written in the order in which they are held. -/
def encode (type : PayloadType) : Json :=
  .object <| present
    [("id", some (ofUnsigned type.id.toNat)),
      ("name", some (.string type.name)),
      ("clockrate", some (ofUnsigned type.clockrate)),
      ("channels", unlessZero type.channels),
      ("parameters", type.parameters.map (ofMap .string)),
      ("rtcp-fbs", unlessNil RTCPFb.encode type.rtcpFbs)]

def decode (json : Json) : Option PayloadType := do
  let record ← record? names json
  let id ← record.required "id" u8?
  let name ← record.required "name" text?
  let clockrate ← record.required "clockrate" (unsigned? 4294967296)
  let channels ← record.defaulted "channels" 0 (unsigned? 65536)
  let parameters ← record.defaulted "parameters" none (option? (map? text?))
  let rtcpFbs ← record.defaulted "rtcp-fbs" [] (list? RTCPFb.decode)
  some { id, name, clockrate, channels, parameters, rtcpFbs }

end PayloadType

namespace RTPHdrExt

def names : List String := ["id", "uri"]

def encode (extension : RTPHdrExt) : Json :=
  .object <| present
    [("id", some (ofUnsigned extension.id)), ("uri", some (.string extension.uri))]

def decode (json : Json) : Option RTPHdrExt := do
  let record ← record? names json
  let id ← record.required "id" (unsigned? 256)
  let uri ← record.required "uri" text?
  some { id, uri }

end RTPHdrExt

namespace LocalParams

def names : List String :=
  ["ufrag", "pwd", "fingerprints", "ssrc-groups", "payload-types", "rtp-hdrexts", "ssrc"]

def encode (params : LocalParams) : Json :=
  .object <| present
    [("ufrag", some (.string params.ufrag)),
      ("pwd", some (.string params.pwd)),
      ("fingerprints", some (.array (params.fingerprints.map Fingerprint.encode))),
      ("ssrc-groups", some (.array (params.ssrcGroups.map SSRCGroup.encode))),
      ("payload-types", some (.array (params.payloadTypes.map PayloadType.encode))),
      ("rtp-hdrexts", some (.array (params.rtpHdrexts.map RTPHdrExt.encode))),
      ("ssrc", some (ofUnsigned params.ssrc.toNat))]

def decode (json : Json) : Option LocalParams := do
  let record ← record? names json
  let ufrag ← record.required "ufrag" text?
  let pwd ← record.required "pwd" text?
  let fingerprints ← record.required "fingerprints" (list? Fingerprint.decode)
  let ssrcGroups ← record.required "ssrc-groups" (list? SSRCGroup.decode)
  let payloadTypes ← record.required "payload-types" (list? PayloadType.decode)
  let rtpHdrexts ← record.required "rtp-hdrexts" (list? RTPHdrExt.decode)
  let ssrc ← record.required "ssrc" u32?
  some { ufrag, pwd, fingerprints, ssrcGroups, payloadTypes, rtpHdrexts, ssrc }

end LocalParams

/-! What was serialised is decoded again. -/

/-- The numbers fit their types, and no key of a map is held twice. -/
structure PayloadType.Typed (type : PayloadType) : Prop where
  clockrate : type.clockrate < 4294967296
  channels : type.channels < 65536
  keys : ∀ entries, type.parameters = some entries → (entries.map Prod.fst).Nodup

structure LocalParams.Typed (params : LocalParams) : Prop where
  payloadTypes : ∀ type ∈ params.payloadTypes, type.Typed
  rtpHdrexts : ∀ extension ∈ params.rtpHdrexts, extension.id < 256

theorem u8_ofUnsigned (number : UInt8) : u8? (ofUnsigned number.toNat) = some number := by
  rw [u8?, unsigned_ofUnsigned number.toNat_lt]
  simp

theorem u32_ofUnsigned (number : UInt32) :
    u32? (ofUnsigned number.toNat) = some number := by
  rw [u32?, unsigned_ofUnsigned number.toNat_lt]
  simp

theorem decode_unlessBlank (text : String) :
    (unlessBlank text).elim (some "") text? = some text := by
  unfold unlessBlank
  split
  next hblank => simp [hblank]
  next => rfl

theorem decode_unlessZero {size number : Nat} (hnumber : number < size) :
    (unlessZero number).elim (some 0) (unsigned? size) = some number := by
  unfold unlessZero
  split
  next hzero => simp [hzero]
  next => exact unsigned_ofUnsigned hnumber

theorem decode_unlessNil {α : Type} {encode : α → Json} {decode : Json → Option α}
    (hdecode : ∀ item, decode (encode item) = some item) (items : List α) :
    (unlessNil encode items).elim (some []) (list? decode) = some items := by
  unfold unlessNil
  split
  next hnil =>
    rw [List.isEmpty_iff.mp hnil]
    rfl
  next => exact each_encoded hdecode items

theorem decode_encode_ssrcGroup (group : SSRCGroup) :
    SSRCGroup.decode group.encode = some group := by
  have hsources : list? u32? (.array (group.sources.map fun ssrc => ofUnsigned ssrc.toNat)) =
      some group.sources := each_encoded u32_ofUnsigned group.sources
  simp [SSRCGroup.decode, SSRCGroup.encode, record?, Record.required, field_present,
    hsources, text?]

theorem decode_encode_rtcpFb (feedback : RTCPFb) :
    RTCPFb.decode feedback.encode = some feedback := by
  simp [RTCPFb.decode, RTCPFb.encode, record?, Record.required, Record.defaulted,
    field_present, decode_unlessBlank, text?]

/-- The entries of the map come back in the order in which they were written. -/
theorem decode_parameters {type : PayloadType} (htyped : type.Typed) :
    (type.parameters.map (ofMap .string)).elim (some none) (option? (map? text?)) =
      some type.parameters := by
  cases hparameters : type.parameters with
  | none => rfl
  | some entries =>
      have htext (text : String) : text? (.string text) = some text := rfl
      have hentries : map? text? (ofMap .string entries) = some entries :=
        map_ofMap htext (htyped.keys entries hparameters)
      change (map? text? (ofMap .string entries)).map some = some (some entries)
      rw [hentries]
      rfl

theorem decode_encode_payloadType {type : PayloadType} (htyped : type.Typed) :
    PayloadType.decode type.encode = some type := by
  have hchannels := decode_unlessZero htyped.channels
  have hclockrate := unsigned_ofUnsigned htyped.clockrate
  have hfeedback := decode_unlessNil decode_encode_rtcpFb type.rtcpFbs
  have hparameters := decode_parameters htyped
  simp [PayloadType.decode, PayloadType.encode, record?, Record.required,
    Record.defaulted, field_present, hchannels, hclockrate, hfeedback, hparameters,
    u8_ofUnsigned, text?]

theorem decode_encode_rtpHdrExt {extension : RTPHdrExt} (hid : extension.id < 256) :
    RTPHdrExt.decode extension.encode = some extension := by
  simp [RTPHdrExt.decode, RTPHdrExt.encode, record?, Record.required, field_present,
    unsigned_ofUnsigned hid, text?]

theorem decode_encode_localParams {params : LocalParams} (htyped : params.Typed) :
    LocalParams.decode params.encode = some params := by
  have hfingerprints : list? Fingerprint.decode
      (.array (params.fingerprints.map Fingerprint.encode)) = some params.fingerprints :=
    each_encoded decode_encode_fingerprint params.fingerprints
  have hgroups : list? SSRCGroup.decode (.array (params.ssrcGroups.map SSRCGroup.encode)) =
      some params.ssrcGroups := each_encoded decode_encode_ssrcGroup params.ssrcGroups
  have htypes : list? PayloadType.decode
      (.array (params.payloadTypes.map PayloadType.encode)) = some params.payloadTypes :=
    each_encoded_mem fun type hmem => decode_encode_payloadType (htyped.payloadTypes type hmem)
  have hextensions : list? RTPHdrExt.decode
      (.array (params.rtpHdrexts.map RTPHdrExt.encode)) = some params.rtpHdrexts :=
    each_encoded_mem fun extension hmem =>
      decode_encode_rtpHdrExt (htyped.rtpHdrexts extension hmem)
  simp [LocalParams.decode, LocalParams.encode, record?, Record.required, field_present,
    hfingerprints, hgroups, htypes, hextensions, u32_ofUnsigned, text?]

/-! The maps of a `HashMap` are written in any order. -/

/-- The same map. -/
def SameMap : Option (List (String × String)) → Option (List (String × String)) → Prop
  | some entries, some others => entries.Perm others
  | none, none => True
  | _, _ => False

structure PayloadType.SameAs (type other : PayloadType) : Prop where
  rest : other = { type with parameters := other.parameters }
  parameters : SameMap type.parameters other.parameters

structure LocalParams.SameAs (params other : LocalParams) : Prop where
  rest : other = { params with payloadTypes := other.payloadTypes }
  payloadTypes : List.Forall₂ PayloadType.SameAs params.payloadTypes other.payloadTypes

theorem PayloadType.SameAs.typed {type other : PayloadType} (hsame : type.SameAs other)
    (htyped : type.Typed) : other.Typed := by
  obtain ⟨hrest, hparameters⟩ := hsame
  refine ⟨hrest ▸ htyped.clockrate, hrest ▸ htyped.channels, ?_⟩
  intro entries hentries
  rw [hentries] at hparameters
  cases hheld : type.parameters with
  | none =>
      rw [hheld] at hparameters
      exact hparameters.elim
  | some held =>
      rw [hheld] at hparameters
      have hperm : held.Perm entries := hparameters
      exact (hperm.map Prod.fst).nodup_iff.mp (htyped.keys held hheld)

theorem PayloadType.SameAs.each_typed {types others : List PayloadType}
    (hsame : List.Forall₂ PayloadType.SameAs types others) (htyped : ∀ type ∈ types, type.Typed) :
    ∀ other ∈ others, other.Typed := by
  induction hsame with
  | nil => exact htyped
  | cons hfirst _ ih =>
      obtain ⟨hhead, htail⟩ := List.forall_mem_cons.mp htyped
      exact List.forall_mem_cons.mpr ⟨hfirst.typed hhead, ih htail⟩

theorem PayloadType.SameAs.exists_other {types others : List PayloadType}
    (hsame : List.Forall₂ PayloadType.SameAs types others) {type : PayloadType}
    (hmem : type ∈ types) : ∃ other ∈ others, type.SameAs other := by
  induction hsame with
  | nil => cases hmem
  | @cons first other _ _ hfirst _ ih =>
      obtain rfl | hrest := List.mem_cons.mp hmem
      · exact ⟨other, List.mem_cons_self, hfirst⟩
      · obtain ⟨found, hfound, hsame⟩ := ih hrest
        exact ⟨found, List.mem_cons_of_mem _ hfound, hsame⟩

theorem LocalParams.SameAs.typed {params other : LocalParams} (hsame : params.SameAs other)
    (htyped : params.Typed) : other.Typed := by
  obtain ⟨hrest, hpayloadTypes⟩ := hsame
  exact ⟨PayloadType.SameAs.each_typed hpayloadTypes htyped.payloadTypes,
    hrest ▸ htyped.rtpHdrexts⟩

theorem buildLocalParams_ok {ufrag pwd fingerprint : String} {audio video : UInt32}
    (hufrag : ufrag.isEmpty = false) (hpwd : pwd.isEmpty = false)
    (hfingerprint : fingerprint.isEmpty = false) (haudio : audio ≠ 0) :
    ∃ params, buildLocalParams ufrag pwd fingerprint audio video = .ok params := by
  unfold buildLocalParams
  rw [if_neg (by simp [hufrag, hpwd, hfingerprint]), if_neg haudio]
  exact ⟨_, rfl⟩

theorem eq_of_buildLocalParams {ufrag pwd fingerprint : String} {audio video : UInt32}
    {params : LocalParams}
    (hbuilt : buildLocalParams ufrag pwd fingerprint audio video = .ok params) :
    params =
      { ufrag
        pwd
        ssrc := audio
        fingerprints := [⟨"sha-256", "passive", fingerprint⟩]
        payloadTypes
        rtpHdrexts
        ssrcGroups := if video ≠ 0 then [⟨"FID", [video, video + 1]⟩] else [] } := by
  unfold buildLocalParams at hbuilt
  split at hbuilt
  · cases hbuilt
  · split at hbuilt
    · cases hbuilt
    · exact (Except.ok.inj hbuilt).symm

/-- What the code announces fits its types. -/
theorem typed_buildLocalParams {ufrag pwd fingerprint : String} {audio video : UInt32}
    {params : LocalParams}
    (hbuilt : buildLocalParams ufrag pwd fingerprint audio video = .ok params) :
    params.Typed := by
  obtain rfl := eq_of_buildLocalParams hbuilt
  refine ⟨?_, show ∀ extension ∈ rtpHdrexts, extension.id < 256 by decide⟩
  intro type hmem
  refine ⟨?_, ?_, ?_⟩
  · exact (show ∀ type ∈ payloadTypes, type.clockrate < 4294967296 by decide) type hmem
  · exact (show ∀ type ∈ payloadTypes, type.channels < 65536 by decide) type hmem
  · have hkeys : ∀ type ∈ payloadTypes, ∀ entries ∈ type.parameters,
        (entries.map Prod.fst).Nodup := by decide
    exact fun entries hentries => hkeys type hmem entries hentries

end RustTgCalls.Wrtc
