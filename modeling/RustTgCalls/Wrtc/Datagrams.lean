import RustTgCalls.Wrtc.Transport

namespace RustTgCalls.Wrtc

open Media

/-! Which handler of the worker takes a datagram, and what it answers to a STUN
packet. -/

namespace Transport

inductive Handler where
  | stun
  | dtls
  | srtcp
  deriving DecidableEq, Repr

/-- The worker's buffer. -/
def bufferLength : Nat := 4096

/-- The handlers the receive branch runs on the `n` bytes of a datagram that fit
its buffer, in order. -/
def handlers (datagram : Bytes) : List Handler :=
  let data := datagram.take bufferLength
  match data with
  | [] => []
  | first :: _ =>
      -- 1. STUN Binding Request (magic cookie 0x2112A442)
      if isStun data then [.stun]
      -- 2. DTLS Handshake / Datagrams (types 20..=23)
      else if 20 ≤ first ∧ first ≤ 23 then [.dtls]
      -- 3. Incoming SRTP/SRTCP Packets (types >= 128)
      else if 128 ≤ first then [.srtcp]
      else []

/-- The worker reaches an event of the DTLS endpoint through that handler only. -/
theorem receive_not_dtls (peerAddr : SocketAddr) (answer : DtlsAnswer)
    (hdtls : Handler.dtls ∉ handlers datagram) :
    receive peerAddr (datagram.take bufferLength) answer = .loop := by
  unfold handlers at hdtls
  unfold receive
  cases hdata : datagram.take bufferLength with
  | nil => rfl
  | cons first rest =>
      rw [hdata] at hdtls
      dsimp only at hdtls ⊢
      by_cases hstun : isStun (first :: rest) = true
      · rw [if_pos hstun]
      · rw [if_neg hstun] at hdtls ⊢
        by_cases hrange : 20 ≤ first ∧ first ≤ 23
        · simp [hrange] at hdtls
        · rw [if_neg hrange]

/-- What the first byte decides, with the magic cookie at bytes 4 to 7. -/
structure ByFirstByte (first : UInt8) (datagram : Bytes) : Prop where
  one_handler : (handlers datagram).length ≤ 1
  stun : .stun ∈ handlers datagram →
    first ≤ 3 ∧ (datagram.drop 4).take 4 = [0x21, 0x12, 0xa4, 0x42]
  dtls : .dtls ∈ handlers datagram ↔ 20 ≤ first ∧ first ≤ 23
  srtcp : 128 ≤ first → first ≤ 191 → .srtcp ∈ handlers datagram

@[simp] theorem isStun_take (datagram : Bytes) :
    isStun (datagram.take bufferLength) = isStun datagram := by
  have hlength : 20 ≤ (datagram.take bufferLength).length ↔ 20 ≤ datagram.length := by
    rw [List.length_take, bufferLength]
    omega
  have hcookie : ((datagram.take bufferLength).drop 4).take 4 = (datagram.drop 4).take 4 := by
    rw [List.drop_take, List.take_take, bufferLength]
    rfl
  simp only [isStun, hlength, hcookie]

theorem handlers_cons (first : UInt8) (rest : Bytes) :
    handlers (first :: rest) =
      if isStun (first :: rest) then [.stun]
      else if 20 ≤ first ∧ first ≤ 23 then [.dtls]
      else if 128 ≤ first then [.srtcp]
      else [] := by
  have htake : (first :: rest).take bufferLength = first :: rest.take 4095 := rfl
  have hstun := isStun_take (first :: rest)
  rw [htake] at hstun
  simp only [handlers, htake, hstun]

/-- The first byte decides except where the cookie stands in a datagram that
does not begin like STUN. -/
theorem byFirstByte_iff (first : UInt8) (rest : Bytes) :
    ByFirstByte first (first :: rest) ↔ ¬ (isStun (first :: rest) = true ∧ 3 < first) := by
  constructor
  · rintro hbyte ⟨hstun, hlate⟩
    have hhandlers : handlers (first :: rest) = [.stun] := by
      rw [handlers_cons, if_pos hstun]
    obtain ⟨hearly, _⟩ := hbyte.stun (by simp [hhandlers])
    exact absurd hlate (UInt8.not_lt.mpr hearly)
  · intro hclear
    by_cases hstun : isStun (first :: rest) = true
    · have hearly : first ≤ 3 := UInt8.not_lt.mp fun hlate => hclear ⟨hstun, hlate⟩
      have hhandlers : handlers (first :: rest) = [.stun] := by
        rw [handlers_cons, if_pos hstun]
      have hcookie : ((first :: rest).drop 4).take 4 = [0x21, 0x12, 0xa4, 0x42] := by
        simpa [isStun] using (Bool.and_eq_true_iff.mp hstun).2
      refine ⟨by simp [hhandlers], fun _ => ⟨hearly, hcookie⟩, ?_, ?_⟩
      · simp only [hhandlers, List.mem_singleton, reduceCtorEq, false_iff]
        grind
      · intro hmedia
        grind
    · rw [Bool.not_eq_true] at hstun
      have hhandlers := handlers_cons first rest
      rw [hstun] at hhandlers
      refine ⟨?_, ?_, ?_, ?_⟩ <;> grind

/-- An SRTCP feedback packet whose sender has the cookie for its SSRC. -/
def capturedFeedback : Bytes :=
  [0x81, 206, 0, 4, 0x21, 0x12, 0xa4, 0x42] ++ List.replicate 12 0

theorem capturedFeedback_stun :
    ¬ ByFirstByte 0x81 capturedFeedback ∧ handlers capturedFeedback = [.stun] := by
  have hhandlers : handlers capturedFeedback = [.stun] := by decide
  refine ⟨?_, hhandlers⟩
  intro hbyte
  have hsrtcp := hbyte.srtcp (by decide) (by decide)
  simp [hhandlers] at hsrtcp

end Transport

/-! The STUN codec is a parameter. -/

inductive StunType where
  | bindingRequest
  | bindingSuccess
  | other (value : UInt16)
  deriving DecidableEq, Repr

structure StunMessage where
  raw : Bytes
  typ : StunType
  transactionId : Bytes
  deriving DecidableEq, Repr

/-- What a message is built from. -/
inductive StunSetter where
  | type (typ : StunType)
  | transactionId (id : Bytes)
  | xorMappedAddress (addr : SocketAddr)
  | messageIntegrity (key : Bytes)
  | fingerprint
  deriving DecidableEq, Repr

/-- `check` is the integrity check of the key on a message, `mappedAddress` its
XOR-MAPPED-ADDRESS. -/
structure StunCodec where
  decode : Bytes → Option StunMessage
  build : List StunSetter → Option Bytes
  check : Bytes → StunMessage → Bool
  mappedAddress : StunMessage → Option SocketAddr

namespace StunCodec

variable (codec : StunCodec)

def asBytes (text : String) : Bytes := text.toUTF8.data.toList

def success (id : Bytes) (peerAddr : SocketAddr) (localPwd : String) : List StunSetter :=
  [.type .bindingSuccess, .transactionId id, .xorMappedAddress peerAddr,
    .messageIntegrity (asBytes localPwd), .fingerprint]

def handleStunPacket (data : Bytes) (peerAddr : SocketAddr) (localPwd : String) :
    Option Bytes :=
  match codec.decode data with
  | none => none
  | some msg =>
      if msg.typ ≠ .bindingRequest then none
      else codec.build (success msg.transactionId peerAddr localPwd)

/-- The response is a success response to the request from this address. -/
def Answers (request : StunMessage) (peerAddr : SocketAddr) (resp : Bytes) : Prop :=
  ∃ answer, codec.decode resp = some answer ∧ answer.typ = .bindingSuccess ∧
    answer.transactionId = request.transactionId ∧
    codec.mappedAddress answer = some peerAddr

/-- A message built with a type, an identifier and an address decodes to a
message that has them. -/
def Builds : Prop :=
  ∀ typ id addr key raw,
    codec.build [.type typ, .transactionId id, .xorMappedAddress addr,
        .messageIntegrity key, .fingerprint] = some raw →
      ∃ msg, codec.decode raw = some msg ∧ msg.typ = typ ∧ msg.transactionId = id ∧
        codec.mappedAddress msg = some addr

/-- A response is given only to a Binding Request whose integrity verifies, and
answers it. -/
def Authenticates (data : Bytes) (peerAddr : SocketAddr) (localPwd : String) : Prop :=
  ∀ resp, codec.handleStunPacket data peerAddr localPwd = some resp →
    ∃ request, codec.decode data = some request ∧ request.typ = .bindingRequest ∧
      codec.check (asBytes localPwd) request = true ∧
      codec.Answers request peerAddr resp

/-- A response is given only to a Binding Request, and answers it. -/
theorem handleStunPacket_answers (hbuilds : codec.Builds)
    (data : Bytes) (peerAddr : SocketAddr) (localPwd : String) :
    ∀ resp, codec.handleStunPacket data peerAddr localPwd = some resp →
      ∃ request, codec.decode data = some request ∧ request.typ = .bindingRequest ∧
        codec.Answers request peerAddr resp := by
  intro resp hresp
  unfold handleStunPacket at hresp
  cases hdecode : codec.decode data with
  | none => simp [hdecode] at hresp
  | some request =>
      simp only [hdecode] at hresp
      by_cases htyp : request.typ = .bindingRequest
      · rw [if_neg (not_not_intro htyp)] at hresp
        exact ⟨request, rfl, htyp, hbuilds _ _ _ _ _ hresp⟩
      · rw [if_pos htyp] at hresp
        cases hresp

/-- A Binding Request without attributes, and the success response to it for the
address 10.0.0.1:5000 and the password "local". -/
def bareRequest : StunMessage where
  raw := [0x00, 0x01, 0x00, 0x00, 0x21, 0x12, 0xa4, 0x42, 0x01, 0x02, 0x03, 0x04, 0x05,
    0x06, 0x07, 0x08, 0x09, 0x0a, 0x0b, 0x0c]
  typ := .bindingRequest
  transactionId := [0x01, 0x02, 0x03, 0x04, 0x05, 0x06, 0x07, 0x08, 0x09, 0x0a, 0x0b, 0x0c]

def bareAnswer : StunMessage where
  raw := [0x01, 0x01, 0x00, 0x2c, 0x21, 0x12, 0xa4, 0x42, 0x01, 0x02, 0x03, 0x04, 0x05,
    0x06, 0x07, 0x08, 0x09, 0x0a, 0x0b, 0x0c, 0x00, 0x20, 0x00, 0x08, 0x00, 0x01, 0x32,
    0x9a, 0x2b, 0x12, 0xa4, 0x43, 0x00, 0x08, 0x00, 0x14, 0xec, 0x63, 0x09, 0x1b, 0x86,
    0xfd, 0xd1, 0x75, 0xaa, 0x05, 0x9d, 0x6b, 0x6a, 0x53, 0xc4, 0xca, 0xf3, 0xb1, 0x08,
    0x52, 0x80, 0x28, 0x00, 0x04, 0x43, 0x70, 0x99, 0x9b]
  typ := .bindingSuccess
  transactionId := bareRequest.transactionId

/-- The codec on these two messages; only the response carries an integrity. -/
def bareCodec : StunCodec where
  decode := fun data =>
    if data = bareRequest.raw then some bareRequest
    else if data = bareAnswer.raw then some bareAnswer
    else none
  build := fun setters =>
    if setters = success bareRequest.transactionId Transport.sampleAddr "local" then
      some bareAnswer.raw
    else none
  check := fun key msg => key = asBytes "local" ∧ msg = bareAnswer
  mappedAddress := fun msg =>
    if msg = bareAnswer then some Transport.sampleAddr else none

theorem bareCodec_builds : bareCodec.Builds := by
  intro typ id addr key raw hbuild
  simp only [bareCodec] at hbuild
  split at hbuild
  next hsetters =>
    cases hbuild
    simp only [success, List.cons.injEq, StunSetter.type.injEq,
      StunSetter.transactionId.injEq, StunSetter.xorMappedAddress.injEq] at hsetters
    obtain ⟨rfl, rfl, rfl, _⟩ := hsetters
    exact ⟨bareAnswer, by decide, rfl, rfl, by decide⟩
  next => cases hbuild

theorem handleStunPacket_bare :
    ∃ request, bareCodec.decode bareRequest.raw = some request ∧
      request.typ = .bindingRequest ∧
      bareCodec.Answers request Transport.sampleAddr bareAnswer.raw :=
  bareCodec.handleStunPacket_answers bareCodec_builds bareRequest.raw Transport.sampleAddr
    "local" bareAnswer.raw (by decide)

/-- A request without an integrity is answered. -/
theorem bareRequest_unauthenticated :
    ¬ bareCodec.Authenticates bareRequest.raw Transport.sampleAddr "local" := by
  intro hauthenticates
  obtain ⟨request, hdecode, _, hcheck, _⟩ := hauthenticates bareAnswer.raw (by decide)
  have hrequest : request = bareRequest := Option.some.inj (hdecode.symm.trans (by decide))
  rw [hrequest] at hcheck
  exact absurd hcheck (by decide)

end StunCodec

end RustTgCalls.Wrtc
