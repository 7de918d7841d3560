import RustTgCalls.Wrtc.Transport

namespace RustTgCalls.Wrtc

/-! Which remote candidate `connect` goes on with. -/

/-- A UDP candidate with an address and a port that can be sent to. -/
structure Codec.Usable (codec : Codec) (candidate : Candidate) (addr : SocketAddr) :
    Prop where
  protocol : candidate.protocol.toLower = "udp"
  ip : codec.parseIp candidate.ip = some addr.ip
  port : parseU16 candidate.port = some addr.port
  port_pos : 1 ≤ addr.port
  port_le : addr.port ≤ 65535

/-- The first usable candidate with an IPv4 address, or without one the first
usable candidate. -/
inductive Codec.Chosen (codec : Codec) (candidates : List Candidate) :
    SocketAddr → Prop
  | v4 (split : candidates = before ++ candidate :: behind)
      (usable : codec.Usable candidate addr) (is_v4 : addr.ip.isIpv4 = true)
      (first : ∀ other ∈ before, ∀ address, codec.Usable other address →
        address.ip.isIpv4 = false) :
      Chosen codec candidates addr
  | v6 (split : candidates = before ++ candidate :: behind)
      (usable : codec.Usable candidate addr)
      (first : ∀ other ∈ before, ∀ address, ¬ codec.Usable other address)
      (no_v4 : ∀ other ∈ candidates, ∀ address, codec.Usable other address →
        address.ip.isIpv4 = false) :
      Chosen codec candidates addr

theorem parseU16_lt {text : String} (hparse : parseU16 text = some port) : port < 65536 := by
  unfold parseU16 at hparse
  grind

namespace Codec

variable (codec : Codec)

theorem udpAddress_eq_some {candidate : Candidate} {addr : SocketAddr} :
    codec.udpAddress candidate = some addr ↔ codec.Usable candidate addr := by
  constructor
  · intro haddress
    unfold udpAddress at haddress
    split at haddress
    next hprotocol =>
      split at haddress
      next ip hip =>
        dsimp only at haddress
        split at haddress
        next hport =>
          cases haddress
          cases hparse : parseU16 candidate.port with
          | none => simp [hparse] at hport
          | some port =>
              rw [hparse] at hport
              have hlt := parseU16_lt hparse
              exact ⟨hprotocol, hip, hparse, hport, Nat.le_of_lt_succ hlt⟩
        next => simp at haddress
      next => simp at haddress
    next => simp at haddress
  · rintro ⟨hprotocol, hip, hport, hpos, _⟩
    have hpositive : addr.port > 0 := hpos
    simp [udpAddress, hprotocol, hip, hport, hpositive]

theorem udpAddress_eq_none {candidate : Candidate} :
    codec.udpAddress candidate = none ↔ ∀ addr, ¬ codec.Usable candidate addr := by
  simp only [Option.eq_none_iff_forall_ne_some, ne_eq, udpAddress_eq_some]

/-- The loop's early exit and its fallback are two passes over the usable
addresses. -/
theorem selectCandidate_eq (target : Option SocketAddr) (candidates : List Candidate) :
    codec.selectCandidate target candidates =
      ((candidates.filterMap codec.udpAddress).find? (·.ip.isIpv4)).or
        (target.or (candidates.filterMap codec.udpAddress).head?) := by
  induction candidates generalizing target with
  | nil => simp [selectCandidate]
  | cons candidate candidates ih =>
      cases haddress : codec.udpAddress candidate with
      | none =>
          rw [selectCandidate, haddress, List.filterMap_cons_none haddress]
          exact ih target
      | some address =>
          rw [selectCandidate, haddress, List.filterMap_cons_some haddress]
          by_cases hv4 : address.ip.isIpv4 = true
          · simp [hv4]
          · simp [hv4, ih]

theorem find?_isIpv4_eq_some {candidates : List Candidate} {addr : SocketAddr} :
    (candidates.filterMap codec.udpAddress).find? (·.ip.isIpv4) = some addr ↔
      ∃ before candidate behind, candidates = before ++ candidate :: behind ∧
        codec.Usable candidate addr ∧ addr.ip.isIpv4 = true ∧
        ∀ other ∈ before, ∀ address, codec.Usable other address →
          address.ip.isIpv4 = false := by
  rw [List.find?_filterMap, Option.bind_eq_some_iff]
  simp only [List.find?_eq_some_iff_append, ← udpAddress_eq_some]
  constructor
  · rintro ⟨candidate, ⟨hv4, before, behind, hsplit, hbefore⟩, haddress⟩
    rw [haddress] at hv4
    refine ⟨before, candidate, behind, hsplit, haddress, hv4, ?_⟩
    intro other hother address hother'
    simpa [hother'] using hbefore other hother
  · rintro ⟨before, candidate, behind, hsplit, haddress, hv4, hbefore⟩
    refine ⟨candidate, ⟨by rw [haddress]; exact hv4, before, behind, hsplit, ?_⟩, haddress⟩
    intro other hother
    cases hother' : codec.udpAddress other with
    | none => rfl
    | some address => simp [hbefore other hother address hother']

theorem find?_isIpv4_eq_none {candidates : List Candidate} :
    (candidates.filterMap codec.udpAddress).find? (·.ip.isIpv4) = none ↔
      ∀ other ∈ candidates, ∀ address, codec.Usable other address →
        address.ip.isIpv4 = false := by
  simp only [List.find?_eq_none, List.mem_filterMap, udpAddress_eq_some, Bool.not_eq_true,
    forall_exists_index, and_imp]
  constructor
  · intro hnone other hother address husable
    exact hnone address other hother husable
  · intro hnone address other hother husable
    exact hnone other hother address husable

theorem head?_eq_some {candidates : List Candidate} {addr : SocketAddr} :
    (candidates.filterMap codec.udpAddress).head? = some addr ↔
      ∃ before candidate behind, candidates = before ++ candidate :: behind ∧
        codec.Usable candidate addr ∧
        ∀ other ∈ before, ∀ address, ¬ codec.Usable other address := by
  simp only [List.head?_filterMap, List.findSome?_eq_some_iff, udpAddress_eq_some,
    udpAddress_eq_none]

theorem selectCandidate_chosen {candidates : List Candidate} {addr : SocketAddr} :
    codec.selectCandidate none candidates = some addr ↔ codec.Chosen candidates addr := by
  rw [selectCandidate_eq, Option.none_or, Option.or_eq_some_iff, find?_isIpv4_eq_some,
    find?_isIpv4_eq_none, head?_eq_some]
  constructor
  · rintro (⟨before, candidate, behind, hsplit, husable, hv4, hfirst⟩ |
      ⟨hnone, before, candidate, behind, hsplit, husable, hfirst⟩)
    · exact .v4 hsplit husable hv4 hfirst
    · exact .v6 hsplit husable hfirst hnone
  · intro hchosen
    cases hchosen with
    | v4 hsplit husable hv4 hfirst => exact .inl ⟨_, _, _, hsplit, husable, hv4, hfirst⟩
    | v6 hsplit husable hfirst hnone =>
        exact .inr ⟨hnone, _, _, _, hsplit, husable, hfirst⟩

theorem selectCandidate_eq_none {candidates : List Candidate} :
    codec.selectCandidate none candidates = none ↔
      ∀ candidate ∈ candidates, ∀ addr, ¬ codec.Usable candidate addr := by
  rw [selectCandidate_eq, Option.none_or, Option.or_eq_none_iff, List.head?_filterMap,
    List.findSome?_eq_none_iff, find?_isIpv4_eq_none]
  simp only [udpAddress_eq_none]
  constructor
  · intro hnone
    exact hnone.2
  · intro hnone
    exact ⟨fun other hother address husable => absurd husable (hnone other hother address),
      hnone⟩

/-- Entries that are not usable play no part. -/
theorem selectCandidate_skip {malformed : Candidate} (before behind : List Candidate)
    (hmalformed : ∀ addr, ¬ codec.Usable malformed addr) :
    codec.selectCandidate none (before ++ malformed :: behind) =
      codec.selectCandidate none (before ++ behind) := by
  have hnone := codec.udpAddress_eq_none.mpr hmalformed
  rw [selectCandidate_eq, selectCandidate_eq, List.filterMap_append,
    List.filterMap_cons_none hnone, ← List.filterMap_append]

end Codec

namespace Transport

/-- Once the parameters were parsed and name a fingerprint, `connect` binds for
the chosen candidate, fails when none is usable, and entries that are not usable
change nothing. -/
theorem connectTurn_candidates (codec : Codec) (shared : Shared) (id : Nat)
    (input : ConnectInput) (hparsed : codec.parseRemote json = .ok params)
    (hfirst : params.fingerprints.head? = some firstFp)
    (hfingerprint : firstFp.fingerprint ≠ "") :
    (∀ addr, (connectTurn codec shared id (.accept json) input).stage =
        .bind ⟨json, params, addr⟩ ↔ codec.Chosen params.candidates addr) ∧
      ((∃ detail, (connectTurn codec shared id (.accept json) input).stage =
          .returned (.error (.invalidParams detail))) ↔
        ∀ candidate ∈ params.candidates, ∀ addr, ¬ codec.Usable candidate addr) ∧
      ∀ before malformed behind, (∀ addr, ¬ codec.Usable malformed addr) →
        codec.selectCandidate none (before ++ malformed :: behind) =
          codec.selectCandidate none (before ++ behind) := by
  obtain ⟨fingerprints, hfingerprints⟩ := List.head?_eq_some_iff.mp hfirst
  refine ⟨?_, ?_, fun before malformed behind => codec.selectCandidate_skip before behind⟩
  · intro addr
    rw [← codec.selectCandidate_chosen]
    cases hselect : codec.selectCandidate none params.candidates <;>
      simp [connectTurn, Codec.acceptRemote, hparsed, hfingerprints, hfingerprint, hselect,
        ConnectTurn.fail, ConnectTurn.goto]
  · rw [← codec.selectCandidate_eq_none]
    cases hselect : codec.selectCandidate none params.candidates <;>
      simp [connectTurn, Codec.acceptRemote, hparsed, hfingerprints, hfingerprint, hselect,
        ConnectTurn.fail, ConnectTurn.goto]

/-- Candidates with a bad address, an IPv6 address and an IPv4 address. -/
def mixedCandidates : List Candidate :=
  [{ sampleCandidate with ip := "10.0.0" },
    { sampleCandidate with ip := "fe80::1", protocol := "UDP" },
    { sampleCandidate with ip := "10.0.0.1", port := "5000" }]

def mixedParams : RemoteParams :=
  ⟨"u", "p", [⟨"sha-256", "passive", "AA"⟩], mixedCandidates⟩

def mixedCodec : Codec where
  probe := fun _ => none
  decode := fun _ => .ok mixedParams
  parseIp := fun text =>
    if text = "10.0.0.1" then some sampleAddr.ip
    else if text = "fe80::1" then some (.v6 0xFE800000000000000000000000000001)
    else none

theorem connectTurn_mixed :
    (connectTurn mixedCodec new.shared 0 (.accept "{}") .proceed).stage =
      .bind ⟨"{}", mixedParams, sampleAddr⟩ := by
  have hparsed : mixedCodec.parseRemote "{}" = .ok mixedParams := rfl
  have hfirst : mixedParams.fingerprints.head? = some ⟨"sha-256", "passive", "AA"⟩ := rfl
  have hall := connectTurn_candidates mixedCodec new.shared 0 .proceed hparsed hfirst
    (by decide)
  apply (hall.1 sampleAddr).mpr
  have hsplit : mixedParams.candidates = mixedCandidates.take 2 ++
      [{ sampleCandidate with ip := "10.0.0.1", port := "5000" }] := rfl
  have husable : mixedCodec.Usable { sampleCandidate with ip := "10.0.0.1", port := "5000" }
      sampleAddr := mixedCodec.udpAddress_eq_some.mp (by decide +kernel)
  refine .v4 hsplit husable rfl ?_
  have hothers : ∀ other ∈ mixedCandidates.take 2, ∀ address ∈ mixedCodec.udpAddress other,
      address.ip.isIpv4 = false := by decide +kernel
  intro other hother address hother'
  exact hothers other hother address (mixedCodec.udpAddress_eq_some.mpr hother')

end Transport

end RustTgCalls.Wrtc
