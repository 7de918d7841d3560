import RustTgCalls.Models

namespace RustTgCalls.Wrtc

inductive IpAddr where
  | v4 (bits : BitVec 32)
  | v6 (bits : BitVec 128)
  deriving DecidableEq, Repr

def IpAddr.isIpv4 : IpAddr → Bool
  | .v4 _ => true
  | .v6 _ => false

structure SocketAddr where
  ip : IpAddr
  port : Nat
  deriving DecidableEq, Repr

structure Fingerprint where
  hash : String
  setup : String
  fingerprint : String
  deriving DecidableEq, Repr

structure Candidate where
  generation : String
  component : String
  protocol : String
  port : String
  ip : String
  foundation : String
  id : String
  priority : String
  candidateType : String
  network : String
  relAddr : String
  relPort : String
  tcpType : String
  deriving DecidableEq, Repr

structure RemoteParams where
  ufrag : String
  pwd : String
  fingerprints : List Fingerprint
  candidates : List Candidate
  deriving DecidableEq, Repr

structure Probe where
  rtmp : Bool
  stream : Bool
  deriving DecidableEq, Repr

/-- Derived JSON decoding and the parser of IP addresses, as the code uses
them. -/
structure Codec where
  probe : String → Option Probe
  decode : String → Except String RemoteParams
  parseIp : String → Option IpAddr

def parseU16 (text : String) : Option Nat :=
  let digits := match text.toList with
    | '+' :: rest => rest
    | chars => chars
  if digits ≠ [] ∧ digits.all Char.isDigit then
    let value := digits.foldl (fun value digit =>
      value * 10 + (digit.toNat - '0'.toNat)) 0
    if value < UInt16.size then some value else none
  else none

namespace Codec

variable (codec : Codec)

def parseRemote (raw : String) : Except RustTgCallsError RemoteParams :=
  let unsupported := match codec.probe raw with
    | some probe => probe.rtmp || probe.stream
    | none => false
  if unsupported then
    .error .unsupportedCallMode
  else
    match codec.decode raw with
    | .error detail =>
        .error (.invalidParams ("decode remote params: " ++ detail))
    | .ok params =>
        if params.ufrag = "" ∨ params.pwd = "" then
          .error (.invalidParams "remote params missing ice creds")
        else if params.fingerprints = [] then
          .error (.invalidParams "remote params missing fingerprint")
        else
          .ok params

/-- The address and port of a UDP candidate that parse, with port zero and a
port that does not parse left out. -/
def udpAddress (candidate : Candidate) : Option SocketAddr :=
  if candidate.protocol.toLower = "udp" then
    match codec.parseIp candidate.ip with
    | some ip =>
        let port := (parseU16 candidate.port).getD 0
        if port > 0 then some ⟨ip, port⟩ else none
    | none => none
  else none

/-- The candidate loop of `connect`, which stops at the first IPv4 address and
otherwise keeps the first address at all. -/
def selectCandidate :
    Option SocketAddr → List Candidate → Option SocketAddr
  | target, [] => target
  | target, candidate :: rest =>
      match codec.udpAddress candidate with
      | some address =>
          if address.ip.isIpv4 then some address
          else selectCandidate (target.or (some address)) rest
      | none => selectCandidate target rest

end Codec

/-- A remote JSON `connect` has accepted, and the candidate it selected. -/
structure Selected where
  json : String
  params : RemoteParams
  addr : SocketAddr
  deriving DecidableEq, Repr

/-- What `connect` does with the remote JSON before it binds a socket. -/
def Codec.acceptRemote (codec : Codec) (json : String) :
    Except RustTgCallsError Selected :=
  match codec.parseRemote json with
  | .error error => .error error
  | .ok params =>
      match params.fingerprints with
      | [] => .error (.invalidParams "remote transport missing DTLS fingerprint")
      | firstFp :: _ =>
          if firstFp.fingerprint = "" then
            .error (.invalidParams "empty remote DTLS fingerprint")
          else
            match codec.selectCandidate none params.candidates with
            | some addr => .ok ⟨json, params, addr⟩
            | none =>
                .error (.invalidParams "no valid remote UDP candidate found")

end RustTgCalls.Wrtc
