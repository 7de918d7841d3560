import RustTgCalls.Wrtc.KeepaliveSends

namespace RustTgCalls.Wrtc

open Transition Media RtpSender

/-! The pacing tasks of both tracks on one connected transport.  Each has a call of
`send_rtp_bytes` in flight and the worker its reports, all of them a step at a
time: what a report says is loaded between the steps that hand packets to the
socket and count them. -/

def payloadTypeOf : StreamType → UInt8
  | .audio => opusPayloadType
  | .video => vp8PayloadType

theorem trackOf_payloadTypeOf (kind : StreamType) : trackOf (payloadTypeOf kind) = kind := by
  cases kind <;> rfl

/-- What a receiver sees of a packet beside its number. -/
structure Aired where
  payload : Bytes
  marker : Bool
  timestamp : UInt32
  deriving DecidableEq, Repr

def RtpPacket.aired (packet : RtpPacket) : Aired where
  payload := packet.payload
  marker := packet.header.marker
  timestamp := packet.header.timestamp

/-- A field of a report that is loaded for it. -/
inductive ReportField where
  | ts (kind : StreamType)
  | packets (kind : StreamType)
  | octets (kind : StreamType)
  deriving DecidableEq, Repr

/-- In the order of `emit_rtcp_sender_reports`. -/
def ReportField.all : List ReportField :=
  [.ts .audio, .ts .video, .packets .audio, .octets .audio, .packets .video, .octets .video]

/-- The two reports in the making; `begun` holds how many packets of each track were
counted in full when the first load was still to come. -/
structure Draft where
  ntp : UInt64
  tracks : StreamType → RtpTrack
  begun : StreamType → Nat

def Draft.new (tracks : StreamType → RtpTrack) (ntp : UInt64) (begun : StreamType → Nat) :
    Draft where
  ntp
  tracks := fun kind => { tracks kind with ts := 0, packets := 0, octets := 0 }
  begun

def Draft.set (draft : Draft) (kind : StreamType) (track : RtpTrack) : Draft :=
  { draft with tracks := Function.update draft.tracks kind track }

def Draft.load (draft : Draft) (tracks : StreamType → RtpTrack) : ReportField → Draft
  | .ts kind => draft.set kind { draft.tracks kind with ts := (tracks kind).ts }
  | .packets kind => draft.set kind { draft.tracks kind with packets := (tracks kind).packets }
  | .octets kind => draft.set kind { draft.tracks kind with octets := (tracks kind).octets }

/-- Where `emit_rtcp_sender_reports` stands, or the same lines in the worker. -/
inductive EmitAt where
  | epoch
  | loads (due : List ReportField) (draft : Draft)
  | address (draft : Draft)
  | sendTo (due : List StreamType) (draft : Draft)

section EmitAt

variable {Payloader : Type _}

/-- Without a context nothing is encrypted, and nothing goes out.  The worker has its
socket and its peer from the start. -/
def EmitAt.next (sender : RtpSender Payloader) (counted : StreamType → Nat) (ntp : UInt64)
    (worker : Bool) : EmitAt → Option EmitAt
  | .epoch =>
      if sender.mediaEpoch.isSome then
        some (.loads ReportField.all (.new sender.tracks ntp counted))
      else none
  | .loads (load :: due) draft => some (.loads due (draft.load sender.tracks load))
  | .loads [] draft =>
      if sender.srtpContext then
        some (if worker then .sendTo [.audio, .video] draft else .address draft)
      else none
  | .address draft =>
      if sender.udpSocket && sender.remoteAddr then some (.sendTo [.audio, .video] draft)
      else none
  | .sendTo (_ :: due) draft => some (.sendTo due draft)
  | .sendTo [] _ => none

end EmitAt

/-- Where a call of `send_rtp_bytes` stands, with the reports of a new epoch and the
counters of each packet as steps of their own. -/
inductive CallAt where
  | sending (stage : SendStage)
  | reporting (args : SendArgs) (report : EmitAt)
  | countPacket (packet : RtpPacket) (rest : List RtpPacket)
  | countOctets (packet : RtpPacket) (rest : List RtpPacket)

namespace CallAt

@[match_pattern] abbrev idle : CallAt := .sending .idle

instance (call : CallAt) : Decidable (call = .idle) :=
  match call with
  | .sending stage => decidable_of_iff (stage = .idle) (by simp)
  | .reporting _ _ | .countPacket _ _ | .countOctets _ _ => .isFalse (by simp)

/-- The stage that the rest of the call has still to come to. -/
def stage : CallAt → SendStage
  | .sending stage => stage
  | .reporting args _ => .stamp args
  | .countPacket _ rest | .countOctets _ rest => .transmit rest

end CallAt

/-- `given` lists the samples that the tasks have passed in and `arrived` the packets
that `send_to` took.  `counted` is how many packets of a track are in both of its
counters, and `begun` what that was when the loads of the report at an index of the
wire began. -/
structure InFlight (Payloader : Type _) where
  sender : RtpSender Payloader
  calls : StreamType → CallAt
  worker : Option EmitAt
  given : StreamType → List Sample
  arrived : List RtpPacket
  counted : StreamType → Nat
  begun : Nat → StreamType → Nat

namespace InFlight

variable {Payloader : Type _}

/-- `taken` is the answer of `send_to`, which the code discards. -/
inductive Action where
  | send (kind : StreamType) (sample : Sample)
  | step (kind : StreamType) (readings : Readings) (taken : Bool)
  | rtcpTimer (ntp : UInt64)

def new (sender : RtpSender Payloader) : InFlight Payloader where
  sender
  calls := fun _ => .idle
  worker := none
  given := fun _ => []
  arrived := []
  counted := fun _ => 0
  begun := fun _ _ => 0

def argsOf (kind : StreamType) (sample : Sample) : SendArgs where
  payloadType := payloadTypeOf kind
  payload := sample.data
  duration := sample.duration

/-- The task whose call has returned goes on. -/
def settled : SendStage → SendStage
  | .returned => .idle
  | stage => stage

def goOn (flight : InFlight Payloader) (kind : StreamType) (call : CallAt) :
    InFlight Payloader :=
  { flight with calls := Function.update flight.calls kind call }

def send (flight : InFlight Payloader) (kind : StreamType) (sample : Sample) :
    InFlight Payloader :=
  { flight with
    calls := Function.update flight.calls kind (.sending (.testClosed (argsOf kind sample)))
    given := Function.update flight.given kind (flight.given kind ++ [sample]) }

/-- `send_to` with a report. -/
def sendReport (flight : InFlight Payloader) : EmitAt → InFlight Payloader
  | .sendTo (kind :: _) draft =>
      { flight with
        sender :=
          { flight.sender with
            wire := flight.sender.wire ++
              [.report kind (senderReport (draft.tracks kind) draft.ntp)] }
        begun := Function.update flight.begun flight.sender.wire.length draft.begun }
  | _ => flight

/-- `send_to` with a packet. -/
def handOver (flight : InFlight Payloader) (packet : RtpPacket) (taken : Bool) :
    InFlight Payloader :=
  { flight with
    sender := { flight.sender with wire := flight.sender.wire ++ [.rtp packet] }
    arrived := if taken then flight.arrived ++ [packet] else flight.arrived }

def setTrack (flight : InFlight Payloader) (kind : StreamType) (track : RtpTrack) :
    InFlight Payloader :=
  { flight with
    sender :=
      { flight.sender with tracks := Function.update flight.sender.tracks kind track } }

def countPacket (flight : InFlight Payloader) (kind : StreamType) : InFlight Payloader :=
  let track := flight.sender.tracks kind
  flight.setTrack kind { track with packets := track.packets + 1 }

def countOctets (flight : InFlight Payloader) (kind : StreamType) (packet : RtpPacket) :
    InFlight Payloader :=
  let track := flight.sender.tracks kind
  { flight.setTrack kind
      { track with octets := track.octets + UInt32.ofNat packet.payload.length } with
    counted := Function.update flight.counted kind (flight.counted kind + 1) }

/-- Once its reports are out, a call stamps its frame. -/
def resumed (args : SendArgs) : Option EmitAt → CallAt
  | some report => .reporting args report
  | none => .sending (.stamp args)

section Payloader

variable (payloader : Payloader → Nat → Bytes → List Bytes × Payloader)

def step (flight : InFlight Payloader) (kind : StreamType) (readings : Readings)
    (taken : Bool) : InFlight Payloader :=
  match flight.calls kind with
  | .sending (.senderReports args true) => flight.goOn kind (.reporting args .epoch)
  | .sending (.transmit (packet :: rest)) =>
      (flight.handOver packet taken).goOn kind (.countPacket packet rest)
  | .sending stage =>
      let turned := Channel.turn payloader flight.sender readings stage
      { flight.goOn kind (.sending (settled turned.2)) with sender := turned.1 }
  | .reporting args report =>
      (flight.sendReport report).goOn kind
        (resumed args (report.next flight.sender flight.counted readings.reportNtp false))
  | .countPacket packet rest => (flight.countPacket kind).goOn kind (.countOctets packet rest)
  | .countOctets packet rest =>
      (flight.countOctets kind packet).goOn kind (.sending (.transmit rest))

/-- The timer of the worker, whose branch runs to its end before the next tick. -/
def rtcpTimer (flight : InFlight Payloader) (ntp : UInt64) : InFlight Payloader :=
  match flight.worker with
  | none => { flight with worker := some .epoch }
  | some report =>
      { flight.sendReport report with
        worker := report.next flight.sender flight.counted ntp true }

/-- A task passes in a sample when it has no call in flight. -/
def next (flight : InFlight Payloader) : Action → InFlight Payloader
  | .send kind sample =>
      match flight.calls kind with
      | .idle => flight.send kind sample
      | _ => flight
  | .step kind readings taken => flight.step payloader kind readings taken
  | .rtcpTimer ntp => flight.rtcpTimer ntp

/-- A stage whose turn in the channel is one access here too. -/
def Whole : SendStage → Prop
  | .senderReports _ justStarted => justStarted = false
  | .transmit packets => packets = []
  | _ => True

/-- What one step of the call for a track can be. -/
inductive Stepped (flight : InFlight Payloader) (kind : StreamType) (readings : Readings)
    (taken : Bool) : InFlight Payloader → Prop
  | turn {stage : SendStage} (hcall : flight.calls kind = .sending stage)
      (hwhole : Whole stage) :
      Stepped flight kind readings taken
        { flight.goOn kind
            (.sending (settled (Channel.turn payloader flight.sender readings stage).2)) with
          sender := (Channel.turn payloader flight.sender readings stage).1 }
  | begin {args : SendArgs} (hcall : flight.calls kind = .sending (.senderReports args true)) :
      Stepped flight kind readings taken (flight.goOn kind (.reporting args .epoch))
  | report {args : SendArgs} {report : EmitAt}
      (hcall : flight.calls kind = .reporting args report) :
      Stepped flight kind readings taken
        ((flight.sendReport report).goOn kind (resumed args
          (report.next flight.sender flight.counted readings.reportNtp false)))
  | handOver {packet : RtpPacket} {rest : List RtpPacket}
      (hcall : flight.calls kind = .sending (.transmit (packet :: rest))) :
      Stepped flight kind readings taken
        ((flight.handOver packet taken).goOn kind (.countPacket packet rest))
  | countPacket {packet : RtpPacket} {rest : List RtpPacket}
      (hcall : flight.calls kind = .countPacket packet rest) :
      Stepped flight kind readings taken
        ((flight.countPacket kind).goOn kind (.countOctets packet rest))
  | countOctets {packet : RtpPacket} {rest : List RtpPacket}
      (hcall : flight.calls kind = .countOctets packet rest) :
      Stepped flight kind readings taken
        ((flight.countOctets kind packet).goOn kind (.sending (.transmit rest)))

theorem stepped_step (flight : InFlight Payloader) (kind : StreamType) (readings : Readings)
    (taken : Bool) :
    Stepped payloader flight kind readings taken
      (flight.step payloader kind readings taken) := by
  unfold step
  split
  next args hcall => exact .begin hcall
  next packet rest hcall => exact .handOver hcall
  next stage hreports htransmit hcall =>
    refine .turn hcall ?_
    cases stage with
    | senderReports args justStarted =>
        cases justStarted with
        | false => rfl
        | true => exact absurd rfl (hreports args)
    | transmit packets =>
        cases packets with
        | nil => rfl
        | cons packet rest => exact absurd rfl (htransmit packet rest)
    | _ => trivial
  next args report hcall => exact .report hcall
  next packet rest hcall => exact .countPacket hcall
  next packet rest hcall => exact .countOctets hcall

end Payloader

/-! What a track is to air, by the samples passed in alone. -/

structure Stand (Payloader : Type _) where
  first : Bool
  payloader : Payloader
  ts : UInt32

/-- The chunks of a frame, the last one marked. -/
def marked (ts : UInt32) : List Bytes → List Aired
  | [] => []
  | chunk :: rest => ⟨chunk, rest.isEmpty, ts⟩ :: marked ts rest

namespace Stand

variable (payloader : Payloader → Nat → Bytes → List Bytes × Payloader)

def airs (kind : StreamType) (stand : Stand Payloader) (sample : Sample) : List Aired :=
  match kind with
  | .audio => [⟨sample.data, stand.first, stand.ts⟩]
  | .video => marked stand.ts (payloader stand.payloader maxVp8Payload sample.data).1

def advance (kind : StreamType) (stand : Stand Payloader) (sample : Sample) :
    Stand Payloader where
  first := false
  payloader :=
    match kind with
    | .audio => stand.payloader
    | .video => (payloader stand.payloader maxVp8Payload sample.data).2
  ts := stand.ts + tsInc kind sample.duration

def aired (kind : StreamType) : Stand Payloader → List Sample → List Aired
  | _, [] => []
  | stand, sample :: rest =>
      stand.airs payloader kind sample ++
        aired kind (stand.advance payloader kind sample) rest

def after (kind : StreamType) (stand : Stand Payloader) (samples : List Sample) :
    Stand Payloader :=
  samples.foldl (advance payloader kind) stand

variable {payloader}

theorem aired_concat (kind : StreamType) (stand : Stand Payloader) (samples : List Sample)
    (sample : Sample) :
    aired payloader kind stand (samples ++ [sample]) =
      aired payloader kind stand samples ++
        (after payloader kind stand samples).airs payloader kind sample := by
  induction samples generalizing stand with
  | nil => simp [aired, after]
  | cons first rest ih =>
      simp only [List.cons_append, aired, ih, List.append_assoc]
      rfl

theorem after_concat (kind : StreamType) (stand : Stand Payloader) (samples : List Sample)
    (sample : Sample) :
    after payloader kind stand (samples ++ [sample]) =
      (after payloader kind stand samples).advance payloader kind sample := by
  simp [after]

end Stand

theorem marked_videoPackets (ntp : UInt64) (ssrc timestamp : UInt32) (seq : UInt16)
    (chunks : List Bytes) :
    (videoPackets ntp ssrc timestamp seq chunks).1.map RtpPacket.aired =
      marked timestamp chunks := by
  induction chunks generalizing seq with
  | nil => rfl
  | cons chunk rest ih => simp [videoPackets, marked, ih, RtpPacket.aired]

/-! What the call in flight has still to air, and where the track stands then. -/

/-- Where a track stands; the payloader is no concern of audio. -/
def standOf (kind : StreamType) (held : Payloader) (sender : RtpSender Payloader) :
    Stand Payloader where
  first := (sender.tracks kind).first
  payloader :=
    match kind with
    | .audio => held
    | .video => sender.videoPayloader
  ts := (sender.tracks kind).ts

section Payloader

variable (payloader : Payloader → Nat → Bytes → List Bytes × Payloader)

def owed (kind : StreamType) (stand : Stand Payloader) :
    SendStage → List Aired × Stand Payloader
  | .idle | .returned => ([], stand)
  | .testClosed args | .mediaEpoch args | .senderReports args _ | .stamp args =>
      (stand.airs payloader kind ⟨args.payload, args.duration⟩,
        stand.advance payloader kind ⟨args.payload, args.duration⟩)
  | .packetize payload ts _ =>
      let (chunks, after) := payloader stand.payloader maxVp8Payload payload
      (marked ts chunks, { stand with payloader := after })
  | .address chunks ts _ | .encrypt chunks ts _ => (marked ts chunks, stand)
  | .transmit packets => (packets.map RtpPacket.aired, stand)

/-- Numbered and not yet sent. -/
def unsent : SendStage → List RtpPacket
  | .transmit packets => packets
  | _ => []

/-- The stage is one of a call for the track. -/
def Branch (kind : StreamType) : SendStage → Prop
  | .testClosed args | .mediaEpoch args | .senderReports args _ | .stamp args =>
      trackOf args.payloadType = kind
  | .packetize _ _ _ | .address _ _ _ | .encrypt _ _ _ => kind = .video
  | .transmit packets => ∀ packet ∈ packets, trackOf packet.header.payloadType = kind
  | .idle | .returned => True

/-- The packets numbered for a track, in the order they leave. -/
def numberedOf (kind : StreamType) (sender : RtpSender Payloader) (stage : SendStage) :
    List RtpPacket :=
  transmitted kind sender.wire ++ unsent stage

structure Numbered (start : RtpTrack) (track : RtpTrack) (packets : List RtpPacket) :
    Prop where
  each : ∀ i packet, packets[i]? = some packet →
    packet.header.ssrc = start.ssrc ∧
      packet.header.sequenceNumber = start.seq + UInt16.ofNat i
  ssrc : track.ssrc = start.ssrc
  seq : track.seq = start.seq + UInt16.ofNat packets.length

/-- A track and the call in flight for it, against the samples passed in. -/
structure OnTrack (start : RtpTrack) (origin : Stand Payloader) (held : Payloader)
    (kind : StreamType) (sender : RtpSender Payloader) (stage : SendStage)
    (given : List Sample) : Prop where
  branch : Branch kind stage
  content : (transmitted kind sender.wire).map RtpPacket.aired ++
      (owed payloader kind (standOf kind held sender) stage).1 =
    origin.aired payloader kind given
  stand : (owed payloader kind (standOf kind held sender) stage).2 =
    origin.after payloader kind given
  numbered : Numbered start (sender.tracks kind) (numberedOf kind sender stage)

end Payloader

/-- Open and connected. -/
structure Ready (sender : RtpSender Payloader) : Prop where
  opened : sender.closed = false
  connected : sender.reachable = true

/-- What the packets of a track are made from is as it was, and so is what has been
sent of them; the counters are not part of it. -/
structure SameTrack (kind : StreamType) (sender moved : RtpSender Payloader) : Prop where
  wire : transmitted kind moved.wire = transmitted kind sender.wire
  ssrc : (moved.tracks kind).ssrc = (sender.tracks kind).ssrc
  seq : (moved.tracks kind).seq = (sender.tracks kind).seq
  ts : (moved.tracks kind).ts = (sender.tracks kind).ts
  first : (moved.tracks kind).first = (sender.tracks kind).first
  payloader : kind = .video → moved.videoPayloader = sender.videoPayloader

section SameTrack

variable {kind : StreamType} {sender moved : RtpSender Payloader}

theorem SameTrack.stand (hsame : SameTrack kind sender moved) (held : Payloader) :
    standOf kind held moved = standOf kind held sender := by
  cases kind with
  | audio => simp [standOf, hsame.ts, hsame.first]
  | video => simp [standOf, hsame.ts, hsame.first, hsame.payloader rfl]

theorem sameTrack_of_eq (hwire : moved.wire = sender.wire)
    (htrack : moved.tracks kind = sender.tracks kind)
    (hpayloader : kind = .video → moved.videoPayloader = sender.videoPayloader) :
    SameTrack kind sender moved where
  wire := by rw [hwire]
  ssrc := by rw [htrack]
  seq := by rw [htrack]
  ts := by rw [htrack]
  first := by rw [htrack]
  payloader := hpayloader

theorem sameTrack_sendReport (flight : InFlight Payloader) (report : EmitAt)
    (kind : StreamType) : SameTrack kind flight.sender (flight.sendReport report).sender := by
  unfold sendReport
  split
  next track due draft =>
    refine ⟨?_, rfl, rfl, rfl, rfl, fun _ => rfl⟩
    simp [transmitted_append]
  next => exact sameTrack_of_eq rfl rfl fun _ => rfl

theorem sameTrack_handOver (flight : InFlight Payloader) {packet : RtpPacket}
    (hother : kind ≠ trackOf packet.header.payloadType) (taken : Bool) :
    SameTrack kind flight.sender (flight.handOver packet taken).sender where
  wire := by
    have hnone : packetsOf kind [packet] = [] := packetsOf_other (by simp) hother
    rw [handOver, transmitted_concat, hnone, List.append_nil]
  ssrc := rfl
  seq := rfl
  ts := rfl
  first := rfl
  payloader := fun _ => rfl

/-- The numbers of a track stay when its counters move. -/
theorem sameTrack_setTrack (flight : InFlight Payloader) {other : StreamType} {track : RtpTrack}
    (hssrc : track.ssrc = (flight.sender.tracks other).ssrc)
    (hseq : track.seq = (flight.sender.tracks other).seq)
    (hts : track.ts = (flight.sender.tracks other).ts)
    (hfirst : track.first = (flight.sender.tracks other).first) (kind : StreamType) :
    SameTrack kind flight.sender (flight.setTrack other track).sender := by
  by_cases hkind : kind = other
  · subst hkind
    exact ⟨rfl, by simpa [setTrack] using hssrc, by simpa [setTrack] using hseq,
      by simpa [setTrack] using hts, by simpa [setTrack] using hfirst, fun _ => rfl⟩
  · exact sameTrack_of_eq rfl (by simp [setTrack, hkind]) fun _ => rfl

theorem sameTrack_countPacket (flight : InFlight Payloader) (other kind : StreamType) :
    SameTrack kind flight.sender (flight.countPacket other).sender := by
  unfold countPacket
  apply sameTrack_setTrack <;> rfl

theorem sameTrack_countOctets (flight : InFlight Payloader) (other : StreamType)
    (packet : RtpPacket) (kind : StreamType) :
    SameTrack kind flight.sender (flight.countOctets other packet).sender := by
  unfold countOctets
  apply sameTrack_setTrack <;> rfl

/-- A step of the call for the other track. -/
theorem sameTrack_turn (payloader : Payloader → Nat → Bytes → List Bytes × Payloader)
    {other : StreamType} (hother : kind ≠ other) {stage : SendStage}
    (hbranch : Branch other stage) (hwhole : Whole stage) (readings : Readings) :
    SameTrack kind sender (Channel.turn payloader sender readings stage).1 := by
  have hsame : SameTrack kind sender sender := sameTrack_of_eq rfl rfl fun _ => rfl
  cases stage with
  | idle | returned | testClosed args | address chunks ts ntp => exact hsame
  | mediaEpoch args =>
      simp only [Channel.turn]
      split
      · exact hsame
      · exact sameTrack_of_eq rfl rfl fun _ => rfl
  | senderReports args justStarted =>
      obtain rfl : justStarted = false := hwhole
      exact hsame
  | stamp args =>
      have hargs : trackOf args.payloadType = other := hbranch
      subst hargs
      simp only [Channel.turn]
      split
      next haudio =>
        rw [haudio] at hother
        simp only [sendAudio]
        split <;>
          exact sameTrack_of_eq rfl (by simp [record, Function.update_of_ne hother])
            fun _ => rfl
      next hvideo =>
        rw [hvideo] at hother
        exact sameTrack_of_eq rfl (by simp [Function.update_of_ne hother]) fun _ => rfl
  | packetize payload ts ntp =>
      obtain rfl : other = .video := hbranch
      exact sameTrack_of_eq rfl rfl fun hvideo => absurd hvideo hother
  | encrypt chunks ts ntp =>
      obtain rfl : other = .video := hbranch
      simp only [Channel.turn]
      split
      · exact sameTrack_of_eq rfl (by simp [Function.update_of_ne hother]) fun _ => rfl
      · exact hsame
  | transmit packets =>
      obtain rfl : packets = [] := hwhole
      exact sameTrack_of_eq rfl rfl fun _ => rfl

end SameTrack

section OnTrack

variable {payloader : Payloader → Nat → Bytes → List Bytes × Payloader}
  {start : RtpTrack} {origin : Stand Payloader} {held : Payloader} {kind : StreamType}
  {sender : RtpSender Payloader} {stage : SendStage} {given : List Sample}

theorem OnTrack.move (hon : OnTrack payloader start origin held kind sender stage given)
    {moved : RtpSender Payloader} {after : SendStage} (hbranch : Branch kind after)
    (hwire : transmitted kind moved.wire = transmitted kind sender.wire)
    (howed : owed payloader kind (standOf kind held moved) after =
      owed payloader kind (standOf kind held sender) stage)
    (hnumbered : Numbered start (moved.tracks kind) (numberedOf kind moved after)) :
    OnTrack payloader start origin held kind moved after given where
  branch := hbranch
  content := by
    rw [hwire, howed]
    exact hon.content
  stand := by
    rw [howed]
    exact hon.stand
  numbered := hnumbered

/-- A step of the call that numbers and sends nothing. -/
theorem OnTrack.still (hon : OnTrack payloader start origin held kind sender stage given)
    {moved : RtpSender Payloader} {after : SendStage} (hbranch : Branch kind after)
    (hwire : moved.wire = sender.wire) (htrack : moved.tracks kind = sender.tracks kind)
    (howed : owed payloader kind (standOf kind held moved) after =
      owed payloader kind (standOf kind held sender) stage)
    (hunsent : unsent after = unsent stage) :
    OnTrack payloader start origin held kind moved after given := by
  apply hon.move hbranch (by rw [hwire]) howed
  have hsame : numberedOf kind moved after = numberedOf kind sender stage := by
    simp only [numberedOf, hwire, hunsent]
  rw [htrack, hsame]
  exact hon.numbered

theorem OnTrack.same (hon : OnTrack payloader start origin held kind sender stage given)
    {moved : RtpSender Payloader} (hsame : SameTrack kind sender moved) :
    OnTrack payloader start origin held kind moved stage given := by
  apply hon.move hon.branch hsame.wire (by rw [hsame.stand])
  have hpackets : numberedOf kind moved stage = numberedOf kind sender stage := by
    simp only [numberedOf, hsame.wire]
  obtain ⟨heach, hssrc, hseq⟩ := hon.numbered
  rw [hpackets]
  exact ⟨heach, hsame.ssrc.trans hssrc, hsame.seq.trans hseq⟩

theorem OnTrack.send (hon : OnTrack payloader start origin held kind sender .idle given)
    (sample : Sample) :
    OnTrack payloader start origin held kind sender (.testClosed (argsOf kind sample))
      (given ++ [sample]) := by
  have hcontent := hon.content
  have hstand := hon.stand
  simp only [owed, List.append_nil] at hcontent hstand
  refine ⟨trackOf_payloadTypeOf kind, ?_, ?_, hon.numbered⟩
  · rw [hcontent, Stand.aired_concat, ← hstand]
    rfl
  · rw [Stand.after_concat, ← hstand]
    rfl

/-! One step of the call for the track itself. -/

theorem Numbered.append {track moved : RtpTrack} {packets more : List RtpPacket}
    (hnumbered : Numbered start track packets)
    (hmore : ∀ i packet, more[i]? = some packet →
      packet.header.ssrc = track.ssrc ∧
        packet.header.sequenceNumber = track.seq + UInt16.ofNat i)
    (hssrc : moved.ssrc = track.ssrc)
    (hseq : moved.seq = track.seq + UInt16.ofNat more.length) :
    Numbered start moved (packets ++ more) := by
  obtain ⟨heach, hssrcNow, hseqNow⟩ := hnumbered
  refine ⟨?_, hssrc.trans hssrcNow, ?_⟩
  · intro i packet hpacket
    by_cases hold : i < packets.length
    · rw [List.getElem?_append_left hold] at hpacket
      exact heach i packet hpacket
    · rw [List.getElem?_append_right (by omega)] at hpacket
      obtain ⟨hpacketSsrc, hpacketSeq⟩ := hmore _ packet hpacket
      refine ⟨hpacketSsrc.trans hssrcNow, ?_⟩
      rw [hpacketSeq, hseqNow, UInt16.add_assoc, ← UInt16.ofNat_add]
      congr 2
      omega
  · rw [hseq, hseqNow, List.length_append, UInt16.ofNat_add, UInt16.add_assoc]

theorem OnTrack.stampAudio {args : SendArgs}
    (hon : OnTrack payloader start origin held .audio sender (.stamp args) given)
    (hconnected : sender.reachable = true) (readings : Readings) :
    OnTrack payloader start origin held .audio
      (Channel.turn payloader sender readings (.stamp args)).1
      (settled (Channel.turn payloader sender readings (.stamp args)).2) given := by
  have haudio : trackOf args.payloadType = .audio := hon.branch
  have hreachable : ({ sender with outgoing := [] } : RtpSender Payloader).reachable = true :=
    hconnected
  have hpackets := @nextPackets_audio args.payloadType args.payload readings.packetNtp
    (sender.tracks .audio) haudio
  simp only [Channel.turn, haudio, sendAudio, hreachable, if_true, settled, record]
  refine hon.move (by simpa [Branch] using hpackets.branch) rfl ?_ ?_
  · simp [owed, standOf, Stand.airs, Stand.advance, RtpPacket.aired, audioPacket]
  · have hempty : numberedOf .audio sender (.stamp args) = transmitted .audio sender.wire := by
      simp [numberedOf, unsent]
    have hbefore := hon.numbered
    rw [hempty] at hbefore
    exact hbefore.append hpackets.numbered (by simp) (by simp [unsent])

theorem OnTrack.stampVideo {args : SendArgs}
    (hon : OnTrack payloader start origin held .video sender (.stamp args) given)
    (readings : Readings) :
    OnTrack payloader start origin held .video
      (Channel.turn payloader sender readings (.stamp args)).1
      (settled (Channel.turn payloader sender readings (.stamp args)).2) given := by
  have hvideo : trackOf args.payloadType = .video := hon.branch
  simp only [Channel.turn, hvideo, settled]
  refine hon.move rfl rfl ?_ ?_
  · simp [owed, standOf, Stand.airs, Stand.advance]
  · obtain ⟨heach, hssrc, hseq⟩ := hon.numbered
    exact ⟨heach, by simpa using hssrc, by simpa [numberedOf, unsent] using hseq⟩

theorem OnTrack.packetize {payload : Bytes} {ts : UInt32} {ntp : UInt64}
    (hon : OnTrack payloader start origin held .video sender (.packetize payload ts ntp) given)
    (readings : Readings) :
    OnTrack payloader start origin held .video
      (Channel.turn payloader sender readings (.packetize payload ts ntp)).1
      (settled (Channel.turn payloader sender readings (.packetize payload ts ntp)).2)
      given := by
  simp only [Channel.turn]
  split
  next hempty =>
    have hnone := List.isEmpty_iff.mp hempty
    exact hon.still trivial rfl rfl (by simp [owed, settled, standOf, hnone, marked]) rfl
  next => exact hon.still rfl rfl rfl rfl rfl

theorem OnTrack.encrypt {chunks : List Bytes} {ts : UInt32} {ntp : UInt64}
    (hon : OnTrack payloader start origin held .video sender (.encrypt chunks ts ntp) given)
    (hconnected : sender.reachable = true) (readings : Readings) :
    OnTrack payloader start origin held .video
      (Channel.turn payloader sender readings (.encrypt chunks ts ntp)).1
      (settled (Channel.turn payloader sender readings (.encrypt chunks ts ntp)).2)
      given := by
  have hcontext : sender.srtpContext = true := by
    simp only [reachable, Bool.and_eq_true] at hconnected
    exact hconnected.1.1
  have hpackets := nextPackets_video ntp { sender.tracks .video with ts := ts } chunks
  have hlength := videoPackets_length ntp (sender.tracks .video).ssrc ts
    (sender.tracks .video).seq chunks
  have hseq := videoPackets_seq ntp (sender.tracks .video).ssrc ts
    (sender.tracks .video).seq chunks
  simp only [Channel.turn, hcontext, if_true, settled]
  refine hon.move hpackets.branch rfl ?_ ?_
  · simp [owed, standOf, marked_videoPackets]
  · have hempty : numberedOf .video sender (.encrypt chunks ts ntp) =
        transmitted .video sender.wire := by
      simp [numberedOf, unsent]
    have hbefore := hon.numbered
    rw [hempty] at hbefore
    refine hbefore.append hpackets.numbered (by simp) ?_
    simp [hseq, hlength, unsent]

theorem OnTrack.turn (hon : OnTrack payloader start origin held kind sender stage given)
    (hready : Ready sender) (hwhole : Whole stage) (readings : Readings) :
    OnTrack payloader start origin held kind
      (Channel.turn payloader sender readings stage).1
      (settled (Channel.turn payloader sender readings stage).2) given := by
  obtain ⟨hopened, hconnected⟩ := hready
  cases stage with
  | idle => exact hon
  | returned => exact hon.still trivial rfl rfl rfl rfl
  | testClosed args =>
      simp only [Channel.turn, hopened, Bool.false_eq_true, if_false]
      exact hon.still hon.branch rfl rfl rfl rfl
  | mediaEpoch args =>
      simp only [Channel.turn]
      split <;> exact hon.still hon.branch rfl rfl rfl rfl
  | senderReports args justStarted =>
      obtain rfl : justStarted = false := hwhole
      exact hon.still hon.branch rfl rfl rfl rfl
  | stamp args =>
      cases kind with
      | audio => exact hon.stampAudio hconnected readings
      | video => exact hon.stampVideo readings
  | packetize payload ts ntp =>
      obtain rfl : kind = .video := hon.branch
      exact hon.packetize readings
  | address chunks ts ntp =>
      have hfound : (sender.udpSocket && sender.remoteAddr) = true := by
        simp only [reachable, Bool.and_eq_true] at hconnected
        simp [hconnected]
      simp only [Channel.turn, hfound, if_true]
      exact hon.still hon.branch rfl rfl rfl rfl
  | encrypt chunks ts ntp =>
      obtain rfl : kind = .video := hon.branch
      exact hon.encrypt hconnected readings
  | transmit packets =>
      obtain rfl : packets = [] := hwhole
      exact hon.still trivial rfl rfl
        (by simp [owed, settled, Channel.turn, standOf, RtpSender.transmit]) rfl

/-- The first packet of the call is on the wire, and no longer owed. -/
theorem OnTrack.handOver {flight : InFlight Payloader} {packet : RtpPacket}
    {rest : List RtpPacket}
    (hon : OnTrack payloader start origin held kind flight.sender (.transmit (packet :: rest))
      given) (taken : Bool) :
    OnTrack payloader start origin held kind (flight.handOver packet taken).sender
      (.transmit rest) given := by
  have hbranch : ∀ other ∈ packet :: rest, trackOf other.header.payloadType = kind := hon.branch
  have hself : packetsOf kind [packet] = [packet] :=
    packetsOf_self (by simp [hbranch packet (by simp)])
  have hwire : transmitted kind (flight.handOver packet taken).sender.wire =
      transmitted kind flight.sender.wire ++ [packet] := by
    rw [InFlight.handOver, transmitted_concat, hself]
  have hsame : numberedOf kind (flight.handOver packet taken).sender (.transmit rest) =
      numberedOf kind flight.sender (.transmit (packet :: rest)) := by
    simp [numberedOf, unsent, hwire]
  refine ⟨fun other hother => hbranch other (by simp [hother]), ?_, hon.stand, ?_⟩
  · rw [hwire, ← hon.content]
    simp [owed]
  · rw [hsame]
    exact hon.numbered

end OnTrack

/-! A run. -/

theorem ready_of_eq {sender moved : RtpSender Payloader} (hready : Ready sender)
    (hclosed : moved.closed = sender.closed) (hreachable : moved.reachable = sender.reachable) :
    Ready moved :=
  ⟨hclosed.trans hready.opened, hreachable.trans hready.connected⟩

/-- Neither the state of the transport has moved, nor the wire, nor the counters. -/
structure Unmoved (sender moved : RtpSender Payloader) : Prop where
  closed : moved.closed = sender.closed
  reachable : moved.reachable = sender.reachable
  wire : moved.wire = sender.wire
  packets : ∀ kind, (moved.tracks kind).packets = (sender.tracks kind).packets
  octets : ∀ kind, (moved.tracks kind).octets = (sender.tracks kind).octets

theorem unmoved_update {sender moved : RtpSender Payloader} {kind : StreamType}
    {track : RtpTrack} (hclosed : moved.closed = sender.closed)
    (hreachable : moved.reachable = sender.reachable) (hwire : moved.wire = sender.wire)
    (htracks : moved.tracks = Function.update sender.tracks kind track)
    (hpackets : track.packets = (sender.tracks kind).packets)
    (hoctets : track.octets = (sender.tracks kind).octets) : Unmoved sender moved where
  closed := hclosed
  reachable := hreachable
  wire := hwire
  packets := fun other => by
    by_cases hother : other = kind
    · subst hother
      simp [htracks, hpackets]
    · simp [htracks, hother]
  octets := fun other => by
    by_cases hother : other = kind
    · subst hother
      simp [htracks, hoctets]
    · simp [htracks, hother]

theorem unmoved_turn (payloader : Payloader → Nat → Bytes → List Bytes × Payloader)
    (sender : RtpSender Payloader) (readings : Readings) {stage : SendStage}
    (hwhole : Whole stage) :
    Unmoved sender (Channel.turn payloader sender readings stage).1 := by
  cases stage with
  | idle | returned | testClosed _ | packetize _ _ _ | address _ _ _ =>
      exact ⟨rfl, rfl, rfl, fun _ => rfl, fun _ => rfl⟩
  | mediaEpoch args =>
      simp only [Channel.turn]
      split <;> exact ⟨rfl, rfl, rfl, fun _ => rfl, fun _ => rfl⟩
  | senderReports args justStarted =>
      obtain rfl : justStarted = false := hwhole
      exact ⟨rfl, rfl, rfl, fun _ => rfl, fun _ => rfl⟩
  | stamp args =>
      simp only [Channel.turn, sendAudio]
      split
      · split <;> exact unmoved_update rfl rfl rfl rfl rfl rfl
      · exact unmoved_update rfl rfl rfl rfl rfl rfl
  | encrypt chunks ts ntp =>
      simp only [Channel.turn]
      split
      · exact unmoved_update rfl rfl rfl rfl rfl rfl
      · exact ⟨rfl, rfl, rfl, fun _ => rfl, fun _ => rfl⟩
  | transmit packets =>
      obtain rfl : packets = [] := hwhole
      exact ⟨rfl, rfl, rfl, fun _ => rfl, fun _ => rfl⟩

theorem Ready.turn {payloader : Payloader → Nat → Bytes → List Bytes × Payloader}
    {sender : RtpSender Payloader} (hready : Ready sender) (readings : Readings)
    {stage : SendStage} (hwhole : Whole stage) :
    Ready (Channel.turn payloader sender readings stage).1 := by
  have hunmoved := unmoved_turn payloader sender readings hwhole
  exact ready_of_eq hready hunmoved.closed hunmoved.reachable

theorem Ready.sendReport {flight : InFlight Payloader} (hready : Ready flight.sender)
    (report : EmitAt) : Ready (flight.sendReport report).sender := by
  unfold InFlight.sendReport
  split
  · exact ready_of_eq hready rfl rfl
  · exact hready

@[simp] theorem calls_sendReport (flight : InFlight Payloader) (report : EmitAt) :
    (flight.sendReport report).calls = flight.calls := by
  unfold sendReport
  split <;> rfl

@[simp] theorem given_sendReport (flight : InFlight Payloader) (report : EmitAt) :
    (flight.sendReport report).given = flight.given := by
  unfold sendReport
  split <;> rfl

@[simp] theorem calls_rtcpTimer (flight : InFlight Payloader) (ntp : UInt64) :
    (flight.rtcpTimer ntp).calls = flight.calls := by
  unfold rtcpTimer
  split
  next => rfl
  next report _ => exact calls_sendReport flight report

@[simp] theorem given_rtcpTimer (flight : InFlight Payloader) (ntp : UInt64) :
    (flight.rtcpTimer ntp).given = flight.given := by
  unfold rtcpTimer
  split
  next => rfl
  next report _ => exact given_sendReport flight report

@[simp] theorem stage_resumed (args : SendArgs) (report : Option EmitAt) :
    (resumed args report).stage = .stamp args := by
  cases report <;> rfl

/-- Both tracks are on the samples that were passed in. -/
structure Airing (payloader : Payloader → Nat → Bytes → List Bytes × Payloader)
    (start : RtpSender Payloader) (flight : InFlight Payloader) : Prop where
  ready : Ready flight.sender
  onTrack : ∀ kind, OnTrack payloader (start.tracks kind)
    (standOf kind start.videoPayloader start) start.videoPayloader kind flight.sender
    (flight.calls kind).stage (flight.given kind)

section Run

variable {payloader : Payloader → Nat → Bytes → List Bytes × Payloader}
  {start : RtpSender Payloader}

theorem airing_new (hfresh : Fresh start) : Airing payloader start (new start) where
  ready := ⟨hfresh.opened, hfresh.connected⟩
  onTrack := fun kind => by
    have hunsent := hfresh.unsent
    refine ⟨trivial, ?_, rfl, ⟨?_, rfl, ?_⟩⟩
    · simp [new, CallAt.stage, hunsent, owed, Stand.aired]
    · simp [new, CallAt.stage, numberedOf, unsent, hunsent]
    · simp [new, CallAt.stage, numberedOf, unsent, hunsent]

theorem Airing.send {flight : InFlight Payloader} (hairing : Airing payloader start flight)
    {kind : StreamType} (hidle : flight.calls kind = .idle) (sample : Sample) :
    Airing payloader start (flight.send kind sample) := by
  obtain ⟨hready, hon⟩ := hairing
  refine ⟨hready, fun other => ?_⟩
  have hother := hon other
  by_cases hsame : other = kind
  · subst hsame
    rw [hidle] at hother
    simpa [InFlight.send, CallAt.stage] using hother.send sample
  · simpa [InFlight.send, hsame] using hother

section Stepped

variable {flight moved : InFlight Payloader} {kind : StreamType} {readings : Readings}
  {taken : Bool}

theorem Stepped.ready (hstepped : Stepped payloader flight kind readings taken moved)
    (hready : Ready flight.sender) : Ready moved.sender := by
  cases hstepped with
  | turn hcall hwhole => exact hready.turn readings hwhole
  | begin hcall => exact hready
  | report hcall => exact hready.sendReport _
  | handOver hcall => exact ready_of_eq hready rfl rfl
  | countPacket hcall => exact ready_of_eq hready rfl rfl
  | countOctets hcall => exact ready_of_eq hready rfl rfl

theorem Stepped.given (hstepped : Stepped payloader flight kind readings taken moved) :
    moved.given = flight.given := by
  cases hstepped with
  | report hcall => exact given_sendReport flight _
  | _ => rfl

theorem Stepped.calls (hstepped : Stepped payloader flight kind readings taken moved)
    {other : StreamType} (hother : other ≠ kind) : moved.calls other = flight.calls other := by
  cases hstepped with
  | _ =>
      simp [InFlight.goOn, InFlight.handOver, InFlight.countPacket, InFlight.countOctets,
        setTrack, hother]

theorem Stepped.sameTrack (hstepped : Stepped payloader flight kind readings taken moved)
    (hbranch : Branch kind (flight.calls kind).stage) {other : StreamType}
    (hother : other ≠ kind) : SameTrack other flight.sender moved.sender := by
  cases hstepped with
  | turn hcall hwhole =>
      rw [hcall] at hbranch
      exact sameTrack_turn payloader hother hbranch hwhole readings
  | begin hcall => exact sameTrack_of_eq rfl rfl fun _ => rfl
  | report hcall => exact sameTrack_sendReport flight _ other
  | @handOver packet rest hcall =>
      rw [hcall] at hbranch
      have hkind : trackOf packet.header.payloadType = kind := hbranch packet (by simp)
      exact sameTrack_handOver flight (hkind ▸ hother) taken
  | countPacket hcall => exact sameTrack_countPacket flight kind other
  | countOctets hcall => exact sameTrack_countOctets flight kind _ other

/-- A step of the call keeps its track on the samples passed in. -/
theorem Stepped.onTrack (hstepped : Stepped payloader flight kind readings taken moved)
    (hready : Ready flight.sender) {track : RtpTrack} {origin : Stand Payloader}
    {held : Payloader} {given : List Sample}
    (hon : OnTrack payloader track origin held kind flight.sender (flight.calls kind).stage
      given) :
    OnTrack payloader track origin held kind moved.sender (moved.calls kind).stage given := by
  cases hstepped with
  | turn hcall hwhole =>
      rw [hcall] at hon
      simpa [InFlight.goOn, CallAt.stage] using hon.turn hready hwhole readings
  | begin hcall =>
      rw [hcall] at hon
      have hstamp : OnTrack payloader track origin held kind flight.sender (.stamp _) given :=
        hon.still hon.branch rfl rfl rfl rfl
      simpa [InFlight.goOn, CallAt.stage] using hstamp
  | @report args report hcall =>
      rw [hcall] at hon
      have hsent : OnTrack payloader track origin held kind (flight.sendReport report).sender
          (.stamp args) given := hon.same (sameTrack_sendReport flight report kind)
      simpa only [InFlight.goOn, Function.update_self, stage_resumed] using hsent
  | handOver hcall =>
      rw [hcall] at hon
      simpa [InFlight.goOn, CallAt.stage] using hon.handOver taken
  | countPacket hcall =>
      rw [hcall] at hon
      simpa [InFlight.goOn, CallAt.stage] using hon.same (sameTrack_countPacket flight kind kind)
  | countOctets hcall =>
      rw [hcall] at hon
      simpa [InFlight.goOn, CallAt.stage] using hon.same (sameTrack_countOctets flight kind _ kind)

end Stepped

theorem Airing.step {flight : InFlight Payloader} (hairing : Airing payloader start flight)
    (kind : StreamType) (readings : Readings) (taken : Bool) :
    Airing payloader start (flight.step payloader kind readings taken) := by
  obtain ⟨hready, hon⟩ := hairing
  have hstepped := stepped_step payloader flight kind readings taken
  refine ⟨hstepped.ready hready, fun other => ?_⟩
  rw [hstepped.given]
  by_cases hsame : other = kind
  · subst hsame
    exact hstepped.onTrack hready (hon other)
  · rw [hstepped.calls hsame]
    exact (hon other).same (hstepped.sameTrack (hon kind).branch hsame)

theorem Airing.rtcpTimer {flight : InFlight Payloader} (hairing : Airing payloader start flight)
    (ntp : UInt64) : Airing payloader start (flight.rtcpTimer ntp) := by
  obtain ⟨hready, hon⟩ := hairing
  unfold InFlight.rtcpTimer
  split
  next => exact ⟨hready, hon⟩
  next report _ =>
    refine ⟨hready.sendReport report, fun kind => ?_⟩
    simpa using (hon kind).same (sameTrack_sendReport flight report kind)

theorem airing_next (flight : InFlight Payloader) (action : Action)
    (hairing : Airing payloader start flight) :
    Airing payloader start (flight.next payloader action) := by
  cases action with
  | send kind sample =>
      simp only [next]
      split
      next hidle => exact hairing.send hidle sample
      next => exact hairing
  | step kind readings taken => exact hairing.step kind readings taken
  | rtcpTimer ntp => exact hairing.rtcpTimer ntp

end Run

end InFlight

end RustTgCalls.Wrtc
