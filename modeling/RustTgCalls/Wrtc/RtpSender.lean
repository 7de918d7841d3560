import RustTgCalls.Library.Transition
import RustTgCalls.Media.FrameReader
import RustTgCalls.Wrtc.Signaling
import Mathlib

namespace RustTgCalls.Wrtc

open Transition Media

/-! `send_rtp_bytes` and the sender reports, with everything they number and
count. -/

structure RtpHeader where
  version : Nat
  payloadType : UInt8
  sequenceNumber : UInt16
  timestamp : UInt32
  ssrc : UInt32
  marker : Bool
  extensions : List (Nat × Bytes)
  deriving DecidableEq, Repr

structure RtpPacket where
  header : RtpHeader
  payload : Bytes
  deriving DecidableEq, Repr

structure SenderReport where
  ssrc : UInt32
  ntpTime : UInt64
  rtpTime : UInt32
  packetCount : UInt32
  octetCount : UInt32
  cname : String
  deriving DecidableEq, Repr

/-- What is handed to `send_to`, before its encryption; the code discards the result. -/
inductive Sent where
  | rtp (packet : RtpPacket)
  | report (track : StreamType) (report : SenderReport)
  deriving DecidableEq, Repr

/-- The counters that the transport keeps for audio and for video. -/
structure RtpTrack where
  ssrc : UInt32
  seq : UInt16
  ts : UInt32
  first : Bool
  packets : UInt32
  octets : UInt32
  deriving DecidableEq, Repr

/-- A frame handed to `send_rtp_bytes` and the packets made of it. -/
structure RtpFrame where
  increment : UInt32
  packets : List RtpPacket
  deriving DecidableEq, Repr

structure MediaEpoch where
  instant : Instant
  ntp : UInt64
  audioTs : UInt32
  videoTs : UInt32
  deriving DecidableEq, Repr

/-- `outgoing` holds the packets that the call in progress has still to send.
`wire` and `frames` record what was sent and what was handed in. -/
structure RtpSender (Payloader : Type _) where
  closed : Bool
  udpSocket : Bool
  remoteAddr : Bool
  srtpContext : Bool
  tracks : StreamType → RtpTrack
  videoPayloader : Payloader
  mediaEpoch : Option MediaEpoch
  outgoing : List RtpPacket
  wire : List Sent
  frames : StreamType → List RtpFrame

/-- What the clocks show in the course of one call. -/
structure Readings where
  epochInstant : Instant
  epochNtp : UInt64
  reportNtp : UInt64
  packetNtp : UInt64
  deriving DecidableEq, Repr

namespace RtpSender

inductive Action where
  | sendRtpBytes (payloadType : UInt8) (payload : Bytes) (duration : Duration)
      (readings : Readings)
  | transmit
  deriving DecidableEq, Repr

variable {Payloader : Type _}

def trackOf (payloadType : UInt8) : StreamType :=
  if payloadType = opusPayloadType then .audio else .video

/-- Rounded down for audio, to the nearest unit for video. -/
def tsInc (track : StreamType) (duration : Duration) : UInt32 :=
  match track with
  | .audio => UInt32.ofNat (duration * 48000 / 1000000000)
  | .video => UInt32.ofNat ((duration * 90000 + 500000000) / 1000000000)

def absTimeBytes (ntp : UInt64) : Bytes :=
  let ntp24 := ((ntp >>> 14) &&& 0x00FFFFFF).toUInt32
  [(ntp24 >>> 16).toUInt8, (ntp24 >>> 8).toUInt8, ntp24.toUInt8]

def audioPacket (payloadType : UInt8) (payload : Bytes) (ntp : UInt64)
    (track : RtpTrack) : RtpPacket where
  header :=
    { version := 2
      payloadType
      sequenceNumber := track.seq
      timestamp := track.ts
      ssrc := track.ssrc
      marker := track.first
      extensions :=
        [(extAudioLevelId, [0x80]), (extAbsSendTimeId, absTimeBytes ntp),
          (extSdesMidId, [0x30])] }
  payload

/-- The packets of one video frame, and the sequence number after them. -/
def videoPackets (ntp : UInt64) (ssrc timestamp : UInt32) :
    UInt16 → List Bytes → List RtpPacket × UInt16
  | seq, [] => ([], seq)
  | seq, chunk :: rest =>
      let header : RtpHeader :=
        { version := 2
          payloadType := vp8PayloadType
          sequenceNumber := seq
          timestamp
          ssrc
          marker := rest.isEmpty
          extensions :=
            [(extAbsSendTimeId, absTimeBytes ntp),
              (extSdesMidId, [0x31]), (extVideoOrientationId, [0x00])] }
      let (packets, after) := videoPackets ntp ssrc timestamp (seq + 1) rest
      (⟨header, chunk⟩ :: packets, after)

def reachable (sender : RtpSender Payloader) : Bool :=
  sender.srtpContext && sender.udpSocket && sender.remoteAddr

def senderReport (track : RtpTrack) (ntp : UInt64) : SenderReport where
  ssrc := track.ssrc
  ntpTime := ntp
  rtpTime := track.ts
  packetCount := track.packets
  octetCount := track.octets
  cname := "rusttgcalls"

/-- Both reports in one step, as nothing moves a counter while a sequential call emits
them. -/
def emitRtcpSenderReports (sender : RtpSender Payloader) (ntp : UInt64) :
    RtpSender Payloader :=
  if sender.mediaEpoch.isSome && sender.reachable then
    { sender with
      wire := sender.wire ++
        [.report .audio (senderReport (sender.tracks .audio) ntp),
          .report .video (senderReport (sender.tracks .video) ntp)] }
  else sender

/-- The first frame of an epoch is preceded by a report for each track. -/
def establishEpoch (sender : RtpSender Payloader) (readings : Readings) :
    RtpSender Payloader :=
  match sender.mediaEpoch with
  | some _ => sender
  | none =>
      let epoch : MediaEpoch :=
        { instant := readings.epochInstant
          ntp := readings.epochNtp
          audioTs := (sender.tracks .audio).ts
          videoTs := (sender.tracks .video).ts }
      emitRtcpSenderReports { sender with mediaEpoch := some epoch }
        readings.reportNtp

def record (sender : RtpSender Payloader) (kind : StreamType) (track : RtpTrack)
    (frame : RtpFrame) : RtpSender Payloader :=
  { sender with
    tracks := Function.update sender.tracks kind track
    frames := Function.update sender.frames kind (sender.frames kind ++ [frame]) }

def sendAudio (sender : RtpSender Payloader) (payloadType : UInt8)
    (payload : Bytes) (duration : Duration) (ntp : UInt64) :
    RtpSender Payloader :=
  let track := sender.tracks .audio
  let increment := tsInc .audio duration
  let packet := audioPacket payloadType payload ntp track
  let numbered :=
    sender.record .audio
      { track with seq := track.seq + 1, ts := track.ts + increment, first := false }
      ⟨increment, [packet]⟩
  if sender.reachable then { numbered with outgoing := [packet] } else numbered

def maxVp8Payload : Nat := 1180

section Payloader

variable (payloader : Payloader → Nat → Bytes → List Bytes × Payloader)

def sendVideo (sender : RtpSender Payloader) (payload : Bytes)
    (duration : Duration) (ntp : UInt64) : RtpSender Payloader :=
  let track := sender.tracks .video
  let increment := tsInc .video duration
  let (chunks, videoPayloader) :=
    payloader sender.videoPayloader maxVp8Payload payload
  let moved := { sender with videoPayloader }
  let stamped := { track with ts := track.ts + increment, first := false }
  if chunks.isEmpty || !sender.reachable then
    moved.record .video stamped ⟨increment, []⟩
  else
    let (packets, seq) := videoPackets ntp track.ssrc track.ts track.seq chunks
    { moved.record .video { stamped with seq } ⟨increment, packets⟩ with
      outgoing := packets }

/-- A call up to its first transmission. -/
def sendRtpBytes (sender : RtpSender Payloader) (payloadType : UInt8)
    (payload : Bytes) (duration : Duration) (readings : Readings) :
    RtpSender Payloader :=
  if sender.closed then sender
  else
    let started := sender.establishEpoch readings
    match trackOf payloadType with
    | .audio => started.sendAudio payloadType payload duration readings.packetNtp
    | .video => started.sendVideo payloader payload duration readings.packetNtp

/-- `send_to` and the counters of one packet; its payload type shows the branch
it comes from.  With one call at a time nothing comes between the three. -/
def transmit (sender : RtpSender Payloader) : RtpSender Payloader :=
  match sender.outgoing with
  | [] => sender
  | packet :: rest =>
      let kind := trackOf packet.header.payloadType
      let track := sender.tracks kind
      { sender with
        outgoing := rest
        wire := sender.wire ++ [.rtp packet]
        tracks := Function.update sender.tracks kind
          { track with
            packets := track.packets + 1
            octets := track.octets + UInt32.ofNat packet.payload.length } }

/-- The calls are sequential: the next one begins when the packets of the one
before have been sent. -/
def next (sender : RtpSender Payloader) : Action → RtpSender Payloader
  | .sendRtpBytes payloadType payload duration readings =>
      match sender.outgoing with
      | [] => sender.sendRtpBytes payloader payloadType payload duration readings
      | _ :: _ => sender
  | .transmit => sender.transmit

end Payloader

/-! The law of the two streams. -/

def packetsOf (kind : StreamType) (packets : List RtpPacket) : List RtpPacket :=
  packets.filter fun packet => trackOf packet.header.payloadType = kind

/-- The packets of one track among what has been sent. -/
def transmitted (kind : StreamType) (wire : List Sent) : List RtpPacket :=
  packetsOf kind (wire.filterMap fun
    | .rtp packet => some packet
    | .report _ _ => none)

def octetsOf (packets : List RtpPacket) : Nat :=
  (packets.map fun packet => packet.payload.length).sum

def framesBefore (frames : List RtpFrame) (n : Nat) : UInt32 :=
  ((frames.take n).map RtpFrame.increment).sum

def MarkerLast (packets : List RtpPacket) : Prop :=
  ∀ i packet, packets[i]? = some packet →
    (packet.header.marker = true ↔ i + 1 = packets.length)

/-- The stream of one track, from where it started to where it stands. -/
structure StreamLaw (start : RtpTrack) (kind : StreamType)
    (sender : RtpSender Payloader) : Prop where
  sent : transmitted kind sender.wire ++ packetsOf kind sender.outgoing =
    (sender.frames kind).flatMap RtpFrame.packets
  numbered : ∀ i packet, (transmitted kind sender.wire)[i]? = some packet →
    packet.header.ssrc = start.ssrc ∧
      packet.header.sequenceNumber = start.seq + UInt16.ofNat i
  stamped : ∀ n frame, (sender.frames kind)[n]? = some frame →
    ∀ packet ∈ frame.packets,
      packet.header.timestamp = start.ts + framesBefore (sender.frames kind) n
  marked : kind = .video → ∀ frame ∈ sender.frames kind, MarkerLast frame.packets
  counted : (sender.tracks kind).packets =
      UInt32.ofNat (transmitted kind sender.wire).length ∧
    (sender.tracks kind).octets =
      UInt32.ofNat (octetsOf (transmitted kind sender.wire))
  reported : ∀ before report, before ++ [.report kind report] <+: sender.wire →
    report.ssrc = start.ssrc ∧
      report.packetCount = UInt32.ofNat (transmitted kind before).length ∧
      report.octetCount = UInt32.ofNat (octetsOf (transmitted kind before))

/-- Open and connected, with nothing sent yet. -/
structure Fresh (sender : RtpSender Payloader) : Prop where
  opened : sender.closed = false
  connected : sender.reachable = true
  idle : sender.outgoing = []
  unsent : sender.wire = []
  uncalled : ∀ kind, sender.frames kind = []
  uncounted : ∀ kind,
    (sender.tracks kind).packets = 0 ∧ (sender.tracks kind).octets = 0

/-! Small facts about the packets of a track. -/

@[simp] theorem packetsOf_nil (kind : StreamType) : packetsOf kind [] = [] := rfl

theorem packetsOf_append (kind : StreamType) (first second : List RtpPacket) :
    packetsOf kind (first ++ second) = packetsOf kind first ++ packetsOf kind second :=
  List.filter_append ..

theorem packetsOf_self {kind : StreamType} {packets : List RtpPacket}
    (hkind : ∀ packet ∈ packets, trackOf packet.header.payloadType = kind) :
    packetsOf kind packets = packets := by
  apply List.filter_eq_self.mpr
  simpa using hkind

theorem packetsOf_other {kind other : StreamType} {packets : List RtpPacket}
    (hkind : ∀ packet ∈ packets, trackOf packet.header.payloadType = kind)
    (hother : other ≠ kind) : packetsOf other packets = [] := by
  apply List.filter_eq_nil_iff.mpr
  intro packet hpacket
  simpa [hkind packet hpacket] using hother.symm

theorem transmitted_append (kind : StreamType) (first second : List Sent) :
    transmitted kind (first ++ second) =
      transmitted kind first ++ transmitted kind second := by
  simp [transmitted, packetsOf_append, List.filterMap_append]

@[simp] theorem transmitted_report (kind track : StreamType)
    (report : SenderReport) (rest : List Sent) :
    transmitted kind (.report track report :: rest) = transmitted kind rest := by
  simp [transmitted]

@[simp] theorem transmitted_rtp (kind : StreamType) (packet : RtpPacket) :
    transmitted kind [.rtp packet] = packetsOf kind [packet] := by
  simp [transmitted]

@[simp] theorem transmitted_nil (kind : StreamType) : transmitted kind [] = [] := rfl

theorem octetsOf_append (first second : List RtpPacket) :
    octetsOf (first ++ second) = octetsOf first + octetsOf second := by
  simp [octetsOf]

theorem framesBefore_append {frames : List RtpFrame} {n : Nat}
    (hn : n ≤ frames.length) (frame : RtpFrame) :
    framesBefore (frames ++ [frame]) n = framesBefore frames n := by
  simp [framesBefore, List.take_append_of_le_length hn]

theorem framesBefore_all (frames : List RtpFrame) (frame : RtpFrame) :
    framesBefore (frames ++ [frame]) (frames.length + 1) =
      framesBefore frames frames.length + frame.increment := by
  have hall : (frames ++ [frame]).length = frames.length + 1 := by simp
  rw [framesBefore, ← hall, List.take_length]
  simp [framesBefore]

/-! What a run keeps: the law, and the numbers that the next packet gets. -/

structure Streaming (start : RtpTrack) (kind : StreamType)
    (sender : RtpSender Payloader) : Prop where
  law : StreamLaw start kind sender
  ssrc : (sender.tracks kind).ssrc = start.ssrc
  seq : (sender.tracks kind).seq = start.seq +
    UInt16.ofNat ((sender.frames kind).flatMap RtpFrame.packets).length
  ts : (sender.tracks kind).ts =
    start.ts + framesBefore (sender.frames kind) (sender.frames kind).length
  all : ∀ i packet,
    ((sender.frames kind).flatMap RtpFrame.packets)[i]? = some packet →
      packet.header.ssrc = start.ssrc ∧
        packet.header.sequenceNumber = start.seq + UInt16.ofNat i

theorem Fresh.streaming {sender : RtpSender Payloader} (hfresh : Fresh sender)
    (kind : StreamType) : Streaming (sender.tracks kind) kind sender := by
  obtain ⟨_, _, hidle, hunsent, huncalled, huncounted⟩ := hfresh
  have hframes := huncalled kind
  obtain ⟨hpackets, hoctets⟩ := huncounted kind
  refine ⟨⟨?_, ?_, ?_, ?_, ?_, ?_⟩, rfl, ?_, ?_, ?_⟩
  · simp [hidle, hunsent, hframes, packetsOf]
  · simp [hunsent]
  · simp [hframes]
  · simp [hframes]
  · simp [hunsent, hpackets, hoctets, octetsOf]
  · simp [hunsent]
  · simp [hframes]
  · simp [hframes, framesBefore]
  · simp [hframes]

section Streaming

variable {start : RtpTrack} {kind : StreamType} {sender : RtpSender Payloader}

/-- A packet sent is one of those numbered. -/
theorem Streaming.numbered (hstreaming : Streaming start kind sender)
    {sent rest : List RtpPacket}
    (hsent : sent ++ rest = (sender.frames kind).flatMap RtpFrame.packets)
    {i : Nat} {packet : RtpPacket} (hpacket : sent[i]? = some packet) :
    packet.header.ssrc = start.ssrc ∧
      packet.header.sequenceNumber = start.seq + UInt16.ofNat i := by
  apply hstreaming.all
  obtain ⟨hi, _⟩ := List.getElem?_eq_some_iff.mp hpacket
  rw [← hsent, List.getElem?_append_left hi]
  exact hpacket

theorem Streaming.report (hstreaming : Streaming start kind sender)
    (track : StreamType) (ntp : UInt64) (before : List Sent) (report : SenderReport)
    (hnew : before ++ [.report kind report] =
      sender.wire ++ [.report track (senderReport (sender.tracks track) ntp)]) :
    report.ssrc = start.ssrc ∧
      report.packetCount = UInt32.ofNat (transmitted kind before).length ∧
      report.octetCount = UInt32.ofNat (octetsOf (transmitted kind before)) := by
  obtain ⟨hbefore, hreport⟩ := List.append_inj' hnew rfl
  simp only [List.cons.injEq, Sent.report.injEq, and_true] at hreport
  obtain ⟨htrack, hreport⟩ := hreport
  subst htrack hbefore hreport
  exact ⟨hstreaming.ssrc, hstreaming.law.counted⟩

/-- A report goes out between two packets. -/
theorem Streaming.sendReport (hstreaming : Streaming start kind sender)
    (track : StreamType) (ntp : UInt64) :
    Streaming start kind
      { sender with
        wire := sender.wire ++
          [.report track (senderReport (sender.tracks track) ntp)] } := by
  have hsame : transmitted kind (sender.wire ++
      [.report track (senderReport (sender.tracks track) ntp)]) =
        transmitted kind sender.wire := by
    simp [transmitted_append]
  obtain ⟨hsent, hnumbered, hstamped, hmarked, hcounted, hreported⟩ := hstreaming.law
  refine ⟨⟨?_, ?_, hstamped, hmarked, ?_, ?_⟩, hstreaming.ssrc, hstreaming.seq,
    hstreaming.ts, hstreaming.all⟩
  · simpa only [hsame] using hsent
  · simpa only [hsame] using hnumbered
  · simpa only [hsame] using hcounted
  · intro before report hprefix
    obtain hnew | hold := List.prefix_concat_iff.mp hprefix
    · exact hstreaming.report track ntp before report hnew
    · exact hreported before report hold

theorem Streaming.emit (hstreaming : Streaming start kind sender) (ntp : UInt64) :
    Streaming start kind (sender.emitRtcpSenderReports ntp) := by
  unfold emitRtcpSenderReports
  split
  · have hboth := (hstreaming.sendReport .audio ntp).sendReport .video ntp
    simpa using hboth
  · exact hstreaming

theorem Streaming.establishEpoch (hstreaming : Streaming start kind sender)
    (readings : Readings) :
    Streaming start kind (sender.establishEpoch readings) := by
  unfold RtpSender.establishEpoch
  split
  · exact hstreaming
  · apply Streaming.emit
    obtain ⟨⟨hsent, hnumbered, hstamped, hmarked, hcounted, hreported⟩, hssrc, hseq,
      hts, hall⟩ := hstreaming
    exact ⟨⟨hsent, hnumbered, hstamped, hmarked, hcounted, hreported⟩, hssrc, hseq,
      hts, hall⟩

/-- What the packets of the next frame of a track look like. -/
structure NextPackets (track : RtpTrack) (kind : StreamType)
    (packets : List RtpPacket) : Prop where
  branch : ∀ packet ∈ packets, trackOf packet.header.payloadType = kind
  stamped : ∀ packet ∈ packets, packet.header.timestamp = track.ts
  numbered : ∀ i packet, packets[i]? = some packet →
    packet.header.ssrc = track.ssrc ∧
      packet.header.sequenceNumber = track.seq + UInt16.ofNat i
  marked : kind = .video → MarkerLast packets

/-- A frame of the track itself is handed in between two calls. -/
theorem Streaming.handIn (hstreaming : Streaming start kind sender)
    (hidle : sender.outgoing = []) (frame : RtpFrame)
    (hpackets : NextPackets (sender.tracks kind) kind frame.packets) (first : Bool) :
    Streaming start kind
      { sender.record kind
          { sender.tracks kind with
            seq := (sender.tracks kind).seq + UInt16.ofNat frame.packets.length
            ts := (sender.tracks kind).ts + frame.increment
            first } frame with
        outgoing := frame.packets } := by
  obtain ⟨⟨hsent, hnumbered, hstamped, hmarked, hcounted, hreported⟩, hssrc, hseq,
    hts, hall⟩ := hstreaming
  rw [hidle] at hsent
  have hflat : (sender.frames kind ++ [frame]).flatMap RtpFrame.packets =
      (sender.frames kind).flatMap RtpFrame.packets ++ frame.packets := by
    simp
  refine ⟨⟨?_, hnumbered, ?_, ?_, ?_, hreported⟩, ?_, ?_, ?_, ?_⟩
  · have hbefore : transmitted kind sender.wire =
        (sender.frames kind).flatMap RtpFrame.packets := by
      simpa using hsent
    simp only [record, Function.update_self, hflat, packetsOf_self hpackets.branch,
      hbefore]
  · simp only [record, Function.update_self]
    intro n other hother packet hpacket
    obtain ⟨hn, _⟩ := List.getElem?_eq_some_iff.mp hother
    by_cases hold : n < (sender.frames kind).length
    · rw [List.getElem?_append_left hold] at hother
      rw [framesBefore_append (Nat.le_of_lt hold)]
      exact hstamped n other hother packet hpacket
    · have hlast : n = (sender.frames kind).length := by
        simp only [List.length_append, List.length_singleton] at hn
        omega
      subst hlast
      have hsame : frame = other := by simpa using hother
      subst hsame
      rw [framesBefore_append (Nat.le_refl _), hpackets.stamped packet hpacket, hts]
  · simp only [record, Function.update_self]
    intro hvideo other hother
    obtain hold | hnew := List.mem_append.mp hother
    · exact hmarked hvideo other hold
    · rw [List.mem_singleton.mp hnew]
      exact hpackets.marked hvideo
  · simpa [record] using hcounted
  · simpa [record] using hssrc
  · simp only [record, Function.update_self, hflat, List.length_append,
      UInt16.ofNat_add, hseq, UInt16.add_assoc]
  · simp only [record, Function.update_self, List.length_append,
      List.length_singleton, framesBefore_all, hts, UInt32.add_assoc]
  · simp only [record, Function.update_self, hflat]
    intro i packet hpacket
    by_cases hold : i < ((sender.frames kind).flatMap RtpFrame.packets).length
    · rw [List.getElem?_append_left hold] at hpacket
      exact hall i packet hpacket
    · rw [List.getElem?_append_right (by omega)] at hpacket
      obtain ⟨hpacketSsrc, hpacketSeq⟩ := hpackets.numbered _ packet hpacket
      refine ⟨hpacketSsrc.trans hssrc, ?_⟩
      rw [hpacketSeq, hseq, UInt16.add_assoc, ← UInt16.ofNat_add]
      congr 2
      omega

/-- A frame of the other track leaves the numbering alone. -/
theorem Streaming.handInOther (hstreaming : Streaming start kind sender)
    (hidle : sender.outgoing = []) {other : StreamType} (hother : other ≠ kind)
    (track : RtpTrack) (frame : RtpFrame)
    (hpackets : ∀ packet ∈ frame.packets,
      trackOf packet.header.payloadType = other) :
    Streaming start kind
      { sender.record other track frame with outgoing := frame.packets } := by
  obtain ⟨⟨hsent, hnumbered, hstamped, hmarked, hcounted, hreported⟩, hssrc, hseq,
    hts, hall⟩ := hstreaming
  have hnone : packetsOf kind frame.packets = [] :=
    packetsOf_other hpackets hother.symm
  have hkind : kind ≠ other := hother.symm
  refine ⟨⟨?_, hnumbered, ?_, ?_, ?_, hreported⟩, ?_, ?_, ?_, ?_⟩
  · simpa [record, hnone, hidle, Function.update_of_ne hkind] using hsent
  · simpa [record, Function.update_of_ne hkind] using hstamped
  · simpa [record, Function.update_of_ne hkind] using hmarked
  · simpa [record, Function.update_of_ne hkind] using hcounted
  · simpa [record, Function.update_of_ne hkind] using hssrc
  · simpa [record, Function.update_of_ne hkind] using hseq
  · simpa [record, Function.update_of_ne hkind] using hts
  · simpa [record, Function.update_of_ne hkind] using hall

theorem Streaming.payloader (hstreaming : Streaming start kind sender)
    (videoPayloader : Payloader) :
    Streaming start kind { sender with videoPayloader } := by
  obtain ⟨⟨hsent, hnumbered, hstamped, hmarked, hcounted, hreported⟩, hssrc, hseq,
    hts, hall⟩ := hstreaming
  exact ⟨⟨hsent, hnumbered, hstamped, hmarked, hcounted, hreported⟩, hssrc, hseq,
    hts, hall⟩

theorem nextPackets_audio {payloadType : UInt8} {payload : Bytes} {ntp : UInt64}
    (track : RtpTrack) (haudio : trackOf payloadType = .audio) :
    NextPackets track .audio [audioPacket payloadType payload ntp track] := by
  refine ⟨?_, ?_, ?_, ?_⟩
  · simpa [audioPacket] using haudio
  · simp [audioPacket]
  · intro i packet hpacket
    obtain ⟨hi, _⟩ := List.getElem?_eq_some_iff.mp hpacket
    have hzero : i = 0 := by simpa using hi
    subst hzero
    have hsame : audioPacket payloadType payload ntp track = packet := by
      simpa using hpacket
    subst hsame
    simp [audioPacket]
  · intro hvideo
    cases hvideo

theorem videoPackets_length (ntp : UInt64) (ssrc timestamp : UInt32) (seq : UInt16)
    (chunks : List Bytes) :
    (videoPackets ntp ssrc timestamp seq chunks).1.length = chunks.length := by
  induction chunks generalizing seq with
  | nil => rfl
  | cons chunk rest ih => simp [videoPackets, ih]

theorem seq_succ (seq : UInt16) (i : Nat) :
    seq + 1 + UInt16.ofNat i = seq + UInt16.ofNat (i + 1) := by
  rw [UInt16.ofNat_add, UInt16.add_assoc, UInt16.add_comm 1]
  rfl

theorem videoPackets_seq (ntp : UInt64) (ssrc timestamp : UInt32) (seq : UInt16)
    (chunks : List Bytes) :
    (videoPackets ntp ssrc timestamp seq chunks).2 =
      seq + UInt16.ofNat chunks.length := by
  induction chunks generalizing seq with
  | nil => simp [videoPackets]
  | cons chunk rest ih =>
      simp only [videoPackets, ih, List.length_cons, seq_succ]

theorem nextPackets_video (ntp : UInt64) (track : RtpTrack) (chunks : List Bytes) :
    NextPackets track .video
      (videoPackets ntp track.ssrc track.ts track.seq chunks).1 := by
  obtain ⟨ssrc, seq, ts, first, packets, octets⟩ := track
  induction chunks generalizing seq with
  | nil =>
      refine ⟨by simp [videoPackets], by simp [videoPackets], by simp [videoPackets], ?_⟩
      intro _ i packet hpacket
      simp [videoPackets] at hpacket
  | cons chunk rest ih =>
      obtain ⟨hbranch, hstamped, hnumbered, hmarked⟩ := ih (seq + 1)
      refine ⟨?_, ?_, ?_, ?_⟩
      · intro packet hpacket
        obtain hhead | htail := List.mem_cons.mp hpacket
        · subst hhead
          rfl
        · exact hbranch packet htail
      · intro packet hpacket
        obtain hhead | htail := List.mem_cons.mp hpacket
        · subst hhead
          rfl
        · exact hstamped packet htail
      · intro i packet hpacket
        cases i with
        | zero =>
            have hhead := Option.some.inj hpacket
            subst hhead
            simp
        | succ i =>
            obtain ⟨hssrc, hseq⟩ := hnumbered i packet hpacket
            refine ⟨hssrc, hseq.trans ?_⟩
            exact seq_succ seq i
      · intro hvideo i packet hpacket
        have hlength := videoPackets_length ntp ssrc ts (seq + 1) rest
        simp only [videoPackets, List.length_cons, hlength]
        cases i with
        | zero =>
            have hhead := Option.some.inj hpacket
            subst hhead
            cases rest <;> simp
        | succ i =>
            have htail := hmarked hvideo i packet hpacket
            rw [hlength] at htail
            rw [htail]
            omega

/-! One step of a run. -/

theorem Streaming.sendAudio (hstreaming : Streaming start kind sender)
    (hidle : sender.outgoing = []) (hconnected : sender.reachable = true)
    {payloadType : UInt8} (haudio : trackOf payloadType = .audio) (payload : Bytes)
    (duration : Duration) (ntp : UInt64) :
    Streaming start kind (sender.sendAudio payloadType payload duration ntp) := by
  have hpackets := @nextPackets_audio payloadType payload ntp
    (sender.tracks .audio) haudio
  simp only [RtpSender.sendAudio, hconnected, if_true]
  cases kind with
  | audio => exact hstreaming.handIn hidle ⟨_, [_]⟩ hpackets false
  | video => exact hstreaming.handInOther hidle (by decide) _ ⟨_, [_]⟩ hpackets.branch

section Payloader

variable {payloader : Payloader → Nat → Bytes → List Bytes × Payloader}

theorem Streaming.sendVideo (hstreaming : Streaming start kind sender)
    (hidle : sender.outgoing = []) (hconnected : sender.reachable = true)
    (payload : Bytes) (duration : Duration) (ntp : UInt64) :
    Streaming start kind (sender.sendVideo payloader payload duration ntp) := by
  simp only [RtpSender.sendVideo]
  generalize payloader sender.videoPayloader maxVp8Payload payload = answer
  obtain ⟨chunks, videoPayloader⟩ := answer
  have hmoved := hstreaming.payloader videoPayloader
  have hpackets := nextPackets_video ntp (sender.tracks .video) chunks
  have hlength := videoPackets_length ntp (sender.tracks .video).ssrc
    (sender.tracks .video).ts (sender.tracks .video).seq chunks
  have hseq := videoPackets_seq ntp (sender.tracks .video).ssrc
    (sender.tracks .video).ts (sender.tracks .video).seq chunks
  cases chunks with
  | nil =>
      simp only [List.isEmpty_nil, Bool.true_or, if_true]
      cases kind with
      | audio =>
          have hother := hmoved.handInOther hidle (by decide)
            { sender.tracks .video with
              ts := (sender.tracks .video).ts + tsInc .video duration
              first := false } ⟨tsInc .video duration, []⟩ hpackets.branch
          simpa [record, hidle] using hother
      | video =>
          have hsame := hmoved.handIn hidle ⟨tsInc .video duration, []⟩ hpackets false
          simpa [record, hidle] using hsame
  | cons chunk rest =>
      simp only [List.isEmpty_cons, hconnected, Bool.not_true, Bool.or_self,
        Bool.false_eq_true, if_false]
      rw [hseq, ← hlength]
      cases kind with
      | audio =>
          exact hmoved.handInOther hidle (by decide) _ ⟨_, _⟩ hpackets.branch
      | video => exact hmoved.handIn hidle ⟨_, _⟩ hpackets false

end Payloader

theorem transmitted_concat (kind : StreamType) (wire : List Sent) (packet : RtpPacket) :
    transmitted kind (wire ++ [.rtp packet]) =
      transmitted kind wire ++ packetsOf kind [packet] := by
  rw [transmitted_append, transmitted_rtp]

/-- The first packet of the queue has left, and the track has counted it if it is
one of its own. -/
theorem Streaming.passed (hstreaming : Streaming start kind sender) {packet : RtpPacket}
    {rest : List RtpPacket} (hout : sender.outgoing = packet :: rest)
    {tracks : StreamType → RtpTrack}
    (hssrc : (tracks kind).ssrc = (sender.tracks kind).ssrc)
    (hseq : (tracks kind).seq = (sender.tracks kind).seq)
    (hts : (tracks kind).ts = (sender.tracks kind).ts)
    (hpackets : (tracks kind).packets =
      UInt32.ofNat (transmitted kind (sender.wire ++ [.rtp packet])).length)
    (hoctets : (tracks kind).octets =
      UInt32.ofNat (octetsOf (transmitted kind (sender.wire ++ [.rtp packet])))) :
    Streaming start kind
      { sender with
        outgoing := rest
        wire := sender.wire ++ [.rtp packet]
        tracks } := by
  obtain ⟨hsent, hnumbered, hstamped, hmarked, _, hreported⟩ := hstreaming.law
  have hall : transmitted kind (sender.wire ++ [.rtp packet]) ++ packetsOf kind rest =
      (sender.frames kind).flatMap RtpFrame.packets := by
    rw [transmitted_concat, List.append_assoc, ← packetsOf_append, ← hsent, hout]
    rfl
  refine ⟨⟨hall, ?_, hstamped, hmarked, ⟨hpackets, hoctets⟩, ?_⟩,
    hssrc.trans hstreaming.ssrc, hseq.trans hstreaming.seq, hts.trans hstreaming.ts,
    hstreaming.all⟩
  · intro i sent hi
    exact hstreaming.numbered hall hi
  · intro before report hprefix
    obtain hnew | hold := List.prefix_concat_iff.mp hprefix
    · have hlast := (List.append_inj' hnew rfl).2
      simp at hlast
    · exact hreported before report hold

theorem Streaming.transmit (hstreaming : Streaming start kind sender) :
    Streaming start kind sender.transmit := by
  unfold RtpSender.transmit
  split
  next => exact hstreaming
  next packet rest hout =>
    obtain ⟨hpackets, hoctets⟩ := hstreaming.law.counted
    have hwire := transmitted_concat kind sender.wire packet
    by_cases hkind : kind = trackOf packet.header.payloadType
    · subst hkind
      have hself : packetsOf (trackOf packet.header.payloadType) [packet] = [packet] :=
        packetsOf_self (by simp)
      apply hstreaming.passed hout
      · simp
      · simp
      · simp
      · simp only [Function.update_self, hwire, hself, List.length_append,
          List.length_singleton, UInt32.ofNat_add, hpackets]
        rfl
      · simp only [Function.update_self, hwire, hself, octetsOf_append, UInt32.ofNat_add,
          hoctets]
        simp [octetsOf]
    · have hnone : packetsOf kind [packet] = [] :=
        packetsOf_other (by simp) hkind
      rw [hnone, List.append_nil] at hwire
      apply hstreaming.passed hout
      · rw [Function.update_of_ne hkind]
      · rw [Function.update_of_ne hkind]
      · rw [Function.update_of_ne hkind]
      · rw [Function.update_of_ne hkind, hwire, hpackets]
      · rw [Function.update_of_ne hkind, hwire, hoctets]

end Streaming

section Run

variable {start : StreamType → RtpTrack} {sender : RtpSender Payloader}
  {payloader : Payloader → Nat → Bytes → List Bytes × Payloader}

structure Conforming (start : StreamType → RtpTrack) (sender : RtpSender Payloader) :
    Prop where
  opened : sender.closed = false
  connected : sender.reachable = true
  streaming : ∀ kind, Streaming (start kind) kind sender

theorem emit_frame (sender : RtpSender Payloader) (ntp : UInt64) :
    (sender.emitRtcpSenderReports ntp).reachable = sender.reachable ∧
      (sender.emitRtcpSenderReports ntp).closed = sender.closed ∧
      (sender.emitRtcpSenderReports ntp).outgoing = sender.outgoing ∧
      (sender.emitRtcpSenderReports ntp).frames = sender.frames := by
  unfold emitRtcpSenderReports
  split <;> exact ⟨rfl, rfl, rfl, rfl⟩

theorem establishEpoch_frame (sender : RtpSender Payloader) (readings : Readings) :
    (sender.establishEpoch readings).reachable = sender.reachable ∧
      (sender.establishEpoch readings).closed = sender.closed ∧
      (sender.establishEpoch readings).outgoing = sender.outgoing ∧
      (sender.establishEpoch readings).frames = sender.frames := by
  unfold establishEpoch
  split
  · exact ⟨rfl, rfl, rfl, rfl⟩
  · exact emit_frame ..

theorem conforming_call (hconforming : Conforming start sender)
    (hidle : sender.outgoing = []) (payloadType : UInt8) (payload : Bytes)
    (duration : Duration) (readings : Readings) :
    Conforming start
      (sender.sendRtpBytes payloader payloadType payload duration readings) := by
  obtain ⟨hopened, hconnected, hstreaming⟩ := hconforming
  obtain ⟨hreachable, hclosed, houtgoing, _⟩ := sender.establishEpoch_frame readings
  rw [hconnected] at hreachable
  rw [hopened] at hclosed
  rw [hidle] at houtgoing
  have hstarted (kind : StreamType) := (hstreaming kind).establishEpoch readings
  simp only [sendRtpBytes, hopened, Bool.false_eq_true, if_false]
  split
  next haudio =>
    refine ⟨?_, ?_, fun kind =>
      (hstarted kind).sendAudio houtgoing hreachable haudio payload duration
        readings.packetNtp⟩
    · simp only [sendAudio]
      split <;> exact hclosed
    · simp only [sendAudio]
      split <;> exact hreachable
  next =>
    refine ⟨?_, ?_, fun kind =>
      (hstarted kind).sendVideo houtgoing hreachable payload duration
        readings.packetNtp⟩
    · simp only [sendVideo]
      split <;> exact hclosed
    · simp only [sendVideo]
      split <;> exact hreachable

theorem conforming_transmit (hconforming : Conforming start sender) :
    Conforming start sender.transmit := by
  obtain ⟨hopened, hconnected, hstreaming⟩ := hconforming
  refine ⟨?_, ?_, fun kind => (hstreaming kind).transmit⟩
  · unfold transmit
    split <;> exact hopened
  · unfold transmit
    split <;> exact hconnected

theorem conforming_next (sender : RtpSender Payloader) (action : Action)
    (hconforming : Conforming start sender) :
    Conforming start (sender.next payloader action) := by
  cases action with
  | sendRtpBytes payloadType payload duration readings =>
      simp only [next]
      split
      next hidle => exact conforming_call hconforming hidle payloadType payload _ _
      next => exact hconforming
  | transmit => exact conforming_transmit hconforming

theorem Fresh.conforming (hfresh : Fresh sender) : Conforming sender.tracks sender where
  opened := hfresh.opened
  connected := hfresh.connected
  streaming := hfresh.streaming

/-! The frames recorded are those of the calls. -/

/-- A call begins when the one before has sent its packets. -/
def Sequential (sender : RtpSender Payloader) : Action → Prop
  | .sendRtpBytes _ _ _ _ => sender.outgoing = []
  | .transmit => True

instance (sender : RtpSender Payloader) : DecidablePred (Sequential sender)
  | .sendRtpBytes _ _ _ _ => inferInstanceAs (Decidable (sender.outgoing = []))
  | .transmit => .isTrue trivial

/-- The timestamp increments of the calls for one track. -/
def calledFor (kind : StreamType) (actions : List Action) : List UInt32 :=
  actions.filterMap fun
    | .sendRtpBytes payloadType _ duration _ =>
        if trackOf payloadType = kind then some (tsInc kind duration) else none
    | .transmit => none

theorem frames_sendRtpBytes (hopened : sender.closed = false) (kind : StreamType)
    (payloadType : UInt8) (payload : Bytes) (duration : Duration)
    (readings : Readings) :
    (((sender.sendRtpBytes payloader payloadType payload duration readings).frames
      kind).map RtpFrame.increment) =
        (sender.frames kind).map RtpFrame.increment ++
          if trackOf payloadType = kind then [tsInc kind duration] else [] := by
  obtain ⟨_, _, _, hframes⟩ := sender.establishEpoch_frame readings
  have hrecord (sender' : RtpSender Payloader) (branch : StreamType)
      (track : RtpTrack) (frame : RtpFrame) :
      ((sender'.record branch track frame).frames kind).map RtpFrame.increment =
        (sender'.frames kind).map RtpFrame.increment ++
          if branch = kind then [frame.increment] else [] := by
    by_cases hbranch : branch = kind
    · subst hbranch
      simp [record]
    · simp [record, hbranch, Function.update_of_ne (Ne.symm hbranch)]
  simp only [sendRtpBytes, hopened, Bool.false_eq_true, if_false]
  cases hbranch : trackOf payloadType with
  | audio =>
      simp only [sendAudio]
      split <;> cases kind <;> simp [hrecord, hframes]
  | video =>
      simp only [sendVideo]
      split <;> cases kind <;> simp [hrecord, hframes]

theorem frames_transmit (sender : RtpSender Payloader) :
    sender.transmit.frames = sender.frames := by
  unfold transmit
  split <;> rfl

theorem increments_after (hconforming : Conforming start sender)
    (hsequential : Along (next payloader) Sequential sender actions)
    (kind : StreamType) :
    ((after (next payloader) sender actions).frames kind).map RtpFrame.increment =
      (sender.frames kind).map RtpFrame.increment ++ calledFor kind actions := by
  induction actions generalizing sender with
  | nil => simp [calledFor]
  | cons action rest ih =>
      have hnext : Conforming start (sender.next payloader action) :=
        conforming_next sender action hconforming
      rw [after_cons, ih hnext hsequential.2]
      cases action with
      | sendRtpBytes payloadType payload duration readings =>
          have hidle : sender.outgoing = [] := hsequential.1
          have hcall : sender.next payloader
              (.sendRtpBytes payloadType payload duration readings) =
                sender.sendRtpBytes payloader payloadType payload duration readings := by
            simp [next, hidle]
          rw [hcall, frames_sendRtpBytes hconforming.opened, List.append_assoc]
          by_cases hkind : trackOf payloadType = kind <;> simp [calledFor, hkind]
      | transmit => simp [next, frames_transmit, calledFor]

end Run

theorem always_streamLaw (payloader : Payloader → Nat → Bytes → List Bytes × Payloader)
    (sender : RtpSender Payloader) (hfresh : Fresh sender) (actions : List Action) :
    Always (next payloader)
        (fun now => ∀ kind, StreamLaw (sender.tracks kind) kind now) sender actions ∧
      (Along (next payloader) Sequential sender actions → ∀ kind,
        ((after (next payloader) sender actions).frames kind).map
          RtpFrame.increment = calledFor kind actions) := by
  have hstart := hfresh.conforming
  constructor
  · have hconforming : Along (next payloader) (fun _ _ => True) sender actions :=
      along_true
    have halways := hconforming.always
      (fun now action hnow _ => conforming_next now action hnow) hstart
    exact halways.mono fun now hnow kind => (hnow.streaming kind).law
  · intro hsequential kind
    simpa [hfresh.uncalled kind] using increments_after hstart hsequential kind

/-- A transport near the end of its sequence numbers. -/
def connectedSender : RtpSender Unit where
  closed := false
  udpSocket := true
  remoteAddr := true
  srtpContext := true
  tracks := fun
    | .audio => ⟨11, 65535, 0, true, 0, 0⟩
    | .video => ⟨22, 65534, 0, true, 0, 0⟩
  videoPayloader := ()
  mediaEpoch := none
  outgoing := []
  wire := []
  frames := fun _ => []

def twoByteChunks (payloader : Unit) (_ : Nat) : Bytes → List Bytes × Unit
  | first :: second :: third :: _ => ([[first, second], [third]], payloader)
  | _ => ([], payloader)

def mixedCalls : List Action :=
  let readings : Readings := ⟨0, 0, 0, 0⟩
  [.sendRtpBytes 100 [1, 2, 3] 40000000 readings, .transmit, .transmit,
    .sendRtpBytes 111 [9] 20000000 readings, .transmit,
    .sendRtpBytes 100 [] 40000000 readings,
    .sendRtpBytes 100 [4, 5, 6] 40000000 readings, .transmit]

theorem streamLaw_mixedCalls :
    Always (next twoByteChunks)
        (fun now => ∀ kind, StreamLaw (connectedSender.tracks kind) kind now)
        connectedSender mixedCalls ∧
      (Along (next twoByteChunks) Sequential connectedSender mixedCalls → ∀ kind,
        ((after (next twoByteChunks) connectedSender mixedCalls).frames kind).map
          RtpFrame.increment = calledFor kind mixedCalls) := by
  have hfresh : Fresh connectedSender := by
    refine ⟨rfl, rfl, rfl, rfl, fun _ => rfl, fun kind => ?_⟩
    cases kind <;> exact ⟨rfl, rfl⟩
  exact always_streamLaw twoByteChunks connectedSender hfresh mixedCalls

example : ((transmitted .video
    (after (next twoByteChunks) connectedSender mixedCalls).wire).map
      fun packet => (packet.header.sequenceNumber, packet.header.timestamp)) =
    [(65534, 0), (65535, 0), (0, 7200)] := by
  decide +kernel

end RtpSender

end RustTgCalls.Wrtc
