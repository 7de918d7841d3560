import RustTgCalls.Library.Erasure
import RustTgCalls.Wrtc.Keepalive
import RustTgCalls.Wrtc.RtpSender

namespace RustTgCalls.Wrtc

open Transition Media

/-! Calls of `send_rtp_bytes` in flight on one connected transport, from media
and from the keepalives of the monitor's ticks, each a step at a time. -/

inductive CallId where
  | media (call : Nat)
  | keepalive (call : Nat)
  deriving DecidableEq, Repr

structure SendArgs where
  payloadType : UInt8
  payload : Bytes
  duration : Duration
  deriving DecidableEq, Repr

/-- The padding packet of a tick. -/
def keepaliveArgs : SendArgs where
  payloadType := vp8PayloadType
  payload := [0x90, 0x80, 0xe0, 0x00, 0x00]
  duration := Duration.fromMillis 66

inductive SendStage where
  | idle
  | testClosed (args : SendArgs)
  | mediaEpoch (args : SendArgs)
  | senderReports (args : SendArgs) (justStarted : Bool)
  | stamp (args : SendArgs)
  | packetize (payload : Bytes) (ts : UInt32) (ntp : UInt64)
  | address (chunks : List Bytes) (ts : UInt32) (ntp : UInt64)
  | encrypt (chunks : List Bytes) (ts : UInt32) (ntp : UInt64)
  | transmit (packets : List RtpPacket)
  | returned
  deriving DecidableEq, Repr

/-- `sent` are the packets with the calls they come from, `kept` counts the
keepalives that have taken a timestamp, and `stamps` holds what each video frame
of the media took, with the count at that time. -/
structure Channel (Payloader : Type _) where
  sender : RtpSender Payloader
  entry : PcMonitorEntry
  spawned : Nat
  calls : CallId → SendStage
  sent : List (CallId × RtpPacket)
  kept : Nat
  stamps : Nat → Option (UInt32 × Nat)

namespace Channel

variable {Payloader : Type _}

inductive Action where
  | send (call : Nat) (args : SendArgs)
  | step (call : CallId) (readings : Readings)
  | tick (doKeepalive : Bool) (now : Int)

def new (sender : RtpSender Payloader) : Channel Payloader where
  sender
  entry := .new
  spawned := 0
  calls := fun _ => .idle
  sent := []
  kept := 0
  stamps := fun _ => none

variable (payloader : Payloader → Nat → Bytes → List Bytes × Payloader)

/-- One step of a call, by one access to the shared fields; an audio frame is
numbered in one step, as audio comes from a single task. -/
def turn (sender : RtpSender Payloader) (readings : Readings) :
    SendStage → RtpSender Payloader × SendStage
  | .idle => (sender, .idle)
  | .testClosed args =>
      (sender, if sender.closed then .returned else .mediaEpoch args)
  | .mediaEpoch args =>
      match sender.mediaEpoch with
      | some _ => (sender, .senderReports args false)
      | none =>
          let epoch : MediaEpoch :=
            { instant := readings.epochInstant
              ntp := readings.epochNtp
              audioTs := (sender.tracks .audio).ts
              videoTs := (sender.tracks .video).ts }
          ({ sender with mediaEpoch := some epoch }, .senderReports args true)
  | .senderReports args justStarted =>
      (if justStarted then sender.emitRtcpSenderReports readings.reportNtp
        else sender, .stamp args)
  | .stamp args =>
      match RtpSender.trackOf args.payloadType with
      | .audio =>
          let numbered :=
            { sender with outgoing := [] }.sendAudio args.payloadType args.payload
              args.duration readings.packetNtp
          ({ numbered with outgoing := [] }, .transmit numbered.outgoing)
      | .video =>
          let track := sender.tracks .video
          ({ sender with
              tracks := Function.update sender.tracks .video
                { track with
                  ts := track.ts + RtpSender.tsInc .video args.duration
                  first := false } },
            .packetize args.payload track.ts readings.packetNtp)
  | .packetize payload ts ntp =>
      let (chunks, videoPayloader) :=
        payloader sender.videoPayloader RtpSender.maxVp8Payload payload
      ({ sender with videoPayloader },
        if chunks.isEmpty then .returned else .address chunks ts ntp)
  | .address chunks ts ntp =>
      (sender,
        if sender.udpSocket && sender.remoteAddr then .encrypt chunks ts ntp
        else .returned)
  | .encrypt chunks ts ntp =>
      if sender.srtpContext then
        let track := sender.tracks .video
        let (packets, seq) :=
          RtpSender.videoPackets ntp track.ssrc ts track.seq chunks
        ({ sender with
            tracks := Function.update sender.tracks .video { track with seq } },
          .transmit packets)
      else (sender, .returned)
  | .transmit packets =>
      ({ { sender with outgoing := packets }.transmit with outgoing := [] },
        match packets with
        | [] => .returned
        | _ :: rest => .transmit rest)
  | .returned => (sender, .returned)

/-- The packet that a step of the call sends. -/
def emitted : SendStage → Option RtpPacket
  | .transmit (packet :: _) => some packet
  | _ => none

def stampsVideo : SendStage → Bool
  | .stamp args => decide (RtpSender.trackOf args.payloadType = .video)
  | _ => false

def step (channel : Channel Payloader) (call : CallId) (readings : Readings) :
    Channel Payloader :=
  let stage := channel.calls call
  let (sender, after) := turn payloader channel.sender readings stage
  let moved :=
    { channel with
      sender
      calls := Function.update channel.calls call after
      sent := channel.sent ++ (emitted stage).toList.map fun packet =>
        (call, packet) }
  if stampsVideo stage then
    match call with
    | .keepalive _ => { moved with kept := channel.kept + 1 }
    | .media frame =>
        { moved with
          stamps := Function.update channel.stamps frame
            (some ((channel.sender.tracks .video).ts, channel.kept)) }
  else moved

def next (channel : Channel Payloader) : Action → Channel Payloader
  | .send call args =>
      if channel.calls (.media call) = .idle then
        { channel with
          calls := Function.update channel.calls (.media call) (.testClosed args) }
      else channel
  | .step call readings => channel.step payloader call readings
  | .tick doKeepalive now =>
      let (entry, spawned) := channel.entry.tick .connected
        (channel.sender.tracks .video).ssrc doKeepalive now
      let channel := { channel with entry }
      match spawned with
      | some .keepalive =>
          { channel with
            spawned := channel.spawned + 1
            calls := Function.update channel.calls (.keepalive channel.spawned)
              (.testClosed keepaliveArgs) }
      | _ => channel

/-! What of a step does not depend on the payloader, on the epoch or on what the
socket takes. -/

inductive Progress where
  | idle
  | before (steps : Nat) (args : SendArgs)
  | after
  deriving DecidableEq, Repr

def progress : SendStage → Progress
  | .idle => .idle
  | .testClosed args => .before 3 args
  | .mediaEpoch args => .before 2 args
  | .senderReports args _ => .before 1 args
  | .stamp args => .before 0 args
  | _ => .after

def Progress.next (closed : Bool) : Progress → Progress
  | .before (steps + 1) args =>
      if closed && steps = 2 then .after else .before steps args
  | .before 0 _ => .after
  | progress => progress

/-- What the step adds to the video timestamp. -/
def Progress.advance : Progress → Option UInt32
  | .before 0 args =>
      if RtpSender.trackOf args.payloadType = .video then
        some (RtpSender.tsInc .video args.duration)
      else none
  | _ => none

theorem closed_emit (sender : RtpSender Payloader) (ntp : UInt64) :
    (sender.emitRtcpSenderReports ntp).closed = sender.closed ∧
      (sender.emitRtcpSenderReports ntp).tracks = sender.tracks := by
  unfold RtpSender.emitRtcpSenderReports
  split <;> exact ⟨rfl, rfl⟩

theorem sendAudio_frame (sender : RtpSender Payloader) (payloadType : UInt8)
    (payload : Bytes) (duration : Duration) (ntp : UInt64) :
    (sender.sendAudio payloadType payload duration ntp).closed = sender.closed ∧
      (sender.sendAudio payloadType payload duration ntp).tracks .video =
        sender.tracks .video := by
  simp only [RtpSender.sendAudio]
  split <;> exact ⟨rfl, by simp [RtpSender.record]⟩

theorem transmit_frame (sender : RtpSender Payloader) :
    sender.transmit.closed = sender.closed ∧
      (sender.transmit.tracks .video).ts = (sender.tracks .video).ts := by
  unfold RtpSender.transmit
  split
  · exact ⟨rfl, rfl⟩
  · next packet rest _ =>
      refine ⟨rfl, ?_⟩
      by_cases hkind : RtpSender.trackOf packet.header.payloadType = .video
      · simp [hkind]
      · simp [Function.update_of_ne (Ne.symm hkind)]

theorem closed_turn (sender : RtpSender Payloader) (readings : Readings)
    (stage : SendStage) :
    (turn payloader sender readings stage).1.closed = sender.closed := by
  cases stage with
  | idle | testClosed _ | packetize _ _ _ | address _ _ _ | returned => rfl
  | mediaEpoch args =>
      simp only [turn]
      split <;> rfl
  | senderReports args justStarted =>
      cases justStarted
      · rfl
      · exact (closed_emit sender _).1
  | stamp args =>
      simp only [turn]
      split
      · exact (sendAudio_frame _ _ _ _ _).1
      · rfl
  | encrypt chunks ts ntp =>
      simp only [turn]
      split <;> rfl
  | transmit packets => exact (transmit_frame _).1

theorem progress_turn (sender : RtpSender Payloader) (readings : Readings)
    (stage : SendStage) :
    progress (turn payloader sender readings stage).2 =
      (progress stage).next sender.closed := by
  cases stage with
  | testClosed args => cases hclosed : sender.closed <;> simp [turn, progress,
      Progress.next, hclosed]
  | mediaEpoch args =>
      simp only [turn]
      split <;> simp [progress, Progress.next]
  | senderReports args justStarted => simp [turn, progress, Progress.next]
  | stamp args =>
      simp only [turn]
      split <;> rfl
  | packetize _ _ _ | address _ _ _ | encrypt _ _ _ | transmit _ =>
      simp only [turn]
      split <;> rfl
  | idle | returned => rfl

theorem ts_turn (sender : RtpSender Payloader) (readings : Readings)
    (stage : SendStage) :
    ((turn payloader sender readings stage).1.tracks .video).ts =
      (sender.tracks .video).ts + (progress stage).advance.getD 0 := by
  cases stage with
  | idle | testClosed _ | packetize _ _ _ | address _ _ _ | returned =>
      simp [turn, progress, Progress.advance]
  | mediaEpoch args =>
      simp only [turn]
      split <;> simp [progress, Progress.advance]
  | senderReports args justStarted =>
      cases justStarted
      · simp [turn, progress, Progress.advance]
      · simp [turn, progress, Progress.advance, closed_emit]
  | stamp args =>
      cases htrack : RtpSender.trackOf args.payloadType with
      | audio => simp [turn, progress, Progress.advance, htrack, sendAudio_frame]
      | video => simp [turn, progress, Progress.advance, htrack]
  | encrypt chunks ts ntp =>
      simp only [turn]
      split <;> simp [progress, Progress.advance]
  | transmit packets =>
      simp [turn, progress, Progress.advance, transmit_frame]

theorem stampsVideo_eq (stage : SendStage) :
    stampsVideo stage = (progress stage).advance.isSome := by
  cases stage with
  | stamp args =>
      by_cases htrack : RtpSender.trackOf args.payloadType = .video <;>
        simp [stampsVideo, progress, Progress.advance, htrack]
  | _ => rfl

@[simp] theorem sender_step (channel : Channel Payloader) (call : CallId)
    (readings : Readings) :
    (channel.step payloader call readings).sender =
      (turn payloader channel.sender readings (channel.calls call)).1 := by
  simp only [step]
  split
  · cases call <;> rfl
  · rfl

@[simp] theorem calls_step (channel : Channel Payloader) (call : CallId)
    (readings : Readings) :
    (channel.step payloader call readings).calls =
      Function.update channel.calls call
        (turn payloader channel.sender readings (channel.calls call)).2 := by
  simp only [step]
  split
  · cases call <;> rfl
  · rfl

@[simp] theorem sent_step (channel : Channel Payloader) (call : CallId)
    (readings : Readings) :
    (channel.step payloader call readings).sent =
      channel.sent ++ (emitted (channel.calls call)).toList.map fun packet =>
        (call, packet) := by
  simp only [step]
  split
  · cases call <;> rfl
  · rfl

theorem kept_step (channel : Channel Payloader) (call : CallId)
    (readings : Readings) :
    (channel.step payloader call readings).kept =
      match call with
      | .keepalive _ =>
          if stampsVideo (channel.calls call) then channel.kept + 1
          else channel.kept
      | .media _ => channel.kept := by
  simp only [step]
  split <;> cases call <;> simp_all

theorem stamps_step (channel : Channel Payloader) (call : CallId)
    (readings : Readings) :
    (channel.step payloader call readings).stamps =
      match call with
      | .keepalive _ => channel.stamps
      | .media frame =>
          if stampsVideo (channel.calls call) then
            Function.update channel.stamps frame
              (some ((channel.sender.tracks .video).ts, channel.kept))
          else channel.stamps := by
  simp only [step]
  split <;> cases call <;> simp_all

/-! The packets of a video frame carry the timestamp that it took. -/

def IsVideo (packet : RtpPacket) : Prop :=
  RtpSender.trackOf packet.header.payloadType = .video

def Carries (ts : UInt32) : SendStage → Prop
  | .packetize _ carried _ | .address _ carried _ | .encrypt _ carried _ =>
      carried = ts
  | .transmit packets => ∃ packet ∈ packets, IsVideo packet ∧
      packet.header.timestamp = ts
  | _ => False

theorem progress_of_carries {ts : UInt32} {stage : SendStage}
    (hcarries : Carries ts stage) : progress stage = .after := by
  cases stage <;> first | rfl | exact hcarries.elim

theorem carries_emitted {stage : SendStage} {packet : RtpPacket}
    (hemitted : emitted stage = some packet) (hvideo : IsVideo packet) :
    Carries packet.header.timestamp stage := by
  cases stage with
  | transmit packets =>
      cases packets with
      | nil => cases hemitted
      | cons first rest =>
          cases hemitted
          exact ⟨_, List.mem_cons_self, hvideo, rfl⟩
  | _ => cases hemitted

theorem not_carries_audio {sender : RtpSender Payloader} {args : SendArgs}
    (haudio : RtpSender.trackOf args.payloadType = .audio) (ntp : UInt64)
    (ts : UInt32) :
    ¬ Carries ts (.transmit ({ sender with outgoing := [] }.sendAudio
      args.payloadType args.payload args.duration ntp).outgoing) := by
  rintro ⟨packet, hmem, hvideo, _⟩
  simp only [RtpSender.sendAudio] at hmem
  split at hmem
  · rw [List.mem_singleton.mp hmem] at hvideo
    simp [IsVideo, RtpSender.audioPacket, haudio] at hvideo
  · cases hmem

theorem carries_turn {sender : RtpSender Payloader} {readings : Readings}
    {stage : SendStage} {ts : UInt32}
    (hcarries : Carries ts (turn payloader sender readings stage).2) :
    Carries ts stage ∨
      stampsVideo stage = true ∧ (sender.tracks .video).ts = ts := by
  cases stage with
  | idle | senderReports _ _ | returned => exact hcarries.elim
  | testClosed args | mediaEpoch args =>
      simp only [turn] at hcarries
      split at hcarries <;> exact hcarries.elim
  | stamp args =>
      simp only [turn] at hcarries
      split at hcarries
      next haudio => exact absurd hcarries (not_carries_audio haudio _ _)
      next hvideo => exact .inr ⟨by simp [stampsVideo, hvideo], hcarries⟩
  | packetize _ _ _ =>
      simp only [turn] at hcarries
      split at hcarries
      · exact hcarries.elim
      · exact .inl hcarries
  | address _ _ _ =>
      simp only [turn] at hcarries
      split at hcarries
      · exact .inl hcarries
      · exact hcarries.elim
  | encrypt chunks carried ntp =>
      simp only [turn] at hcarries
      split at hcarries
      · obtain ⟨packet, hmem, _, hts⟩ := hcarries
        have hpackets := RtpSender.nextPackets_video ntp
          { sender.tracks .video with ts := carried } chunks
        exact .inl ((hpackets.stamped packet hmem).symm.trans hts)
      · exact hcarries.elim
  | transmit packets =>
      cases packets with
      | nil => exact hcarries.elim
      | cons first rest =>
          obtain ⟨packet, hmem, hpacket⟩ := hcarries
          exact .inl ⟨packet, List.mem_cons_of_mem first hmem, hpacket⟩

structure Stamped (channel : Channel Payloader) : Prop where
  early : ∀ frame, progress (channel.calls (.media frame)) ≠ .after →
    channel.stamps frame = none
  carried : ∀ frame ts, Carries ts (channel.calls (.media frame)) →
    ∃ kept, channel.stamps frame = some (ts, kept)
  sent : ∀ frame packet, (.media frame, packet) ∈ channel.sent →
    IsVideo packet → ∃ kept,
      channel.stamps frame = some (packet.header.timestamp, kept)

theorem stamped_new (sender : RtpSender Payloader) : Stamped (new sender) where
  early := fun _ _ => rfl
  carried := fun _ _ hcarries => hcarries.elim
  sent := fun _ _ hmem => by cases hmem

/-- A stage that stamps is the last one before. -/
theorem progress_of_stampsVideo {stage : SendStage}
    (hstamps : stampsVideo stage = true) : progress stage ≠ .after := by
  cases stage <;> simp_all [stampsVideo, progress]

theorem after_of_next {progress : Progress} {closed : Bool}
    (hafter : progress = .after) : progress.next closed = .after := by
  rw [hafter]
  rfl

theorem emitted_of_stampsVideo {stage : SendStage}
    (hstamps : stampsVideo stage = true) : emitted stage = none := by
  cases stage <;> simp_all [stampsVideo, emitted]

theorem progress_stamped {sender : RtpSender Payloader} {readings : Readings}
    {stage : SendStage} (hstamps : stampsVideo stage = true) :
    progress (turn payloader sender readings stage).2 = .after := by
  rw [progress_turn]
  cases stage <;> simp_all [stampsVideo, progress, Progress.next]

/-- The step with which a media call stamps its frame, seen from this frame and
from another. -/
theorem Stamped.stepStamping {channel : Channel Payloader}
    (hstamped : Stamped channel) {call : Nat} (readings : Readings)
    (hstamps : stampsVideo (channel.calls (.media call)) = true) :
    Stamped (channel.step payloader (.media call) readings) := by
  obtain ⟨hearly, hcarried, hsent⟩ := hstamped
  have hbefore := progress_of_stampsVideo hstamps
  have hnone := hearly call hbefore
  refine ⟨?_, ?_, ?_⟩
  · intro frame hfirst
    by_cases hframe : frame = call
    · subst hframe
      simp [progress_stamped payloader hstamps] at hfirst
    · simpa [stamps_step, hstamps, hframe] using
        hearly frame (by simpa [hframe] using hfirst)
  · intro frame ts hcarries
    by_cases hframe : frame = call
    · subst hframe
      rcases carries_turn payloader (by simpa using hcarries) with
        hold | ⟨_, hts⟩
      · exact absurd (progress_of_carries hold) hbefore
      · exact ⟨channel.kept, by simp [stamps_step, hstamps, hts]⟩
    · simpa [stamps_step, hstamps, hframe] using
        hcarried frame ts (by simpa [hframe] using hcarries)
  · intro frame packet hmem hvideo
    have hmem : (CallId.media frame, packet) ∈ channel.sent := by
      simpa [emitted_of_stampsVideo hstamps] using hmem
    obtain ⟨kept, hkept⟩ := hsent frame packet hmem hvideo
    have hframe : frame ≠ call := by
      rintro rfl
      simp [hnone] at hkept
    exact ⟨kept, by simpa [stamps_step, hstamps, hframe] using hkept⟩

/-- Any other step of a media call leaves the stamps, and may emit a packet. -/
theorem Stamped.stepStill {channel : Channel Payloader}
    (hstamped : Stamped channel) {call : Nat} (readings : Readings)
    (hstamps : stampsVideo (channel.calls (.media call)) = false) :
    Stamped (channel.step payloader (.media call) readings) := by
  obtain ⟨hearly, hcarried, hsent⟩ := hstamped
  have hsame : (channel.step payloader (.media call) readings).stamps =
      channel.stamps := by
    simp [stamps_step, hstamps]
  refine ⟨?_, ?_, ?_⟩ <;> rw [hsame]
  · intro frame hfirst
    apply hearly
    by_cases hframe : frame = call
    · subst hframe
      intro hafter
      simp [progress_turn, after_of_next hafter] at hfirst
    · simpa [hframe] using hfirst
  · intro frame ts hcarries
    apply hcarried
    by_cases hframe : frame = call
    · subst hframe
      rcases carries_turn payloader (by simpa using hcarries) with
        hold | ⟨hstamping, _⟩
      · exact hold
      · simp [hstamps] at hstamping
    · simpa [hframe] using hcarries
  · intro frame packet hmem hvideo
    rw [sent_step] at hmem
    rcases List.mem_append.mp hmem with hold | hnew
    · exact hsent frame packet hold hvideo
    · obtain ⟨found, hfound, hpair⟩ := List.mem_map.mp hnew
      cases hpair
      exact hcarried call _
        (carries_emitted (Option.mem_toList.mp hfound) hvideo)

theorem Stamped.stepMedia {channel : Channel Payloader}
    (hstamped : Stamped channel) (call : Nat) (readings : Readings) :
    Stamped (channel.step payloader (.media call) readings) := by
  cases hstamps : stampsVideo (channel.calls (.media call)) with
  | true => exact hstamped.stepStamping payloader readings hstamps
  | false => exact hstamped.stepStill payloader readings hstamps

theorem Stamped.step {channel : Channel Payloader} (hstamped : Stamped channel)
    (call : CallId) (readings : Readings) :
    Stamped (channel.step payloader call readings) := by
  cases call with
  | keepalive call =>
      obtain ⟨hearly, hcarried, hsent⟩ := hstamped
      refine ⟨?_, ?_, ?_⟩
      · intro frame hfirst
        rw [stamps_step]
        exact hearly frame (by simpa using hfirst)
      · intro frame ts hcarries
        rw [stamps_step]
        exact hcarried frame ts (by simpa using hcarries)
      · intro frame packet hmem hvideo
        rw [stamps_step]
        exact hsent frame packet (by simpa using hmem) hvideo
  | media call => exact hstamped.stepMedia payloader call readings

theorem Stamped.next {channel : Channel Payloader} (hstamped : Stamped channel)
    (action : Action) : Stamped (channel.next payloader action) := by
  cases action with
  | step call readings => exact hstamped.step payloader call readings
  | send call args =>
      simp only [Channel.next]
      split
      next hidle =>
        obtain ⟨hearly, hcarried, hsent⟩ := hstamped
        refine ⟨?_, ?_, hsent⟩
        · intro frame hfirst
          apply hearly
          by_cases hframe : frame = call
          · simp [hframe, hidle, progress]
          · simpa [hframe] using hfirst
        · intro frame ts hcarries
          by_cases hframe : frame = call
          · simp [hframe, Carries] at hcarries
          · exact hcarried frame ts (by simpa [hframe] using hcarries)
      next => exact hstamped
  | tick doKeepalive now =>
      obtain ⟨hearly, hcarried, hsent⟩ := hstamped
      simp only [Channel.next]
      split
      · exact ⟨fun frame hfirst => hearly frame (by simpa using hfirst),
          fun frame ts hcarries => hcarried frame ts (by simpa using hcarries), hsent⟩
      · exact ⟨hearly, hcarried, hsent⟩

/-! A run against the same run without its ticks. -/

def mediaOnly : Action → Option Action
  | .tick _ _ | .step (.keepalive _) _ => none
  | action => some action

/-- The packets of a video frame carry the timestamp they carry without ticks. -/
def Undisturbed (ticked plain : Channel Payloader) : Prop :=
  ∀ frame packet other, (.media frame, packet) ∈ ticked.sent →
    (.media frame, other) ∈ plain.sent → IsVideo packet → IsVideo other →
    packet.header.timestamp = other.header.timestamp

def SentVideo (channel : Channel Payloader) (frame : Nat) : Prop :=
  ∃ packet, (.media frame, packet) ∈ channel.sent ∧ IsVideo packet

/-- Where a video frame took its timestamp, the keepalives before it had added a
multiple of the timestamp's range. -/
def Aligned (ticked plain : Channel Payloader) : Prop :=
  ∀ frame ts kept, ticked.stamps frame = some (ts, kept) →
    SentVideo ticked frame → SentVideo plain frame → 2 ^ 30 ∣ kept

/-- What that many keepalives add. -/
def drift (kept : Nat) : UInt32 := UInt32.ofNat (5940 * kept)

theorem drift_zero : drift 0 = 0 := rfl

theorem drift_succ (kept : Nat) : drift (kept + 1) = drift kept + 5940 := by
  simp [drift, Nat.mul_add, UInt32.ofNat_add]

theorem drift_eq_zero_iff (kept : Nat) : drift kept = 0 ↔ 2 ^ 30 ∣ kept := by
  have hzero : drift kept = 0 ↔ 2 ^ 32 ∣ 5940 * kept := by
    rw [drift, ← UInt32.toNat_inj, Nat.dvd_iff_mod_eq_zero]
    rfl
  have hfactor : 5940 * kept = 2 ^ 2 * (1485 * kept) := by omega
  have hcoprime : Nat.Coprime (2 ^ 30) 1485 := by decide
  rw [hzero, hfactor, show (2 ^ 32 : Nat) = 2 ^ 2 * 2 ^ 30 by decide,
    Nat.mul_dvd_mul_iff_left (by decide)]
  exact ⟨hcoprime.dvd_of_dvd_mul_left, fun hkept => hkept.mul_left 1485⟩

/-- The run with ticks is ahead of the other one by what its keepalives added. -/
structure Ahead (ticked plain : Channel Payloader) : Prop where
  closed : ticked.sender.closed = plain.sender.closed
  ts : (ticked.sender.tracks .video).ts =
    (plain.sender.tracks .video).ts + drift ticked.kept
  unkept : plain.kept = 0
  media : ∀ frame, progress (ticked.calls (.media frame)) =
    progress (plain.calls (.media frame))
  padding : ∀ call steps args,
    progress (ticked.calls (.keepalive call)) = .before steps args →
      args = keepaliveArgs
  stamps : ∀ frame, plain.stamps frame =
    (ticked.stamps frame).map fun stamp => (stamp.1 - drift stamp.2, 0)

theorem ahead_new (sender : RtpSender Payloader) :
    Ahead (new sender) (new sender) where
  closed := rfl
  ts := by simp [new, drift_zero]
  unkept := rfl
  media := fun _ => rfl
  padding := fun _ _ _ hbefore => by cases hbefore
  stamps := fun _ => rfl

theorem args_of_next {stage : Progress} {closed : Bool} {steps : Nat}
    {args : SendArgs} (hnext : stage.next closed = .before steps args) :
    stage = .before (steps + 1) args := by
  match stage with
  | .idle | .after | .before 0 _ => cases hnext
  | .before (left + 1) found =>
      simp only [Progress.next] at hnext
      split at hnext
      · cases hnext
      · cases hnext
        rfl

/-- A keepalive takes a timestamp and moves the next one on by its own length. -/
theorem ts_keepalive {ticked : Channel Payloader} {call : Nat}
    (hpadding : ∀ steps args,
      progress (ticked.calls (.keepalive call)) = .before steps args →
        args = keepaliveArgs) (readings : Readings) :
    ((ticked.step payloader (.keepalive call) readings).sender.tracks .video).ts +
        drift ticked.kept =
      (ticked.sender.tracks .video).ts +
        drift (ticked.step payloader (.keepalive call) readings).kept := by
  rw [kept_step, sender_step, ts_turn, stampsVideo_eq]
  cases hadvance : (progress (ticked.calls (.keepalive call))).advance with
  | none => simp
  | some increment =>
      have hincrement : increment = 5940 := by
        match hprogress : progress (ticked.calls (.keepalive call)) with
        | .idle | .after | .before (_ + 1) _ =>
            rw [hprogress] at hadvance
            cases hadvance
        | .before 0 args =>
            rw [hprogress, hpadding 0 args hprogress] at hadvance
            exact Option.some.inj hadvance.symm
      simp only [hincrement, Option.getD_some, Option.isSome_some, if_true,
        drift_succ]
      rw [UInt32.add_assoc, UInt32.add_comm 5940]

theorem Ahead.erased {ticked plain : Channel Payloader}
    (hahead : Ahead ticked plain) {action : Action}
    (herased : mediaOnly action = none) :
    Ahead (ticked.next payloader action) plain := by
  obtain ⟨hclosed, hts, hunkept, hmedia, hpadding, hstamps⟩ := hahead
  cases action with
  | send _ _ => cases herased
  | tick doKeepalive now =>
      simp only [Channel.next]
      split
      · refine ⟨hclosed, hts, hunkept, fun frame => by simpa using hmedia frame,
          ?_, hstamps⟩
        intro call steps args hbefore
        by_cases hcall : call = ticked.spawned
        · simp only [hcall, Function.update_self, progress,
            Progress.before.injEq] at hbefore
          exact hbefore.2.symm
        · exact hpadding call steps args (by simpa [hcall] using hbefore)
      · exact ⟨hclosed, hts, hunkept, hmedia, hpadding, hstamps⟩
  | step call readings =>
      cases call with
      | media _ => cases herased
      | keepalive call =>
          have hmoved := ts_keepalive payloader (hpadding call) readings
          refine ⟨?_, ?_, hunkept, ?_, ?_, ?_⟩
          · simp [Channel.next, closed_turn, hclosed]
          · rw [hts] at hmoved
            simp only [Channel.next]
            grind
          · intro frame
            simpa [Channel.next] using hmedia frame
          · intro other steps args hbefore
            by_cases hcall : other = call
            · subst hcall
              rw [Channel.next, calls_step, Function.update_self, progress_turn]
                at hbefore
              exact hpadding other _ args (args_of_next hbefore)
            · exact hpadding other steps args
                (by simpa [Channel.next, hcall] using hbefore)
          · intro frame
            simpa [Channel.next, stamps_step] using hstamps frame

theorem progress_eq_idle {stage : SendStage} :
    progress stage = .idle ↔ stage = .idle := by
  cases stage <;> simp [progress]

theorem Ahead.send {ticked plain : Channel Payloader} (hahead : Ahead ticked plain)
    (call : Nat) (args : SendArgs) :
    Ahead (ticked.next payloader (.send call args))
      (plain.next payloader (.send call args)) := by
  have hidle : ticked.calls (.media call) = .idle ↔
      plain.calls (.media call) = .idle := by
    rw [← progress_eq_idle, ← progress_eq_idle, hahead.media call]
  by_cases hplain : plain.calls (.media call) = .idle
  · simp only [Channel.next, hidle, hplain, if_true]
    refine ⟨hahead.closed, hahead.ts, hahead.unkept, ?_, ?_, hahead.stamps⟩
    · intro frame
      by_cases hframe : frame = call
      · simp [hframe]
      · simpa [hframe] using hahead.media frame
    · intro other steps found hbefore
      exact hahead.padding other steps found (by simpa using hbefore)
  · simp only [Channel.next, hidle, hplain, if_false]
    exact hahead

theorem Ahead.media_step {ticked plain : Channel Payloader}
    (hahead : Ahead ticked plain) (call : Nat) (readings : Readings) :
    Ahead (ticked.step payloader (.media call) readings)
      (plain.step payloader (.media call) readings) := by
  obtain ⟨hclosed, hts, hunkept, hmedia, hpadding, hstamps⟩ := hahead
  have hstage := hmedia call
  have hstamping : stampsVideo (ticked.calls (.media call)) =
      stampsVideo (plain.calls (.media call)) := by
    rw [stampsVideo_eq, stampsVideo_eq, hstage]
  refine ⟨?_, ?_, ?_, ?_, ?_, ?_⟩
  · simp [closed_turn, hclosed]
  · simp only [sender_step, ts_turn, hstage, hts, kept_step]
    rw [UInt32.add_assoc, UInt32.add_comm (drift ticked.kept), ← UInt32.add_assoc]
  · simpa [kept_step] using hunkept
  · intro frame
    by_cases hframe : frame = call
    · simp [hframe, progress_turn, hstage, hclosed]
    · simpa [hframe] using hmedia frame
  · intro other steps args hbefore
    exact hpadding other steps args (by simpa using hbefore)
  · intro frame
    simp only [stamps_step, hstamping]
    split
    · by_cases hframe : frame = call
      · subst hframe
        simp [hts, hunkept]
      · simpa [hframe] using hstamps frame
    · exact hstamps frame

theorem Ahead.kept {ticked plain : Channel Payloader} (hahead : Ahead ticked plain)
    {action action' : Action} (hkept : mediaOnly action = some action') :
    Ahead (ticked.next payloader action) (plain.next payloader action') := by
  cases action with
  | tick _ _ => cases hkept
  | send call args =>
      cases hkept
      exact hahead.send payloader call args
  | step call readings =>
      cases call with
      | keepalive _ => cases hkept
      | media call =>
          cases hkept
          exact hahead.media_step payloader call readings

theorem Ahead.packet {ticked plain : Channel Payloader}
    (hahead : Ahead ticked plain) (hticked : Stamped ticked)
    (hplain : Stamped plain) {frame kept : Nat} {ts : UInt32}
    (hstamp : ticked.stamps frame = some (ts, kept)) {packet other : RtpPacket}
    (hpacket : (.media frame, packet) ∈ ticked.sent) (hvideo : IsVideo packet)
    (hother : (.media frame, other) ∈ plain.sent) (hotherVideo : IsVideo other) :
    packet.header.timestamp = other.header.timestamp ↔ 2 ^ 30 ∣ kept := by
  obtain ⟨_, hfirst⟩ := hticked.sent frame packet hpacket hvideo
  obtain ⟨_, hsecond⟩ := hplain.sent frame other hother hotherVideo
  have hrelated := hahead.stamps frame
  rw [hstamp] at hfirst hrelated
  rw [hsecond] at hrelated
  simp only [Option.some.injEq, Prod.mk.injEq, Option.map_some] at hfirst hrelated
  rw [← hfirst.1, hrelated.1, ← drift_eq_zero_iff]
  grind

/-- Video timestamps are those of the run without ticks exactly where the
keepalives sent before the frame have added up to a full turn. -/
theorem undisturbed_iff (sender : RtpSender Payloader) (actions : List Action) :
    Undisturbed (after (next payloader) (new sender) actions)
        (after (next payloader) (new sender) (actions.filterMap mediaOnly)) ↔
      Aligned (after (next payloader) (new sender) actions)
        (after (next payloader) (new sender) (actions.filterMap mediaOnly)) := by
  have herased (ticked plain : Channel Payloader) (action : Action)
      (hahead : Ahead ticked plain) (herased : mediaOnly action = none) :
      Ahead (ticked.next payloader action) plain :=
    hahead.erased payloader herased
  have hkept (ticked plain : Channel Payloader) (action action' : Action)
      (hahead : Ahead ticked plain) (hkept : mediaOnly action = some action') :
      Ahead (ticked.next payloader action) (plain.next payloader action') :=
    hahead.kept payloader hkept
  have hahead := related_after mediaOnly herased hkept (ahead_new sender) actions
  have hstamped (actions : List Action) :
      Stamped (after (next payloader) (new sender) actions) := by
    have halong : Along (next payloader) (fun _ _ => True) (new sender) actions :=
      along_true
    exact halong.invariant (fun channel action hstamped _ =>
      hstamped.next payloader action) (stamped_new sender)
  have hticked := hstamped actions
  have hplain := hstamped (actions.filterMap mediaOnly)
  constructor
  · rintro hundisturbed frame ts kept hstamp ⟨packet, hpacket, hvideo⟩
      ⟨other, hother, hotherVideo⟩
    exact (hahead.packet hticked hplain hstamp hpacket hvideo hother
      hotherVideo).mp
        (hundisturbed frame packet other hpacket hother hvideo hotherVideo)
  · intro haligned frame packet other hpacket hother hvideo hotherVideo
    obtain ⟨kept, hstamp⟩ := hticked.sent frame packet hpacket hvideo
    exact (hahead.packet hticked hplain hstamp hpacket hvideo hother
      hotherVideo).mpr
        (haligned frame _ kept hstamp ⟨packet, hpacket, hvideo⟩
          ⟨other, hother, hotherVideo⟩)

def sendAll (call : CallId) (steps : Nat) : List Action :=
  List.replicate steps (.step call ⟨0, 0, 0, 0⟩)

def videoFrame : SendArgs where
  payloadType := vp8PayloadType
  payload := [1, 2, 3]
  duration := Duration.fromMillis 40

def keepaliveFirst : List Action :=
  .tick true 1000000000 :: sendAll (.keepalive 0) 10 ++ [.send 0 videoFrame] ++
    sendAll (.media 0) 10

/-- One keepalive before the first frame moves the frame by its 66 ms. -/
theorem keepalive_disturbs :
    ¬ Undisturbed
      (after (next RtpSender.twoByteChunks) (new RtpSender.connectedSender)
        keepaliveFirst)
      (after (next RtpSender.twoByteChunks) (new RtpSender.connectedSender)
        (keepaliveFirst.filterMap mediaOnly)) := by
  intro hundisturbed
  have hall : ∀ first ∈ (after (next RtpSender.twoByteChunks)
        (new RtpSender.connectedSender) keepaliveFirst).sent,
      ∀ second ∈ (after (next RtpSender.twoByteChunks)
        (new RtpSender.connectedSender) (keepaliveFirst.filterMap mediaOnly)).sent,
      first.1 = .media 0 → second.1 = .media 0 →
        RtpSender.trackOf first.2.header.payloadType = .video →
        RtpSender.trackOf second.2.header.payloadType = .video →
        first.2.header.timestamp = second.2.header.timestamp := by
    rintro ⟨_, packet⟩ hpacket ⟨_, other⟩ hother rfl rfl hvideo hotherVideo
    exact hundisturbed 0 packet other hpacket hother hvideo hotherVideo
  exact absurd hall (by decide +kernel)

end Channel

end RustTgCalls.Wrtc
