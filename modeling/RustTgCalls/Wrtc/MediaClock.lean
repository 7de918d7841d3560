import RustTgCalls.Library.Counter
import RustTgCalls.Media.IvfDemux
import RustTgCalls.Media.OggDemux
import RustTgCalls.Wrtc.RtpSender
import Mathlib

namespace RustTgCalls.Wrtc

open Transition Pull Media

namespace RtpSender

variable {Payloader : Type _} {payloader : Payloader → Nat → Bytes → List Bytes × Payloader}

/-! The timestamps that the frames of a run get. -/

/-- The samples that the calls of a run hand in for one track. -/
def handedIn (kind : StreamType) (actions : List Action) : List Sample :=
  actions.filterMap fun
    | .sendRtpBytes payloadType payload duration _ =>
        if trackOf payloadType = kind then some ⟨payload, duration⟩ else none
    | .transmit => none

section Payloader

variable (payloader : Payloader → Nat → Bytes → List Bytes × Payloader)

/-- What `fetch_add` answers in each call for the track. -/
def timestamps (kind : StreamType) :
    RtpSender Payloader → List Action → List UInt32
  | _, [] => []
  | sender, .transmit :: rest => timestamps kind (sender.next payloader .transmit) rest
  | sender, .sendRtpBytes payloadType payload duration readings :: rest =>
      let left := timestamps kind
        (sender.next payloader (.sendRtpBytes payloadType payload duration readings)) rest
      if trackOf payloadType = kind then (sender.tracks kind).ts :: left else left

end Payloader

/-- The values of a counter that is moved by each sample in turn. -/
def stampsFrom (kind : StreamType) : UInt32 → List Sample → List UInt32
  | _, [] => []
  | ts, sample :: rest => ts :: stampsFrom kind (ts + tsInc kind sample.duration) rest

/-- One frame for each sample; all its packets carry the timestamp that the
samples before it lead to, and an audio frame is a single packet. -/
inductive Made (kind : StreamType) : UInt32 → List Sample → List RtpFrame → Prop
  | nil (ts : UInt32) : Made kind ts [] []
  | cons {ts : UInt32} {sample : Sample} {samples : List Sample} {frames : List RtpFrame}
      {packets : List RtpPacket}
      (stamped : ∀ packet ∈ packets, packet.header.timestamp = ts)
      (single : kind = .audio →
        ∃ packet : RtpPacket, packets = [packet] ∧ packet.payload = sample.data)
      (rest : Made kind (ts + tsInc kind sample.duration) samples frames) :
      Made kind ts (sample :: samples) (⟨tsInc kind sample.duration, packets⟩ :: frames)

theorem stampsFrom_getElem {kind : StreamType} {ts : UInt32} {samples : List Sample}
    {k : Nat} (hk : k < samples.length) :
    (stampsFrom kind ts samples)[k]? =
      some (ts + ((samples.take k).map fun sample => tsInc kind sample.duration).sum) := by
  induction samples generalizing ts k with
  | nil => simp at hk
  | cons sample rest ih =>
      cases k with
      | zero => simp [stampsFrom]
      | succ k =>
          have hrest : k < rest.length := by simpa using hk
          simp only [stampsFrom, List.getElem?_cons_succ, ih hrest, List.take_succ_cons,
            List.map_cons, List.sum_cons]
          rw [UInt32.add_assoc]

theorem Made.length {kind : StreamType} {ts : UInt32} {samples : List Sample}
    {frames : List RtpFrame} (hmade : Made kind ts samples frames) :
    frames.length = samples.length := by
  induction hmade with
  | nil => rfl
  | cons _ _ _ ih => simp [ih]

theorem Made.frame {kind : StreamType} {ts : UInt32} {samples : List Sample}
    {frames : List RtpFrame} (hmade : Made kind ts samples frames) {k : Nat} {sample : Sample}
    (hsample : samples[k]? = some sample) :
    ∃ packets, frames[k]? = some ⟨tsInc kind sample.duration, packets⟩ ∧
      (∀ packet ∈ packets,
        (stampsFrom kind ts samples)[k]? = some packet.header.timestamp) ∧
      (kind = .audio →
        ∃ packet : RtpPacket, packets = [packet] ∧ packet.payload = sample.data) := by
  induction hmade generalizing k with
  | nil ts => simp at hsample
  | @cons ts head samples frames packets hstamped hsingle _ ih =>
      cases k with
      | zero =>
          obtain rfl := Option.some.inj hsample
          refine ⟨packets, rfl, fun packet hpacket => ?_, hsingle⟩
          rw [hstamped packet hpacket]
          rfl
      | succ k => exact ih hsample

/-! One call, and one transmission. -/

/-- What a call does to the track it is for. -/
structure Handed (kind : StreamType) (sender moved : RtpSender Payloader)
    (sample : Sample) : Prop where
  ts : (moved.tracks kind).ts = (sender.tracks kind).ts + tsInc kind sample.duration
  frame : ∃ packets,
    moved.frames kind = sender.frames kind ++ [⟨tsInc kind sample.duration, packets⟩] ∧
      (∀ packet ∈ packets, packet.header.timestamp = (sender.tracks kind).ts) ∧
      (kind = .audio → ∃ packet : RtpPacket, packets = [packet] ∧ packet.payload = sample.data)

/-- The track stands where it stood. -/
structure Kept (kind : StreamType) (sender moved : RtpSender Payloader) : Prop where
  ts : (moved.tracks kind).ts = (sender.tracks kind).ts
  frames : moved.frames kind = sender.frames kind

theorem videoPackets_timestamp (ntp : UInt64) (ssrc timestamp : UInt32) (seq : UInt16)
    (chunks : List Bytes) :
    ∀ packet ∈ (videoPackets ntp ssrc timestamp seq chunks).1,
      packet.header.timestamp = timestamp := by
  induction chunks generalizing seq with
  | nil => simp [videoPackets]
  | cons chunk rest ih =>
      intro packet hpacket
      simp only [videoPackets, List.mem_cons] at hpacket
      obtain rfl | hrest := hpacket
      · rfl
      · exact ih (seq + 1) packet hrest

theorem establishEpoch_tracks (sender : RtpSender Payloader) (readings : Readings) :
    (sender.establishEpoch readings).tracks = sender.tracks := by
  unfold establishEpoch emitRtcpSenderReports
  split
  · rfl
  · dsimp only
    split <;> rfl

theorem handed_sendAudio (sender : RtpSender Payloader) (payloadType : UInt8)
    (payload : Bytes) (duration : Duration) (ntp : UInt64) :
    Handed .audio sender (sender.sendAudio payloadType payload duration ntp)
        ⟨payload, duration⟩ ∧
      Kept .video sender (sender.sendAudio payloadType payload duration ntp) := by
  unfold sendAudio
  refine ⟨⟨?_, [audioPacket payloadType payload ntp (sender.tracks .audio)], ?_, ?_, ?_⟩,
    ?_, ?_⟩
  · dsimp only
    split <;> simp [record]
  · dsimp only
    split <;> simp [record]
  · intro packet hpacket
    rw [List.mem_singleton.mp hpacket]
    rfl
  · exact fun _ => ⟨_, rfl, rfl⟩
  · dsimp only
    split <;> simp [record]
  · dsimp only
    split <;> simp [record]

theorem handed_sendVideo (sender : RtpSender Payloader) (payload : Bytes)
    (duration : Duration) (ntp : UInt64) :
    Handed .video sender (sender.sendVideo payloader payload duration ntp)
        ⟨payload, duration⟩ ∧
      Kept .audio sender (sender.sendVideo payloader payload duration ntp) := by
  have hstamped := videoPackets_timestamp ntp (sender.tracks .video).ssrc
    (sender.tracks .video).ts (sender.tracks .video).seq
    (payloader sender.videoPayloader maxVp8Payload payload).1
  simp only [sendVideo]
  split
  · refine ⟨⟨?_, [], ?_, ?_, ?_⟩, ?_, ?_⟩ <;> simp [record]
  · refine ⟨⟨?_, _, ?_, hstamped, ?_⟩, ?_, ?_⟩ <;> simp [record]

theorem Handed.congr {kind : StreamType} {sender before moved : RtpSender Payloader}
    {sample : Sample} (hhanded : Handed kind sender moved sample)
    (htracks : sender.tracks = before.tracks) (hframes : sender.frames = before.frames) :
    Handed kind before moved sample := by
  obtain ⟨hts, hframe⟩ := hhanded
  rw [htracks] at hts hframe
  rw [hframes] at hframe
  exact ⟨hts, hframe⟩

theorem Kept.congr {kind : StreamType} {sender before moved : RtpSender Payloader}
    (hkept : Kept kind sender moved) (htracks : sender.tracks = before.tracks)
    (hframes : sender.frames = before.frames) : Kept kind before moved := by
  obtain ⟨hts, hkept⟩ := hkept
  rw [htracks] at hts
  rw [hframes] at hkept
  exact ⟨hts, hkept⟩

theorem handed_call {sender : RtpSender Payloader} (hopen : sender.closed = false)
    {kind : StreamType} {payloadType : UInt8} (hkind : trackOf payloadType = kind)
    (payload : Bytes) (duration : Duration) (readings : Readings) :
    Handed kind sender
      (sender.sendRtpBytes payloader payloadType payload duration readings)
      ⟨payload, duration⟩ := by
  have htracks := sender.establishEpoch_tracks readings
  have hframes := (sender.establishEpoch_frame readings).2.2.2
  subst hkind
  simp only [sendRtpBytes, hopen, Bool.false_eq_true, if_false]
  split
  next haudio =>
    rw [haudio]
    exact (handed_sendAudio _ payloadType payload duration _).1.congr htracks hframes
  next hvideo =>
    rw [hvideo]
    exact (handed_sendVideo _ payload duration _).1.congr htracks hframes

theorem kept_call {sender : RtpSender Payloader} (hopen : sender.closed = false)
    {kind : StreamType} {payloadType : UInt8} (hkind : trackOf payloadType ≠ kind)
    (payload : Bytes) (duration : Duration) (readings : Readings) :
    Kept kind sender
      (sender.sendRtpBytes payloader payloadType payload duration readings) := by
  have htracks := sender.establishEpoch_tracks readings
  have hframes := (sender.establishEpoch_frame readings).2.2.2
  simp only [sendRtpBytes, hopen, Bool.false_eq_true, if_false]
  split
  next haudio =>
    cases kind with
    | audio => exact absurd haudio hkind
    | video => exact (handed_sendAudio _ payloadType payload duration _).2.congr htracks hframes
  next hvideo =>
    cases kind with
    | audio => exact (handed_sendVideo _ payload duration _).2.congr htracks hframes
    | video => exact absurd hvideo hkind

theorem kept_transmit (kind : StreamType) (sender : RtpSender Payloader) :
    Kept kind sender sender.transmit := by
  refine ⟨?_, by rw [frames_transmit]⟩
  unfold transmit
  split
  next => rfl
  next packet rest _ =>
    by_cases hkind : kind = trackOf packet.header.payloadType
    · subst hkind
      simp
    · simp [Function.update_of_ne hkind]

theorem closed_call (sender : RtpSender Payloader) (payloadType : UInt8)
    (payload : Bytes) (duration : Duration) (readings : Readings) :
    (sender.sendRtpBytes payloader payloadType payload duration readings).closed =
      sender.closed := by
  have hclosed := (sender.establishEpoch_frame readings).2.1
  unfold sendRtpBytes
  split
  · rfl
  · dsimp only
    split
    · unfold sendAudio
      dsimp only
      split <;> exact hclosed
    · simp only [sendVideo]
      split <;> exact hclosed

theorem closed_transmit (sender : RtpSender Payloader) :
    sender.transmit.closed = sender.closed := by
  unfold transmit
  split <;> rfl

/-! A run hands its samples in one after the other. -/

theorem next_call {sender : RtpSender Payloader} (hidle : sender.outgoing = [])
    (payloadType : UInt8) (payload : Bytes) (duration : Duration) (readings : Readings) :
    sender.next payloader (.sendRtpBytes payloadType payload duration readings) =
      sender.sendRtpBytes payloader payloadType payload duration readings := by
  simp [next, hidle]

theorem made_after {sender : RtpSender Payloader} {actions : List Action}
    (hopen : sender.closed = false)
    (hsequential : Along (next payloader) Sequential sender actions) (kind : StreamType) :
    timestamps payloader kind sender actions =
        stampsFrom kind (sender.tracks kind).ts (handedIn kind actions) ∧
      ∃ frames, (after (next payloader) sender actions).frames kind =
          sender.frames kind ++ frames ∧
        Made kind (sender.tracks kind).ts (handedIn kind actions) frames := by
  induction actions generalizing sender with
  | nil => exact ⟨rfl, [], by simp, .nil _⟩
  | cons action rest ih =>
      cases action with
      | transmit =>
          have hkept := kept_transmit kind sender
          obtain ⟨hstamps, frames, hframes, hmade⟩ :=
            ih ((closed_transmit sender).trans hopen) hsequential.2
          rw [hkept.ts] at hstamps hmade
          rw [hkept.frames] at hframes
          exact ⟨hstamps, frames, hframes, hmade⟩
      | sendRtpBytes payloadType payload duration readings =>
          have hidle : sender.outgoing = [] := hsequential.1
          have hnext := @next_call _ payloader _ hidle payloadType payload duration readings
          have hclosed := (@closed_call _ payloader sender payloadType payload duration
            readings).trans hopen
          have hrest := hsequential.2
          rw [hnext] at hrest
          obtain ⟨hstamps, frames, hframes, hmade⟩ := ih hclosed hrest
          simp only [timestamps, after_cons, hnext]
          by_cases hkind : trackOf payloadType = kind
          · have hsamples : handedIn kind
                (.sendRtpBytes payloadType payload duration readings :: rest) =
                ⟨payload, duration⟩ :: handedIn kind rest := by
              simp [handedIn, hkind]
            obtain ⟨hts, packets, hframe, hstamped, hsingle⟩ :=
              @handed_call _ payloader _ hopen _ _ hkind payload duration readings
            rw [hts] at hstamps hmade
            rw [hframe] at hframes
            rw [if_pos hkind, hsamples, hstamps, hframes, List.append_assoc]
            exact ⟨rfl, _, rfl, .cons hstamped hsingle hmade⟩
          · have hsamples : handedIn kind
                (.sendRtpBytes payloadType payload duration readings :: rest) =
                handedIn kind rest := by
              simp [handedIn, hkind]
            have hkept := @kept_call _ payloader _ hopen _ _ hkind payload duration readings
            rw [hkept.ts] at hstamps hmade
            rw [hkept.frames] at hframes
            rw [if_neg hkind, hsamples]
            exact ⟨hstamps, frames, hframes, hmade⟩

/-! The audio clock counts samples. -/

/-- Samples at 48 kHz in one frame of the configuration: SILK, hybrid and CELT. -/
def frameSize (config : Nat) : Nat :=
  if config < 12 then [480, 960, 1920, 2880].getD (config % 4) 0
  else if config < 16 then [480, 960].getD (config % 2) 0
  else [120, 240, 480, 960].getD (config % 4) 0

/-- The M of a code 3 packet stands in the byte after the TOC byte. -/
def frameCount (code : Nat) (body : Bytes) : Nat :=
  match code with
  | 0 => 1
  | 1 | 2 => 2
  | _ => body.head?.elim 0 fun frames => frames.toNat % 64

def sampleCount : Bytes → Nat
  | [] => 0
  | toc :: body => frameSize (toc.toNat / 8) * frameCount (toc.toNat % 4) body

/-- What RFC 6716 asks of the bytes that give a packet its duration: there is a
TOC byte, and a code 3 packet says that it has at least one frame. -/
def Conformant : Bytes → Prop
  | [] => False
  | toc :: body => 0 < frameCount (toc.toNat % 4) body

instance : DecidablePred Conformant
  | [] => .isFalse id
  | _ :: _ => inferInstanceAs (Decidable (0 < _))

theorem tocByte (toc : UInt8) :
    ((toc >>> 3) &&& 0x1F).toNat = toc.toNat / 8 ∧
      (toc &&& 0x03).toNat = toc.toNat % 4 ∧ (toc &&& 0x3F).toNat = toc.toNat % 64 := by
  have hall : ∀ value : Fin 256,
      ((UInt8.ofFin value >>> 3) &&& 0x1F).toNat = (UInt8.ofFin value).toNat / 8 ∧
      (UInt8.ofFin value &&& 0x03).toNat = (UInt8.ofFin value).toNat % 4 ∧
      (UInt8.ofFin value &&& 0x3F).toNat = (UInt8.ofFin value).toNat % 64 := by
    decide +kernel
  exact hall toc.toFin

theorem frameSize_mod (config : Nat) : frameSize config % 120 = 0 := by
  have hfour : config % 4 < 4 := Nat.mod_lt _ (by decide)
  have htwo : config % 2 < 2 := Nat.mod_lt _ (by decide)
  unfold frameSize
  split
  · interval_cases config % 4 <;> rfl
  · split
    · interval_cases config % 2 <;> rfl
    · interval_cases config % 4 <;> rfl

/-- 120 samples last a whole number of nanoseconds, and every packet is made of
frames of that many. -/
theorem sampleCount_mod (packet : Bytes) : sampleCount packet % 120 = 0 := by
  cases packet with
  | nil => rfl
  | cons toc body =>
      rw [sampleCount, Nat.mul_mod, frameSize_mod]
      simp

theorem duration_conformant {packet : Bytes} (hconformant : Conformant packet) :
    parseOpusPacketDuration packet = sampleCount packet * 1000000000 / 48000 := by
  cases packet with
  | nil => exact hconformant.elim
  | cons toc body =>
      obtain ⟨hconfig, hcode, _⟩ := tocByte toc
      unfold parseOpusPacketDuration
      dsimp -zeta only
      extract_lets config base count
      have hbase : base = frameSize (toc.toNat / 8) := by
        have hlt : toc.toNat / 8 < 32 := by
          have hbyte := toc.toNat_lt
          omega
        simp only [base, config, hconfig]
        generalize toc.toNat / 8 = size at hlt
        interval_cases size <;> rfl
      have hcount : count = frameCount (toc.toNat % 4) body := by
        have hlt : toc.toNat % 4 < 4 := Nat.mod_lt _ (by decide)
        simp only [Conformant] at hconformant
        simp only [count, hcode]
        generalize toc.toNat % 4 = code at hlt hconformant
        interval_cases code
        · rfl
        · rfl
        · rfl
        · cases body with
          | nil => simp [frameCount] at hconformant
          | cons frames rest =>
              have hmask := (tocByte frames).2.2
              have hpositive : 0 < frames.toNat % 64 := hconformant
              simp [frameCount, hmask, hpositive]
      rw [hbase, hcount, sampleCount, Duration.fromNanos]

/-- Neither conversion loses anything. -/
theorem tsInc_conformant {packet : Bytes} (hconformant : Conformant packet) :
    parseOpusPacketDuration packet * 48000 = sampleCount packet * 1000000000 ∧
      tsInc .audio (parseOpusPacketDuration packet) = UInt32.ofNat (sampleCount packet) := by
  have hmod := sampleCount_mod packet
  rw [duration_conformant hconformant]
  have hexact : sampleCount packet * 1000000000 / 48000 * 48000 =
      sampleCount packet * 1000000000 := by
    omega
  refine ⟨hexact, ?_⟩
  rw [tsInc, hexact, Nat.mul_div_cancel _ (by decide)]

theorem sum_tsInc_conformant {samples : List Sample}
    (hduration : ∀ sample ∈ samples, sample.duration = parseOpusPacketDuration sample.data)
    (hconformant : ∀ sample ∈ samples, Conformant sample.data) :
    (samples.map fun sample => tsInc .audio sample.duration).sum =
      UInt32.ofNat (samples.map fun sample => sampleCount sample.data).sum := by
  induction samples with
  | nil => rfl
  | cons sample rest ih =>
      have hrest := ih (fun other hother => hduration other (.tail _ hother))
        (fun other hother => hconformant other (.tail _ hother))
      have hhead := (tsInc_conformant (hconformant sample (.head _))).2
      rw [List.map_cons, List.sum_cons, hrest, hduration sample (.head _), hhead,
        List.map_cons, List.sum_cons, UInt32.ofNat_add]

/-- Samples at 48 kHz in the packets before the k-th one. -/
def samplesBefore (samples : List Sample) (k : Nat) : Nat :=
  ((samples.take k).map fun sample => sampleCount sample.data).sum

theorem stamp_conformant {samples : List Sample}
    (hduration : ∀ sample ∈ samples, sample.duration = parseOpusPacketDuration sample.data)
    (hconformant : ∀ sample ∈ samples, Conformant sample.data) {k : Nat}
    (hk : k < samples.length) (ts : UInt32) :
    (stampsFrom .audio ts samples)[k]? =
      some (ts + UInt32.ofNat (samplesBefore samples k)) := by
  rw [stampsFrom_getElem hk, samplesBefore, sum_tsInc_conformant]
  · exact fun sample hsample => hduration sample (List.mem_of_mem_take hsample)
  · exact fun sample hsample => hconformant sample (List.mem_of_mem_take hsample)

/-- Every packet of an audio stream is a frame of its own. -/
theorem Made.flatMap {ts : UInt32} {samples : List Sample} {frames : List RtpFrame}
    (hmade : Made .audio ts samples frames) {k : Nat} {packet : RtpPacket}
    (hpacket : (frames.flatMap RtpFrame.packets)[k]? = some packet) :
    ∃ sample, samples[k]? = some sample ∧ packet.payload = sample.data ∧
      (stampsFrom .audio ts samples)[k]? = some packet.header.timestamp := by
  induction hmade generalizing k with
  | nil => simp at hpacket
  | @cons ts sample samples frames packets hstamped hsingle _ ih =>
      obtain ⟨single, rfl, hpayload⟩ := hsingle rfl
      cases k with
      | zero =>
          have hsame : single = packet := by simpa using hpacket
          subst hsame
          refine ⟨sample, rfl, hpayload, ?_⟩
          rw [hstamped single (.head _)]
          rfl
      | succ k => exact ih (by simpa using hpacket)

/-- The packets made of the samples, and those that left a transport which had
sent nothing before, are stamped with the number of samples before them. -/
structure ClockedBySamples (sender final : RtpSender Payloader) (samples : List Sample) :
    Prop where
  lossless : ∀ sample ∈ samples,
    sample.duration * 48000 = sampleCount sample.data * 1000000000 ∧
      sample.duration * 48000 / 1000000000 = sampleCount sample.data
  made : ∀ k (hk : k < samples.length), ∃ increment packet,
    (final.frames .audio)[(sender.frames .audio).length + k]? =
        some ⟨increment, [packet]⟩ ∧
      packet.payload = samples[k].data ∧
      packet.header.timestamp.toNat =
        ((sender.tracks .audio).ts.toNat + samplesBefore samples k) % 2 ^ 32
  sent : Fresh sender → ∀ k packet, (transmitted .audio final.wire)[k]? = some packet →
    (samples[k]?).map Sample.data = some packet.payload ∧
      packet.header.timestamp.toNat =
        ((sender.tracks .audio).ts.toNat + samplesBefore samples k) % 2 ^ 32

theorem audioClock_samples
    (payloader : Payloader → Nat → Bytes → List Bytes × Payloader)
    (sender : RtpSender Payloader) (hopen : sender.closed = false)
    (reader left : OpusFrameReader) (samples : List Sample)
    (hread : Gives OpusFrameReader.nextSample reader samples left)
    (hconformant : ∀ sample ∈ samples, Conformant sample.data) (actions : List Action)
    (hsequential : Along (next payloader) Sequential sender actions)
    (hpassed : handedIn .audio actions = samples) :
    ClockedBySamples sender (after (next payloader) sender actions) samples := by
  have hduration : ∀ sample ∈ samples,
      sample.duration = parseOpusPacketDuration sample.data :=
    hread.forall fun _ _ _ hnext => OpusFrameReader.nextSample_duration hnext
  obtain ⟨_, frames, hframes, hmade⟩ := @made_after _ payloader _ _ hopen hsequential .audio
  rw [hpassed] at hmade
  have hstamp (k : Nat) (timestamp : UInt32) (hk : k < samples.length)
      (hat : (stampsFrom .audio (sender.tracks .audio).ts samples)[k]? = some timestamp) :
      timestamp.toNat =
        ((sender.tracks .audio).ts.toNat + samplesBefore samples k) % 2 ^ 32 := by
    rw [stamp_conformant hduration hconformant hk] at hat
    rw [← Option.some.inj hat, UInt32.toNat_add, UInt32.toNat_ofNat', Nat.add_mod_mod]
  refine ⟨fun sample hsample => ?_, fun k hk => ?_, fun hfresh k packet hpacket => ?_⟩
  · have hexact := (tsInc_conformant (hconformant sample hsample)).1
    rw [← hduration sample hsample] at hexact
    exact ⟨hexact, by rw [hexact, Nat.mul_div_cancel _ (by decide)]⟩
  · obtain ⟨packets, hframe, hstamped, hsingle⟩ :=
      hmade.frame (List.getElem?_eq_getElem hk)
    obtain ⟨packet, rfl, hpayload⟩ := hsingle rfl
    refine ⟨tsInc .audio samples[k].duration, packet, ?_, hpayload,
      hstamp k _ hk (hstamped packet (.head _))⟩
    rw [hframes, List.getElem?_append_right (Nat.le_add_right _ _), Nat.add_sub_cancel_left,
      hframe]
  · have hlaw := (always_streamLaw payloader sender hfresh actions).1.after
    have hsent := (hlaw .audio).sent
    rw [hframes, hfresh.uncalled .audio, List.nil_append] at hsent
    have hat : (frames.flatMap RtpFrame.packets)[k]? = some packet := by
      obtain ⟨hlength, _⟩ := List.getElem?_eq_some_iff.mp hpacket
      rw [← hsent, List.getElem?_append_left hlength]
      exact hpacket
    obtain ⟨sample, hsample, hpayload, hstamped⟩ := hmade.flatMap hat
    obtain ⟨hk, _⟩ := List.getElem?_eq_some_iff.mp hsample
    exact ⟨by rw [hsample, Option.map_some, hpayload], hstamp k _ hk hstamped⟩

/-- Hybrid at 20 ms, SILK at 60 ms twice, CELT at 2.5 ms three times. -/
def queuedReader : OpusFrameReader :=
  { OpusFrameReader.new [] with
    skippedHeader := true
    skippedTags := true
    queue := [[0x78, 5], [0x19, 6, 7], [0xE3, 0x83, 8]] }

def audioCalls : List Action :=
  let readings : Readings := ⟨0, 0, 0, 0⟩
  [.sendRtpBytes 111 [0x78, 5] 20000000 readings, .transmit,
    .sendRtpBytes 100 [4, 5, 6] 40000000 readings, .transmit, .transmit,
    .sendRtpBytes 111 [0x19, 6, 7] 120000000 readings, .transmit,
    .sendRtpBytes 111 [0xE3, 0x83, 8] 7500000 readings]

theorem audioClock_queued :
    ClockedBySamples connectedSender (after (next twoByteChunks) connectedSender audioCalls)
      (queuedReader.queue.map OpusFrameReader.sampleOf) := by
  have hread : Gives OpusFrameReader.nextSample queuedReader
      (queuedReader.queue.map OpusFrameReader.sampleOf) { queuedReader with queue := [] } :=
    .item (OpusFrameReader.nextSample_queue _ _ _ rfl)
      (.item (OpusFrameReader.nextSample_queue _ _ _ rfl)
        (.item (OpusFrameReader.nextSample_queue _ _ _ rfl) (.nothing _)))
  exact audioClock_samples twoByteChunks connectedSender rfl queuedReader _ _ hread
    (by decide +kernel) audioCalls (by decide +kernel) (by decide +kernel)

/-! The video clock and the frame rate of an IVF stream. -/

/-- The n-th timestamp relative to the first, un-wrapped. -/
def unwrapped (stamps : List UInt32) (n : Nat) : Nat :=
  Counter.distance (stamps.take (n + 1))

/-- However long a stream with this header is, every frame of it lies within one
tick of its exact place. -/
def DriftBounded (payloader : Payloader → Nat → Bytes → List Bytes × Payloader)
    (sender : RtpSender Payloader) (header : Ivf.Header) : Prop :=
  ∀ frames samples left actions,
    Gives VP8FrameReader.nextSample (.new (Ivf.encode header frames)) samples left →
    Along (next payloader) Sequential sender actions →
    handedIn .video actions = samples →
    ∀ n < samples.length,
      |(unwrapped (timestamps payloader .video sender actions) n : ℚ) -
        n * 90000 * header.timebaseNum / header.timebaseDen| ≤ 1

theorem unwrapped_stampsFrom {samples : List Sample} {duration : Duration}
    (hsteady : ∀ sample ∈ samples, sample.duration = duration) {n : Nat}
    (hn : n < samples.length) (ts : UInt32) :
    unwrapped (stampsFrom .video ts samples) n = n * (tsInc .video duration).toNat := by
  induction n generalizing samples ts with
  | zero =>
      cases samples with
      | nil => simp at hn
      | cons sample rest => simp [unwrapped, stampsFrom, Counter.distance]
  | succ n ih =>
      cases samples with
      | nil => simp at hn
      | cons sample rest =>
          have hrest : n < rest.length := by simpa using hn
          have hhead := hsteady sample (.head _)
          have htail := ih (fun other hother => hsteady other (.tail _ hother)) hrest
            (ts + tsInc .video duration)
          cases rest with
          | nil => simp at hrest
          | cons second rest =>
              simp only [unwrapped, stampsFrom, List.take_succ_cons] at htail ⊢
              rw [Counter.distance, hhead, htail, Nat.succ_mul, Nat.add_comm]
              congr 2
              rw [UInt32.add_comm, UInt32.add_sub_cancel]

/-- The duration is a whole number of nanoseconds, and still the increment is
the exact one where there is an exact one. -/
theorem tsInc_exact {num den ticks : Nat} (hden : 0 < den) (hticks : ticks * den = 90000 * num)
    (hlt : ticks < 2 ^ 32) :
    (tsInc .video (Duration.fromNanos (num * 1000000000 / den))).toNat = ticks := by
  have hlow : num * 1000000000 / den * den ≤ num * 1000000000 := Nat.div_mul_le_self _ _
  have hhigh : num * 1000000000 < (num * 1000000000 / den + 1) * den :=
    Nat.lt_mul_of_div_lt (Nat.lt_succ_self _) hden
  generalize num * 1000000000 / den = nanos at hlow hhigh
  have hnanos : nanos * 90000 ≤ ticks * 1000000000 := by
    apply Nat.le_of_mul_le_mul_right _ hden
    nlinarith
  have hnear : ticks * 1000000000 < (nanos + 1) * 90000 := by
    apply Nat.lt_of_mul_lt_mul_right (a := den)
    nlinarith
  have hround : (nanos * 90000 + 500000000) / 1000000000 = ticks := by omega
  rw [tsInc, Duration.fromNanos, hround, UInt32.toNat_ofNat_of_lt' hlt]

theorem steady_encode {header : Ivf.Header} {frames : List Ivf.Frame} {samples : List Sample}
    {left : VP8FrameReader}
    (hread : Gives VP8FrameReader.nextSample (.new (Ivf.encode header frames)) samples left) :
    ∀ sample ∈ samples, sample.duration = VP8FrameReader.durationOf header := by
  intro sample hsample
  have hprefix := (VP8FrameReader.yields_encode header frames).prefix_of_gives hread
  have hmem := hprefix.subset hsample
  obtain ⟨frame, _, rfl⟩ := List.mem_map.mp hmem
  rfl

/-! Any samples can be handed in, one call after the other. -/

theorem outgoing_transmit (sender : RtpSender Payloader) :
    sender.transmit.outgoing = sender.outgoing.tail := by
  unfold transmit
  split
  next hout => simp [hout]
  next hout => simp [hout]

theorem drain (sender : RtpSender Payloader) :
    ∃ actions, Along (next payloader) Sequential sender actions ∧
      (∀ kind, handedIn kind actions = []) ∧
      (after (next payloader) sender actions).outgoing = [] ∧
      (after (next payloader) sender actions).closed = sender.closed := by
  generalize hcount : sender.outgoing.length = count
  induction count generalizing sender with
  | zero => exact ⟨[], trivial, fun _ => rfl, List.length_eq_zero_iff.mp hcount, rfl⟩
  | succ count ih =>
      have hless : sender.transmit.outgoing.length = count := by
        simp [outgoing_transmit, hcount]
      obtain ⟨rest, halong, hnone, hidle, hclosed⟩ := ih sender.transmit hless
      exact ⟨.transmit :: rest, ⟨trivial, halong⟩, hnone, hidle,
        hclosed.trans (closed_transmit sender)⟩

theorem exists_handedIn {sender : RtpSender Payloader} (samples : List Sample) :
    ∃ actions, Along (next payloader) Sequential sender actions ∧
      handedIn .video actions = samples := by
  induction samples generalizing sender with
  | nil => exact ⟨[], trivial, rfl⟩
  | cons sample rest ih =>
      obtain ⟨drained, hdrained, hnone, hidle, _⟩ := @drain _ payloader sender
      let call : Action := .sendRtpBytes vp8PayloadType sample.data sample.duration ⟨0, 0, 0, 0⟩
      obtain ⟨actions, halong, hsamples⟩ :=
        @ih ((after (next payloader) sender drained).next payloader call)
      have hall : handedIn .video (drained ++ call :: actions) =
          handedIn .video drained ++ sample :: handedIn .video actions := by
        simp only [handedIn, List.filterMap_append]
        rfl
      refine ⟨drained ++ call :: actions, along_append.mpr ⟨hdrained, hidle, halong⟩, ?_⟩
      rw [hall, hnone, hsamples, List.nil_append]

def smallFrame : Ivf.Frame where
  timestamp := List.replicate 8 0
  payload := [0x10, 1, 2]
  timestamp_length := rfl
  payload_lt := by decide

theorem driftBounded_iff_ticks
    {payloader : Payloader → Nat → Bytes → List Bytes × Payloader}
    {sender : RtpSender Payloader} (hopen : sender.closed = false) {header : Ivf.Header} :
    DriftBounded payloader sender header ↔
      ∀ n : Nat, |((n * (tsInc .video (VP8FrameReader.durationOf header)).toNat : Nat) : ℚ) -
        n * 90000 * header.timebaseNum / header.timebaseDen| ≤ 1 := by
  constructor
  · intro hbounded n
    obtain ⟨left, hread⟩ :=
      (VP8FrameReader.yields_encode header (List.replicate (n + 1) smallFrame)).gives
    obtain ⟨actions, hsequential, hpassed⟩ :=
      @exists_handedIn _ payloader sender ((List.replicate (n + 1) smallFrame).map
        fun frame => ⟨frame.payload, VP8FrameReader.durationOf header⟩)
    have hn : n < ((List.replicate (n + 1) smallFrame).map fun frame =>
        (⟨frame.payload, VP8FrameReader.durationOf header⟩ : Sample)).length := by
      simp
    have hdrift := hbounded _ _ left actions hread hsequential hpassed n hn
    rw [(made_after hopen hsequential .video).1, hpassed,
      unwrapped_stampsFrom (steady_encode hread) hn] at hdrift
    exact hdrift
  · intro hticks frames samples left actions hread hsequential hpassed n hn
    rw [(made_after hopen hsequential .video).1, hpassed,
      unwrapped_stampsFrom (steady_encode hread) hn]
    exact hticks n

/-- An error that does not vanish outgrows one tick. -/
theorem bounded_multiples_iff (error : ℚ) : (∀ n : Nat, |n * error| ≤ 1) ↔ error = 0 := by
  constructor
  · intro hall
    by_contra hne
    have hpositive : 0 < |error| := abs_pos.mpr hne
    obtain ⟨n, hn⟩ := exists_nat_gt (1 / |error|)
    have hlarge : 1 < n * |error| := (div_lt_iff₀ hpositive).mp hn
    have hsmall := hall n
    rw [abs_mul, Nat.abs_cast] at hsmall
    exact absurd hsmall (not_le.mpr hlarge)
  · rintro rfl n
    simp

theorem driftBounded_iff
    (payloader : Payloader → Nat → Bytes → List Bytes × Payloader)
    (sender : RtpSender Payloader) (hopen : sender.closed = false) (header : Ivf.Header)
    (hnum : 0 < header.timebaseNum) (hden : 0 < header.timebaseDen) :
    DriftBounded payloader sender header ↔
      header.timebaseDen ∣ 90000 * header.timebaseNum ∧
        90000 * header.timebaseNum / header.timebaseDen < 2 ^ 32 := by
  have hduration : VP8FrameReader.durationOf header =
      Duration.fromNanos (header.timebaseNum * 1000000000 / header.timebaseDen) :=
    if_pos ⟨hden, hnum⟩
  rw [driftBounded_iff_ticks hopen, hduration]
  generalize hinc :
    (tsInc .video (Duration.fromNanos
      (header.timebaseNum * 1000000000 / header.timebaseDen))).toNat = ticks
  have hexact : (∀ n : Nat, |((n * ticks : Nat) : ℚ) -
      n * 90000 * header.timebaseNum / header.timebaseDen| ≤ 1) ↔
      ticks * header.timebaseDen = 90000 * header.timebaseNum := by
    have hdenq : (header.timebaseDen : ℚ) ≠ 0 := Nat.cast_ne_zero.mpr hden.ne'
    have hfactor (n : Nat) : ((n * ticks : Nat) : ℚ) -
        n * 90000 * header.timebaseNum / header.timebaseDen =
          n * (ticks - 90000 * header.timebaseNum / header.timebaseDen) := by
      push_cast
      ring
    simp only [hfactor, bounded_multiples_iff, sub_eq_zero, eq_div_iff hdenq]
    exact_mod_cast Iff.rfl
  rw [hexact]
  constructor
  · intro hticks
    refine ⟨⟨ticks, by rw [← hticks, Nat.mul_comm]⟩, ?_⟩
    rw [← hticks, Nat.mul_div_cancel _ hden, ← hinc]
    exact UInt32.toNat_lt _
  · rintro ⟨hdivides, hlt⟩
    have hquotient := Nat.div_mul_cancel hdivides
    rw [tsInc_exact hden hquotient hlt] at hinc
    rw [← hinc, hquotient]

/-- 1001/24000 seconds a frame. -/
def filmHeader : Ivf.Header where
  codec := [0x56, 0x50, 0x38, 0x30]
  pictureSize := [0x80, 2, 0xE0, 1]
  timebaseDen := 24000
  timebaseNum := 1001
  frameCount := Ivf.unknownCount
  unused := List.replicate 4 0
  codec_length := rfl
  pictureSize_length := rfl
  timebaseDen_lt := by decide
  timebaseNum_lt := by decide
  frameCount_length := rfl
  unused_length := rfl

/-- 25 frames a second. -/
def steadyHeader : Ivf.Header :=
  { filmHeader with
    timebaseDen := 25000
    timebaseNum := 1000
    timebaseDen_lt := by decide
    timebaseNum_lt := by decide }

theorem driftBounded_iff_steady :
    DriftBounded twoByteChunks connectedSender steadyHeader ↔
      25000 ∣ 90000 * 1000 ∧ 90000 * 1000 / 25000 < 2 ^ 32 :=
  driftBounded_iff twoByteChunks connectedSender rfl steadyHeader (by decide) (by decide)

/-- The film's sixth frame is more than one tick late. -/
theorem drift_film :
    ¬ ∀ header : Ivf.Header, 0 < header.timebaseNum → 0 < header.timebaseDen →
      DriftBounded twoByteChunks connectedSender header := by
  intro hall
  let sample : Sample := ⟨[0x10, 1, 2], VP8FrameReader.durationOf filmHeader⟩
  let call : Action := .sendRtpBytes 100 sample.data sample.duration ⟨0, 0, 0, 0⟩
  let actions := (List.replicate 6 [call, .transmit, .transmit]).flatten
  have hbounded := hall filmHeader (by decide) (by decide)
  obtain ⟨left, hread⟩ :=
    (VP8FrameReader.yields_encode filmHeader (List.replicate 6 smallFrame)).gives
  have hdrift := hbounded _ (List.replicate 6 sample) left actions hread
    (by decide +kernel) (by decide +kernel) 5 (by decide)
  have hstamp : unwrapped (timestamps twoByteChunks .video connectedSender actions) 5 =
      18770 := by
    decide +kernel
  rw [hstamp] at hdrift
  norm_num [filmHeader, abs_le] at hdrift

end RtpSender

end RustTgCalls.Wrtc
