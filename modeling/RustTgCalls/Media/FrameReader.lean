import Mathlib.Algebra.GroupWithZero.Nat
import Mathlib.Data.List.Basic
import RustTgCalls.Models

namespace RustTgCalls.Media

abbrev Bytes := List UInt8

/-- One encoded frame and the time it lasts. -/
structure Sample where
  data : Bytes
  duration : Duration
  deriving DecidableEq, Repr

/-- `AsyncReadExt::read_exact` on the bytes a stream has left: the buffer is
filled, or the stream is drained and the read fails. -/
def readExact (count : Nat) (bytes : Bytes) : Option Bytes × Bytes :=
  if count ≤ bytes.length then
    (some (bytes.take count), bytes.drop count)
  else
    (none, [])

@[simp] theorem readExact_append (front rest : Bytes) :
    readExact front.length (front ++ rest) = (some front, rest) := by
  simp [readExact]

theorem readExact_short (hshort : bytes.length < count) :
    readExact count bytes = (none, []) := by
  simp [readExact, Nat.not_le.mpr hshort]

theorem readExact_some (hread : readExact count bytes = (some front, rest)) :
    front.length = count ∧ bytes = front ++ rest := by
  unfold readExact at hread
  split at hread
  next hle =>
    cases hread
    exact ⟨by simp [hle], (List.take_append_drop count bytes).symm⟩
  next => simp at hread

def parseOpusPacketDuration : Bytes → Duration
  | [] => Duration.fromMillis opusFrameDurationMs
  | toc :: body =>
      let config := (toc >>> 3) &&& 0x1F
      let baseSamples : Nat :=
        match config.toNat with
        | 0 | 4 | 8 => 480
        | 1 | 5 | 9 => 960
        | 2 | 6 | 10 => 1920
        | 3 | 7 | 11 => 2880
        | 12 | 14 => 480
        | 13 | 15 => 960
        | 16 | 20 | 24 | 28 => 120
        | 17 | 21 | 25 | 29 => 240
        | 18 | 22 | 26 | 30 => 480
        | 19 | 23 | 27 | 31 => 960
        | _ => 960
      let count : Nat :=
        match (toc &&& 0x03).toNat, body with
        | 0, _ => 1
        | 1, _ | 2, _ => 2
        | 3, frames :: _ =>
            let c := (frames &&& 0x3F).toNat
            if c > 0 then c else 1
        | 3, [] => 1
        | _, _ => 1
      Duration.fromNanos (baseSamples * count * 1000000000 / 48000)

/-- "OggS", "OpusHead", "OpusTags" and "DKIF". -/
def oggMagic : Bytes := [0x4F, 0x67, 0x67, 0x53]
def opusHead : Bytes := [0x4F, 0x70, 0x75, 0x73, 0x48, 0x65, 0x61, 0x64]
def opusTags : Bytes := [0x4F, 0x70, 0x75, 0x73, 0x54, 0x61, 0x67, 0x73]
def ivfMagic : Bytes := [0x44, 0x4B, 0x49, 0x46]

structure OpusFrameReader where
  bytes : Bytes
  skippedHeader : Bool
  skippedTags : Bool
  queue : List Bytes
  currentPacket : Bytes
  deriving DecidableEq, Repr

namespace OpusFrameReader

def new (bytes : Bytes) : OpusFrameReader where
  bytes := bytes
  skippedHeader := false
  skippedTags := false
  queue := []
  currentPacket := []

/-- The end of a packet: the two header packets are skipped once each, empty
packets always, everything else is queued. -/
def finishPacket (reader : OpusFrameReader) (pkt : Bytes) : OpusFrameReader :=
  if !reader.skippedHeader ∧ opusHead <+: pkt then
    { reader with skippedHeader := true }
  else if !reader.skippedTags ∧ opusTags <+: pkt then
    { reader with skippedTags := true }
  else if pkt ≠ [] then
    { reader with
      skippedHeader := true
      skippedTags := true
      queue := reader.queue ++ [pkt] }
  else
    reader

/-- One round of the segment loop over the page's payload; the second component
is the running offset. -/
def takeSegment (payload : Bytes) :
    OpusFrameReader × Nat → UInt8 → OpusFrameReader × Nat
  | (reader, offset), segLen =>
      let stop := offset + segLen.toNat
      let (collected, offset) :=
        if stop ≤ payload.length then
          (reader.currentPacket ++ (payload.drop offset).take segLen.toNat, stop)
        else
          (reader.currentPacket, offset)
      if segLen < 255 then
        ({ reader with currentPacket := [] }.finishPacket collected, offset)
      else
        ({ reader with currentPacket := collected }, offset)

/-- The part of the loop body that reads one page into the queue. -/
def readPage (reader : OpusFrameReader) :
    Except RustTgCallsError Unit × OpusFrameReader :=
  match readExact 27 reader.bytes with
  | (none, rest) => (.error .file, { reader with bytes := rest })
  | (some header, rest) =>
      if header.take 4 ≠ oggMagic then
        (.error (.internal "invalid Ogg magic header"),
          { reader with bytes := rest })
      else
        match readExact (header.getD 26 0).toNat rest with
        | (none, rest) => (.error .file, { reader with bytes := rest })
        | (some segSlice, rest) =>
            let payloadSize := (segSlice.map UInt8.toNat).sum
            match readExact payloadSize rest with
            | (none, rest) => (.error .file, { reader with bytes := rest })
            | (some payload, rest) =>
                (.ok (), (segSlice.foldl (takeSegment payload)
                  ({ reader with bytes := rest }, 0)).1)

@[simp] theorem bytes_finishPacket (reader : OpusFrameReader) (pkt : Bytes) :
    (reader.finishPacket pkt).bytes = reader.bytes := by
  unfold finishPacket
  split
  · rfl
  · split
    · rfl
    · split <;> rfl

@[simp] theorem bytes_takeSegment (payload : Bytes)
    (progress : OpusFrameReader × Nat) (segLen : UInt8) :
    (takeSegment payload progress segLen).1.bytes = progress.1.bytes := by
  simp only [takeSegment]
  split <;> split <;> simp

@[simp] theorem bytes_foldl_takeSegment (payload : Bytes)
    (progress : OpusFrameReader × Nat) (segSlice : Bytes) :
    (segSlice.foldl (takeSegment payload) progress).1.bytes =
      progress.1.bytes := by
  induction segSlice generalizing progress with
  | nil => rfl
  | cons segLen rest ih => rw [List.foldl_cons, ih, bytes_takeSegment]

theorem readPage_bytes_lt {reader left : OpusFrameReader}
    (hpage : reader.readPage = (.ok (), left)) :
    left.bytes.length < reader.bytes.length := by
  unfold readPage at hpage
  split at hpage
  next => simp at hpage
  next header rest hheader =>
    split at hpage
    · simp at hpage
    · split at hpage
      next => simp at hpage
      next segSlice afterTable htable =>
        dsimp only at hpage
        split at hpage
        next => simp at hpage
        next payload afterPayload hpayload =>
          obtain ⟨_, rfl⟩ := Prod.mk.inj hpage
          obtain ⟨hlength, hbytes⟩ := readExact_some hheader
          obtain ⟨_, hrest⟩ := readExact_some htable
          obtain ⟨_, htail⟩ := readExact_some hpayload
          rw [bytes_foldl_takeSegment, hbytes, hrest, htail]
          simp only [List.length_append]
          omega

def nextSample (reader : OpusFrameReader) :
    Except RustTgCallsError Sample × OpusFrameReader :=
  match reader.queue with
  | pkt :: queue =>
      (.ok ⟨pkt, parseOpusPacketDuration pkt⟩, { reader with queue := queue })
  | [] =>
      match _hpage : reader.readPage with
      | (.error error, left) => (.error error, left)
      | (.ok (), left) => nextSample left
termination_by reader.bytes.length
decreasing_by exact readPage_bytes_lt _hpage

end OpusFrameReader

/-- `u32::from_le_bytes`. -/
def fromLeBytes : Bytes → Nat
  | [] => 0
  | byte :: rest => byte.toNat + 256 * fromLeBytes rest

structure VP8FrameReader where
  bytes : Bytes
  headerRead : Bool
  frameDuration : Duration
  deriving DecidableEq, Repr

namespace VP8FrameReader

def new (bytes : Bytes) : VP8FrameReader where
  bytes := bytes
  headerRead := false
  frameDuration := Duration.fromNanos 33333333

def readHeader (reader : VP8FrameReader) :
    Except RustTgCallsError Unit × VP8FrameReader :=
  match readExact 32 reader.bytes with
  | (none, rest) => (.error .file, { reader with bytes := rest })
  | (some ivfHeader, rest) =>
      if ivfHeader.take 4 ≠ ivfMagic then
        (.error (.internal "invalid IVF magic header"),
          { reader with bytes := rest })
      else
        let timebaseDen := fromLeBytes ((ivfHeader.drop 16).take 4)
        let timebaseNum := fromLeBytes ((ivfHeader.drop 20).take 4)
        let frameDuration :=
          if timebaseDen > 0 ∧ timebaseNum > 0 then
            Duration.fromNanos (timebaseNum * 1000000000 / timebaseDen)
          else
            reader.frameDuration
        (.ok (), {
          bytes := rest
          headerRead := true
          frameDuration := frameDuration })

def readFrame (reader : VP8FrameReader) :
    Except RustTgCallsError Sample × VP8FrameReader :=
  match readExact 12 reader.bytes with
  | (none, rest) => (.error .file, { reader with bytes := rest })
  | (some frameHeader, rest) =>
      let frameSize := fromLeBytes (frameHeader.take 4)
      match readExact frameSize rest with
      | (none, rest) => (.error .file, { reader with bytes := rest })
      | (some frameBytes, rest) =>
          (.ok ⟨frameBytes, reader.frameDuration⟩, { reader with bytes := rest })

def nextSample (reader : VP8FrameReader) :
    Except RustTgCallsError Sample × VP8FrameReader :=
  if reader.headerRead then
    reader.readFrame
  else
    match reader.readHeader with
    | (.error error, left) => (.error error, left)
    | (.ok (), left) => left.readFrame

end VP8FrameReader

end RustTgCalls.Media
