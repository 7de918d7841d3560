import RustTgCalls.Library.LittleEndian
import Mathlib

namespace Ivf

/-! The IVF container: a header of 32 bytes, then frames with a size and a
timestamp before each. -/

abbrev Byte := UInt8

/-- "DKIF" -/
def signature : List Byte := [0x44, 0x4B, 0x49, 0x46]

/-- A header with the picture size and the last four bytes left open. -/
structure Header where
  codec : List Byte
  pictureSize : List Byte
  timebaseDen : Nat
  timebaseNum : Nat
  frameCount : List Byte
  unused : List Byte
  codec_length : codec.length = 4
  pictureSize_length : pictureSize.length = 4
  timebaseDen_lt : timebaseDen < 256 ^ 4
  timebaseNum_lt : timebaseNum < 256 ^ 4
  frameCount_length : frameCount.length = 4
  unused_length : unused.length = 4

structure Frame where
  timestamp : List Byte
  payload : List Byte
  timestamp_length : timestamp.length = 8
  payload_lt : payload.length < 256 ^ 4

/-- What a muxer writes for the number of frames when it cannot come back to the
header. -/
def unknownCount : List Byte := [0xFF, 0xFF, 0xFF, 0xFF]

namespace Header

/-- The part before the timebase: version 0 and the header's own length. -/
def front (header : Header) : List Byte :=
  signature ++ littleEndian 2 0 ++ littleEndian 2 32 ++ header.codec ++
    header.pictureSize

def encode (header : Header) : List Byte :=
  header.front ++ (littleEndian 4 header.timebaseDen ++
    (littleEndian 4 header.timebaseNum ++ (header.frameCount ++ header.unused)))

@[simp] theorem length_front (header : Header) : header.front.length = 16 := by
  simp [front, signature, header.codec_length, header.pictureSize_length]

@[simp] theorem length_encode (header : Header) : header.encode.length = 32 := by
  simp [encode, header.frameCount_length, header.unused_length]

end Header

/-- A header with everything left open but the signature and the timebase. -/
structure OpenHeader where
  front : List Byte
  timebaseDen : Nat
  timebaseNum : Nat
  behind : List Byte
  front_length : front.length = 16
  signed : front.take 4 = signature
  timebaseDen_lt : timebaseDen < 256 ^ 4
  timebaseNum_lt : timebaseNum < 256 ^ 4
  behind_length : behind.length = 8

namespace OpenHeader

def encode (header : OpenHeader) : List Byte :=
  header.front ++ (littleEndian 4 header.timebaseDen ++
    (littleEndian 4 header.timebaseNum ++ header.behind))

@[simp] theorem length_encode (header : OpenHeader) : header.encode.length = 32 := by
  simp [encode, header.front_length, header.behind_length]

theorem take_encode (header : OpenHeader) : header.encode.take 4 = signature := by
  rw [encode, List.take_append_of_le_length (by simp [header.front_length])]
  exact header.signed

theorem timebaseDen_encode (header : OpenHeader) :
    (header.encode.drop 16).take 4 = littleEndian 4 header.timebaseDen := by
  rw [encode, ← header.front_length, List.drop_left]
  simp

theorem timebaseNum_encode (header : OpenHeader) :
    (header.encode.drop 20).take 4 = littleEndian 4 header.timebaseNum := by
  have hsplit : header.encode = (header.front ++ littleEndian 4 header.timebaseDen) ++
      (littleEndian 4 header.timebaseNum ++ header.behind) := by
    simp [encode]
  have hlength : (header.front ++ littleEndian 4 header.timebaseDen).length = 20 := by
    simp [header.front_length]
  rw [hsplit, ← hlength, List.drop_left]
  simp

/-- Any 32 bytes that start with the signature are such a header. -/
theorem exists_encode {bytes : List Byte} (hlength : bytes.length = 32)
    (hsigned : bytes.take 4 = signature) :
    ∃ header : OpenHeader, header.encode = bytes := by
  obtain ⟨den, hdenLt, hden⟩ := exists_littleEndian ((bytes.drop 16).take 4)
  obtain ⟨num, hnumLt, hnum⟩ := exists_littleEndian ((bytes.drop 20).take 4)
  have hdenLength : ((bytes.drop 16).take 4).length = 4 := by simp [hlength]
  have hnumLength : ((bytes.drop 20).take 4).length = 4 := by simp [hlength]
  rw [hdenLength] at hdenLt hden
  rw [hnumLength] at hnumLt hnum
  refine ⟨{
    front := bytes.take 16
    timebaseDen := den
    timebaseNum := num
    behind := bytes.drop 24
    front_length := by simp [hlength]
    signed := by rw [List.take_take]; exact hsigned
    timebaseDen_lt := hdenLt
    timebaseNum_lt := hnumLt
    behind_length := by simp [hlength] }, ?_⟩
  have hbehind : (bytes.drop 20).take 4 ++ bytes.drop 24 = bytes.drop 20 := by
    simpa using List.take_append_drop 4 (bytes.drop 20)
  have hmiddle : (bytes.drop 16).take 4 ++ bytes.drop 20 = bytes.drop 16 := by
    simpa using List.take_append_drop 4 (bytes.drop 16)
  rw [encode, hden, hnum, hbehind, hmiddle, List.take_append_drop]

end OpenHeader

/-- A header of the usual form is one of them. -/
def Header.opened (header : Header) : OpenHeader where
  front := header.front
  timebaseDen := header.timebaseDen
  timebaseNum := header.timebaseNum
  behind := header.frameCount ++ header.unused
  front_length := header.length_front
  signed := by simp [Header.front, signature]
  timebaseDen_lt := header.timebaseDen_lt
  timebaseNum_lt := header.timebaseNum_lt
  behind_length := by simp [header.frameCount_length, header.unused_length]

@[simp] theorem Header.encode_opened (header : Header) :
    header.opened.encode = header.encode := rfl

namespace Frame

def sizeAndTime (frame : Frame) : List Byte :=
  littleEndian 4 frame.payload.length ++ frame.timestamp

def encode (frame : Frame) : List Byte := frame.sizeAndTime ++ frame.payload

@[simp] theorem length_sizeAndTime (frame : Frame) :
    frame.sizeAndTime.length = 12 := by
  simp [sizeAndTime, frame.timestamp_length]

theorem take_sizeAndTime (frame : Frame) :
    frame.sizeAndTime.take 4 = littleEndian 4 frame.payload.length := by
  simp [sizeAndTime]

theorem length_encode (frame : Frame) :
    frame.encode.length = 12 + frame.payload.length := by
  simp [encode]

end Frame

def encode (header : Header) (frames : List Frame) : List Byte :=
  header.encode ++ frames.flatMap Frame.encode

def OpenHeader.stream (header : OpenHeader) (frames : List Frame) : List Byte :=
  header.encode ++ frames.flatMap Frame.encode

@[simp] theorem OpenHeader.length_stream (header : OpenHeader) (frames : List Frame) :
    (header.stream frames).length = 32 + (frames.flatMap Frame.encode).length := by
  rw [stream, List.length_append, header.length_encode]

end Ivf
