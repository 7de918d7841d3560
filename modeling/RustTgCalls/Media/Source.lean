import RustTgCalls.Media.FrameReader

namespace RustTgCalls.Media

abbrev CloseHook := Nat

/-- The encoded output of a source: the bytes an Ogg/Opus and an IVF/VP8 stream
still have to deliver, and the hook that releases what produces them. -/
structure Streams where
  audio : Option Bytes
  video : Option Bytes
  close : Option CloseHook
  deriving DecidableEq, Repr

abbrev Track := UInt8

def trackAudio : Track := 1
def trackVideo : Track := 2

structure EncodeOptions where
  videoBitrateKbps : Nat
  videoWidth : Nat
  videoHeight : Nat
  videoFps : Nat
  audioBitrateKbps : Nat
  audioChannels : Nat
  tracks : Track
  deriving DecidableEq, Repr

def EncodeOptions.default : EncodeOptions where
  videoBitrateKbps := 800
  videoWidth := 1280
  videoHeight := 720
  videoFps := 30
  audioBitrateKbps := 128
  audioChannels := defaultChannelCount
  tracks := trackAudio

end RustTgCalls.Media
