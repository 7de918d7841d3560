namespace RustTgCalls

structure MediaState where
  muted : Bool
  paused : Bool
  videoStopped : Bool
  presentationPaused : Bool
  deriving DecidableEq, Repr

inductive ConnState where
  | connecting
  | connected
  | disconnected
  | failed
  | closed
  deriving DecidableEq, Repr

inductive Device where
  | microphone
  | camera
  deriving DecidableEq, Repr

inductive StreamType where
  | audio
  | video
  deriving DecidableEq, Repr

inductive RustTgCallsError where
  | connectionExists
  | connectionNotFound
  | connectionFailed
  | invalidParams (detail : String)
  | unsupportedCallMode
  | ffmpegSpawn (detail : String)
  | ffmpegCrashed (detail : String)
  | webRTC (detail : String)
  | file
  | closed
  | internal (detail : String)
  | notConnected
  | wrongMode
  | noSource
  | seekUnsupported
  deriving DecidableEq, Repr

/-- The texts of the errors. -/
def RustTgCallsError.display : RustTgCallsError → String
  | .connectionExists => "rusttgcalls: call already exists for chat"
  | .connectionNotFound => "rusttgcalls: no call for chat"
  | .connectionFailed => "rusttgcalls: ICE failed permanently"
  | .invalidParams detail => "rusttgcalls: malformed telegram params: " ++ detail
  | .unsupportedCallMode => "rusttgcalls: call mode not supported"
  | .ffmpegSpawn detail => "rusttgcalls: ffmpeg failed to start: " ++ detail
  | .ffmpegCrashed detail => "rusttgcalls: ffmpeg exited non-zero: " ++ detail
  | .webRTC detail => "rusttgcalls: webrtc error: " ++ detail
  | .file => "rusttgcalls: input file unreadable"
  | .closed => "rusttgcalls: client closed"
  | .internal detail => "rusttgcalls: internal error: " ++ detail
  | .notConnected => "rusttgcalls: call not connected"
  | .wrongMode => "rusttgcalls: operation not valid for call mode"
  | .noSource => "rusttgcalls: no source currently playing"
  | .seekUnsupported => "rusttgcalls: source is not seekable"

def defaultChannelCount : Nat := 2
def opusFrameDurationMs : Nat := 20
def opusSampleRate : Nat := 48000
def opusPayloadType : UInt8 := 111
def vp8PayloadType : UInt8 := 100

/-- `std::time::Duration` and `Instant` count nanoseconds. -/
abbrev Duration := Nat

abbrev Instant := Nat

namespace Duration

def fromMillis (millis : Nat) : Duration := millis * 1000000

def fromNanos (nanos : Nat) : Duration := nanos

def asMillis (duration : Duration) : Nat := duration / 1000000

end Duration

end RustTgCalls
