import RustTgCalls.Media.FrameReader

namespace RustTgCalls.Media

inductive ReaderKind where
  | opus (reader : OpusFrameReader)
  | vp8 (reader : VP8FrameReader)
  deriving DecidableEq, Repr

def ReaderKind.nextSample :
    ReaderKind → Except RustTgCallsError Sample × ReaderKind
  | .opus reader =>
      let (result, left) := reader.nextSample
      (result, .opus left)
  | .vp8 reader =>
      let (result, left) := reader.nextSample
      (result, .vp8 left)

/-- A streamer: what its two tasks were spawned with, and the flags and callback
slot they share with the owner. -/
structure Streamer (Callback : Type) where
  reader : ReaderKind
  payloadType : UInt8
  syncBarrier : Option Nat
  muted : Bool
  paused : Bool
  running : Bool
  doneFlag : Bool
  nsSent : Nat
  onEnd : Option Callback
  deriving DecidableEq, Repr

namespace Streamer

variable {Callback : Type}

/-- The streamer as its tasks find it; `syncBarrier` is the size of the barrier
shared with the other leg. -/
def newWithBarrier (reader : ReaderKind) (payloadType : UInt8)
    (syncBarrier : Option Nat) : Streamer Callback where
  reader := reader
  payloadType := payloadType
  syncBarrier := syncBarrier
  muted := false
  paused := false
  running := true
  doneFlag := false
  nsSent := 0
  onEnd := none

def pause (streamer : Streamer Callback) : Streamer Callback :=
  { streamer with paused := true }

def resume (streamer : Streamer Callback) : Streamer Callback :=
  { streamer with paused := false }

def stop (streamer : Streamer Callback) : Streamer Callback :=
  { streamer with onEnd := none, running := false }

def setOnEnd (streamer : Streamer Callback) (callback : Callback) :
    Streamer Callback :=
  { streamer with onEnd := some callback }

@[simp] theorem paused_newWithBarrier (kind : ReaderKind) (payload : UInt8)
    (barrier : Option Nat) :
    (newWithBarrier kind payload barrier : Streamer Callback).paused = false :=
  rfl

@[simp] theorem paused_pause (streamer : Streamer Callback) :
    streamer.pause.paused = true := rfl

@[simp] theorem paused_resume (streamer : Streamer Callback) :
    streamer.resume.paused = false := rfl

@[simp] theorem paused_setOnEnd (streamer : Streamer Callback)
    (callback : Callback) :
    (streamer.setOnEnd callback).paused = streamer.paused := rfl

end Streamer

end RustTgCalls.Media
