import RustTgCalls.Media.Source
import RustTgCalls.Media.Streamer

namespace RustTgCalls.Instances

open Media

structure GroupCallEvents where
  onStreamEnd : Bool
  onConnectionChange : Bool
  onUpgrade : Bool
  deriving DecidableEq, Repr

structure EndCallback where
  streamType : StreamType
  device : Device
  deriving DecidableEq, Repr

/-- The WebRTC call of one chat.  `stackState` is what `stack.state()` reads. -/
structure GroupCall where
  chatId : Int
  stackState : ConnState
  events : GroupCallEvents
  connectTimeout : Duration
  audioStreamer : Option (Streamer EndCallback)
  videoStreamer : Option (Streamer EndCallback)
  netState : ConnState
  closed : Bool
  connectCalled : Bool
  paused : Bool
  muted : Bool
  endedOnce : Bool
  hadAudio : Bool
  hadVideo : Bool
  resumeMs : Nat
  deriving DecidableEq, Repr

/-- A completed operation: the call it leaves, what it returns, the states it
hands to `on_upgrade` and the streamers it has stopped. -/
structure Outcome (α : Type) where
  call : GroupCall
  result : Except RustTgCallsError α
  upgrades : List MediaState
  retired : List (Streamer EndCallback)

namespace GroupCall

def newWithEvents (chatId : Int) (connectTimeout : Duration)
    (events : GroupCallEvents) : GroupCall where
  chatId := chatId
  stackState := .connecting
  events := events
  connectTimeout :=
    if connectTimeout = 0 then Duration.fromMillis 10000 else connectTimeout
  audioStreamer := none
  videoStreamer := none
  netState := .connecting
  closed := false
  connectCalled := false
  paused := false
  muted := false
  endedOnce := false
  hadAudio := false
  hadVideo := false
  resumeMs := 0

def currentState (call : GroupCall) : MediaState :=
  let silent := call.muted || call.paused
  { muted := call.muted
    paused := silent
    videoStopped := call.videoStreamer.isNone
    presentationPaused := silent }

def fireUpgradeIfChanged (call : GroupCall) (prev : MediaState) :
    List MediaState :=
  let cur := call.currentState
  if prev = cur then []
  else if call.events.onUpgrade then [cur]
  else []

def refuse (call : GroupCall) (error : RustTgCallsError) : Outcome α :=
  ⟨call, .error error, [], []⟩

/-- `connect`, given what `Stack::connect` answers and the state it leaves the
stack in. -/
def connect (call : GroupCall) (answer : Except RustTgCallsError Unit)
    (stackState : ConnState) : Outcome Unit :=
  if call.closed then
    call.refuse .closed
  else
    let called := { call with connectCalled := true, stackState := stackState }
    match answer with
    | .error error => called.refuse error
    | .ok () => ⟨{ called with netState := .connected }, .ok (), [], []⟩

def audioLeg (call : GroupCall) (syncBarrier : Option Nat) (source : Bytes) :
    Streamer EndCallback :=
  let streamer := Streamer.newWithBarrier (.opus (.new source)) opusPayloadType
    syncBarrier
  let streamer :=
    if call.muted || call.paused then streamer.pause else streamer
  streamer.setOnEnd ⟨.audio, .microphone⟩

def videoLeg (call : GroupCall) (syncBarrier : Option Nat) (hasAudio : Bool)
    (source : Bytes) : Streamer EndCallback :=
  let streamer := Streamer.newWithBarrier (.vp8 (.new source)) vp8PayloadType
    syncBarrier
  let streamer := if call.paused then streamer.pause else streamer
  if hasAudio then streamer else streamer.setOnEnd ⟨.video, .camera⟩

/-- `set_source`, run to completion.  `awaited` is the stack's state when it is
read again behind the connection gate. -/
def setSource (call : GroupCall) (streams : Streams) (awaited : ConnState) :
    Outcome Unit :=
  if call.closed then
    call.refuse .closed
  else if call.stackState ≠ .connected ∧ call.netState ≠ .connected ∧
      awaited ≠ .connected then
    call.refuse (.internal "WebRTC connection timed out before set_source")
  else
    let prev := call.currentState
    let retired := call.audioStreamer.toList ++ call.videoStreamer.toList
    let hasAudio := streams.audio.isSome
    let hasVideo := streams.video.isSome
    let syncBarrier := if hasAudio ∧ hasVideo then some 2 else none
    let installed := { call with
      hadAudio := hasAudio
      hadVideo := hasVideo
      endedOnce := false
      audioStreamer := streams.audio.map (call.audioLeg syncBarrier)
      videoStreamer := streams.video.map (call.videoLeg syncBarrier hasAudio) }
    ⟨installed, .ok (), installed.fireUpgradeIfChanged prev,
      retired.map Streamer.stop⟩

/-- The course pause, resume, mute and unmute share: the swapped flag already
had its value, or the streamers are told and a change is reported. -/
def toggle (call : GroupCall) (unchanged : Bool) (swapped : GroupCall)
    (audio video : Streamer EndCallback → Streamer EndCallback) :
    Outcome Bool :=
  if call.closed then
    call.refuse .closed
  else if unchanged then
    ⟨call, .ok false, [], []⟩
  else
    -- the source takes the previous state only after the swap
    let prev := swapped.currentState
    let told := { swapped with
      audioStreamer := swapped.audioStreamer.map audio
      videoStreamer := swapped.videoStreamer.map video }
    ⟨told, .ok true, told.fireUpgradeIfChanged prev, []⟩

def pause (call : GroupCall) : Outcome Bool :=
  call.toggle call.paused { call with paused := true }
    Streamer.pause Streamer.pause

def resume (call : GroupCall) : Outcome Bool :=
  call.toggle (!call.paused) { call with paused := false }
    Streamer.resume Streamer.resume

def mute (call : GroupCall) : Outcome Bool :=
  call.toggle call.muted { call with muted := true } Streamer.pause id

def unmute (call : GroupCall) : Outcome Bool :=
  call.toggle (!call.muted) { call with muted := false } Streamer.resume id

/-- `stop`; the stack is closed by a task of its own. -/
def stop (call : GroupCall) : Outcome Unit :=
  if call.closed then
    ⟨call, .ok (), [], []⟩
  else
    ⟨{ call with
        closed := true
        audioStreamer := none
        videoStreamer := none
        resumeMs := 0
        paused := false
        muted := false },
      .ok (), [],
      (call.audioStreamer.toList ++ call.videoStreamer.toList).map
        Streamer.stop⟩

def seekBy (_call : GroupCall) (_deltaMs : Int) :
    Except RustTgCallsError Unit :=
  .error .seekUnsupported

def elapsedMs (call : GroupCall) : Nat := call.resumeMs

end GroupCall

end RustTgCalls.Instances
