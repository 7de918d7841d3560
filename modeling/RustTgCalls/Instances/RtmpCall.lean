import RustTgCalls.Media.Source

namespace RustTgCalls.Instances

open Media

/-- `as u64` and wrapping `u64` arithmetic. -/
def asU64 (value : Nat) : Nat := value % UInt64.size

/-- `as i64` and wrapping `i64` arithmetic. -/
def asI64 (value : Int) : Int := value.bmod UInt64.size

/-- The ffmpeg process behind a `ShellReader`: its id, the seek offset its argv
was built for, and the argv. -/
structure PushProcess where
  pid : Nat
  seekMs : Nat
  args : List String
  deriving DecidableEq, Repr

/-- An RTMP call.  `hasUpgrade` is whether an `on_upgrade` callback is set. -/
structure RTMPCall where
  chatId : Int
  rtmpUrl : String
  hasUpgrade : Bool
  cmd : Option PushProcess
  startedAt : Option Instant
  closed : Bool
  paused : Bool
  muted : Bool
  resumeMs : Nat
  deriving DecidableEq, Repr

/-- A completed operation: the call it leaves, what it returns, the states
handed to `on_upgrade`, the process it has spawned and the one it has scheduled
for closing. -/
structure PushOutcome (α : Type) where
  call : RTMPCall
  result : Except RustTgCallsError α
  upgrades : List MediaState
  spawned : Option PushProcess
  closing : Option PushProcess

/-- The argv of one push; `formatSeconds` renders milliseconds as seconds with
three decimals. -/
def buildRtmpArgs (formatSeconds : Nat → String) (inputPath : String)
    (seekMs : Nat) (opt : EncodeOptions) (rtmpUrl : String) : List String :=
  ["-hide_banner", "-loglevel", "error", "-nostdin", "-re"] ++
    (if seekMs > 0 then ["-ss", formatSeconds seekMs] else []) ++
    ["-i", inputPath, "-c:v", "libx264", "-preset", "veryfast",
      "-tune", "zerolatency",
      "-b:v", toString opt.videoBitrateKbps ++ "k",
      "-r", toString opt.videoFps,
      "-vf", "scale=" ++ toString opt.videoWidth ++ ":" ++
        toString opt.videoHeight,
      "-pix_fmt", "yuv420p",
      "-g", toString (opt.videoFps * 2),
      "-c:a", "aac",
      "-b:a", toString opt.audioBitrateKbps ++ "k",
      "-ar", "44100",
      "-ac", toString opt.audioChannels,
      "-f", "flv", rtmpUrl]

namespace RTMPCall

def newWithEvents (chatId : Int) (rtmpUrl : String) (hasUpgrade : Bool) :
    RTMPCall where
  chatId := chatId
  rtmpUrl := rtmpUrl
  hasUpgrade := hasUpgrade
  cmd := none
  startedAt := none
  closed := false
  paused := false
  muted := false
  resumeMs := 0

def currentState (call : RTMPCall) : MediaState :=
  let silent := call.muted || call.paused
  { muted := call.muted
    paused := silent
    videoStopped := false
    presentationPaused := silent }

def fireUpgradeIfChanged (call : RTMPCall) (prev : MediaState) :
    List MediaState :=
  let cur := call.currentState
  if prev = cur then []
  else if call.hasUpgrade then [cur]
  else []

def refuse (call : RTMPCall) (error : RustTgCallsError) : PushOutcome α :=
  ⟨call, .error error, [], none, none⟩

def elapsedMs (call : RTMPCall) (now : Instant) : Nat :=
  if call.paused then
    call.resumeMs
  else
    match call.startedAt with
    | some t => asU64 (call.resumeMs + asU64 (Duration.asMillis (now - t)))
    | none => 0

section Operations

variable (formatSeconds : Nat → String)

/-- `ShellReader::new("ffmpeg", ..)` for a push from `seekMs`, given what the
operating system answers to the spawn. -/
def spawnPush (call : RTMPCall) (seekMs : Nat) (answer : Except String Nat) :
    Except RustTgCallsError PushProcess :=
  match answer with
  | .error detail => .error (.ffmpegSpawn detail)
  | .ok pid => .ok ⟨pid, seekMs,
      buildRtmpArgs formatSeconds "input.mp4" seekMs EncodeOptions.default
        call.rtmpUrl⟩

def setSource (call : RTMPCall) (now : Instant) (answer : Except String Nat) :
    PushOutcome Unit :=
  if call.closed then
    call.refuse .closed
  else
    match call.spawnPush formatSeconds 0 answer with
    | .error error => call.refuse error
    | .ok cmd =>
        -- the previous content of the slot is dropped, not closed
        ⟨{ call with startedAt := some now, cmd := some cmd, resumeMs := 0 },
          .ok (), [], some cmd, none⟩

def pause (call : RTMPCall) (now : Instant) : PushOutcome Bool :=
  if call.closed then
    call.refuse .closed
  else if call.paused then
    ⟨call, .ok false, [], none, none⟩
  else
    let swapped := { call with paused := true }
    let prev := swapped.currentState
    -- read with the flag already set
    let cur := swapped.elapsedMs now
    let paused := { swapped with resumeMs := cur, cmd := none }
    ⟨paused, .ok true, paused.fireUpgradeIfChanged prev, none, swapped.cmd⟩

def resume (call : RTMPCall) (now : Instant) (answer : Except String Nat) :
    PushOutcome Bool :=
  if call.closed then
    call.refuse .closed
  else if !call.paused then
    ⟨call, .ok false, [], none, none⟩
  else
    let swapped := { call with paused := false }
    let prev := swapped.currentState
    match swapped.spawnPush formatSeconds swapped.resumeMs answer with
    | .error error => swapped.refuse error
    | .ok cmd =>
        let resumed := { swapped with startedAt := some now, cmd := some cmd }
        ⟨resumed, .ok true, resumed.fireUpgradeIfChanged prev, some cmd, none⟩

def toggleMuted (call : RTMPCall) (muted : Bool) : PushOutcome Bool :=
  if call.closed then
    call.refuse .closed
  else if call.muted = muted then
    ⟨call, .ok false, [], none, none⟩
  else
    let swapped := { call with muted := muted }
    let prev := swapped.currentState
    ⟨swapped, .ok true, swapped.fireUpgradeIfChanged prev, none, none⟩

def mute (call : RTMPCall) : PushOutcome Bool := call.toggleMuted true

def unmute (call : RTMPCall) : PushOutcome Bool := call.toggleMuted false

def stop (call : RTMPCall) : PushOutcome Unit :=
  if call.closed then
    ⟨call, .ok (), [], none, none⟩
  else
    ⟨{ call with
        closed := true
        cmd := none
        resumeMs := 0
        paused := false
        muted := false },
      .ok (), [], none, call.cmd⟩

def seekBy (call : RTMPCall) (now : Instant) (deltaMs : Int) :
    PushOutcome Unit :=
  if call.closed then
    call.refuse .closed
  else
    let cur := asI64 (call.elapsedMs now)
    let target := asI64 (cur + deltaMs)
    if target < 0 then
      call.stop
    else
      ⟨{ call with resumeMs := asU64 target.toNat }, .ok (), [], none, none⟩

end Operations

end RTMPCall

end RustTgCalls.Instances
