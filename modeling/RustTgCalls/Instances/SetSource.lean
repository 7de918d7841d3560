import RustTgCalls.Media.Playing
import RustTgCalls.Utils.Dispatcher
import Mathlib.Logic.Function.Basic

namespace RustTgCalls.Instances

open Media Utils

/-! `set_source` and `stop` of one `GroupCall`, any number of the former, among
the tasks of the streamers they install and retire.  A step makes at most one
access to what they share. -/

structure Sources (Reader : Type) where
  audio : Option Reader
  video : Option Reader

namespace Sources

variable {Reader : Type}

def get (sources : Sources Reader) : StreamType → Option Reader
  | .audio => sources.audio
  | .video => sources.video

def paired (sources : Sources Reader) : Bool :=
  sources.audio.isSome && sources.video.isSome

end Sources

inductive Caller where
  | setSource (id : Nat)
  | stop
  deriving DecidableEq, Repr

/-- `partner` is the audio streamer whose barrier a video streamer will share. -/
inductive SetSourceAt where
  | testClosed
  | gate
  | lock (side : StreamType)
  | take (side : StreamType)
  | clear (side : StreamType) (old : Nat)
  | halt (side : StreamType) (old : Nat)
  | spawn (side : StreamType) (partner : Option Nat)
  | ifMuted (streamer : Nat)
  | ifPaused (side : StreamType) (streamer : Nat)
  | pause (side : StreamType) (streamer : Nat)
  | register (side : StreamType) (streamer : Nat)
  | store (side : StreamType) (streamer : Nat)
  | unlock (side : StreamType)
  | finish
  | returned (result : Except RustTgCallsError Unit)

structure SetSource (Reader : Type) where
  sources : Sources Reader
  stage : SetSourceAt

inductive StopAt where
  | idle
  | lock (side : StreamType)
  | take (side : StreamType)
  | clear (side : StreamType) (old : Nat)
  | halt (side : StreamType) (old : Nat)
  | unlock (side : StreamType)
  | clearPaused
  | clearMuted
  | returned
  deriving DecidableEq, Repr

/-- Streamers are known by the order of their creation, and a submission to the
dispatcher that reports an end by its streamer and error.  `invoked` lists what
`on_stream_end` was called with for each streamer. -/
structure Sourcing (Reader : Type) where
  closed : Bool
  paused : Bool
  muted : Bool
  onStreamEnd : Bool
  slots : StreamType → Option Nat
  locks : StreamType → Option Caller
  streamers : Nat → Option (Playing Reader)
  partner : Nat → Option Nat
  created : Nat
  setSources : Nat → Option (SetSource Reader)
  started : Nat
  stopAt : StopAt
  retiredBy : Nat → Option Caller
  dispatcher : Option Dispatcher
  jobs : Nat → Option (Nat × Option RustTgCallsError)
  invoked : Nat → List (Option RustTgCallsError)

namespace Sourcing

variable {Reader : Type}

def new (paused muted onStreamEnd : Bool) (dispatcher : Option Nat) :
    Sourcing Reader where
  closed := false
  paused
  muted
  onStreamEnd
  slots := fun _ => none
  locks := fun _ => none
  streamers := fun _ => none
  partner := fun _ => none
  created := 0
  setSources := fun _ => none
  started := 0
  stopAt := .idle
  retiredBy := fun _ => none
  dispatcher := dispatcher.map .new
  jobs := fun _ => none
  invoked := fun _ => []

/-- `connected` is whether the stack is connected when a `set_source` is let
through its gate. -/
inductive Action (Reader : Type) where
  | setSource (sources : Sources Reader)
  | setSourceStep (id : Nat) (connected : Bool)
  | stop
  | stopStep
  | reader (streamer : Nat) (stalled : Bool)
  | pacing (streamer : Nat) (input : PacingInput)
  | report (streamer : Nat)
  | dispatch (action : Dispatcher.Action)

/-- One access of a `set_source` or a `stop`. -/
inductive Access (Reader : Type) where
  | none
  | lock (side : StreamType) (caller : Caller)
  | unlock (side : StreamType)
  | take (side : StreamType) (caller : Caller)
  | clearOnEnd (old : Nat)
  | stopRunning (old : Nat)
  | spawn (reader : Reader) (syncBarrier : Bool) (partner : Option Nat)
  | pause (streamer : Nat)
  | register (streamer : Nat)
  | store (side : StreamType) (streamer : Nat)
  | clearPaused
  | clearMuted

def alter (state : Sourcing Reader) (streamer : Nat)
    (change : Playing Reader → Playing Reader) : Sourcing Reader :=
  { state with
    streamers := Function.update state.streamers streamer
      ((state.streamers streamer).map change) }

def access (state : Sourcing Reader) : Access Reader → Sourcing Reader
  | .none => state
  | .lock side caller =>
      { state with locks := Function.update state.locks side (some caller) }
  | .unlock side =>
      { state with locks := Function.update state.locks side .none }
  | .take side caller =>
      match state.slots side with
      | some old =>
          { state with
            slots := Function.update state.slots side .none
            retiredBy := Function.update state.retiredBy old (some caller) }
      | .none => state
  -- the two stores of `Streamer::stop`
  | .clearOnEnd old =>
      state.alter old fun playing => { playing with onEnd := false }
  | .stopRunning old =>
      state.alter old fun playing =>
        { playing with leg := { playing.leg with running := false } }
  | .spawn reader syncBarrier partner =>
      let spawned := { state with
        created := state.created + 1
        streamers := Function.update state.streamers state.created
          (some (.new reader syncBarrier false)) }
      match partner with
      | some audio =>
          { spawned with
            partner := Function.update
              (Function.update state.partner state.created (some audio))
              audio (some state.created) }
      | .none => spawned
  | .pause streamer =>
      state.alter streamer fun playing =>
        { playing with leg := { playing.leg with paused := true } }
  | .register streamer =>
      state.alter streamer fun playing => { playing with onEnd := true }
  | .store side streamer =>
      { state with slots := Function.update state.slots side (some streamer) }
  | .clearPaused => { state with paused := false }
  | .clearMuted => { state with muted := false }

def takenNext : StreamType → SetSourceAt
  | .audio => .take .video
  | .video => .spawn .audio none

def storedNext (side : StreamType) (streamer : Option Nat) : SetSourceAt :=
  match side with
  | .audio => .spawn .video streamer
  | .video => .unlock .audio

/-- A step of `set_source` number `id`: where it goes on and what it accesses. -/
def setSourceTurn (state : Sourcing Reader) (id : Nat) (connected : Bool)
    (sources : Sources Reader) : SetSourceAt → SetSourceAt × Access Reader
  | .testClosed =>
      (if state.closed then .returned (.error .closed) else .gate, .none)
  | .gate =>
      (if connected then .lock .audio
        else .returned (.error (.internal
          "WebRTC connection timed out before set_source")), .none)
  | .lock side =>
      match state.locks side, side with
      | some _, _ => (.lock side, .none)
      | none, .audio => (.lock .video, .lock .audio (.setSource id))
      | none, .video => (.take .audio, .lock .video (.setSource id))
  | .take side =>
      match state.slots side with
      | some old => (.clear side old, .take side (.setSource id))
      | none => (takenNext side, .none)
  | .clear side old => (.halt side old, .clearOnEnd old)
  | .halt side old => (takenNext side, .stopRunning old)
  | .spawn side partner =>
      match sources.get side, side with
      | some reader, .audio =>
          (.ifMuted state.created, .spawn reader sources.paired none)
      | some reader, .video =>
          (.ifPaused .video state.created, .spawn reader sources.paired partner)
      | none, _ => (storedNext side none, .none)
  | .ifMuted streamer =>
      (if state.muted then .pause .audio streamer else .ifPaused .audio streamer,
        .none)
  | .ifPaused side streamer =>
      (if state.paused then .pause side streamer else .register side streamer,
        .none)
  | .pause side streamer => (.register side streamer, .pause streamer)
  -- of two streamers only the audio one reports its end
  | .register side streamer =>
      (.store side streamer,
        if side = .audio ∨ sources.audio.isNone then .register streamer
        else .none)
  | .store side streamer =>
      (storedNext side (some streamer), .store side streamer)
  | .unlock side =>
      (match side with
        | .audio => .unlock .video
        | .video => .finish, .unlock side)
  | .finish => (.returned (.ok ()), .none)
  | .returned result => (.returned result, .none)

/-- A step of the `stop` that has swapped `closed`; one that finds it set returns
at once. -/
def stopTurn (state : Sourcing Reader) : StopAt → StopAt × Access Reader
  | .idle => (.idle, .none)
  | .lock side =>
      match state.locks side with
      | some _ => (.lock side, .none)
      | none => (.take side, .lock side .stop)
  | .take side =>
      match state.slots side with
      | some old => (.clear side old, .take side .stop)
      | none => (.unlock side, .none)
  | .clear side old => (.halt side old, .clearOnEnd old)
  | .halt side old => (.unlock side, .stopRunning old)
  | .unlock side =>
      (match side with
        | .audio => .lock .video
        | .video => .clearPaused, .unlock side)
  | .clearPaused => (.clearMuted, .clearPaused)
  | .clearMuted => (.returned, .clearMuted)
  | .returned => (.returned, .none)

/-- About to arrive at the barrier it shares. -/
def arriving (playing : Playing Reader) : Bool :=
  match playing.leg.pacingAt with
  | .ifFirst _ => playing.leg.firstSample && playing.syncBarrier
  | _ => false

/-- The other streamer of the barrier, where it waits there. -/
def waiting (state : Sourcing Reader) (streamer : Nat) :
    Option (Nat × Playing Reader) :=
  match state.partner streamer with
  | some partner =>
      match state.streamers partner with
      | some playing => if playing.leg.waits then some (partner, playing) else none
      | none => none
  | none => none

def freed (playing : Playing Reader) : Playing Reader :=
  { playing with leg := playing.leg.release }

/-- The second arrival at the barrier lets both streamers go. -/
def pacing (state : Sourcing Reader) (streamer : Nat) (input : PacingInput) :
    Sourcing Reader :=
  match state.streamers streamer with
  | some playing =>
      let paced := playing.pacing input
      match (if arriving playing then state.waiting streamer else none) with
      | some (partner, other) =>
          { state with
            streamers := Function.update
              (Function.update state.streamers streamer (some (freed paced)))
              partner (some (freed other)) }
      | none =>
          { state with
            streamers :=
              Function.update state.streamers streamer (some paced) }
  | none => state

/-- The closure `set_source` registers, called with the error of the end. -/
def fire (state : Sourcing Reader) (streamer : Nat)
    (error : Option RustTgCallsError) : Sourcing Reader :=
  if state.onStreamEnd then
    match state.dispatcher with
    | some dispatcher =>
        { state with
          dispatcher := some dispatcher.submit
          jobs := Function.update state.jobs dispatcher.submitted
            (some (streamer, error)) }
    | none =>
        { state with
          invoked := Function.update state.invoked streamer
            (state.invoked streamer ++ [error]) }
  else state

def firing (playing : Playing Reader) : Bool :=
  match playing.leg.pacingAt, playing.reportAt with
  | .ended, .call true => true
  | _, _ => false

def report (state : Sourcing Reader) (streamer : Nat) : Sourcing Reader :=
  match state.streamers streamer with
  | some playing =>
      let reported := state.alter streamer Playing.report
      if firing playing then reported.fire streamer playing.leg.endError
      else reported
  | none => state

/-- The dispatcher's worker, and what others submit to it. -/
def dispatch (state : Sourcing Reader) (action : Dispatcher.Action) :
    Sourcing Reader :=
  match state.dispatcher with
  | some dispatcher =>
      let left := { state with dispatcher := some (dispatcher.next action) }
      match action, dispatcher.running with
      | .submit, _ =>
          { left with
            jobs := Function.update state.jobs dispatcher.submitted none }
      | .execute, some task =>
          match state.jobs task with
          | some (streamer, error) =>
              { left with
                invoked := Function.update state.invoked streamer
                  (state.invoked streamer ++ [error]) }
          | none => left
      | _, _ => left
  | none => state

def setSourceStep (state : Sourcing Reader) (id : Nat) (connected : Bool) :
    Sourcing Reader :=
  match state.setSources id with
  | some call =>
      let turn := state.setSourceTurn id connected call.sources call.stage
      { state.access turn.2 with
        setSources := Function.update state.setSources id
          (some { call with stage := turn.1 }) }
  | none => state

def stopStep (state : Sourcing Reader) : Sourcing Reader :=
  let turn := state.stopTurn state.stopAt
  { state.access turn.2 with stopAt := turn.1 }

def next (nextSample : Reader → Except RustTgCallsError Sample × Reader)
    (state : Sourcing Reader) : Action Reader → Sourcing Reader
  | .setSource sources =>
      { state with
        started := state.started + 1
        setSources := Function.update state.setSources state.started
          (some ⟨sources, .testClosed⟩) }
  | .setSourceStep id connected => state.setSourceStep id connected
  | .stop =>
      if state.closed then state
      else { state with closed := true, stopAt := .lock .audio }
  | .stopStep => state.stopStep
  | .reader streamer stalled =>
      state.alter streamer fun playing =>
        { playing with leg := playing.leg.readerStep nextSample stalled }
  | .pacing streamer input => state.pacing streamer input
  | .report streamer => state.report streamer
  | .dispatch action => state.dispatch action

end Sourcing

end RustTgCalls.Instances
