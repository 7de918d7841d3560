import RustTgCalls.Instances.GroupCall
import RustTgCalls.Instances.RtmpCall

namespace RustTgCalls

namespace Media.Streamer

/-- The pacing task has left its loop: `done_flag` is set and the callback slot
taken. -/
def finish {Callback : Type} (streamer : Streamer Callback) : Streamer Callback :=
  { streamer with doneFlag := true, onEnd := none }

end Media.Streamer

namespace Instances

open Media

namespace GroupCall

/-- `connect` up to the stack, which tells the call the rest. -/
def beginConnect (call : GroupCall) : Outcome Unit :=
  if call.closed then call.refuse .closed
  else ⟨{ call with connectCalled := true }, .ok (), [], []⟩

/-- A leg that has not come to its end. -/
def playing (call : GroupCall) (leg : StreamType) : Option (Streamer EndCallback) :=
  let streamer := match leg with
    | .audio => call.audioStreamer
    | .video => call.videoStreamer
  streamer.filter fun streamer => !streamer.doneFlag

/-- A leg comes to its end by itself: the moment is that at which its task takes the
callback. -/
def legEnded (call : GroupCall) (leg : StreamType) : GroupCall :=
  match leg with
  | .audio => { call with audioStreamer := call.audioStreamer.map Streamer.finish }
  | .video => { call with videoStreamer := call.videoStreamer.map Streamer.finish }

end GroupCall

namespace RTMPCall

def netState (call : RTMPCall) : ConnState :=
  if call.closed then .closed
  else if call.cmd.isNone then .connecting
  else .connected

end RTMPCall

/-- What the client's map holds. -/
inductive Call where
  | group (call : GroupCall)
  | rtmp (call : RTMPCall)
  deriving DecidableEq, Repr

/-- The methods of a call, with what the world answers them: the stack's state
behind the gate of `set_source`, the clock, and the spawn of ffmpeg. -/
inductive Op where
  | connect
  | setSource (streams : Streams) (awaited : ConnState) (now : Instant)
      (answer : Except String Nat)
  | pause (now : Instant)
  | resume (now : Instant) (answer : Except String Nat)
  | mute
  | unmute
  | stop
  | seekBy (now : Instant) (deltaMs : Int)

/-- What happens to a call: its transport stores a state, the stack's state
callback runs, `connect` stores its success, a leg or the ffmpeg process comes to
its end by itself. -/
inductive Event where
  | transport (state : ConnState)
  | stateChanged (state : ConnState)
  | connected
  | legEnded (leg : StreamType) (error : Option RustTgCallsError)
  | processExited (error : Option RustTgCallsError)

namespace Call

def netState : Call → ConnState
  | .group call => call.netState
  | .rtmp call => call.netState

def closed : Call → Bool
  | .group call => call.closed
  | .rtmp call => call.closed

/-- Neither Failed nor Closed. -/
def live (call : Call) : Bool :=
  match call.netState with
  | .failed | .closed => false
  | _ => true

def ofOutcome {α : Type} (outcome : Outcome α) : Call × Except RustTgCallsError Unit :=
  (.group outcome.call, outcome.result.map fun _ => ())

def ofPush {α : Type} (outcome : PushOutcome α) : Call × Except RustTgCallsError Unit :=
  (.rtmp outcome.call, outcome.result.map fun _ => ())

section Perform

variable (formatSeconds : Nat → String)

def perform : Call → Op → Call × Except RustTgCallsError Unit
  | .group call, .connect => ofOutcome call.beginConnect
  | .group call, .setSource streams awaited _ _ => ofOutcome (call.setSource streams awaited)
  | .group call, .pause _ => ofOutcome call.pause
  | .group call, .resume _ _ => ofOutcome call.resume
  | .group call, .mute => ofOutcome call.mute
  | .group call, .unmute => ofOutcome call.unmute
  | .group call, .stop => ofOutcome call.stop
  | .group call, .seekBy _ deltaMs => (.group call, call.seekBy deltaMs)
  | .rtmp call, .connect => (.rtmp call, .error .wrongMode)
  | .rtmp call, .setSource _ _ now answer => ofPush (call.setSource formatSeconds now answer)
  | .rtmp call, .pause now => ofPush (call.pause now)
  | .rtmp call, .resume now answer => ofPush (call.resume formatSeconds now answer)
  | .rtmp call, .mute => ofPush call.mute
  | .rtmp call, .unmute => ofPush call.unmute
  | .rtmp call, .stop => ofPush call.stop
  | .rtmp call, .seekBy now deltaMs => ofPush (call.seekBy now deltaMs)

end Perform

/-- What is called on an RTMP call when its ffmpeg exits is nothing. -/
def undergo : Call → Event → Call
  | .group call, .transport state => .group { call with stackState := state }
  | .group call, .stateChanged state => .group { call with netState := state }
  | .group call, .connected => .group { call with netState := .connected }
  | .group call, .legEnded leg _ => .group (call.legEnded leg)
  | call, _ => call

section Perform

variable (formatSeconds : Nat → String)

/-- A method of a closed call changes nothing. -/
theorem perform_of_closed {call : Call} (hclosed : call.closed = true) (op : Op) :
    (call.perform formatSeconds op).1 = call := by
  cases call with
  | group call =>
      have hclosed : call.closed = true := hclosed
      cases op <;> simp [perform, ofOutcome, GroupCall.beginConnect, GroupCall.setSource,
        GroupCall.pause, GroupCall.resume, GroupCall.mute, GroupCall.unmute,
        GroupCall.toggle, GroupCall.stop, GroupCall.refuse, hclosed]
  | rtmp call =>
      have hclosed : call.closed = true := hclosed
      cases op <;> simp [perform, ofPush, RTMPCall.setSource, RTMPCall.pause,
        RTMPCall.resume, RTMPCall.mute, RTMPCall.unmute, RTMPCall.toggleMuted,
        RTMPCall.stop, RTMPCall.seekBy, RTMPCall.refuse, hclosed]

theorem closed_of_stop (call : Call) : (call.perform formatSeconds .stop).1.closed = true := by
  cases call with
  | group call =>
      simp only [perform, ofOutcome, GroupCall.stop, closed]
      split
      next hclosed => exact hclosed
      next => rfl
  | rtmp call =>
      simp only [perform, ofPush, RTMPCall.stop, closed]
      split
      next hclosed => exact hclosed
      next => rfl

end Perform

theorem closed_undergo (call : Call) (event : Event) :
    (call.undergo event).closed = call.closed := by
  cases call with
  | group call =>
      cases event with
      | legEnded leg error => cases leg <;> rfl
      | _ => rfl
  | rtmp call => cases event <;> rfl

/-! The routes on which a call becomes Failed or Closed. -/

/-- A seek that would come out below zero. -/
def seeksBelow (call : RTMPCall) (now : Instant) (deltaMs : Int) : Bool :=
  asI64 (asI64 (call.elapsedMs now) + deltaMs) < 0

def killedBy : Call → Op → Bool
  | .rtmp _, .stop => true
  | .rtmp call, .seekBy now deltaMs => seeksBelow call now deltaMs
  | _, _ => false

def diesOf : Call → Event → Bool
  | .group _, .stateChanged .failed | .group _, .stateChanged .closed => true
  | _, _ => false

theorem live_rtmp (call : RTMPCall) : live (.rtmp call) = !call.closed := by
  cases hclosed : call.closed <;> cases hcmd : call.cmd <;>
    simp [live, netState, RTMPCall.netState, hclosed, hcmd]

section Perform

variable (formatSeconds : Nat → String)

theorem netState_toggle (call swapped : GroupCall) (unchanged : Bool)
    (audio video : Streamer EndCallback → Streamer EndCallback)
    (hswapped : swapped.netState = call.netState) :
    (call.toggle unchanged swapped audio video).call.netState = call.netState := by
  unfold GroupCall.toggle
  split
  · rfl
  · split
    · rfl
    · exact hswapped

/-- No method of a group call writes `net_state` but `connect`, by its events. -/
theorem netState_perform_group (call : GroupCall) (op : Op) :
    (perform formatSeconds (.group call) op).1.netState = call.netState := by
  cases op with
  | connect =>
      simp only [perform, ofOutcome, GroupCall.beginConnect, netState]
      split <;> rfl
  | setSource streams awaited now answer =>
      simp only [perform, ofOutcome, GroupCall.setSource, netState]
      split
      · rfl
      · split <;> rfl
  | pause now | resume now answer | mute | unmute =>
      exact netState_toggle _ _ _ _ _ rfl
  | stop =>
      simp only [perform, ofOutcome, GroupCall.stop, netState]
      split <;> rfl
  | seekBy now deltaMs => rfl

theorem closed_setSource (call : RTMPCall) (now : Instant) (answer : Except String Nat) :
    (call.setSource formatSeconds now answer).call.closed = call.closed := by
  unfold RTMPCall.setSource
  split
  · rfl
  · split <;> rfl

theorem closed_pause (call : RTMPCall) (now : Instant) :
    (call.pause now).call.closed = call.closed := by
  unfold RTMPCall.pause
  split
  · rfl
  · split <;> rfl

theorem closed_resume (call : RTMPCall) (now : Instant) (answer : Except String Nat) :
    (call.resume formatSeconds now answer).call.closed = call.closed := by
  unfold RTMPCall.resume
  split
  · rfl
  · split
    · rfl
    · dsimp only
      split <;> rfl

theorem closed_toggleMuted (call : RTMPCall) (muted : Bool) :
    (call.toggleMuted muted).call.closed = call.closed := by
  unfold RTMPCall.toggleMuted
  split
  · rfl
  · split <;> rfl

theorem closed_stop (call : RTMPCall) : call.stop.call.closed = true := by
  unfold RTMPCall.stop
  split
  next hclosed => exact hclosed
  next => rfl

theorem closed_seekBy {call : RTMPCall} (hopen : call.closed = false) (now : Instant)
    (deltaMs : Int) :
    (call.seekBy now deltaMs).call.closed = seeksBelow call now deltaMs := by
  simp only [RTMPCall.seekBy, seeksBelow, hopen, Bool.false_eq_true, if_false]
  split
  next hbelow =>
    rw [closed_stop]
    exact (decide_eq_true hbelow).symm
  next hbelow => exact (decide_eq_false hbelow).symm

/-- An open RTMP call is closed by `stop`, and by a seek below zero. -/
theorem closed_perform_rtmp {call : RTMPCall} (hopen : call.closed = false) (op : Op) :
    (perform formatSeconds (.rtmp call) op).1.closed = (Call.rtmp call).killedBy op := by
  cases op with
  | connect => exact hopen
  | setSource streams awaited now answer =>
      exact (closed_setSource formatSeconds call now answer).trans hopen
  | pause now => exact (closed_pause call now).trans hopen
  | resume now answer => exact (closed_resume formatSeconds call now answer).trans hopen
  | mute | unmute => exact (closed_toggleMuted call _).trans hopen
  | stop => exact closed_stop call
  | seekBy now deltaMs => exact closed_seekBy hopen now deltaMs

theorem live_perform {call : Call} (hlive : call.live = true) (op : Op) :
    (call.perform formatSeconds op).1.live = !call.killedBy op := by
  cases call with
  | group call =>
      have hstate := netState_perform_group formatSeconds call op
      have hsame : (perform formatSeconds (.group call) op).1.live =
          (Call.group call).live := by
        simp only [live, hstate]
        rfl
      rw [hsame, hlive]
      cases op <;> rfl
  | rtmp call =>
      have hopen : call.closed = false := by simpa [live_rtmp] using hlive
      have hclosed := closed_perform_rtmp formatSeconds hopen op
      cases hafter : (perform formatSeconds (.rtmp call) op).1 with
      | rtmp after =>
          rw [hafter] at hclosed
          rw [live_rtmp, ← hclosed]
          rfl
      | group after => cases op <;> simp [perform, ofPush] at hafter

end Perform

theorem live_undergo {call : Call} (hlive : call.live = true) (event : Event) :
    (call.undergo event).live = !call.diesOf event := by
  cases call with
  | group call =>
      cases event with
      | stateChanged state => cases state <;> rfl
      | connected => rfl
      | transport state | processExited error => exact hlive
      | legEnded leg error => cases leg <;> exact hlive
  | rtmp call => cases event <;> exact hlive

end Call

end Instances

end RustTgCalls
