import RustTgCalls.Instances.Call

namespace RustTgCalls.Instances

open Media

/-! `set_source` step by step: the test for a closed call, what follows the gate up
to the construction of the first leg, and the registration of that leg's end. -/

/-- What `set_source` has still to do with the locks of both streamers in its hand:
it registers the callback of the leg that it has constructed, and constructs a video
leg behind an audio one. -/
structure Installing where
  leg : StreamType
  video : Option Bytes
  deriving DecidableEq, Repr

namespace GroupCall

/-- The task of the leg runs before its end is registered. -/
def beginSource (call : GroupCall) (streams : Streams) (awaited : ConnState) :
    GroupCall × Option Installing :=
  if call.stackState ≠ .connected ∧ call.netState ≠ .connected ∧ awaited ≠ .connected then
    (call, none)
  else
    let syncBarrier := if streams.audio.isSome ∧ streams.video.isSome then some 2 else none
    let emptied := { call with
      hadAudio := streams.audio.isSome
      hadVideo := streams.video.isSome
      endedOnce := false
      audioStreamer := none
      videoStreamer := none }
    match streams.audio, streams.video with
    | some source, video =>
        ({ emptied with
            audioStreamer := some { call.audioLeg syncBarrier source with onEnd := none } },
          some ⟨.audio, video⟩)
    | none, some source =>
        ({ emptied with
            videoStreamer := some { call.videoLeg syncBarrier false source with onEnd := none } },
          some ⟨.video, none⟩)
    | none, none => (emptied, none)

def registerEnd (call : GroupCall) (installing : Installing) : GroupCall :=
  match installing.leg with
  | .audio =>
      { call with
        audioStreamer := call.audioStreamer.map (·.setOnEnd ⟨.audio, .microphone⟩)
        -- beside an audio leg the end of a video leg is not registered
        videoStreamer := installing.video.map (call.videoLeg (some 2) true) }
  | .video =>
      { call with
        videoStreamer := call.videoStreamer.map (·.setOnEnd ⟨.video, .camera⟩) }

/-- With nothing between them, the steps are `set_source`. -/
theorem setSource_of_steps {call : GroupCall} (hopen : call.closed = false)
    (streams : Streams) (awaited : ConnState) :
    (call.setSource streams awaited).call =
      (call.beginSource streams awaited).2.elim (call.beginSource streams awaited).1
        (call.beginSource streams awaited).1.registerEnd := by
  obtain ⟨audio, video, hook⟩ := streams
  unfold setSource beginSource
  simp only [hopen, Bool.false_eq_true, if_false]
  split
  · rfl
  · cases audio with
    | some source => cases video <;> rfl
    | none =>
        cases video with
        | none => rfl
        | some source =>
            cases hpaused : call.paused <;> simp [registerEnd, videoLeg, hpaused, Streamer.setOnEnd]

/-- Its steps write neither flag that tells whether the call lives. -/
theorem beginSource_keeps (call : GroupCall) (streams : Streams) (awaited : ConnState) :
    (call.beginSource streams awaited).1.closed = call.closed ∧
      (call.beginSource streams awaited).1.netState = call.netState := by
  unfold beginSource
  split
  · exact ⟨rfl, rfl⟩
  · dsimp only
    split <;> exact ⟨rfl, rfl⟩

theorem registerEnd_keeps (call : GroupCall) (installing : Installing) :
    (call.registerEnd installing).closed = call.closed ∧
      (call.registerEnd installing).netState = call.netState := by
  unfold registerEnd
  split <;> exact ⟨rfl, rfl⟩

end GroupCall

/-- `set_source` of an RTMP call past its test. -/
def RTMPCall.beginSource (formatSeconds : Nat → String) (call : RTMPCall) (now : Instant)
    (answer : Except String Nat) : RTMPCall :=
  match call.spawnPush formatSeconds 0 answer with
  | .error _ => call
  | .ok cmd => { call with startedAt := some now, cmd := some cmd, resumeMs := 0 }

theorem RTMPCall.setSource_of_step (formatSeconds : Nat → String) {call : RTMPCall}
    (hopen : call.closed = false) (now : Instant) (answer : Except String Nat) :
    (call.setSource formatSeconds now answer).call =
      call.beginSource formatSeconds now answer := by
  unfold setSource beginSource
  simp only [hopen, Bool.false_eq_true, if_false]
  cases call.spawnPush formatSeconds 0 answer <;> rfl

/-- The methods that take the locks of the streamers. -/
def Op.locks : Op → Bool
  | .setSource _ _ _ _ | .pause _ | .resume _ _ | .mute | .unmute | .stop => true
  | .connect | .seekBy _ _ => false

namespace Call

def beginSource (formatSeconds : Nat → String) (call : Call) (streams : Streams)
    (awaited : ConnState) (now : Instant) (answer : Except String Nat) :
    Call × Option Installing :=
  match call with
  | .group call => (call.beginSource streams awaited).map .group id
  | .rtmp call => (.rtmp (call.beginSource formatSeconds now answer), none)

def registerEnd (call : Call) (installing : Installing) : Call :=
  match call with
  | .group call => .group (call.registerEnd installing)
  | .rtmp call => .rtmp call

/-- Neither a leg nor a process of ffmpeg is installed. -/
def empty : Call → Bool
  | .group call => call.audioStreamer.isNone && call.videoStreamer.isNone
  | .rtmp call => call.cmd.isNone

section BeginSource

variable (formatSeconds : Nat → String) (call : Call) (streams : Streams)
  (awaited : ConnState) (now : Instant) (answer : Except String Nat)

theorem closed_beginSource :
    (call.beginSource formatSeconds streams awaited now answer).1.closed = call.closed := by
  cases call with
  | group call => exact (call.beginSource_keeps streams awaited).1
  | rtmp call =>
      change (call.beginSource formatSeconds now answer).closed = call.closed
      unfold RTMPCall.beginSource
      split <;> rfl

theorem live_beginSource :
    (call.beginSource formatSeconds streams awaited now answer).1.live = call.live := by
  cases call with
  | group call =>
      have hstate : (beginSource formatSeconds (.group call) streams awaited now
          answer).1.netState = call.netState := (call.beginSource_keeps streams awaited).2
      simp only [live, hstate]
      rfl
  | rtmp call =>
      have hclosed : (call.beginSource formatSeconds now answer).closed = call.closed :=
        closed_beginSource formatSeconds (.rtmp call) streams awaited now answer
      change live (.rtmp (call.beginSource formatSeconds now answer)) = _
      rw [live_rtmp, live_rtmp, hclosed]

end BeginSource

theorem closed_registerEnd (call : Call) (installing : Installing) :
    (call.registerEnd installing).closed = call.closed := by
  cases call with
  | group call => exact (call.registerEnd_keeps installing).1
  | rtmp call => rfl

theorem netState_registerEnd (call : Call) (installing : Installing) :
    (call.registerEnd installing).netState = call.netState := by
  cases call with
  | group call => exact (call.registerEnd_keeps installing).2
  | rtmp call => rfl

theorem live_registerEnd (call : Call) (installing : Installing) :
    (call.registerEnd installing).live = call.live := by
  simp only [live, netState_registerEnd]

section Perform

variable (formatSeconds : Nat → String)

theorem closed_toggle (call swapped : GroupCall) (unchanged : Bool)
    (audio video : Streamer EndCallback → Streamer EndCallback)
    (hswapped : swapped.closed = call.closed) :
    (call.toggle unchanged swapped audio video).call.closed = call.closed := by
  unfold GroupCall.toggle
  split
  · rfl
  · split
    · rfl
    · exact hswapped

/-- Of the methods of a group call, `stop` alone closes it. -/
theorem closed_perform_group (call : GroupCall) {op : Op} (hop : op ≠ .stop) :
    (perform formatSeconds (.group call) op).1.closed = call.closed := by
  cases op with
  | connect =>
      simp only [perform, ofOutcome, GroupCall.beginConnect, closed]
      split <;> rfl
  | setSource streams awaited now answer =>
      simp only [perform, ofOutcome, GroupCall.setSource, closed]
      split
      · rfl
      · split <;> rfl
  | pause now | resume now answer | mute | unmute => exact closed_toggle _ _ _ _ _ rfl
  | stop => exact absurd rfl hop
  | seekBy now deltaMs => rfl

/-- An open call is closed as `stop` closes it. -/
theorem perform_eq_stop {call : Call} (hopen : call.closed = false) {op : Op}
    (hclosed : (call.perform formatSeconds op).1.closed = true) :
    (call.perform formatSeconds op).1 = (call.perform formatSeconds .stop).1 := by
  cases call with
  | group call =>
      have hopen : call.closed = false := hopen
      by_cases hop : op = .stop
      · rw [hop]
      · rw [closed_perform_group formatSeconds call hop, hopen] at hclosed
        cases hclosed
  | rtmp call =>
      have hopen : call.closed = false := hopen
      rw [closed_perform_rtmp formatSeconds hopen] at hclosed
      cases op with
      | stop => rfl
      | seekBy now deltaMs =>
          have hbelow : asI64 (asI64 (call.elapsedMs now) + deltaMs) < 0 := by
            simpa [killedBy, seeksBelow] using hclosed
          simp [perform, ofPush, RTMPCall.seekBy, hopen, hbelow]
      | _ => cases hclosed

theorem empty_of_stop {call : Call} (hempty : call.closed = true → call.empty = true) :
    (call.perform formatSeconds .stop).1.empty = true := by
  cases call with
  | group call =>
      simp only [perform, ofOutcome, GroupCall.stop]
      split
      next hclosed => exact hempty hclosed
      next => rfl
  | rtmp call =>
      simp only [perform, ofPush, RTMPCall.stop]
      split
      next hclosed => exact hempty hclosed
      next => rfl

/-- Whatever closes a call empties it. -/
theorem empty_of_perform {call : Call} (hempty : call.closed = true → call.empty = true)
    (op : Op) (hclosed : (call.perform formatSeconds op).1.closed = true) :
    (call.perform formatSeconds op).1.empty = true := by
  cases hbefore : call.closed with
  | true =>
      rw [perform_of_closed formatSeconds hbefore]
      exact hempty hbefore
  | false =>
      rw [perform_eq_stop formatSeconds hbefore hclosed]
      exact empty_of_stop formatSeconds hempty

end Perform

theorem empty_undergo (call : Call) (event : Event) : (call.undergo event).empty = call.empty := by
  cases call with
  | group call =>
      cases event with
      | legEnded leg error => cases leg <;> simp [undergo, empty, GroupCall.legEnded]
      | _ => rfl
  | rtmp call => cases event <;> rfl

end Call

end RustTgCalls.Instances
