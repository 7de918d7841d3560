import RustTgCalls.Library.Transition
import RustTgCalls.Instances.RtmpCall

namespace RustTgCalls.Instances.RTMPCall

open Transition

/-! The position an RTMP call resumes from. -/

/-- What the position should measure: the time spent running. -/
structure Stopwatch where
  total : Duration
  running : Option Instant
  deriving DecidableEq, Repr

namespace Stopwatch

def started (now : Instant) : Stopwatch := ⟨0, some now⟩

def halt (watch : Stopwatch) (now : Instant) : Stopwatch :=
  match watch.running with
  | some since => ⟨watch.total + (now - since), none⟩
  | none => watch

def restart (watch : Stopwatch) (now : Instant) : Stopwatch :=
  { watch with running := some now }

end Stopwatch

structure Timed where
  call : RTMPCall
  watch : Stopwatch
  deriving DecidableEq, Repr

structure Beat where
  now : Instant
  pid : Nat
  deriving DecidableEq, Repr

variable (formatSeconds : Nat → String)

def sourced (chatId : Int) (rtmpUrl : String) (hasUpgrade : Bool)
    (beat : Beat) : Timed where
  call := ((newWithEvents chatId rtmpUrl hasUpgrade).setSource formatSeconds
    beat.now (.ok beat.pid)).call
  watch := .started beat.now

/-- The next call of an alternation: `pause` while running, `resume` while
paused. -/
def alternate (timed : Timed) (beat : Beat) : Timed :=
  match timed.watch.running with
  | some _ => ⟨(timed.call.pause beat.now).call, timed.watch.halt beat.now⟩
  | none =>
      ⟨(timed.call.resume formatSeconds beat.now (.ok beat.pid)).call,
        timed.watch.restart beat.now⟩

def PushesFrom (call : RTMPCall) (seekMs : Nat) : Prop :=
  ∃ pid, call.cmd = some ⟨pid, seekMs,
    buildRtmpArgs formatSeconds "input.mp4" seekMs Media.EncodeOptions.default
      call.rtmpUrl⟩

/-- While paused the call reports the time it has run, and while running its
process was started from there. -/
def OnTime (timed : Timed) : Prop :=
  match timed.watch.running with
  | some _ => PushesFrom formatSeconds timed.call
      (Duration.asMillis timed.watch.total)
  | none => ∀ now, timed.call.elapsedMs now =
      Duration.asMillis timed.watch.total

/-- A pause finds that the call has not run for a millisecond yet. -/
def Brief (timed : Timed) (beat : Beat) : Prop :=
  (timed.watch.halt beat.now).total < 1000000

/-- The position never leaves zero, so it is right only for as long as the
stopwatch shows no millisecond. -/
structure Stuck (timed : Timed) : Prop where
  opened : timed.call.closed = false
  flag : timed.call.paused = timed.watch.running.isNone
  zero : timed.call.resumeMs = 0
  pushes : timed.watch.running.isSome → PushesFrom formatSeconds timed.call 0
  short : timed.watch.total < 1000000

theorem asMillis_eq_zero {duration : Duration} :
    Duration.asMillis duration = 0 ↔ duration < 1000000 := by
  simp [Duration.asMillis, Nat.div_eq_zero_iff]

/-- `pause` reads the position after it has set the flag, and so keeps it. -/
theorem pause_call {call : RTMPCall} (hopen : call.closed = false)
    (hpaused : call.paused = false) (now : Instant) :
    (call.pause now).call = { call with paused := true, cmd := none } := by
  simp [pause, hopen, hpaused, elapsedMs]

theorem resume_call {call : RTMPCall} (hopen : call.closed = false)
    (hpaused : call.paused = true) (now : Instant) (pid : Nat) :
    (call.resume formatSeconds now (.ok pid)).call =
      { call with
        paused := false
        startedAt := some now
        cmd := some ⟨pid, call.resumeMs,
          buildRtmpArgs formatSeconds "input.mp4" call.resumeMs
            Media.EncodeOptions.default call.rtmpUrl⟩ } := by
  simp [resume, hopen, hpaused, spawnPush]

theorem Stuck.onTime {timed : Timed} (hstuck : Stuck formatSeconds timed) :
    OnTime formatSeconds timed := by
  have hshort := asMillis_eq_zero.mpr hstuck.short
  have hflag := hstuck.flag
  have hpushes := hstuck.pushes
  unfold OnTime
  cases hrunning : timed.watch.running with
  | some since =>
      rw [hshort]
      exact hpushes (by simp [hrunning])
  | none =>
      intro now
      rw [hshort]
      simp [elapsedMs, hflag, hrunning, hstuck.zero]

theorem stuck_sourced (chatId : Int) (rtmpUrl : String) (hasUpgrade : Bool)
    (beat : Beat) :
    Stuck formatSeconds
      (sourced formatSeconds chatId rtmpUrl hasUpgrade beat) := by
  constructor
  · rfl
  · rfl
  · rfl
  · intro _
    exact ⟨beat.pid, rfl⟩
  · exact Nat.zero_lt_succ _

theorem stuck_alternate (timed : Timed) (beat : Beat)
    (hstuck : Stuck formatSeconds timed) (hbrief : Brief timed beat) :
    Stuck formatSeconds (alternate formatSeconds timed beat) := by
  have hflag := hstuck.flag
  unfold alternate
  split
  next since hrunning =>
    have hpaused : timed.call.paused = false := by simp [hflag, hrunning]
    rw [pause_call hstuck.opened hpaused]
    have hhalted : (timed.watch.halt beat.now).running = none := by
      simp [Stopwatch.halt, hrunning]
    constructor
    · exact hstuck.opened
    · simp [hhalted]
    · exact hstuck.zero
    · simp [hhalted]
    · exact hbrief
  next hrunning =>
    have hpaused : timed.call.paused = true := by simp [hflag, hrunning]
    rw [resume_call formatSeconds hstuck.opened hpaused, hstuck.zero]
    constructor
    · exact hstuck.opened
    · rfl
    · rfl
    · intro _
      exact ⟨beat.pid, rfl⟩
    · exact hstuck.short

theorem brief_of_onTime (timed : Timed) (beat : Beat)
    (hstuck : Stuck formatSeconds timed)
    (hnext : OnTime formatSeconds (alternate formatSeconds timed beat)) :
    Brief timed beat := by
  unfold Brief
  cases hrunning : timed.watch.running with
  | none =>
      have hhalt : timed.watch.halt beat.now = timed.watch := by
        simp [Stopwatch.halt, hrunning]
      rw [hhalt]
      exact hstuck.short
  | some since =>
      have hpaused : timed.call.paused = false := by
        simp [hstuck.flag, hrunning]
      have hhalted : (timed.watch.halt beat.now).running = none := by
        simp [Stopwatch.halt, hrunning]
      have hreported : (0 : Nat) =
          Duration.asMillis (timed.watch.halt beat.now).total := by
        have hclock := hnext
        simp only [OnTime, alternate, hrunning, hhalted,
          pause_call hstuck.opened hpaused] at hclock
        simpa [elapsedMs, hstuck.zero] using hclock 0
      exact asMillis_eq_zero.mp hreported.symm

/-- Over every alternation of pauses and resumes the position is the un-paused
time exactly when that time stays below a millisecond at every pause. -/
theorem always_onTime_iff (chatId : Int) (rtmpUrl : String) (hasUpgrade : Bool)
    (start : Beat) (beats : List Beat) :
    Always (alternate formatSeconds) (OnTime formatSeconds)
        (sourced formatSeconds chatId rtmpUrl hasUpgrade start) beats ↔
      Along (alternate formatSeconds) Brief
        (sourced formatSeconds chatId rtmpUrl hasUpgrade start) beats :=
  always_iff_along (fun _ hstuck => hstuck.onTime formatSeconds)
    (stuck_alternate formatSeconds) (brief_of_onTime formatSeconds)
    (stuck_sourced formatSeconds chatId rtmpUrl hasUpgrade start)

/-- Five seconds into the stream a pause records the offset zero, and the
resume pushes from the beginning. -/
theorem resume_restarts_stream :
    ¬ Always (alternate toString) (OnTime toString)
      (sourced toString 1 "rtmp://t/live" false ⟨0, 10⟩)
      [⟨5000000000, 11⟩, ⟨6000000000, 12⟩] := by
  intro halways
  have hlast := always_iff_prefixes.mp halways _ (List.prefix_refl _)
  obtain ⟨pid, hpushes⟩ := hlast
  have hseek : some 0 = some 5000 :=
    congrArg (Option.map PushProcess.seekMs) hpushes
  exact absurd hseek (by decide)

end RustTgCalls.Instances.RTMPCall
