import RustTgCalls.Library.Transition
import RustTgCalls.Instances.RtmpCall

namespace RustTgCalls.Instances.RTMPCall

open Transition

/-! The push processes of a call over completed operations. -/

inductive Operation where
  | setSource
  | pause
  | resume
  | mute
  | unmute
  | seekBy (deltaMs : Int)
  | stop
  deriving DecidableEq, Repr

/-- An operation with the clock it reads and the answer a spawn would get. -/
structure Input where
  operation : Operation
  now : Instant
  answer : Except String Nat

/-- A call and its processes that were neither closed nor scheduled for closing.
Dropping a reader leaves its process on the list. -/
structure Host where
  call : RTMPCall
  live : List PushProcess
  deriving DecidableEq, Repr

def Host.settle (host : Host) (outcome : PushOutcome α) : Host where
  call := outcome.call
  live := outcome.closing.toList.foldl List.erase host.live ++
    outcome.spawned.toList

variable (formatSeconds : Nat → String)

def perform (host : Host) (input : Input) : Host :=
  match input.operation with
  | .setSource =>
      host.settle (host.call.setSource formatSeconds input.now input.answer)
  | .pause => host.settle (host.call.pause input.now)
  | .resume =>
      host.settle (host.call.resume formatSeconds input.now input.answer)
  | .mute => host.settle host.call.mute
  | .unmute => host.settle host.call.unmute
  | .seekBy deltaMs => host.settle (host.call.seekBy input.now deltaMs)
  | .stop => host.settle host.call.stop

def freshHost (chatId : Int) (rtmpUrl : String) (hasUpgrade : Bool) : Host where
  call := newWithEvents chatId rtmpUrl hasUpgrade
  live := []

/-- At most one push process is left alone, and none while paused or closed. -/
structure OnePush (host : Host) : Prop where
  atMostOne : host.live.length ≤ 1
  noneSilent : host.call.paused = true ∨ host.call.closed = true →
    host.live = []

/-- A `set_source` that gets its process finds the slot empty and the call
unpaused. -/
def Vacant (host : Host) (input : Input) : Prop :=
  input.operation = .setSource → host.call.closed = false →
    (∃ pid, input.answer = .ok pid) →
      host.call.cmd = none ∧ host.call.paused = false

/-- The slot accounts for every live process, and it is empty while the call is
paused or closed. -/
structure Accounted (host : Host) : Prop where
  live : host.live = host.call.cmd.toList
  silent : host.call.paused = true ∨ host.call.closed = true →
    host.call.cmd = none

theorem Accounted.onePush {host : Host} (haccounted : Accounted host) :
    OnePush host := by
  constructor
  · rw [haccounted.live]
    cases host.call.cmd <;> simp
  · intro hsilent
    rw [haccounted.live, haccounted.silent hsilent]
    rfl

theorem accounted_freshHost (chatId : Int) (rtmpUrl : String)
    (hasUpgrade : Bool) : Accounted (freshHost chatId rtmpUrl hasUpgrade) := by
  constructor
  · rfl
  · intro _
    rfl

/-- An operation that neither spawns nor closes keeps the account if it keeps
the slot and silences nothing. -/
theorem Accounted.settle_quiet {host : Host} (haccounted : Accounted host)
    (call : RTMPCall) (result : Except RustTgCallsError α)
    (upgrades : List MediaState) (hcmd : call.cmd = host.call.cmd)
    (hsilent : call.paused = true ∨ call.closed = true →
      host.call.paused = true ∨ host.call.closed = true) :
    Accounted (host.settle ⟨call, result, upgrades, none, none⟩) := by
  constructor
  · simp [Host.settle, haccounted.live, hcmd]
  · intro hnow
    exact hcmd.trans (haccounted.silent (hsilent hnow))

theorem Accounted.settle_close {host : Host} (haccounted : Accounted host)
    (call : RTMPCall) (result : Except RustTgCallsError α)
    (upgrades : List MediaState) (hcmd : call.cmd = none) :
    Accounted (host.settle ⟨call, result, upgrades, none, host.call.cmd⟩) := by
  constructor
  · simp only [Host.settle, haccounted.live, hcmd]
    cases host.call.cmd <;> simp
  · exact fun _ => hcmd

theorem Accounted.settle_spawn {host : Host} (haccounted : Accounted host)
    (call : RTMPCall) (result : Except RustTgCallsError α)
    (upgrades : List MediaState) {process : PushProcess}
    (hvacant : host.call.cmd = none) (hcmd : call.cmd = some process)
    (haudible : call.paused = false ∧ call.closed = false) :
    Accounted (host.settle ⟨call, result, upgrades, some process, none⟩) := by
  constructor
  · simp [Host.settle, haccounted.live, hvacant, hcmd]
  · simp [Host.settle, haudible]

theorem accounted_stop {host : Host} (haccounted : Accounted host) :
    Accounted (host.settle host.call.stop) := by
  unfold stop
  split
  · exact haccounted.settle_quiet _ _ _ rfl id
  · exact haccounted.settle_close _ _ _ rfl

theorem accounted_toggleMuted {host : Host} (haccounted : Accounted host)
    (muted : Bool) : Accounted (host.settle (host.call.toggleMuted muted)) := by
  unfold toggleMuted
  split
  · exact haccounted.settle_quiet _ _ _ rfl id
  · split <;> exact haccounted.settle_quiet _ _ _ rfl id

theorem accounted_seekBy {host : Host} (haccounted : Accounted host)
    (now : Instant) (deltaMs : Int) :
    Accounted (host.settle (host.call.seekBy now deltaMs)) := by
  unfold seekBy
  split
  · exact haccounted.settle_quiet _ _ _ rfl id
  · dsimp only
    split
    · exact accounted_stop haccounted
    · exact haccounted.settle_quiet _ _ _ rfl id

theorem accounted_pause {host : Host} (haccounted : Accounted host)
    (now : Instant) : Accounted (host.settle (host.call.pause now)) := by
  unfold pause
  split
  · exact haccounted.settle_quiet _ _ _ rfl id
  · split
    · exact haccounted.settle_quiet _ _ _ rfl id
    · exact haccounted.settle_close _ _ _ rfl

theorem accounted_resume {host : Host} (haccounted : Accounted host)
    (now : Instant) (answer : Except String Nat) :
    Accounted (host.settle (host.call.resume formatSeconds now answer)) := by
  unfold resume
  split
  next => exact haccounted.settle_quiet _ _ _ rfl id
  next hopen =>
    split
    next => exact haccounted.settle_quiet _ _ _ rfl id
    next hpaused =>
      have hpaused : host.call.paused = true := by simpa using hpaused
      dsimp only
      split
      next =>
        exact haccounted.settle_quiet _ _ _ rfl fun _ => .inl hpaused
      next =>
        exact haccounted.settle_spawn _ _ _ (haccounted.silent (.inl hpaused))
          rfl ⟨rfl, by simpa using hopen⟩

theorem accounted_setSource {host : Host} (haccounted : Accounted host)
    (now : Instant) (answer : Except String Nat)
    (hvacant : Vacant host ⟨.setSource, now, answer⟩) :
    Accounted (host.settle (host.call.setSource formatSeconds now answer)) := by
  unfold setSource
  split
  next => exact haccounted.settle_quiet _ _ _ rfl id
  next hopen =>
    have hopen : host.call.closed = false := by simpa using hopen
    cases answer with
    | error detail => exact haccounted.settle_quiet _ _ _ rfl id
    | ok pid =>
        obtain ⟨hcmd, hpaused⟩ := hvacant rfl hopen ⟨pid, rfl⟩
        exact haccounted.settle_spawn _ _ _ hcmd rfl ⟨hpaused, hopen⟩

theorem accounted_perform (host : Host) (input : Input)
    (haccounted : Accounted host) (hvacant : Vacant host input) :
    Accounted (perform formatSeconds host input) := by
  obtain ⟨operation, now, answer⟩ := input
  cases operation with
  | setSource => exact accounted_setSource formatSeconds haccounted now answer hvacant
  | pause => exact accounted_pause haccounted now
  | resume => exact accounted_resume formatSeconds haccounted now answer
  | mute => exact accounted_toggleMuted haccounted true
  | unmute => exact accounted_toggleMuted haccounted false
  | seekBy deltaMs => exact accounted_seekBy haccounted now deltaMs
  | stop => exact accounted_stop haccounted

theorem vacant_of_onePush (host : Host) (input : Input)
    (haccounted : Accounted host)
    (hnext : OnePush (perform formatSeconds host input)) :
    Vacant host input := by
  obtain ⟨operation, now, answer⟩ := input
  rintro rfl hopen ⟨pid, rfl⟩
  have hlive : (perform formatSeconds host ⟨.setSource, now, .ok pid⟩).live =
      host.call.cmd.toList ++ [⟨pid, 0, buildRtmpArgs formatSeconds "input.mp4" 0
        Media.EncodeOptions.default host.call.rtmpUrl⟩] := by
    simp [perform, setSource, hopen, spawnPush, Host.settle, haccounted.live]
  have hpaused : (perform formatSeconds host
      ⟨.setSource, now, .ok pid⟩).call.paused = host.call.paused := by
    simp [perform, setSource, hopen, spawnPush, Host.settle]
  constructor
  · have hone := hnext.atMostOne
    rw [hlive] at hone
    cases hcmd : host.call.cmd with
    | none => rfl
    | some process => simp [hcmd] at hone
  · cases hsilent : host.call.paused with
    | false => rfl
    | true =>
        have hnone := hnext.noneSilent (.inl (hpaused.trans hsilent))
        simp [hlive] at hnone

/-- Over every run of a fresh call the push processes stay as they should
exactly when each effective `set_source` is vacant. -/
theorem always_onePush_iff (chatId : Int) (rtmpUrl : String) (hasUpgrade : Bool)
    (inputs : List Input) :
    Always (perform formatSeconds) OnePush
        (freshHost chatId rtmpUrl hasUpgrade) inputs ↔
      Along (perform formatSeconds) Vacant
        (freshHost chatId rtmpUrl hasUpgrade) inputs :=
  always_iff_along (fun _ haccounted => haccounted.onePush)
    (accounted_perform formatSeconds) (vacant_of_onePush formatSeconds)
    (accounted_freshHost chatId rtmpUrl hasUpgrade)

/-- Replacing the source leaves the first ffmpeg process running unowned. -/
theorem setSource_twice_leaks :
    ¬ Always (perform toString) OnePush (freshHost 1 "rtmp://t/live" false)
      [⟨.setSource, 0, .ok 10⟩, ⟨.setSource, 1, .ok 11⟩] := by
  intro halways
  have hone := (always_iff_prefixes.mp halways _ (List.prefix_refl _)).atMostOne
  exact absurd hone (by decide)

end RustTgCalls.Instances.RTMPCall
