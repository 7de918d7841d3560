import RustTgCalls.Library.Transition
import RustTgCalls.Instances.Call

namespace RustTgCalls.Instances.Call

open Transition Media

/-! What `on_upgrade` is told of the pauses and the mutes of a call. -/

inductive Step where
  | op (op : Op)
  | event (event : Event)

/-- A completed pause, resume, mute or unmute. -/
structure Toggled where
  call : Call
  result : Except RustTgCallsError Bool
  upgrades : List MediaState

namespace Toggled

def ofOutcome (outcome : Outcome Bool) : Toggled :=
  ⟨.group outcome.call, outcome.result, outcome.upgrades⟩

def ofPush (outcome : PushOutcome Bool) : Toggled :=
  ⟨.rtmp outcome.call, outcome.result, outcome.upgrades⟩

end Toggled

def state : Call → MediaState
  | .group call => call.currentState
  | .rtmp call => call.currentState

def paused : Call → Bool
  | .group call => call.paused
  | .rtmp call => call.paused

def muted : Call → Bool
  | .group call => call.muted
  | .rtmp call => call.muted

section Perform

variable (formatSeconds : Nat → String)

def toggled : Call → Op → Option Toggled
  | .group call, .pause _ => some (.ofOutcome call.pause)
  | .group call, .resume _ _ => some (.ofOutcome call.resume)
  | .group call, .mute => some (.ofOutcome call.mute)
  | .group call, .unmute => some (.ofOutcome call.unmute)
  | .rtmp call, .pause now => some (.ofPush (call.pause now))
  | .rtmp call, .resume now answer => some (.ofPush (call.resume formatSeconds now answer))
  | .rtmp call, .mute => some (.ofPush call.mute)
  | .rtmp call, .unmute => some (.ofPush call.unmute)
  | _, _ => none

def step (call : Call) : Step → Call
  | .op op => (call.perform formatSeconds op).1
  | .event event => call.undergo event

/-- The handler is told the new state once if it is another one, and nothing
otherwise. -/
structure Reported (call : Call) (toggled : Toggled) : Prop where
  exact : toggled.upgrades =
    if call.state = toggled.call.state then [] else [toggled.call.state]
  quiet : toggled.result ≠ .ok true → toggled.upgrades = []

def ReportsStep (call : Call) : Step → Prop
  | .op op => ∀ toggled ∈ call.toggled formatSeconds op, Reported call toggled
  | .event _ => True

/-- There is no change to report: the call is closed, the flag has its value
already, or a mute hides the pause. -/
def Unmoved (call : Call) : Step → Prop
  | .op (.pause _) => call.closed = true ∨ call.paused = true ∨ call.muted = true
  | .op (.resume _ _) => call.closed = true ∨ call.paused = false ∨ call.muted = true
  | .op .mute => call.closed = true ∨ call.muted = true
  | .op .unmute => call.closed = true ∨ call.muted = false
  | _ => True

end Perform

/-! The state before is read when the flag has already been swapped. -/

theorem upgrades_toggle (call swapped : GroupCall) (unchanged : Bool)
    (audio video : Streamer EndCallback → Streamer EndCallback) :
    (call.toggle unchanged swapped audio video).upgrades = [] := by
  unfold GroupCall.toggle
  split
  · rfl
  · split
    · rfl
    · simp [GroupCall.fireUpgradeIfChanged, GroupCall.currentState]

theorem upgrades_toggleMuted (call : RTMPCall) (muted : Bool) :
    (call.toggleMuted muted).upgrades = [] := by
  unfold RTMPCall.toggleMuted
  split
  · rfl
  · split
    · rfl
    · simp [RTMPCall.fireUpgradeIfChanged]

theorem upgrades_pause (call : RTMPCall) (now : Instant) :
    (call.pause now).upgrades = [] := by
  unfold RTMPCall.pause
  split
  · rfl
  · split
    · rfl
    · simp [RTMPCall.fireUpgradeIfChanged, RTMPCall.currentState]

section Perform

variable {formatSeconds : Nat → String} {call : Call} {op : Op} {toggled : Toggled}

theorem upgrades_resume (call : RTMPCall) (now : Instant) (answer : Except String Nat) :
    (call.resume formatSeconds now answer).upgrades = [] := by
  unfold RTMPCall.resume
  split
  · rfl
  · split
    · rfl
    · dsimp only
      split
      · rfl
      · simp [RTMPCall.fireUpgradeIfChanged, RTMPCall.currentState]

theorem upgrades_toggled (htoggled : toggled ∈ call.toggled formatSeconds op) :
    toggled.upgrades = [] := by
  cases call <;> cases op <;> simp only [Call.toggled, Option.mem_def, Option.some.injEq,
    reduceCtorEq] at htoggled <;> subst htoggled
  case group.pause call _ => exact upgrades_toggle call _ _ _ _
  case group.resume call _ _ => exact upgrades_toggle call _ _ _ _
  case group.mute call => exact upgrades_toggle call _ _ _ _
  case group.unmute call => exact upgrades_toggle call _ _ _ _
  case rtmp.pause call now => exact upgrades_pause call now
  case rtmp.resume call now answer => exact upgrades_resume call now answer
  case rtmp.mute call => exact upgrades_toggleMuted call true
  case rtmp.unmute call => exact upgrades_toggleMuted call false

theorem reported_iff (htoggled : toggled ∈ call.toggled formatSeconds op) :
    Reported call toggled ↔ call.state = toggled.call.state := by
  have hnone := upgrades_toggled htoggled
  constructor
  · intro hreported
    have hexact := hreported.exact
    rw [hnone] at hexact
    by_contra hmoved
    simp [hmoved] at hexact
  · intro hsame
    exact ⟨by rw [hnone, if_pos hsame], fun _ => hnone⟩

/-! Which of the operations move the state. -/

theorem state_toggle (call swapped : GroupCall) (unchanged : Bool)
    (audio video : Streamer EndCallback → Streamer EndCallback) :
    (call.toggle unchanged swapped audio video).call.currentState =
      if call.closed = true ∨ unchanged = true then call.currentState
      else swapped.currentState := by
  unfold GroupCall.toggle
  by_cases hclosed : call.closed = true
  · simp [hclosed, GroupCall.refuse]
  · by_cases hunchanged : unchanged = true
    · simp [hclosed, hunchanged]
    · simp [hclosed, hunchanged, GroupCall.currentState]

theorem group_moved_iff (call : GroupCall) (op : Op)
    (htoggled : toggled ∈ Call.toggled formatSeconds (.group call) op) :
    call.currentState = toggled.call.state ↔ Unmoved (.group call) (.op op) := by
  cases op <;> simp only [Call.toggled, Option.mem_def, Option.some.injEq,
    reduceCtorEq] at htoggled <;> subst htoggled
  case pause now =>
    simp only [Toggled.ofOutcome, state, GroupCall.pause, state_toggle, Unmoved, closed,
      paused, muted]
    cases call.closed <;> cases hpaused : call.paused <;> cases hmuted : call.muted <;>
      simp [GroupCall.currentState, hpaused, hmuted]
  case resume now answer =>
    simp only [Toggled.ofOutcome, state, GroupCall.resume, state_toggle, Unmoved, closed,
      paused, muted]
    cases call.closed <;> cases hpaused : call.paused <;> cases hmuted : call.muted <;>
      simp [GroupCall.currentState, hpaused, hmuted]
  case mute =>
    simp only [Toggled.ofOutcome, state, GroupCall.mute, state_toggle, Unmoved, closed, muted]
    cases call.closed <;> cases hmuted : call.muted <;>
      simp [GroupCall.currentState, hmuted]
  case unmute =>
    simp only [Toggled.ofOutcome, state, GroupCall.unmute, state_toggle, Unmoved, closed, muted]
    cases call.closed <;> cases hmuted : call.muted <;>
      simp [GroupCall.currentState, hmuted]

theorem rtmp_moved_iff (call : RTMPCall) (op : Op)
    (htoggled : toggled ∈ Call.toggled formatSeconds (.rtmp call) op) :
    call.currentState = toggled.call.state ↔ Unmoved (.rtmp call) (.op op) := by
  cases op <;> simp only [Call.toggled, Option.mem_def, Option.some.injEq,
    reduceCtorEq] at htoggled <;> subst htoggled
  case pause now =>
    simp only [Toggled.ofPush, state, RTMPCall.pause, Unmoved, closed, paused, muted]
    cases hclosed : call.closed <;> cases hpaused : call.paused <;>
      cases hmuted : call.muted <;>
      simp [RTMPCall.currentState, RTMPCall.refuse, hpaused, hmuted]
  case resume now answer =>
    simp only [Toggled.ofPush, state, RTMPCall.resume, Unmoved, closed, paused, muted]
    cases hclosed : call.closed <;> cases hpaused : call.paused <;>
      cases hmuted : call.muted <;> cases answer <;>
      simp [RTMPCall.currentState, RTMPCall.refuse, RTMPCall.spawnPush, hpaused, hmuted]
  case mute =>
    simp only [Toggled.ofPush, state, RTMPCall.mute, RTMPCall.toggleMuted, Unmoved, closed,
      muted]
    cases hclosed : call.closed <;> cases hmuted : call.muted <;>
      simp [RTMPCall.currentState, RTMPCall.refuse, hmuted]
  case unmute =>
    simp only [Toggled.ofPush, state, RTMPCall.unmute, RTMPCall.toggleMuted, Unmoved, closed,
      muted]
    cases hclosed : call.closed <;> cases hmuted : call.muted <;>
      simp [RTMPCall.currentState, RTMPCall.refuse, hmuted]

end Perform

theorem toggled_none {formatSeconds : Nat → String} {call : Call} {op : Op}
    (hnone : call.toggled formatSeconds op = none) : Unmoved call (.op op) := by
  cases call <;> cases op <;> first | exact trivial | cases hnone

theorem reportsStep_iff (formatSeconds : Nat → String) (call : Call) (action : Step) :
    ReportsStep formatSeconds call action ↔ Unmoved call action := by
  cases action with
  | event event => simp [ReportsStep, Unmoved]
  | op op =>
      cases htoggled : call.toggled formatSeconds op with
      | none => simp [ReportsStep, htoggled, toggled_none htoggled]
      | some toggled =>
          have hmoved : call.state = toggled.call.state ↔ Unmoved call (.op op) := by
            cases call with
            | group call => exact group_moved_iff call op htoggled
            | rtmp call => exact rtmp_moved_iff call op htoggled
          simp [ReportsStep, htoggled, reported_iff htoggled, hmoved]

/-- In a run of a call, the handler is told of every pause and mute what it
should be exactly when none of them has anything to tell. -/
theorem reports_iff (formatSeconds : Nat → String) (call : Call) (actions : List Step) :
    Along (step formatSeconds) (ReportsStep formatSeconds) call actions ↔
      Along (step formatSeconds) Unmoved call actions := by
  apply along_congr
  exact reportsStep_iff formatSeconds

/-- A new call with a handler is muted, and the handler hears nothing. -/
theorem mute_unreported :
    ¬ Along (step toString) (ReportsStep toString)
        (.group (GroupCall.newWithEvents 1 0 ⟨false, false, true⟩)) [.op .mute] ∧
      ¬ Along (step toString) (ReportsStep toString)
        (.rtmp (RTMPCall.newWithEvents 1 "rtmp://host/app" true)) [.op .mute] := by
  constructor
  · intro hreports
    have hexact := (hreports.1 _ rfl).exact
    revert hexact
    decide
  · intro hreports
    have hexact := (hreports.1 _ rfl).exact
    revert hexact
    decide

end RustTgCalls.Instances.Call
