import RustTgCalls.Instances.RtmpProcess

namespace RustTgCalls.Instances.RTMPCall

open Transition

/-! What an RTMP call is after an operation that has failed. -/

def answered {α : Type} (outcome : PushOutcome α) :
    RTMPCall × Except RustTgCallsError Unit :=
  (outcome.call, outcome.result.map fun _ => ())

section Operations

variable (formatSeconds : Nat → String)

def attempt (call : RTMPCall) (input : Input) : RTMPCall × Except RustTgCallsError Unit :=
  match input.operation with
  | .setSource => answered (call.setSource formatSeconds input.now input.answer)
  | .pause => answered (call.pause input.now)
  | .resume => answered (call.resume formatSeconds input.now input.answer)
  | .mute => answered call.mute
  | .unmute => answered call.unmute
  | .seekBy deltaMs => answered (call.seekBy input.now deltaMs)
  | .stop => answered call.stop

def afterAttempt (call : RTMPCall) (input : Input) : RTMPCall :=
  (call.attempt formatSeconds input).1

/-- If the operation fails, the call is what it was. -/
def Atomic (call : RTMPCall) (input : Input) : Prop :=
  ∀ error, (call.attempt formatSeconds input).2 = .error error →
    (call.attempt formatSeconds input).1 = call

/-- A resume of a paused call gets its process. -/
def Resumable (call : RTMPCall) (input : Input) : Prop :=
  input.operation = .resume → call.closed = false → call.paused = true →
    ∃ pid, input.answer = .ok pid

variable {formatSeconds}

theorem atomic_setSource (call : RTMPCall) (now : Instant) (answer : Except String Nat)
    (herror : (answered (call.setSource formatSeconds now answer)).2 = .error error) :
    (call.setSource formatSeconds now answer).call = call := by
  unfold setSource at herror ⊢
  split
  · rfl
  next hopen =>
    rw [if_neg hopen] at herror
    cases answer with
    | error detail => rfl
    | ok pid => cases herror

theorem atomic_pause (call : RTMPCall) (now : Instant)
    (herror : (answered (call.pause now)).2 = .error error) : (call.pause now).call = call := by
  unfold pause at herror ⊢
  split
  · rfl
  next hopen =>
    rw [if_neg hopen] at herror
    split
    · rfl
    next hrunning =>
      rw [if_neg hrunning] at herror
      cases herror

theorem atomic_toggleMuted (call : RTMPCall) (muted : Bool)
    (herror : (answered (call.toggleMuted muted)).2 = .error error) :
    (call.toggleMuted muted).call = call := by
  unfold toggleMuted at herror ⊢
  split
  · rfl
  next hopen =>
    rw [if_neg hopen] at herror
    split
    · rfl
    next hother =>
      rw [if_neg hother] at herror
      cases herror

theorem stop_result (call : RTMPCall) : call.stop.result = .ok () := by
  unfold stop
  split <;> rfl

theorem atomic_seekBy (call : RTMPCall) (now : Instant) (deltaMs : Int)
    (herror : (answered (call.seekBy now deltaMs)).2 = .error error) :
    (call.seekBy now deltaMs).call = call := by
  unfold seekBy at herror ⊢
  split
  · rfl
  next hopen =>
    rw [if_neg hopen] at herror
    dsimp only at herror
    split at herror
    · rw [answered, stop_result] at herror
      cases herror
    · cases herror

/-- The flag is cleared before the process is spawned, and stays so if there is
none. -/
theorem atomic_resume_iff (call : RTMPCall) (now : Instant) (answer : Except String Nat) :
    (∀ error, (answered (call.resume formatSeconds now answer)).2 = .error error →
        (call.resume formatSeconds now answer).call = call) ↔
      (call.closed = false → call.paused = true → ∃ pid, answer = .ok pid) := by
  cases hclosed : call.closed with
  | true => simp [resume, hclosed, refuse]
  | false =>
      cases hpaused : call.paused with
      | false => simp [resume, hclosed, hpaused]
      | true =>
          cases answer with
          | ok pid => simp [resume, hclosed, hpaused, spawnPush, answered, Except.map]
          | error detail =>
              have hfails : call.resume formatSeconds now (.error detail) =
                  ⟨{ call with paused := false }, .error (.ffmpegSpawn detail), [], none,
                    none⟩ := by
                simp [resume, hclosed, hpaused, spawnPush, refuse]
              rw [hfails]
              constructor
              · intro hatomic
                have hsame := congrArg RTMPCall.paused (hatomic _ rfl)
                rw [hpaused] at hsame
                cases hsame
              · intro hspawned
                obtain ⟨pid, hpid⟩ := hspawned rfl rfl
                cases hpid

theorem resumable_of_ne {call : RTMPCall} {input : Input} (hother : input.operation ≠ .resume) :
    Resumable call input := by
  intro hresume
  exact absurd hresume hother

theorem atomic_iff (call : RTMPCall) (input : Input) :
    Atomic formatSeconds call input ↔ Resumable call input := by
  obtain ⟨operation, now, answer⟩ := input
  cases operation with
  | resume =>
      simp only [Resumable, forall_const]
      exact atomic_resume_iff call now answer
  | setSource =>
      refine iff_of_true ?_ (resumable_of_ne nofun)
      exact fun error herror => atomic_setSource call now answer herror
  | pause =>
      refine iff_of_true ?_ (resumable_of_ne nofun)
      exact fun error herror => atomic_pause call now herror
  | mute =>
      refine iff_of_true ?_ (resumable_of_ne nofun)
      exact fun error herror => atomic_toggleMuted call true herror
  | unmute =>
      refine iff_of_true ?_ (resumable_of_ne nofun)
      exact fun error herror => atomic_toggleMuted call false herror
  | seekBy deltaMs =>
      refine iff_of_true ?_ (resumable_of_ne nofun)
      exact fun error herror => atomic_seekBy call now deltaMs herror
  | stop =>
      refine iff_of_true ?_ (resumable_of_ne nofun)
      intro error herror
      simp [attempt, answered, stop_result, Except.map] at herror

end Operations

/-- In a run of a call, every operation that fails leaves the call as it was
exactly when every resume of a paused call gets its process. -/
theorem attempts_atomic_iff (formatSeconds : Nat → String) (call : RTMPCall)
    (inputs : List Input) :
    Along (afterAttempt formatSeconds) (Atomic formatSeconds) call inputs ↔
      Along (afterAttempt formatSeconds) Resumable call inputs := by
  apply along_congr
  exact atomic_iff

/-- ffmpeg is missing for one resume; the next one finds nothing to resume. -/
def failedResume : List Input :=
  [⟨.setSource, 0, .ok 7⟩, ⟨.pause, 0, .ok 0⟩, ⟨.resume, 0, .error "no such file"⟩]

theorem resume_not_atomic :
    ¬ Along (afterAttempt toString) (Atomic toString)
        (newWithEvents 1 "rtmp://host/app" false) failedResume ∧
      ∀ pid, ((after (afterAttempt toString) (newWithEvents 1 "rtmp://host/app" false)
        failedResume).resume toString 0 (.ok pid)).result = .ok false := by
  constructor
  · intro hatomic
    have hsame := congrArg RTMPCall.paused (hatomic.2.2.1 _ rfl)
    revert hsame
    decide
  · intro pid
    rfl

end RustTgCalls.Instances.RTMPCall
