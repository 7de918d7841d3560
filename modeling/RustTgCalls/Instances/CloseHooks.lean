import RustTgCalls.Instances.Toggling

namespace RustTgCalls.Instances

open Media Transition

/-! The close hooks of the `Streams` passed to `set_source`, beside the steps of
the call. -/

/-- A hook that came with its `Streams` goes where they go; `calls` counts its
invocations. -/
structure Hook where
  held : Bool
  calls : Nat
  deriving DecidableEq, Repr

namespace Hook

def new : Hook := ⟨true, 0⟩

/-- `Streams::close`. -/
def close (hook : Hook) : Hook :=
  if hook.held then ⟨false, hook.calls + 1⟩ else hook

example : Hook.new.close.close = ⟨false, 1⟩ := rfl

/-- The end of the `Streams` without it. -/
def drop (hook : Hook) : Hook := { hook with held := false }

@[simp] theorem calls_drop (hook : Hook) : hook.drop.calls = hook.calls := rfl

end Hook

namespace Sourcing

variable {Reader : Type}

/-- The `set_source` that a step returns from with an error. -/
def refusing (state : Sourcing Reader) : Action Reader → Option Nat
  | .setSourceStep id connected =>
      match state.setSources id with
      | some ⟨_, .testClosed⟩ => if state.closed then some id else none
      | some ⟨_, .gate⟩ => if connected then none else some id
      | _ => none
  | _ => none

/-- A `set_source` or a `stop` is through with both slots. -/
def sweeping (state : Sourcing Reader) : Action Reader → Bool
  | .setSourceStep id _ =>
      match state.setSources id with
      | some ⟨_, .take .video⟩ => (state.slots .video).isNone
      | some ⟨_, .halt .video _⟩ => true
      | _ => false
  | .stopStep =>
      match state.stopAt with
      | .take .video => (state.slots .video).isNone
      | .halt .video _ => true
      | _ => false
  | _ => false

/-- The `set_source` has installed its source. -/
def finished (state : Sourcing Reader) (id : Nat) : Bool :=
  match state.setSources id with
  | some ⟨_, .finish⟩ => true
  | some ⟨_, .returned (.ok ())⟩ => true
  | _ => false

end Sourcing

namespace Toggling

variable {Reader : Type}

/-- A streamer of the `set_source` is in a slot. -/
def inSlot (state : Toggling Reader) (id : Nat) : Bool :=
  [StreamType.audio, StreamType.video].any fun side =>
    ((state.sourcing.slots side).bind state.installed).map Prod.fst == some id

/-- The step replaces, stops or refuses the source of the `set_source`. -/
def releasing (state : Toggling Reader) (action : Action Reader) (id : Nat) : Bool :=
  match action with
  | .sourcing action =>
      state.sourcing.refusing action == some id ||
        (state.sourcing.sweeping action && state.sourcing.finished id && !state.inSlot id)
  | _ => false

end Toggling

/-- `hooks` has what came with the `Streams` of each `set_source`, and `released`
whether its source has been replaced, stopped or refused. -/
structure Hooking (Reader : Type) where
  toggling : Toggling Reader
  hooks : Nat → Option Hook
  released : Nat → Bool

namespace Hooking

variable {Reader : Type}

/-- The `Streams` of every `set_source` to come, with a hook or without. -/
def new (close : Nat → Bool) (onStreamEnd : Bool) (dispatcher : Option Nat) :
    Hooking Reader where
  toggling := .new onStreamEnd dispatcher
  hooks := fun id => if close id then some .new else none
  released := fun _ => false

variable (nextSample : Reader → Except RustTgCallsError Sample × Reader)

/-- A `set_source` that has returned leaves nothing of its `Streams`; no step
calls `Streams::close`. -/
def next (state : Hooking Reader) (action : Toggling.Action Reader) : Hooking Reader :=
  let toggling := state.toggling.next nextSample action
  { toggling
    hooks := fun id =>
      if toggling.sourcing.place (.setSource id) = .returned then
        (state.hooks id).map Hook.drop
      else state.hooks id
    released := fun id => state.released id || state.toggling.releasing action id }

def calls (state : Hooking Reader) (id : Nat) : Nat :=
  ((state.hooks id).map Hook.calls).getD 0

/-- A hook is not invoked before its source is released, and once from then on. -/
structure HookRuns (state : Hooking Reader) (id : Nat) : Prop where
  early : state.released id = false → state.calls id = 0
  once : state.released id = true →
    ∃ actions, (after (next nextSample) state actions).calls id = 1

def HooksRun (state : Hooking Reader) : Prop :=
  ∀ id, (state.hooks id).isSome → HookRuns nextSample state id

/-- The step releases no source that came with a hook. -/
def SparesHooks (state : Hooking Reader) (action : Toggling.Action Reader) : Prop :=
  ∀ id, (state.hooks id).isSome → state.toggling.releasing action id = false

variable {nextSample}

@[simp] theorem calls_next (state : Hooking Reader) (action : Toggling.Action Reader)
    (id : Nat) : (state.next nextSample action).calls id = state.calls id := by
  simp only [next, calls]
  split
  · cases state.hooks id <;> rfl
  · rfl

/-- No run invokes a hook. -/
theorem calls_after (state : Hooking Reader) (actions : List (Toggling.Action Reader))
    (id : Nat) : (after (next nextSample) state actions).calls id = state.calls id := by
  induction actions generalizing state with
  | nil => rfl
  | cons action actions ih => rw [after_cons, ih, calls_next]

@[simp] theorem isSome_hooks_next (state : Hooking Reader)
    (action : Toggling.Action Reader) (id : Nat) :
    ((state.next nextSample action).hooks id).isSome = (state.hooks id).isSome := by
  simp only [next]
  split <;> simp

/-- No hook was invoked, and none is due. -/
structure Undue (state : Hooking Reader) : Prop where
  calls : ∀ id, state.calls id = 0
  released : ∀ id, (state.hooks id).isSome → state.released id = false

theorem undue_new (close : Nat → Bool) (onStreamEnd : Bool) (dispatcher : Option Nat) :
    Undue (new close onStreamEnd dispatcher : Hooking Reader) where
  calls := by
    intro id
    simp only [new, Hooking.calls]
    split <;> rfl
  released := fun _ _ => rfl

theorem Undue.hooksRun {state : Hooking Reader} (hundue : Undue state) :
    HooksRun nextSample state := by
  intro id hhook
  have hreleased := hundue.released id hhook
  exact ⟨fun _ => hundue.calls id, fun hdue => by rw [hreleased] at hdue; cases hdue⟩

theorem Undue.next {state : Hooking Reader} {action : Toggling.Action Reader}
    (hundue : Undue state) (hspares : SparesHooks state action) :
    Undue (state.next nextSample action) where
  calls := fun id => by rw [calls_next, hundue.calls]
  released := by
    intro id hhook
    rw [isSome_hooks_next] at hhook
    simp [Hooking.next, hundue.released id hhook, hspares id hhook]

/-- A hook that is due stays so. -/
theorem spares_of_hooksRun {state : Hooking Reader} {action : Toggling.Action Reader}
    (hundue : Undue state) (hruns : HooksRun nextSample (state.next nextSample action)) :
    SparesHooks state action := by
  intro id hhook
  by_contra hreleasing
  rw [Bool.not_eq_false] at hreleasing
  have hlater := hruns id (by rw [isSome_hooks_next]; exact hhook)
  obtain ⟨actions, hcalls⟩ := hlater.once (by simp [Hooking.next, hreleasing])
  rw [calls_after, calls_next, hundue.calls] at hcalls
  cases hcalls

/-- The hooks run as they should exactly as long as no source with a hook is
replaced, stopped or refused. -/
theorem hooksRun_iff (close : Nat → Bool) (onStreamEnd : Bool) (dispatcher : Option Nat)
    (actions : List (Toggling.Action Reader)) :
    Always (next nextSample) (HooksRun nextSample) (new close onStreamEnd dispatcher)
        actions ↔
      Along (next nextSample) SparesHooks (new close onStreamEnd dispatcher) actions :=
  always_iff_along (fun _ => Undue.hooksRun) (fun _ _ => Undue.next)
    (fun _ _ => spares_of_hooksRun) (undue_new close onStreamEnd dispatcher)

/-- A source with a hook, installed and stopped. -/
def playedAndStopped : List (Toggling.Action (List Sample)) :=
  (Sourcing.install 0 ⟨some [Sourcing.frame], none⟩ 15 ++ Sourcing.hangUp).map .sourcing

theorem playedAndStopped_loses_hook :
    ¬ Always (next Sourcing.sampleNext) (HooksRun Sourcing.sampleNext)
      (new (fun _ => true) false none) playedAndStopped := by
  intro halways
  have hruns := halways.after 0 (by decide +kernel)
  obtain ⟨actions, hcalls⟩ := hruns.once (by decide +kernel)
  rw [calls_after, calls_after] at hcalls
  exact absurd hcalls (by decide)

end Hooking

end RustTgCalls.Instances
