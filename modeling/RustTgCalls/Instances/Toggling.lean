import RustTgCalls.Instances.Barrier
import RustTgCalls.Instances.Retirement

namespace RustTgCalls.Instances

open Media

/-! `pause`, `resume`, `mute` and `unmute` of one `GroupCall`, any number of each,
beside its `set_source`s, its `stop` and the tasks of its streamers. -/

inductive Flag where
  | paused
  | muted
  deriving DecidableEq, Repr

/-- The flag that a call swaps. -/
def Toggle.flag : Toggle → Flag
  | .pause | .resume => .paused
  | .mute | .unmute => .muted

/-- A call, by its number among those that swap the same flag. -/
structure Toggler where
  flag : Flag
  number : Nat
  deriving DecidableEq, Repr

inductive TogglerAt where
  | idle
  | testClosed (toggle : Toggle)
  | swap (toggle : Toggle)
  | tell (side : StreamType) (toggle : Toggle)
  deriving DecidableEq, Repr

namespace Sourcing

variable {Reader : Type}

def flag (state : Sourcing Reader) : Flag → Bool
  | .paused => state.paused
  | .muted => state.muted

def setFlag (state : Sourcing Reader) (flag : Flag) (value : Bool) :
    Sourcing Reader :=
  match flag with
  | .paused => { state with paused := value }
  | .muted => { state with muted := value }

/-- `pause` or `resume` of the streamer in a slot. -/
def tell (state : Sourcing Reader) (side : StreamType) (paused : Bool) :
    Sourcing Reader :=
  match state.slots side with
  | some streamer =>
      state.alter streamer fun playing =>
        { playing with leg := { playing.leg with paused } }
  | none => state

def toldNext (side : StreamType) (toggle : Toggle) : TogglerAt :=
  match side, toggle.flag with
  | .audio, .paused => .tell .video toggle
  | _, _ => .idle

/-- A step of a toggle: where it goes on and the call it leaves.  What it does
under the lock of a slot is one step. -/
def togglerTurn (state : Sourcing Reader) : TogglerAt → TogglerAt × Sourcing Reader
  | .idle => (.idle, state)
  | .testClosed toggle => (if state.closed then .idle else .swap toggle, state)
  | .swap toggle =>
      let silences := Playback.Toggle.silences toggle
      if state.flag toggle.flag = silences then (.idle, state)
      else (.tell .audio toggle, state.setFlag toggle.flag silences)
  | .tell side toggle =>
      match state.locks side with
      | some _ => (.tell side toggle, state)
      | none =>
          (toldNext side toggle, state.tell side (Playback.Toggle.silences toggle))

end Sourcing

/-- `installed` has the `set_source` that spawned a streamer and the side it is
for. -/
structure Toggling (Reader : Type) where
  sourcing : Sourcing Reader
  togglers : Toggler → TogglerAt
  installed : Nat → Option (Nat × StreamType)

namespace Toggling

variable {Reader : Type}

def new (onStreamEnd : Bool) (dispatcher : Option Nat) : Toggling Reader where
  sourcing := .new false false onStreamEnd dispatcher
  togglers := fun _ => .idle
  installed := fun _ => none

inductive Action (Reader : Type) where
  | sourcing (action : Sourcing.Action Reader)
  | call (number : Nat) (toggle : Toggle)
  | toggler (toggler : Toggler)

/-- The streamer that a step spawns, with who spawns it. -/
def spawning (state : Sourcing Reader) :
    Sourcing.Action Reader → Option (Nat × StreamType)
  | .setSourceStep id _ =>
      match state.setSources id with
      | some ⟨sources, .spawn side _⟩ => (sources.get side).map fun _ => (id, side)
      | _ => none
  | _ => none

def next (nextSample : Reader → Except RustTgCallsError Sample × Reader)
    (state : Toggling Reader) : Action Reader → Toggling Reader
  | .sourcing action =>
      { state with
        sourcing := state.sourcing.next nextSample action
        installed :=
          match spawning state.sourcing action with
          | some installer =>
              Function.update state.installed state.sourcing.created
                (some installer)
          | none => state.installed }
  | .call number toggle =>
      let toggler := ⟨toggle.flag, number⟩
      if state.togglers toggler = .idle then
        { state with
          togglers := Function.update state.togglers toggler (.testClosed toggle) }
      else state
  | .toggler toggler =>
      let turn := state.sourcing.togglerTurn (state.togglers toggler)
      { state with
        sourcing := turn.2
        togglers := Function.update state.togglers toggler turn.1 }

end Toggling

/-! What a toggle's step leaves. -/

namespace Sourcing

variable {Reader : Type}

/-- A toggle changes a flag, or the pause of the streamer in a slot. -/
inductive Toggles (state : Sourcing Reader) : Sourcing Reader → Prop
  | idle : Toggles state state
  | sets (flag : Flag) (value : Bool) : Toggles state (state.setFlag flag value)
  | tells (side : StreamType) (paused : Bool) {streamer : Nat}
      (hslot : state.slots side = some streamer) :
      Toggles state (state.alter streamer fun playing =>
        { playing with leg := { playing.leg with paused } })

theorem toggles_togglerTurn (state : Sourcing Reader) (stage : TogglerAt) :
    Toggles state (state.togglerTurn stage).2 := by
  cases stage with
  | idle | testClosed toggle => exact .idle
  | swap toggle =>
      simp only [togglerTurn]
      split
      · exact .idle
      · exact .sets toggle.flag _
  | tell side toggle =>
      simp only [togglerTurn, tell]
      split
      · exact .idle
      · split
        next hslot => exact .tells side _ hslot
        next => exact .idle

theorem Toggles.works {state later : Sourcing Reader}
    (htoggles : Toggles state later) : Works state later := by
  cases htoggles with
  | idle => exact .refl state
  | sets flag value =>
      cases flag <;>
        exact ⟨rfl, rfl, rfl, rfl, rfl, fun _ _ hplaying => ⟨_, hplaying, id, id⟩⟩
  | tells => exact works_alter state _ fun _ => ⟨id, id⟩

theorem Toggles.sameCalls {state later : Sourcing Reader}
    (htoggles : Toggles state later) : SameCalls state later := by
  cases htoggles with
  | idle | tells => exact ⟨rfl, rfl, rfl, rfl⟩
  | sets flag value => cases flag <;> exact ⟨rfl, rfl, rfl, rfl⟩

end Sourcing

/-! What a step makes of a streamer. -/

namespace Toggling

open Sourcing

variable {Reader : Type}
  {nextSample : Reader → Except RustTgCallsError Sample × Reader}
  {state : Toggling Reader}

inductive Moves (nextSample : Reader → Except RustTgCallsError Sample × Reader)
    (state : Toggling Reader) (streamer : Nat) (playing : Playing Reader) :
    Action Reader → Playing Reader → Prop
  | same {action : Action Reader}
      (hreport : action ≠ .sourcing (.report streamer)) :
      Moves nextSample state streamer playing action playing
  | reader (stalled : Bool) :
      Moves nextSample state streamer playing (.sourcing (.reader streamer stalled))
        { playing with leg := playing.leg.readerStep nextSample stalled }
  | paced (turn : Nat) (input : PacingInput) {held : Playing Reader}
      (hpaced : Paced state.sourcing turn input streamer playing held) :
      Moves nextSample state streamer playing (.sourcing (.pacing turn input)) held
  | reports :
      Moves nextSample state streamer playing (.sourcing (.report streamer))
        playing.report
  | setSource (id : Nat) (connected : Bool) {call : SetSource Reader}
      (hcall : state.sourcing.setSources id = some call) {told : Playing Reader}
      (htold : Told streamer playing
        (state.sourcing.setSourceTurn id connected call.sources call.stage).2 told) :
      Moves nextSample state streamer playing
        (.sourcing (.setSourceStep id connected)) told
  | stop {told : Playing Reader}
      (htold : Told streamer playing
        (state.sourcing.stopTurn state.sourcing.stopAt).2 told) :
      Moves nextSample state streamer playing (.sourcing .stopStep) told
  | toggler (toggler : Toggler) (side : StreamType) (toggle : Toggle)
      (hstage : state.togglers toggler = .tell side toggle)
      (hslot : state.sourcing.slots side = some streamer) :
      Moves nextSample state streamer playing (.toggler toggler)
        { playing with
          leg := { playing.leg with paused := Playback.Toggle.silences toggle } }

theorem streamers_fire (sourcing : Sourcing Reader) (turn : Nat)
    (error : Option RustTgCallsError) :
    (sourcing.fire turn error).streamers = sourcing.streamers := by
  unfold fire
  split
  · split <;> rfl
  · rfl

theorem streamers_report (sourcing : Sourcing Reader) (turn : Nat) :
    (sourcing.report turn).streamers =
      (sourcing.alter turn Playing.report).streamers := by
  unfold Sourcing.report
  split
  · dsimp only
    split
    · exact streamers_fire _ turn _
    · rfl
  next hnone =>
    funext streamer
    by_cases hturn : streamer = turn
    · subst hturn
      simp [alter, hnone]
    · exact (alter_of_ne hturn _).symm

theorem streamers_dispatch (sourcing : Sourcing Reader)
    (action : Utils.Dispatcher.Action) :
    (sourcing.dispatch action).streamers = sourcing.streamers := by
  unfold dispatch
  split
  · dsimp only
    split
    · rfl
    · split <;> rfl
    · rfl
  · rfl

theorem streamers_setSourceStep {id : Nat} {connected : Bool}
    {call : SetSource Reader} {sourcing : Sourcing Reader}
    (hcall : sourcing.setSources id = some call) :
    (sourcing.setSourceStep id connected).streamers =
      (sourcing.access (sourcing.setSourceTurn id connected call.sources
        call.stage).2).streamers := by
  simp only [setSourceStep, hcall]

theorem moves_sourcing {streamer : Nat} {playing : Playing Reader}
    (hcreated : streamer ≠ state.sourcing.created)
    (hplaying : state.sourcing.streamers streamer = some playing)
    (action : Sourcing.Action Reader) :
    ∃ held, (state.sourcing.next nextSample action).streamers streamer = some held ∧
      Moves nextSample state streamer playing (.sourcing action) held := by
  cases action with
  | setSource sources => exact ⟨playing, hplaying, .same (by simp)⟩
  | setSourceStep id connected =>
      simp only [Sourcing.next]
      cases hcall : state.sourcing.setSources id with
      | none =>
          refine ⟨playing, ?_, .same (by simp)⟩
          simpa [setSourceStep, hcall] using hplaying
      | some call =>
          obtain ⟨told, htold, hheld⟩ := streamers_access
            (state.sourcing.setSourceTurn id connected call.sources call.stage).2
            hcreated hplaying
          exact ⟨told, (streamers_setSourceStep hcall) ▸ hheld,
            .setSource id connected hcall htold⟩
  | stop =>
      refine ⟨playing, ?_, .same (by simp)⟩
      simp only [Sourcing.next]
      split <;> exact hplaying
  | stopStep =>
      obtain ⟨told, htold, hheld⟩ := streamers_access
        (state.sourcing.stopTurn state.sourcing.stopAt).2 hcreated hplaying
      exact ⟨told, hheld, .stop htold⟩
  | reader turn stalled =>
      by_cases hturn : streamer = turn
      · subst hturn
        exact ⟨_, alter_self _ hplaying, .reader stalled⟩
      · exact ⟨playing, (alter_of_ne hturn _).trans hplaying, .same (by simp)⟩
  | pacing turn input =>
      obtain ⟨held, hheld, hpaced⟩ :=
        paced_pacing state.sourcing turn input hplaying
      exact ⟨held, hheld, .paced turn input hpaced⟩
  | report turn =>
      simp only [Sourcing.next, streamers_report]
      by_cases hturn : streamer = turn
      · subst hturn
        exact ⟨_, alter_self _ hplaying, .reports⟩
      · exact ⟨playing, (alter_of_ne hturn _).trans hplaying,
          .same (by simp [Ne.symm hturn])⟩
  | dispatch action =>
      simp only [Sourcing.next, streamers_dispatch]
      exact ⟨playing, hplaying, .same (by simp)⟩

theorem moves_next {streamer : Nat} {playing : Playing Reader}
    (hcreated : streamer ≠ state.sourcing.created)
    (hplaying : state.sourcing.streamers streamer = some playing)
    (action : Action Reader) :
    ∃ held, (state.next nextSample action).sourcing.streamers streamer = some held ∧
      Moves nextSample state streamer playing action held := by
  cases action with
  | sourcing action => exact moves_sourcing hcreated hplaying action
  | call number toggle =>
      refine ⟨playing, ?_, .same (by simp)⟩
      simp only [next]
      split <;> exact hplaying
  | toggler toggler =>
      simp only [next]
      cases hstage : state.togglers toggler with
      | idle | testClosed toggle => exact ⟨playing, hplaying, .same (by simp)⟩
      | swap toggle =>
          refine ⟨playing, ?_, .same (by simp)⟩
          simp only [togglerTurn]
          split
          · exact hplaying
          · cases toggle.flag <;> exact hplaying
      | tell side toggle =>
          simp only [togglerTurn, Sourcing.tell]
          split
          · exact ⟨playing, hplaying, .same (by simp)⟩
          · split
            next other hslot =>
              by_cases hother : streamer = other
              · subst hother
                exact ⟨_, alter_self _ hplaying, .toggler toggler side toggle hstage hslot⟩
              · exact ⟨playing, (alter_of_ne hother _).trans hplaying,
                  .same (by simp)⟩
            next => exact ⟨playing, hplaying, .same (by simp)⟩

/-! The streamer that a step spawns. -/

def Access.spawns : Access Reader → Bool
  | .spawn _ _ _ => true
  | _ => false

theorem unspawned_access {sourcing : Sourcing Reader} {access : Access Reader}
    (hspawns : Access.spawns access = false) :
    (sourcing.access access).created = sourcing.created ∧
      ∀ streamer, sourcing.streamers streamer = none →
        (sourcing.access access).streamers streamer = none := by
  cases access with
  | spawn reader syncBarrier partner => cases hspawns
  | clearOnEnd other | stopRunning other | pause other | register other =>
      refine ⟨rfl, fun streamer hnone => ?_⟩
      by_cases hother : streamer = other
      · subst hother
        simp [Sourcing.access, alter, hnone]
      · exact (alter_of_ne hother _).trans hnone
  | take side caller =>
      simp only [Sourcing.access]
      split <;> exact ⟨rfl, fun _ => id⟩
  | none | lock _ _ | unlock _ | store _ _ | clearPaused | clearMuted =>
      exact ⟨rfl, fun _ => id⟩

inductive Spawns (sourcing later : Sourcing Reader) :
    Option (Nat × StreamType) → Prop
  | none (hcreated : later.created = sourcing.created)
      (habsent : ∀ streamer, sourcing.streamers streamer = none →
        later.streamers streamer = none) : Spawns sourcing later none
  | some (id : Nat) (side : StreamType) {call : SetSource Reader}
      {reader : Reader} (partner : Option Nat)
      (hcall : sourcing.setSources id = some call)
      (hstage : call.stage = .spawn side partner)
      (hreader : call.sources.get side = some reader)
      (hcreated : later.created = sourcing.created + 1)
      (hspawned : later.streamers sourcing.created =
        some (.new reader call.sources.paired false))
      (habsent : ∀ streamer, streamer ≠ sourcing.created →
        sourcing.streamers streamer = none → later.streamers streamer = none) :
      Spawns sourcing later (some (id, side))

theorem spawns_turn (sourcing : Sourcing Reader) (id : Nat) (connected : Bool)
    (sources : Sources Reader) (stage : SetSourceAt) :
    Access.spawns (sourcing.setSourceTurn id connected sources stage).2 = true ↔
      ∃ side partner, stage = .spawn side partner ∧ (sources.get side).isSome := by
  cases stage with
  | spawn side partner =>
      cases hget : sources.get side <;> cases side <;>
        simp [setSourceTurn, hget, Access.spawns]
  | lock side | take side | register side streamer =>
      simp only [setSourceTurn]
      split <;> simp [Access.spawns]
  | _ => simp [setSourceTurn, Access.spawns]

theorem spawning_none {sourcing : Sourcing Reader} {id : Nat} {connected : Bool}
    {call : SetSource Reader} (hcall : sourcing.setSources id = some call)
    (hnone : spawning sourcing (.setSourceStep id connected) = none) :
    Access.spawns
      (sourcing.setSourceTurn id connected call.sources call.stage).2 = false := by
  by_contra hspawns
  obtain ⟨side, partner, hstage, hget⟩ :=
    (spawns_turn sourcing id connected call.sources call.stage).mp
      (by simpa using hspawns)
  obtain ⟨sources, stage⟩ := call
  subst hstage
  simp only [spawning, hcall, Option.map_eq_none_iff] at hnone
  simp [hnone] at hget

theorem spawning_some {sourcing : Sourcing Reader}
    {action : Sourcing.Action Reader} {id : Nat} {side : StreamType}
    (hsome : spawning sourcing action = some (id, side)) :
    ∃ connected call partner reader, action = .setSourceStep id connected ∧
      sourcing.setSources id = some call ∧ call.stage = .spawn side partner ∧
        call.sources.get side = some reader := by
  cases action with
  | setSourceStep other connected =>
      simp only [spawning] at hsome
      split at hsome
      next sources at_ partner hcall =>
        obtain ⟨reader, hreader, hinstaller⟩ := Option.map_eq_some_iff.mp hsome
        cases hinstaller
        exact ⟨connected, _, partner, reader, rfl, hcall, rfl, hreader⟩
      next => cases hsome
  | _ => cases hsome

theorem spawns_setSourceStep {sourcing : Sourcing Reader} {id : Nat}
    {connected : Bool} {call : SetSource Reader} {side : StreamType}
    {partner : Option Nat} {reader : Reader}
    (hcall : sourcing.setSources id = some call)
    (hstage : call.stage = .spawn side partner)
    (hreader : call.sources.get side = some reader) :
    Spawns sourcing (sourcing.setSourceStep id connected) (some (id, side)) := by
  obtain ⟨sources, stage⟩ := call
  subst hstage
  have haccess : ∃ shared, (sourcing.setSourceTurn id connected sources
      (.spawn side partner)).2 = .spawn reader sources.paired shared := by
    cases side with
    | audio => exact ⟨none, by simp [setSourceTurn, hreader]⟩
    | video => exact ⟨partner, by simp [setSourceTurn, hreader]⟩
  obtain ⟨shared, haccess⟩ := haccess
  refine .some id side partner hcall rfl hreader ?_ ?_ ?_
  · simp only [setSourceStep, hcall, haccess]
    cases shared <;> rfl
  · simp only [setSourceStep, hcall, haccess]
    cases shared <;> simp [Sourcing.access]
  · intro streamer hne hnone
    simp only [setSourceStep, hcall, haccess]
    exact streamers_none _ hne hnone

theorem spawns_next (nextSample : Reader → Except RustTgCallsError Sample × Reader)
    (sourcing : Sourcing Reader) (action : Sourcing.Action Reader) :
    Spawns sourcing (sourcing.next nextSample action)
      (spawning sourcing action) := by
  cases hspawning : spawning sourcing action with
  | some installer =>
      obtain ⟨id, side⟩ := installer
      obtain ⟨connected, call, partner, reader, rfl, hcall, hstage, hreader⟩ :=
        spawning_some hspawning
      exact spawns_setSourceStep hcall hstage hreader
  | none =>
      have halter (turn : Nat) (change : Playing Reader → Playing Reader) :
          Spawns sourcing (sourcing.alter turn change) none := by
        refine .none rfl fun streamer hnone => ?_
        by_cases hturn : streamer = turn
        · subst hturn
          simp [alter, hnone]
        · exact (alter_of_ne hturn _).trans hnone
      cases action with
      | setSource sources => exact .none rfl fun _ => id
      | setSourceStep id connected =>
          simp only [Sourcing.next]
          cases hcall : sourcing.setSources id with
          | none =>
              simp only [setSourceStep, hcall]
              exact .none rfl fun _ hnone => hnone
          | some call =>
              have hunspawned := @unspawned_access _ sourcing _
                (spawning_none hcall hspawning)
              simp only [setSourceStep, hcall]
              exact .none hunspawned.1 hunspawned.2
      | stop =>
          simp only [Sourcing.next]
          split <;> exact .none rfl fun _ => id
      | stopStep =>
          have hunspawned : Access.spawns
              (sourcing.stopTurn sourcing.stopAt).2 = false := by
            cases sourcing.stopAt with
            | lock side | take side =>
                simp only [stopTurn]
                split <;> rfl
            | _ => rfl
          exact .none (unspawned_access hunspawned).1 (unspawned_access hunspawned).2
      | reader turn stalled => exact halter turn _
      | pacing turn input =>
          exact .none (works_pacing sourcing turn input).created
            fun _ => pacing_none sourcing turn input
      | report turn =>
          obtain ⟨_, habsent⟩ := halter turn Playing.report
          refine .none (works_report sourcing turn).created fun streamer hnone => ?_
          simp only [Sourcing.next, streamers_report]
          exact habsent streamer hnone
      | dispatch action =>
          refine .none (works_dispatch sourcing action).created fun streamer hnone => ?_
          simp only [Sourcing.next, streamers_dispatch]
          exact hnone

/-! Who spawned the streamer that a `set_source` has in hand or a slot holds. -/

/-- The streamer that is spawned and not yet stored. -/
def building : SetSourceAt → Option (StreamType × Nat)
  | .ifMuted streamer => some (.audio, streamer)
  | .ifPaused side streamer | .pause side streamer | .register side streamer
  | .store side streamer => some (side, streamer)
  | _ => none

structure Sound (state : Toggling Reader) : Prop where
  begun : state.sourcing.Begun
  wired : state.sourcing.Wired
  spawned : ∀ streamer < state.sourcing.created,
    ∃ id side call playing, state.installed streamer = some (id, side) ∧
      state.sourcing.setSources id = some call ∧
        state.sourcing.streamers streamer = some playing
  absent : ∀ streamer, state.sourcing.created ≤ streamer →
    state.installed streamer = none ∧ state.sourcing.streamers streamer = none
  built : ∀ id call, state.sourcing.setSources id = some call →
    ∀ side streamer, building call.stage = some (side, streamer) →
      state.installed streamer = some (id, side)
  stored : ∀ side streamer, state.sourcing.slots side = some streamer →
    ∃ id, state.installed streamer = some (id, side)

theorem building_turn {sourcing : Sourcing Reader} {id : Nat} {connected : Bool}
    {sources : Sources Reader} {stage : SetSourceAt} {side : StreamType}
    {streamer : Nat}
    (hbuilding : building
      (sourcing.setSourceTurn id connected sources stage).1 = some (side, streamer)) :
    building stage = some (side, streamer) ∨
      streamer = sourcing.created ∧
        ∃ partner reader, stage = .spawn side partner ∧
          sources.get side = some reader := by
  cases stage with
  | testClosed | gate =>
      simp only [setSourceTurn] at hbuilding
      split at hbuilding <;> cases hbuilding
  | lock at_ =>
      cases hlock : sourcing.locks at_ <;> cases at_ <;>
        simp [setSourceTurn, hlock, building] at hbuilding
  | take at_ =>
      cases hslot : sourcing.slots at_ <;> cases at_ <;>
        simp [setSourceTurn, hslot, takenNext, building] at hbuilding
  | halt at_ old =>
      cases at_ <;> simp [setSourceTurn, takenNext, building] at hbuilding
  | spawn at_ partner =>
      right
      cases hget : sources.get at_ with
      | none =>
          cases at_ <;>
            simp [setSourceTurn, hget, storedNext, building] at hbuilding
      | some reader =>
          cases at_ <;>
            simp only [setSourceTurn, hget, building, Option.some.injEq,
              Prod.mk.injEq] at hbuilding <;>
            obtain ⟨rfl, rfl⟩ := hbuilding <;>
            exact ⟨rfl, partner, reader, rfl, hget⟩
  | ifMuted other | ifPaused at_ other =>
      simp only [setSourceTurn] at hbuilding
      split at hbuilding <;> exact .inl hbuilding
  | pause at_ other | register at_ other => exact .inl hbuilding
  | store at_ other =>
      cases at_ <;> simp [setSourceTurn, storedNext, building] at hbuilding
  | unlock at_ => cases at_ <;> cases hbuilding
  | clear at_ old | finish | returned result => cases hbuilding

/-- The call of `set_source` before a step, for one behind it. -/
inductive Called (sourcing : Sourcing Reader) (id : Nat) (later : SetSource Reader) :
    Sourcing.Action Reader → Prop
  | new (sources : Sources Reader) (hid : id = sourcing.started)
      (hlater : later = ⟨sources, .testClosed⟩) : Called sourcing id later (.setSource sources)
  | same (action : Sourcing.Action Reader)
      (hcall : sourcing.setSources id = some later) : Called sourcing id later action
  | turn (connected : Bool) {call : SetSource Reader}
      (hcall : sourcing.setSources id = some call)
      (hlater : later = { call with
        stage := (sourcing.setSourceTurn id connected call.sources call.stage).1 }) :
      Called sourcing id later (.setSourceStep id connected)

theorem sameCalls_cases (nextSample : Reader → Except RustTgCallsError Sample × Reader)
    (sourcing : Sourcing Reader) (action : Sourcing.Action Reader) :
    (∃ sources, action = .setSource sources) ∨
      (∃ id connected, action = .setSourceStep id connected) ∨
        (sourcing.next nextSample action).setSources = sourcing.setSources := by
  cases action with
  | setSource sources => exact .inl ⟨sources, rfl⟩
  | setSourceStep id connected => exact .inr (.inl ⟨id, connected, rfl⟩)
  | stop =>
      right; right
      simp only [Sourcing.next]
      split <;> rfl
  | stopStep =>
      right; right
      exact (stages_access sourcing (sourcing.stopTurn sourcing.stopAt).2).1
  | reader turn stalled => exact .inr (.inr rfl)
  | pacing turn input =>
      exact .inr (.inr (sameCalls_pacing sourcing turn input).setSources)
  | report turn => exact .inr (.inr (sameCalls_report sourcing turn).setSources)
  | dispatch action =>
      exact .inr (.inr (sameCalls_dispatch sourcing action).setSources)

theorem called_next (sourcing : Sourcing Reader) {action : Sourcing.Action Reader}
    {id : Nat} {later : SetSource Reader}
    (hlater : (sourcing.next nextSample action).setSources id = some later) :
    Called sourcing id later action := by
  obtain ⟨sources, rfl⟩ | ⟨turn, connected, rfl⟩ | hsame :=
    sameCalls_cases nextSample sourcing action
  · simp only [Sourcing.next] at hlater
    by_cases hid : id = sourcing.started
    · subst hid
      rw [Function.update_self] at hlater
      exact .new sources rfl (Option.some.inj hlater).symm
    · rw [Function.update_of_ne hid] at hlater
      exact .same _ hlater
  · simp only [Sourcing.next] at hlater
    cases hcall : sourcing.setSources turn with
    | none =>
        simp only [setSourceStep, hcall] at hlater
        exact .same _ hlater
    | some call =>
        simp only [setSourceStep, hcall] at hlater
        by_cases hid : id = turn
        · subst hid
          rw [Function.update_self] at hlater
          exact .turn connected hcall (Option.some.inj hlater).symm
        · rw [Function.update_of_ne hid] at hlater
          exact .same _ hlater
  · rw [hsame] at hlater
    exact .same _ hlater

/-- A call keeps its sources. -/
theorem call_persists {sourcing : Sourcing Reader} (hbegun : sourcing.Begun)
    (action : Sourcing.Action Reader) {id : Nat} {call : SetSource Reader}
    (hcall : sourcing.setSources id = some call) :
    ∃ stage, (sourcing.next nextSample action).setSources id =
      some { call with stage } := by
  obtain ⟨sources, rfl⟩ | ⟨turn, connected, rfl⟩ | hsame :=
    sameCalls_cases nextSample sourcing action
  · have hid : id ≠ sourcing.started := by
      rintro rfl
      simp [hbegun.calls _ (Nat.le_refl _)] at hcall
    exact ⟨call.stage, by simpa [Sourcing.next, hid] using hcall⟩
  · by_cases hid : id = turn
    · subst hid
      refine ⟨(sourcing.setSourceTurn id connected call.sources call.stage).1, ?_⟩
      simp only [Sourcing.next, setSourceStep, hcall, Function.update_self]
    · refine ⟨call.stage, ?_⟩
      simp only [Sourcing.next]
      cases hturn : sourcing.setSources turn with
      | none => simpa [setSourceStep, hturn] using hcall
      | some other => simpa [setSourceStep, hturn, hid] using hcall
  · exact ⟨call.stage, by simpa [hsame] using hcall⟩

theorem sound_new (onStreamEnd : Bool) (dispatcher : Option Nat) :
    Sound (new onStreamEnd dispatcher : Toggling Reader) where
  begun := (Sourcing.sound_new false false onStreamEnd dispatcher).begun
  wired := (Sourcing.sound_new false false onStreamEnd dispatcher).wired
  spawned := fun _ hcreated => absurd hcreated (Nat.not_lt_zero _)
  absent := fun _ _ => ⟨rfl, rfl⟩
  built := fun _ _ hcall => nomatch hcall
  stored := fun _ _ hslot => nomatch hslot

theorem Sound.known (hsound : Sound state) {streamer : Nat} {installer : Nat × StreamType}
    (hinstalled : state.installed streamer = some installer) :
    streamer < state.sourcing.created := by
  by_contra hlate
  obtain ⟨hnone, _⟩ := hsound.absent streamer (Nat.le_of_not_lt hlate)
  simp [hnone] at hinstalled

theorem Sound.present (hsound : Sound state) {streamer : Nat} {playing : Playing Reader}
    (hplaying : state.sourcing.streamers streamer = some playing) :
    streamer < state.sourcing.created := by
  by_contra hlate
  obtain ⟨_, hnone⟩ := hsound.absent streamer (Nat.le_of_not_lt hlate)
  simp [hnone] at hplaying

theorem installed_next (action : Action Reader) {streamer : Nat}
    (hcreated : streamer ≠ state.sourcing.created) :
    (state.next nextSample action).installed streamer = state.installed streamer := by
  cases action with
  | sourcing action =>
      simp only [next]
      cases spawning state.sourcing action with
      | none => rfl
      | some installer => exact Function.update_of_ne hcreated ..
  | call number toggle =>
      simp only [next]
      split <;> rfl
  | toggler toggler => rfl

theorem setSources_toggler (toggler : Toggler) :
    (state.next nextSample (.toggler toggler)).sourcing.setSources =
      state.sourcing.setSources :=
  (toggles_togglerTurn state.sourcing (state.togglers toggler)).sameCalls.setSources

theorem setSources_call (number : Nat) (toggle : Toggle) :
    (state.next nextSample (.call number toggle)).sourcing = state.sourcing := by
  simp only [next]
  split <;> rfl

/-- What the last step spawned. -/
theorem Sound.spawned_next (hsound : Sound state) (action : Sourcing.Action Reader) :
    ∀ streamer < (state.next nextSample (.sourcing action)).sourcing.created,
      ∃ id side call playing,
        (state.next nextSample (.sourcing action)).installed streamer =
            some (id, side) ∧
          (state.next nextSample (.sourcing action)).sourcing.setSources id =
              some call ∧
            (state.next nextSample (.sourcing action)).sourcing.streamers streamer =
              some playing := by
  intro streamer hcreated
  by_cases hlt : streamer < state.sourcing.created
  · obtain ⟨id, side, call, playing, hinstalled, hcall, hplaying⟩ :=
      hsound.spawned streamer hlt
    obtain ⟨stage, hlater⟩ := @call_persists _ nextSample _ hsound.begun action _ _ hcall
    obtain ⟨held, hheld, _⟩ := @moves_sourcing _ nextSample state _ _
      (Nat.ne_of_lt hlt) hplaying action
    rw [installed_next _ (Nat.ne_of_lt hlt)]
    exact ⟨id, side, _, held, hinstalled, hlater, hheld⟩
  · have hspawns := spawns_next nextSample state.sourcing action
    generalize hspawning : spawning state.sourcing action = spawned at hspawns
    cases hspawns with
    | none hsame => exact absurd (hsame ▸ hcreated) hlt
    | some id side partner hcall hstage hreader hmore hnew =>
        have hlast : streamer < state.sourcing.created + 1 := hmore ▸ hcreated
        obtain rfl : streamer = state.sourcing.created := by omega
        obtain ⟨stage, hlater⟩ :=
          @call_persists _ nextSample _ hsound.begun action _ _ hcall
        refine ⟨id, side, _, _, ?_, hlater, hnew⟩
        simp [next, hspawning]

theorem Sound.absent_next (hsound : Sound state) (action : Sourcing.Action Reader) :
    ∀ streamer, (state.next nextSample (.sourcing action)).sourcing.created ≤ streamer →
      (state.next nextSample (.sourcing action)).installed streamer = none ∧
        (state.next nextSample (.sourcing action)).sourcing.streamers streamer =
          none := by
  intro streamer hcreated
  have hspawns := spawns_next nextSample state.sourcing action
  generalize hspawning : spawning state.sourcing action = spawned at hspawns
  cases hspawns with
  | none hsame habsent =>
      have hle : state.sourcing.created ≤ streamer := hsame ▸ hcreated
      obtain ⟨hinstalled, hnone⟩ := hsound.absent streamer hle
      refine ⟨?_, habsent streamer hnone⟩
      simpa [next, hspawning] using hinstalled
  | some id side partner hcall hstage hreader hmore hnew habsent =>
      have hlater : state.sourcing.created + 1 ≤ streamer := hmore ▸ hcreated
      obtain ⟨hinstalled, hnone⟩ := hsound.absent streamer (by omega)
      have hne : streamer ≠ state.sourcing.created := by omega
      refine ⟨?_, habsent streamer hne hnone⟩
      rw [installed_next _ hne]
      exact hinstalled

theorem Sound.installed_kept (hsound : Sound state) (action : Sourcing.Action Reader)
    {streamer : Nat} {installer : Nat × StreamType}
    (hinstalled : state.installed streamer = some installer) :
    (state.next nextSample (.sourcing action)).installed streamer = some installer := by
  rw [installed_next _ (Nat.ne_of_lt (hsound.known hinstalled))]
  exact hinstalled

theorem Sound.built_next (hsound : Sound state) (action : Sourcing.Action Reader) :
    ∀ id later,
      (state.next nextSample (.sourcing action)).sourcing.setSources id = some later →
      ∀ side streamer, building later.stage = some (side, streamer) →
        (state.next nextSample (.sourcing action)).installed streamer =
          some (id, side) := by
  intro id later hlater side streamer hbuilding
  have hcalled := called_next state.sourcing hlater
  cases hcalled with
  | new sources hid hnew =>
      subst hnew
      cases hbuilding
  | same _ hcall =>
      exact hsound.installed_kept action (hsound.built id _ hcall side streamer hbuilding)
  | turn connected hcall hturn =>
      subst hturn
      obtain hbefore | ⟨rfl, partner, reader, hstage, hreader⟩ :=
        building_turn hbuilding
      · exact hsound.installed_kept _ (hsound.built id _ hcall side streamer hbefore)
      · rename_i call
        obtain ⟨sources, stage⟩ := call
        subst hstage
        have hreader : sources.get side = some reader := hreader
        simp [next, spawning, hcall, hreader]

theorem Sound.stored_next (hsound : Sound state) (action : Sourcing.Action Reader) :
    ∀ side streamer,
      (state.next nextSample (.sourcing action)).sourcing.slots side = some streamer →
      ∃ id, (state.next nextSample (.sourcing action)).installed streamer =
        some (id, side) := by
  intro side streamer hslot
  have hsame (hslots : (state.sourcing.next nextSample action).slots =
      state.sourcing.slots) :
      ∃ id, (state.next nextSample (.sourcing action)).installed streamer =
        some (id, side) := by
    have hbefore : state.sourcing.slots side = some streamer := hslots ▸ hslot
    obtain ⟨id, hinstalled⟩ := hsound.stored side streamer hbefore
    exact ⟨id, hsound.installed_kept action hinstalled⟩
  cases action with
  | setSource sources => exact hsame rfl
  | setSourceStep id connected =>
      cases hcall : state.sourcing.setSources id with
      | none => exact hsame (by simp [Sourcing.next, setSourceStep, hcall])
      | some call =>
          have hslot : (state.sourcing.access (state.sourcing.setSourceTurn id connected
              call.sources call.stage).2).slots side = some streamer := by
            simpa [next, Sourcing.next, setSourceStep, hcall] using hslot
          obtain hbefore | hstores := slots_access state.sourcing _ hslot
          · obtain ⟨id, hinstalled⟩ := hsound.stored side streamer hbefore
            exact ⟨id, hsound.installed_kept _ hinstalled⟩
          · have hstage := setSource_stores id connected call.sources hstores
            have hbuilt := hsound.built id call hcall side streamer (by rw [hstage]; rfl)
            exact ⟨id, hsound.installed_kept _ hbuilt⟩
  | stop =>
      apply hsame
      simp only [Sourcing.next]
      split <;> rfl
  | stopStep =>
      obtain hbefore | hstores := slots_access state.sourcing _ hslot
      · obtain ⟨id, hinstalled⟩ := hsound.stored side streamer hbefore
        exact ⟨id, hsound.installed_kept _ hinstalled⟩
      · exact absurd hstores stop_stores
  | reader turn stalled => exact hsame rfl
  | pacing turn input => exact hsame (works_pacing state.sourcing turn input).slots
  | report turn => exact hsame (works_report state.sourcing turn).slots
  | dispatch action => exact hsame (works_dispatch state.sourcing action).slots

theorem sound_next (state : Toggling Reader) (action : Action Reader)
    (hsound : Sound state) : Sound (state.next nextSample action) := by
  cases action with
  | sourcing action =>
      exact ⟨begun_next nextSample hsound.begun action,
        wired_next nextSample hsound.begun hsound.wired action,
        hsound.spawned_next action, hsound.absent_next action,
        hsound.built_next action, hsound.stored_next action⟩
  | call number toggle =>
      simp only [next]
      split <;> exact ⟨hsound.begun, hsound.wired, hsound.spawned, hsound.absent,
        hsound.built, hsound.stored⟩
  | toggler toggler =>
      have htoggles := toggles_togglerTurn state.sourcing (state.togglers toggler)
      have hworks := htoggles.works
      have hcalls := @setSources_toggler _ nextSample state toggler
      refine ⟨htoggles.sameCalls.begun hsound.begun, hworks.wired hsound.wired,
        ?_, ?_, ?_, ?_⟩
      · intro streamer hcreated
        have hlt : streamer < state.sourcing.created := hworks.created ▸ hcreated
        obtain ⟨id, side, call, playing, hinstalled, hcall, hplaying⟩ :=
          hsound.spawned streamer hlt
        obtain ⟨held, hheld, _⟩ := @moves_next _ nextSample state _ _
          (Nat.ne_of_lt hlt) hplaying (.toggler toggler)
        exact ⟨id, side, call, held, hinstalled, hcalls ▸ hcall, hheld⟩
      · intro streamer hcreated
        have hle : state.sourcing.created ≤ streamer := hworks.created ▸ hcreated
        obtain ⟨hinstalled, hnone⟩ := hsound.absent streamer hle
        refine ⟨hinstalled, ?_⟩
        by_contra hsome
        obtain ⟨playing, hplaying⟩ := Option.ne_none_iff_exists'.mp hsome
        obtain ⟨before, hbefore, _⟩ := hworks.streamers streamer playing hplaying
        simp [hnone] at hbefore
      · rw [hcalls]
        exact hsound.built
      · intro side streamer hslot
        have hbefore : state.sourcing.slots side = some streamer := hworks.slots ▸ hslot
        exact hsound.stored side streamer hbefore

theorem created_next (hsound : Sound state) (action : Action Reader)
    {streamer : Nat} (hcreated : streamer < state.sourcing.created) :
    streamer < (state.next nextSample action).sourcing.created := by
  obtain ⟨_, _, _, playing, _, _, hplaying⟩ := hsound.spawned streamer hcreated
  obtain ⟨held, hheld, _⟩ := @moves_next _ nextSample state _ _
    (Nat.ne_of_lt hcreated) hplaying action
  exact (sound_next state action hsound).present hheld

theorem call_next (hsound : Sound state) (action : Action Reader) {id : Nat}
    {call : SetSource Reader} (hcall : state.sourcing.setSources id = some call) :
    ∃ stage, (state.next nextSample action).sourcing.setSources id =
      some { call with stage } := by
  cases action with
  | sourcing action => exact call_persists hsound.begun action hcall
  | call number toggle =>
      rw [setSources_call]
      exact ⟨call.stage, hcall⟩
  | toggler toggler =>
      rw [setSources_toggler]
      exact ⟨call.stage, hcall⟩

/-- Only its own step moves a call. -/
theorem call_cases (hsound : Sound state) (action : Action Reader) {id : Nat}
    {call : SetSource Reader} (hcall : state.sourcing.setSources id = some call) :
    (state.next nextSample action).sourcing.setSources id = some call ∨
      ∃ connected, action = .sourcing (.setSourceStep id connected) ∧
        (state.next nextSample action).sourcing.setSources id = some { call with
          stage := (state.sourcing.setSourceTurn id connected call.sources
            call.stage).1 } := by
  obtain ⟨stage, hlater⟩ := @call_next _ nextSample _ hsound action _ _ hcall
  cases action with
  | sourcing action =>
      cases called_next state.sourcing hlater with
      | new sources hid =>
          subst hid
          simp [hsound.begun.calls _ (Nat.le_refl _)] at hcall
      | same _ hcalled =>
          rw [hcall] at hcalled
          exact .inl (hlater.trans hcalled.symm)
      | turn connected hcalled hturn =>
          rw [hcall] at hcalled
          cases hcalled
          exact .inr ⟨connected, rfl, hturn ▸ hlater⟩
  | call number toggle =>
      rw [setSources_call]
      exact .inl hcall
  | toggler toggler =>
      rw [setSources_toggler]
      exact .inl hcall

/-- A streamer before a step, or the one it spawns. -/
theorem present_before (hsound : Sound state) (action : Action Reader)
    {streamer : Nat} {held : Playing Reader}
    (hheld : (state.next nextSample action).sourcing.streamers streamer = some held) :
    (∃ playing, state.sourcing.streamers streamer = some playing ∧
      Moves nextSample state streamer playing action held) ∨
      streamer = state.sourcing.created ∧
        ∃ id connected call side partner reader,
          action = .sourcing (.setSourceStep id connected) ∧
            state.sourcing.setSources id = some call ∧
              call.stage = .spawn side partner ∧
                call.sources.get side = some reader ∧
                  held = .new reader call.sources.paired false := by
  by_cases hcreated : streamer < state.sourcing.created
  · obtain ⟨_, _, _, playing, _, _, hplaying⟩ := hsound.spawned streamer hcreated
    obtain ⟨later, hlater, hmoves⟩ := @moves_next _ nextSample state _ _
      (Nat.ne_of_lt hcreated) hplaying action
    rw [hheld] at hlater
    cases hlater
    exact .inl ⟨playing, hplaying, hmoves⟩
  · have hnone := (hsound.absent streamer (Nat.le_of_not_lt hcreated)).2
    cases action with
    | sourcing action =>
        have hspawns := spawns_next nextSample state.sourcing action
        generalize hspawning : spawning state.sourcing action = spawned at hspawns
        cases hspawns with
        | none _ habsent =>
            have hlater : (state.sourcing.next nextSample action).streamers streamer =
                none := habsent streamer hnone
            simp [next, hlater] at hheld
        | some id side partner hcall hstage hreader hcreated' hspawned habsent =>
            by_cases hlast : streamer = state.sourcing.created
            · subst hlast
              have hheld : (state.sourcing.next nextSample action).streamers
                  state.sourcing.created = some held := hheld
              rw [hspawned] at hheld
              cases hheld
              obtain ⟨connected, call', partner', reader', haction, hcall', hstage',
                hreader'⟩ := spawning_some hspawning
              rw [hcall] at hcall'
              cases hcall'
              rw [hreader] at hreader'
              cases hreader'
              exact .inr ⟨rfl, id, connected, _, side, partner', _,
                by rw [haction], hcall, hstage', hreader, rfl⟩
            · have hlater : (state.sourcing.next nextSample action).streamers streamer =
                  none := habsent streamer hlast hnone
              simp [next, hlater] at hheld
    | call number toggle =>
        rw [setSources_call, hnone] at hheld
        cases hheld
    | toggler toggler =>
        have hworks :=
          (toggles_togglerTurn state.sourcing (state.togglers toggler)).works
        obtain ⟨before, hbefore, _⟩ := hworks.streamers streamer held hheld
        simp [hnone] at hbefore

end Toggling

end RustTgCalls.Instances
