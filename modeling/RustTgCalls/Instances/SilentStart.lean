import RustTgCalls.Media.Feed
import RustTgCalls.Instances.Toggling

namespace RustTgCalls.Instances

open Media Transition Pull

/-! A source installed while its legs are silenced. -/

/-- `pause` silences both legs and `mute` the audio one. -/
def Flag.silences : Flag → StreamType → Bool
  | .paused, _ => true
  | .muted, side => side == .audio

namespace Sourcing

variable {Reader : Type}

def silenced (state : Sourcing Reader) (side : StreamType) : Bool :=
  state.paused || (state.muted && side == .audio)

/-- The streamer a `set_source` will pause if the flags stay. -/
def pausePending (state : Sourcing Reader) : SetSourceAt → Option Nat
  | .ifMuted streamer => if state.muted || state.paused then some streamer else none
  | .ifPaused _ streamer => if state.paused then some streamer else none
  | .pause _ streamer => some streamer
  | _ => none

end Sourcing

namespace Toggling

open Sourcing

variable {Reader : Type}

/-- About to pass the test of the paused flag in front of a frame. -/
def passingPause (leg : Leg Reader) : Bool :=
  match leg.pacingAt with
  | .whilePaused => !leg.paused
  | _ => false

/-- The side that a toggle is about to resume. -/
def resuming : TogglerAt → Option StreamType
  | .tell side toggle => if Playback.Toggle.silences toggle then none else some side
  | _ => none

/-- A pacing task passes the test of its paused flag only when no `set_source` has
still to pause it, and a leg is resumed only where nothing silences it. -/
def Heeds (state : Toggling Reader) : Action Reader → Prop
  | .sourcing (.pacing streamer _) =>
      ∀ playing ∈ state.sourcing.streamers streamer, passingPause playing.leg = true →
        ∀ id < state.sourcing.started, ∀ call ∈ state.sourcing.setSources id,
          state.sourcing.pausePending call.stage ≠ some streamer
  | .toggler toggler =>
      ∀ side ∈ resuming (state.togglers toggler),
        (state.sourcing.slots side).isSome = true →
          state.sourcing.silenced side = false
  | _ => True

instance (state : Toggling Reader) : DecidablePred (Heeds state)
  | .sourcing (.pacing streamer _) => inferInstanceAs (Decidable
      (∀ playing ∈ state.sourcing.streamers streamer, passingPause playing.leg = true →
        ∀ id < state.sourcing.started, ∀ call ∈ state.sourcing.setSources id,
          state.sourcing.pausePending call.stage ≠ some streamer))
  | .toggler toggler => inferInstanceAs (Decidable
      (∀ side ∈ resuming (state.togglers toggler),
        (state.sourcing.slots side).isSome = true →
          state.sourcing.silenced side = false))
  | .call _ _ | .sourcing (.setSource _) | .sourcing (.setSourceStep _ _)
  | .sourcing .stop | .sourcing .stopStep | .sourcing (.reader _ _)
  | .sourcing (.report _) | .sourcing (.dispatch _) => .isTrue trivial

def sent (state : Toggling Reader) (streamer : Nat) : List Sample :=
  state.sourcing.sent streamer

/-! A leg that is to stay silent. -/

variable {nextSample : Reader → Except RustTgCallsError Sample × Reader}
  {state : Toggling Reader} {streamer : Nat} {playing : Playing Reader}

/-- A pacing task passes its test only where it finds the streamer un-paused. -/
theorem past_entered {input : PacingInput}
    (hpast : Playing.past (playing.pacingLeg input) = true) :
    Playing.past playing.leg = true ∨
      passingPause playing.leg = true := by
  unfold Playing.pacingLeg Leg.pacingStep at hpast
  cases hat : playing.leg.pacingAt with
  | firstRecv =>
      simp only [hat] at hpast
      split at hpast
      · simp [Playing.past] at hpast
      · simp [Playing.past, hat] at hpast
  | whileRunning =>
      cases hrunning : playing.leg.running <;>
        simp [hat, hrunning, Playing.past] at hpast
  | whilePaused =>
      cases hpaused : playing.leg.paused with
      | true => simp [hat, hpaused, Playing.past] at hpast
      | false => exact .inr (by simp [passingPause, hat, hpaused])
  | pausedRunning =>
      cases hrunning : playing.leg.running <;>
        simp [hat, hrunning, Playing.past] at hpast
  | ifRunning =>
      cases hrunning : playing.leg.running with
      | true => exact .inl (by simp [Playing.past, hat, hrunning])
      | false => simp [hat, hrunning, Playing.past] at hpast
  | sendRtp sample => exact .inl (by simp [Playing.past, hat])
  | join slept received =>
      simp only [hat] at hpast
      obtain ⟨hjoin | ⟨asleep, held, hjoin⟩, _, _⟩ :=
        Leg.atJoin_joinStep playing.leg slept received input hat <;>
        simp [Playing.past, hjoin] at hpast
  | take | ifFirst sample | barrierWait sample | released sample =>
      exact .inl (by simp [Playing.past, hat])
  | notified | account sample | finish | ended =>
      simp [hat, Playing.past] at hpast

/-- A `set_source` that finds the flag set pauses the streamer it has in hand. -/
def toPause (flag : Flag) : SetSourceAt → Option Nat
  | .ifMuted streamer => some streamer
  | .ifPaused _ streamer => if flag = .paused then some streamer else none
  | .pause _ streamer => some streamer
  | _ => none

theorem pausePending_of_toPause {sourcing : Sourcing Reader} {flag : Flag}
    {stage : SetSourceAt} (hset : sourcing.flag flag = true)
    (hstage : toPause flag stage = some streamer) :
    sourcing.pausePending stage = some streamer := by
  cases stage with
  | ifMuted other =>
      cases flag <;> simp_all [toPause, pausePending, Sourcing.flag]
  | ifPaused side other =>
      cases flag <;> simp_all [toPause, pausePending, Sourcing.flag]
  | pause side other => exact hstage
  | _ => cases hstage

/-- Nothing was sent, nothing is past the test, and the streamer is paused or its
`set_source` has it still in hand to pause it. -/
structure Waiting (flag : Flag) (id : Nat) (state : Toggling Reader)
    (streamer : Nat) (playing : Playing Reader) : Prop where
  sent : playing.sent = []
  past : Playing.past playing.leg = false
  held : playing.leg.paused = true ∨ ∃ call,
    state.sourcing.setSources id = some call ∧
      toPause flag call.stage = some streamer

/-- The streamer stays in hand until it is paused. -/
theorem toPause_next (hsound : Sound state) {flag : Flag} (action : Action Reader)
    (hset : state.sourcing.flag flag = true) {id : Nat} {call : SetSource Reader}
    (hcall : state.sourcing.setSources id = some call)
    (hstage : toPause flag call.stage = some streamer) :
    (∃ later, (state.next nextSample action).sourcing.setSources id = some later ∧
      toPause flag later.stage = some streamer) ∨
      ∃ connected side, action = .sourcing (.setSourceStep id connected) ∧
        call.stage = .pause side streamer := by
  obtain hsame | ⟨connected, haction, hlater⟩ :=
    @call_cases _ nextSample _ hsound action _ _ hcall
  · exact .inl ⟨call, hsame, hstage⟩
  · obtain ⟨sources, before⟩ := call
    cases before with
    | ifMuted other =>
        refine .inl ⟨_, hlater, ?_⟩
        cases flag with
        | paused =>
            simp only [setSourceTurn]
            split <;> exact hstage
        | muted =>
            have hmuted : state.sourcing.muted = true := hset
            simpa [setSourceTurn, hmuted, toPause] using hstage
    | ifPaused side other =>
        refine .inl ⟨_, hlater, ?_⟩
        cases flag with
        | paused =>
            have hpaused : state.sourcing.paused = true := hset
            simpa [setSourceTurn, hpaused, toPause] using hstage
        | muted => simp [toPause] at hstage
    | pause side other =>
        cases hstage
        exact .inr ⟨connected, side, haction, rfl⟩
    | _ => cases hstage

theorem pauses_next {id : Nat} {connected : Bool} {call : SetSource Reader}
    {side : StreamType} {held : Playing Reader}
    (hcall : state.sourcing.setSources id = some call)
    (hstage : call.stage = .pause side streamer)
    (hheld : (state.next nextSample (.sourcing
      (.setSourceStep id connected))).sourcing.streamers streamer = some held) :
    held.leg.paused = true := by
  obtain ⟨sources, stage⟩ := call
  subst hstage
  have hlater : (state.sourcing.access (.pause streamer)).streamers streamer =
      some held := by
    simpa only [next, Sourcing.next, setSourceStep, hcall, setSourceTurn] using hheld
  cases hplaying : state.sourcing.streamers streamer with
  | none => simp [Sourcing.access, alter, hplaying] at hlater
  | some playing =>
      simp only [Sourcing.access, alter_self _ hplaying, Option.some.injEq] at hlater
      rw [← hlater]

/-- What a step leaves of a streamer that sends nothing and is past no test. -/
structure Mute (playing held : Playing Reader) : Prop where
  sent : held.sent = playing.sent
  past : Playing.past playing.leg = false → Playing.past held.leg = false

theorem mute_told {access : Access Reader} {told : Playing Reader}
    (htold : Told streamer playing access told) :
    Mute playing told ∧ (playing.leg.paused = true → told.leg.paused = true) := by
  cases htold with
  | same | clearOnEnd | register => exact ⟨⟨rfl, id⟩, id⟩
  | pause => exact ⟨⟨rfl, id⟩, fun _ => rfl⟩
  | stopRunning =>
      refine ⟨⟨rfl, ?_⟩, id⟩
      unfold Playing.past
      cases playing.leg.pacingAt <;> simp

theorem waiting_pacing (hpast : Playing.past playing.leg = false)
    (huntested : passingPause playing.leg = false)
    (input : PacingInput) :
    Mute playing (playing.pacing input) ∧
      (playing.pacing input).leg.paused = playing.leg.paused := by
  have hpassing : Playing.passing playing.leg = none := by
    by_contra hpassing
    simp [Playing.past_of_passing hpassing] at hpast
  refine ⟨⟨?_, fun _ => ?_⟩, (playing.sameReader_pacingLeg input).paused⟩
  · simp [Playing.pacing, hpassing]
  · by_contra hlater
    have hentered : Playing.past (playing.pacingLeg input) = true := by
      simpa [Playing.pacing] using hlater
    obtain hbefore | htested := past_entered hentered
    · simp [hbefore] at hpast
    · simp [htested] at huntested

theorem past_of_arriving (harriving : arriving playing = true) :
    Playing.past playing.leg = true := by
  unfold arriving at harriving
  split at harriving
  next hat => simp [Playing.past, hat]
  next => cases harriving

theorem past_of_waits {leg : Leg Reader} (hwaits : leg.waits = true) :
    Playing.past leg = true := by
  unfold Leg.waits at hwaits
  split at hwaits
  next hat => simp [Playing.past, hat]
  next => cases hwaits

theorem silenced_of_flag {sourcing : Sourcing Reader} {flag : Flag}
    {side : StreamType} (hset : sourcing.flag flag = true)
    (hsilences : flag.silences side = true) : sourcing.silenced side = true := by
  cases flag <;> simp_all [Sourcing.flag, Flag.silences, silenced]

/-- Each step leaves such a leg without a frame on its way, and paused if it was. -/
theorem mute_moves (hsound : Sound state) {flag : Flag} {owner : Nat} {side : StreamType}
    {action : Action Reader} (hset : state.sourcing.flag flag = true)
    (hheeds : Heeds state action) (hsilences : flag.silences side = true)
    (hinstalled : state.installed streamer = some (owner, side))
    (hplaying : state.sourcing.streamers streamer = some playing)
    (hwaiting : Waiting flag owner state streamer playing) {held : Playing Reader}
    (hmoves : Moves nextSample state streamer playing action held) :
    Mute playing held ∧ (playing.leg.paused = true → held.leg.paused = true) := by
  obtain ⟨_, hpast, hhand⟩ := hwaiting
  cases hmoves with
  | same => exact ⟨⟨rfl, id⟩, id⟩
  | reader stalled =>
      have hsame := Leg.samePacing_readerStep nextSample playing.leg stalled
      obtain ⟨hpaused, _⟩ := Leg.paused_readerStep nextSample playing.leg stalled
      refine ⟨⟨rfl, fun hbefore => ?_⟩, fun hbefore => hpaused.trans hbefore⟩
      simpa [Playing.past, hsame.pacingAt, hsame.running] using hbefore
  | paced turn input hpaced =>
      cases hpaced with
      | other => exact ⟨⟨rfl, id⟩, id⟩
      | turn hturn =>
          subst hturn
          have huntested : passingPause playing.leg = false := by
            obtain hpaused | ⟨call, hcall, hstage⟩ := hhand
            · unfold passingPause
              split <;> simp [hpaused]
            by_contra htested
            have hstarted : owner < state.sourcing.started := by
              by_contra hlate
              simp [hsound.begun.calls owner (Nat.le_of_not_lt hlate)] at hcall
            exact hheeds playing hplaying (by simpa using htested) owner hstarted
              call hcall (pausePending_of_toPause hset hstage)
          obtain ⟨hmute, hpaused⟩ := waiting_pacing hpast huntested input
          exact ⟨hmute, fun hbefore => hpaused.trans hbefore⟩
      | meets _ harriving => simp [past_of_arriving harriving] at hpast
      | freed _ hwaits => simp [past_of_waits hwaits] at hpast
  | reports =>
      obtain ⟨hleg, hsent, _⟩ := playing.report_frame
      rw [hleg]
      refine ⟨⟨hsent, ?_⟩, id⟩
      rw [hleg]
      exact id
  | setSource other connected hcall htold => exact mute_told htold
  | stop htold => exact mute_told htold
  | toggler toggler at_ toggle hstage hslot =>
      refine ⟨⟨rfl, id⟩, fun _ => ?_⟩
      cases htoggle : Playback.Toggle.silences toggle with
      | true => rfl
      | false =>
          -- nothing silences the side, against the flag
          obtain ⟨other, hinstalled'⟩ := hsound.stored at_ streamer hslot
          rw [hinstalled] at hinstalled'
          cases hinstalled'
          have hfree := hheeds side (by simp [hstage, resuming, htoggle])
            (by simp [hslot])
          simp [silenced_of_flag hset hsilences] at hfree

theorem waiting_moves (hsound : Sound state) {flag : Flag} {id : Nat}
    {side : StreamType} (action : Action Reader)
    (hset : state.sourcing.flag flag = true) (hheeds : Heeds state action)
    (hsilences : flag.silences side = true)
    (hinstalled : state.installed streamer = some (id, side))
    (hplaying : state.sourcing.streamers streamer = some playing)
    (hwaiting : Waiting flag id state streamer playing) {held : Playing Reader}
    (hheld : (state.next nextSample action).sourcing.streamers streamer = some held)
    (hmoves : Moves nextSample state streamer playing action held) :
    Waiting flag id (state.next nextSample action) streamer held := by
  obtain ⟨hmute, hpaused⟩ :=
    mute_moves hsound hset hheeds hsilences hinstalled hplaying hwaiting hmoves
  refine ⟨hmute.sent.trans hwaiting.sent, hmute.past hwaiting.past, ?_⟩
  obtain hbefore | ⟨call, hcall, hstage⟩ := hwaiting.held
  · exact .inl (hpaused hbefore)
  · obtain hlater | ⟨connected, at_, rfl, hpause⟩ :=
      @toPause_next _ nextSample _ _ hsound _ action hset _ _ hcall hstage
    · exact .inr hlater
    · exact .inl (pauses_next hcall hpause hheld)

def Silent (flag : Flag) (id : Nat) (side : StreamType) (state : Toggling Reader) :
    Prop :=
  ∀ streamer, state.installed streamer = some (id, side) → ∀ playing,
    state.sourcing.streamers streamer = some playing →
      Waiting flag id state streamer playing

theorem silent_next (hsound : Sound state) {flag : Flag} {id : Nat}
    {side : StreamType} (action : Action Reader)
    (hset : state.sourcing.flag flag = true) (hheeds : Heeds state action)
    (hsilences : flag.silences side = true) (hsilent : Silent flag id side state) :
    Silent flag id side (state.next nextSample action) := by
  intro streamer hinstalled held hheld
  obtain ⟨playing, hplaying, hmoves⟩ |
    ⟨hlast, other, connected, call, at_, partner, reader, haction, hcall, hstage,
      hreader, hnew⟩ := present_before hsound action hheld
  · rw [installed_next _ (Nat.ne_of_lt (hsound.present hplaying))] at hinstalled
    exact waiting_moves hsound action hset hheeds hsilences hinstalled hplaying
      (hsilent streamer hinstalled playing hplaying) hheld hmoves
  · subst haction hnew hlast
    obtain ⟨sources, stage⟩ := call
    subst hstage
    have hreader : sources.get at_ = some reader := hreader
    have hinstaller : (other, at_) = (id, side) := by
      simpa [next, spawning, hcall, hreader] using hinstalled
    cases hinstaller
    refine ⟨rfl, rfl, .inr ?_⟩
    cases side with
    | audio =>
        refine ⟨⟨sources, .ifMuted state.sourcing.created⟩, ?_, rfl⟩
        simp [next, Sourcing.next, setSourceStep, hcall, setSourceTurn, hreader]
    | video =>
        have hflag : flag = .paused := by
          cases flag with
          | paused => rfl
          | muted => cases hsilences
        refine ⟨⟨sources, .ifPaused .video state.sourcing.created⟩, ?_, ?_⟩
        · simp [next, Sourcing.next, setSourceStep, hcall, setSourceTurn, hreader]
        · simp [toPause, hflag]

/-! What a streamer sends, from its source. -/

def Supplied (nextSample : Reader → Except RustTgCallsError Sample × Reader)
    (state : Toggling Reader) : Prop :=
  ∀ streamer id side call reader playing,
    state.installed streamer = some (id, side) →
      state.sourcing.setSources id = some call →
        call.sources.get side = some reader →
          state.sourcing.streamers streamer = some playing →
            Playing.Fed nextSample reader playing

theorem fed_told {source : Reader} {access : Access Reader} {told : Playing Reader}
    (hfed : Playing.Fed nextSample source playing)
    (htold : Told streamer playing access told) :
    Playing.Fed nextSample source told := by
  cases htold <;> exact hfed.still rfl rfl id rfl id fun hread => ⟨hread, rfl⟩

theorem fed_moves {source : Reader} {action : Action Reader} {held : Playing Reader}
    (hfed : Playing.Fed nextSample source playing)
    (hmoves : Moves nextSample state streamer playing action held) :
    Playing.Fed nextSample source held := by
  cases hmoves with
  | same => exact hfed
  | reader stalled => exact Playing.fed_reader hfed stalled
  | paced turn input hpaced =>
      cases hpaced with
      | other => exact hfed
      | turn => exact Playing.fed_pacing hfed input
      | meets => exact Playing.fed_freed (Playing.fed_pacing hfed input)
      | freed => exact Playing.fed_freed hfed
  | reports =>
      obtain ⟨hleg, hsent, _⟩ := playing.report_frame
      refine hfed.still hsent ?_ ?_ ?_ ?_ ?_ <;> rw [hleg]
      · exact id
      · exact id
      · exact fun hread => ⟨hread, rfl⟩
  | setSource id connected hcall htold => exact fed_told hfed htold
  | stop htold => exact fed_told hfed htold
  | toggler => exact hfed.still rfl rfl id rfl id fun hread => ⟨hread, rfl⟩

theorem supplied_next (hsound : Sound state) (action : Action Reader)
    (hsupplied : Supplied nextSample state) :
    Supplied nextSample (state.next nextSample action) := by
  intro streamer id side later reader held hinstalled hlater hreader hheld
  obtain ⟨playing, hplaying, hmoves⟩ |
    ⟨hlast, other, connected, call, at_, partner, first, haction, hcall, hstage,
      hfirst, hnew⟩ := present_before hsound action hheld
  · have hcreated := hsound.present hplaying
    rw [installed_next _ (Nat.ne_of_lt hcreated)] at hinstalled
    obtain ⟨_, _, call, _, hinstalled', hcall, _⟩ := hsound.spawned streamer hcreated
    rw [hinstalled] at hinstalled'
    cases hinstalled'
    obtain ⟨stage, hkept⟩ := @call_next _ nextSample _ hsound action _ _ hcall
    rw [hlater] at hkept
    cases hkept
    exact fed_moves (hsupplied streamer id side call reader playing hinstalled hcall
      hreader hplaying) hmoves
  · subst haction hnew hlast
    obtain ⟨sources, stage⟩ := call
    subst hstage
    have hfirst : sources.get at_ = some first := hfirst
    have hinstaller : (other, at_) = (id, side) := by
      simpa [next, spawning, hcall, hfirst] using hinstalled
    cases hinstaller
    obtain ⟨stage, hkept⟩ := @call_next _ nextSample _ hsound
      (.sourcing (.setSourceStep id connected)) _ _ hcall
    rw [hlater] at hkept
    cases hkept
    rw [hfirst] at hreader
    cases hreader
    exact Playing.fed_new reader sources.paired false

/-! Whole runs. -/

theorem sound_after (hsound : Sound state) (actions : List (Action Reader)) :
    Sound (after (next nextSample) state actions) := by
  have htrue : Along (next nextSample) (fun _ _ => True) state actions := along_true
  exact htrue.invariant (fun state action hnow _ => sound_next state action hnow) hsound

theorem silent_after {flag : Flag} {id : Nat} {side : StreamType}
    (hsilences : flag.silences side = true) (hsound : Sound state)
    (hsilent : Silent flag id side state) {actions : List (Action Reader)}
    (hheeds : Along (next nextSample) Heeds state actions)
    (hset : Always (next nextSample) (fun now => now.sourcing.flag flag = true)
      state actions) :
    Silent flag id side (after (next nextSample) state actions) := by
  induction actions generalizing state with
  | nil => exact hsilent
  | cons action rest ih =>
      obtain ⟨hhead, htail⟩ := hheeds
      obtain ⟨hnow, hlater⟩ := hset
      exact ih (sound_next state action hsound)
        (silent_next hsound action hnow hhead hsilences hsilent) htail hlater

theorem supplied_after (hsound : Sound state) (hsupplied : Supplied nextSample state)
    (actions : List (Action Reader)) :
    Supplied nextSample (after (next nextSample) state actions) := by
  have htrue : Along (next nextSample) (fun _ _ => True) state actions := along_true
  have hstep (now : Toggling Reader) (action : Action Reader)
      (hnow : Sound now ∧ Supplied nextSample now) (_ : True) :
      Sound (now.next nextSample action) ∧
        Supplied nextSample (now.next nextSample action) :=
    ⟨sound_next now action hnow.1, supplied_next hnow.1 action hnow.2⟩
  exact (htrue.invariant hstep ⟨hsound, hsupplied⟩).2

theorem call_after (hsound : Sound state) {id : Nat} {call : SetSource Reader}
    (hcall : state.sourcing.setSources id = some call) (actions : List (Action Reader)) :
    ∃ stage, (after (next nextSample) state actions).sourcing.setSources id =
      some { call with stage } := by
  induction actions generalizing state call with
  | nil => exact ⟨call.stage, hcall⟩
  | cons action rest ih =>
      obtain ⟨stage, hlater⟩ := @call_next _ nextSample _ hsound action _ _ hcall
      obtain ⟨last, hlast⟩ := ih (sound_next state action hsound) hlater
      exact ⟨last, hlast⟩

/-- The streamers a `set_source` installs while a flag silences them send nothing
for as long as the flag is set, and what they send then is what their source gives
from its start on. -/
theorem installed_silent
    (nextSample : Reader → Except RustTgCallsError Sample × Reader)
    (onStreamEnd : Bool) (dispatcher : Option Nat) (before rest : List (Action Reader))
    (sources : Sources Reader)
    (hheeds : Along (next nextSample) Heeds (new onStreamEnd dispatcher)
      (before ++ .sourcing (.setSource sources) :: rest)) :
    let state := after (next nextSample) (new onStreamEnd dispatcher) before
    let called := state.next nextSample (.sourcing (.setSource sources))
    let final := after (next nextSample) called rest
    ∀ streamer side, final.installed streamer = some (state.sourcing.started, side) →
      (∀ flag : Flag, flag.silences side = true →
        Always (next nextSample) (fun now => now.sourcing.flag flag = true) called rest →
          final.sent streamer = []) ∧
        ∀ reader ∈ sources.get side, ∃ items left,
          Gives nextSample reader items left ∧ final.sent streamer <+: items := by
  intro state called final streamer side hinstalled
  have hnew := @sound_new Reader onStreamEnd dispatcher
  have hsound : Sound state := sound_after hnew before
  have hcalled : Sound called := sound_next state _ hsound
  have hfinal : Sound final := sound_after hcalled rest
  obtain ⟨_, _, _, playing, hinstalled', _, hplaying⟩ :=
    hfinal.spawned streamer (hfinal.known hinstalled)
  have hsent : final.sent streamer = playing.sent := by
    simp [sent, Sourcing.sent, hplaying]
  rw [hsent]
  constructor
  · intro flag hsilences hset
    rw [along_append, along_cons] at hheeds
    obtain ⟨_, _, htail⟩ := hheeds
    have hstart : Silent flag state.sourcing.started side called := by
      intro other hother held hheld
      -- no streamer of a call that has just begun
      obtain ⟨id, side', call, _, hinstaller, hcall, _⟩ :=
        hsound.spawned other (hsound.known hother)
      have hother : state.installed other = some (state.sourcing.started, side) := hother
      rw [hother] at hinstaller
      cases hinstaller
      simp [hsound.begun.calls _ (Nat.le_refl _)] at hcall
    have hsilent := silent_after hsilences hcalled hstart htail hset
    exact (hsilent streamer hinstalled playing hplaying).sent
  · intro reader hreader
    have hcall : called.sourcing.setSources state.sourcing.started =
        some ⟨sources, .testClosed⟩ := by
      simp [called, next, Sourcing.next]
    obtain ⟨stage, hlater⟩ := @call_after _ nextSample _ hcalled _ _ hcall rest
    have hempty : Supplied nextSample (new onStreamEnd dispatcher) := by
      intro other id at_ call source held hnone
      cases hnone
    have hsupplied : Supplied nextSample final := by
      have hbefore := supplied_after hnew hempty before
      exact supplied_after hcalled (supplied_next hsound _ hbefore) rest
    obtain ⟨_, _, items, left, hgives, hprefix, _⟩ := hsupplied streamer _ side _ reader
      playing hinstalled hlater hreader hplaying
    exact ⟨items, left, hgives, hprefix⟩

/-! A source installed under a pause, and played on resume. -/

def toggle (number : Nat) (toggle : Toggle) : List (Action (List Sample)) :=
  .call number toggle :: List.replicate 4 (.toggler ⟨toggle.flag, number⟩)

def installs : List (Action (List Sample)) :=
  (List.replicate 16 (.setSourceStep 0 true)).map .sourcing

def prefetched : List (Action (List Sample)) := (feed 0).map .sourcing

def paced (steps : Nat) : List (Action (List Sample)) := (pace 0 steps).map .sourcing

def untilResume : List (Action (List Sample)) := installs ++ prefetched ++ paced 5

theorem installed_silent_until_resume :
    (Along (next sampleNext) Heeds (new true none)
        (toggle 0 .pause ++ .sourcing (.setSource ⟨some [frame, frame], none⟩) ::
          (untilResume ++ toggle 1 .resume ++ paced 9)) ∧
      let state := after (next sampleNext) (new true none) (toggle 0 .pause)
      let called := state.next sampleNext
        (.sourcing (.setSource ⟨some [frame, frame], none⟩))
      let rest := untilResume ++ toggle 1 .resume ++ paced 9
      let final := after (next sampleNext) called rest
      ∀ streamer side, final.installed streamer = some (state.sourcing.started, side) →
        (∀ flag : Flag, flag.silences side = true →
          Always (next sampleNext) (fun now => now.sourcing.flag flag = true) called
              rest →
            final.sent streamer = []) ∧
          ∀ reader ∈ (⟨some [frame, frame], none⟩ : Sources (List Sample)).get side,
            ∃ items left, Gives sampleNext reader items left ∧
              final.sent streamer <+: items) ∧
      let called := (after (next sampleNext) (new true none) (toggle 0 .pause)).next sampleNext
        (.sourcing (.setSource ⟨some [frame, frame], none⟩))
      let final := after (next sampleNext) called untilResume
      Always (next sampleNext) (fun now => now.sourcing.flag .paused = true) called untilResume ∧
        final.installed 0 = some (0, .audio) ∧ final.sent 0 = [] := by
  have hheeds : Along (next sampleNext) Heeds (new true none)
      (toggle 0 .pause ++ .sourcing (.setSource ⟨some [frame, frame], none⟩) ::
        (untilResume ++ toggle 1 .resume ++ paced 9)) := by
    decide +kernel
  have hpausedHeeds : Along (next sampleNext) Heeds (new true none)
      (toggle 0 .pause ++ .sourcing (.setSource ⟨some [frame, frame], none⟩) ::
        untilResume) := by
    decide +kernel
  refine ⟨⟨hheeds, installed_silent sampleNext true none _ _ _ hheeds⟩, ?_⟩
  intro called final
  have hpaused : Always (next sampleNext) (fun now => now.sourcing.flag .paused = true) called
      untilResume := by
    decide +kernel
  have hinstalled : final.installed 0 = some (0, .audio) := by decide +kernel
  have hsilent := installed_silent sampleNext true none _ _ _ hpausedHeeds 0 .audio hinstalled
  exact ⟨hpaused, hinstalled, hsilent.1 .paused rfl hpaused⟩

/-- The pacing task sends a frame between the spawn of the streamer and its
`pause`. -/
theorem frame_before_pause :
    let state := after (next sampleNext) (new true none) (toggle 0 .pause)
    let called := state.next sampleNext
      (.sourcing (.setSource ⟨some [frame, frame], none⟩))
    let rest := installs.take 7 ++ prefetched ++ paced 8
    let final := after (next sampleNext) called rest
    final.installed 0 = some (state.sourcing.started, .audio) ∧
      Always (next sampleNext) (fun now => now.sourcing.flag .paused = true) called
          rest ∧
        final.sent 0 = [frame] := by
  decide +kernel

end Toggling

end RustTgCalls.Instances
