import RustTgCalls.Instances.Filing

namespace RustTgCalls.Instances

open Media Utils

/-! Until the callback of a streamer is registered its slot is empty, and from then
on it is there until it is taken. -/

namespace Sourcing

variable {Reader : Type}

/-- The streamer whose callback a `set_source` has still to register. -/
def unregistered : SetSourceAt → Option Nat
  | .ifMuted streamer | .ifPaused _ streamer | .pause _ streamer
  | .register _ streamer => some streamer
  | _ => none

def Awaits (state : Sourcing Reader) (streamer : Nat) : Prop :=
  ∃ id call, state.setSources id = some call ∧
    unregistered call.stage = some streamer

end Sourcing

namespace Toggling

open Sourcing

variable {Reader : Type}
  {nextSample : Reader → Except RustTgCallsError Sample × Reader}
  {state : Toggling Reader} {streamer : Nat} {playing : Playing Reader}

/-- The leg that reports the end of its source: the audio one where there is one,
else the video one. -/
def Owns (state : Toggling Reader) (streamer : Nat) : Prop :=
  ∃ id side call, state.installed streamer = some (id, side) ∧
    state.sourcing.setSources id = some call ∧
      (side = .audio ∨ call.sources.audio.isNone = true)

theorem turns_cases (hsound : Sound state) (action : Action Reader) :
    (∃ caller access, Proceeds state.sourcing
        (state.next nextSample action).sourcing caller access) ∨
      Works state.sourcing (state.next nextSample action).sourcing := by
  cases action with
  | sourcing action => exact next_cases nextSample hsound.begun action
  | call number toggle =>
      rw [setSources_call]
      exact .inr (.refl _)
  | toggler toggler =>
      exact .inr (toggles_togglerTurn state.sourcing (state.togglers toggler)).works

theorem retired_access {sourcing : Sourcing Reader} (access : Access Reader)
    (hretired : sourcing.retiredBy streamer ≠ none) :
    (sourcing.access access).retiredBy streamer ≠ none := by
  cases access with
  | take side caller =>
      simp only [Sourcing.access]
      split
      next old _ =>
        by_cases hold : streamer = old
        · simp [hold]
        · simpa [hold] using hretired
      next => exact hretired
  | spawn reader syncBarrier partner => cases partner <;> exact hretired
  | _ => exact hretired

theorem retired_next (hsound : Sound state) (action : Action Reader)
    (hretired : state.sourcing.retiredBy streamer ≠ none) :
    (state.next nextSample action).sourcing.retiredBy streamer ≠ none := by
  obtain ⟨caller, access, hproceeds⟩ | hworks :=
    @turns_cases _ nextSample _ hsound action
  · obtain ⟨setSources, stopAt, hlater⟩ := hproceeds.stages
    rw [hlater]
    exact retired_access access hretired
  · rw [hworks.retiredBy]
    exact hretired

theorem owns_next (hsound : Sound state) (action : Action Reader)
    (hcreated : streamer < state.sourcing.created) :
    Owns (state.next nextSample action) streamer ↔ Owns state streamer := by
  have hinstalled := @installed_next _ nextSample state action _ (Nat.ne_of_lt hcreated)
  obtain ⟨id, side, call, _, hbefore, hcall, _⟩ := hsound.spawned streamer hcreated
  obtain ⟨stage, hlater⟩ := @call_next _ nextSample _ hsound action _ _ hcall
  simp only [Owns, hinstalled, hbefore]
  constructor
  · rintro ⟨id', side', call', hsame, hcall', howns⟩
    cases hsame
    rw [hlater] at hcall'
    cases hcall'
    exact ⟨id, side, call, rfl, hcall, howns⟩
  · rintro ⟨id', side', call', hsame, hcall', howns⟩
    cases hsame
    rw [hcall] at hcall'
    cases hcall'
    exact ⟨id, side, _, rfl, hlater, howns⟩

theorem unregistered_building {stage : SetSourceAt}
    (hstage : unregistered stage = some streamer) :
    ∃ side, building stage = some (side, streamer) := by
  cases stage with
  | ifMuted other =>
      cases hstage
      exact ⟨.audio, rfl⟩
  | ifPaused side other | pause side other | register side other =>
      cases hstage
      exact ⟨side, rfl⟩
  | _ => cases hstage

/-- A streamer that exists comes to wait for its callback at its creation only. -/
theorem awaits_before (hcreated : streamer < state.sourcing.created)
    (action : Action Reader)
    (hawaits : (state.next nextSample action).sourcing.Awaits streamer) :
    state.sourcing.Awaits streamer := by
  obtain ⟨id, later, hlater, hstage⟩ := hawaits
  cases action with
  | sourcing action =>
      have hcalled := called_next state.sourcing hlater
      cases hcalled with
      | new sources hid hnew =>
          subst hnew
          cases hstage
      | same _ hcall => exact ⟨id, later, hcall, hstage⟩
      | @turn connected call hcall hturn =>
          refine ⟨id, call, hcall, ?_⟩
          subst hturn
          obtain ⟨sources, stage⟩ := call
          cases stage with
          | ifMuted other | ifPaused side other =>
              simp only [setSourceTurn] at hstage
              split at hstage <;> exact hstage
          | pause side other => exact hstage
          | register side other => cases hstage
          | store side other => cases side <;> cases hstage
          | _ =>
              obtain ⟨side, hbuilding⟩ := unregistered_building hstage
              obtain hbefore | ⟨rfl, _⟩ := building_turn hbuilding
              · cases hbefore
              · exact absurd hcreated (Nat.lt_irrefl _)
  | call number toggle =>
      rw [setSources_call] at hlater
      exact ⟨id, later, hlater, hstage⟩
  | toggler toggler =>
      rw [setSources_toggler] at hlater
      exact ⟨id, later, hlater, hstage⟩

/-- A streamer waits for its callback until the step that registers it. -/
theorem awaits_after (hsound : Sound state) (action : Action Reader)
    (hawaits : state.sourcing.Awaits streamer) :
    (state.next nextSample action).sourcing.Awaits streamer ∨
      ∃ id connected call side, action = .sourcing (.setSourceStep id connected) ∧
        state.sourcing.setSources id = some call ∧
          call.stage = .register side streamer := by
  obtain ⟨id, call, hcall, hstage⟩ := hawaits
  obtain hsame | ⟨connected, haction, hlater⟩ :=
    @call_cases _ nextSample _ hsound action _ _ hcall
  · exact .inl ⟨id, call, hsame, hstage⟩
  · obtain ⟨sources, before⟩ := call
    cases before with
    | ifMuted other | ifPaused side other =>
        refine .inl ⟨id, _, hlater, ?_⟩
        simp only [setSourceTurn]
        split <;> exact hstage
    | pause side other => exact .inl ⟨id, _, hlater, hstage⟩
    | register side other =>
        cases hstage
        exact .inr ⟨id, connected, _, side, haction, hcall, rfl⟩
    | _ => cases hstage

/-- The one that spawned the streamer has it in hand. -/
theorem awaits_installer (hsound : Sound state) {id : Nat} {call : SetSource Reader}
    (hcall : state.sourcing.setSources id = some call)
    (hstage : unregistered call.stage = some streamer) :
    ∃ side, state.installed streamer = some (id, side) ∧
      building call.stage = some (side, streamer) := by
  obtain ⟨side, hbuilding⟩ := unregistered_building hstage
  exact ⟨side, hsound.built id call hcall side streamer hbuilding, hbuilding⟩

theorem setSource_registers {sourcing : Sourcing Reader} {id : Nat}
    {connected : Bool} {sources : Sources Reader} {stage : SetSourceAt}
    (hregisters : (sourcing.setSourceTurn id connected sources stage).2 =
      .register streamer) : ∃ side, stage = .register side streamer := by
  cases stage with
  | register side other =>
      simp only [setSourceTurn] at hregisters
      split at hregisters
      · cases hregisters
        exact ⟨side, rfl⟩
      · cases hregisters
  | lock side | take side =>
      simp only [setSourceTurn] at hregisters
      split at hregisters <;> cases hregisters
  | spawn side partner =>
      cases hget : sources.get side <;> cases side <;>
        simp [setSourceTurn, hget] at hregisters
  | _ => cases hregisters

theorem stop_registers {sourcing : Sourcing Reader} {stage : StopAt} :
    (sourcing.stopTurn stage).2 ≠ .register streamer := by
  intro hregisters
  cases stage with
  | lock side | take side =>
      simp only [stopTurn] at hregisters
      split at hregisters <;> cases hregisters
  | _ => cases hregisters

structure Registered (state : Toggling Reader) (streamer : Nat) : Prop where
  clearing : ∀ caller, state.sourcing.place caller = .clearing streamer →
    state.sourcing.retiredBy streamer ≠ none
  waiting : state.sourcing.Awaits streamer → ∀ playing,
    state.sourcing.streamers streamer = some playing → playing.onEnd = false
  ready : Owns state streamer → state.sourcing.retiredBy streamer = none →
    ¬ state.sourcing.Awaits streamer → ∀ playing,
      state.sourcing.streamers streamer = some playing →
        playing.reportAt = .take → playing.onEnd = true

theorem registered_new (onStreamEnd : Bool) (dispatcher : Option Nat) (streamer : Nat) :
    Registered (new onStreamEnd dispatcher : Toggling Reader) streamer where
  clearing := fun caller hplace => by cases caller <;> cases hplace
  waiting := fun _ _ hplaying => nomatch hplaying
  ready := fun _ _ _ _ hplaying => nomatch hplaying

theorem clearing_next (hsound : Sound state) (action : Action Reader)
    (hclearing : ∀ caller, state.sourcing.place caller = .clearing streamer →
      state.sourcing.retiredBy streamer ≠ none) (caller : Caller)
    (hplace : (state.next nextSample action).sourcing.place caller =
      .clearing streamer) :
    (state.next nextSample action).sourcing.retiredBy streamer ≠ none := by
  obtain ⟨mover, access, hproceeds⟩ | hworks :=
    @turns_cases _ nextSample _ hsound action
  · by_cases hmover : caller = mover
    · subst hmover
      have hturns := hproceeds.turns
      rw [hplace] at hturns
      obtain ⟨setSources, stopAt, hlater⟩ := hproceeds.stages
      generalize state.sourcing.place caller = place at hturns
      cases hturns with
      | passes _ _ hidle hlast =>
          obtain hsame | hlast | hlast := hlast
          · exact absurd hsame.symm (hidle streamer).1
          · cases hlast
          · cases hlast
      | takes side hslot =>
          rw [hlater]
          simp [proceed, Sourcing.access, hslot]
      | stores _ _ _ hlast => obtain hlast | ⟨_, hlast⟩ := hlast <;> cases hlast
    · rw [hproceeds.place, Function.update_of_ne hmover] at hplace
      exact retired_next hsound action (hclearing caller hplace)
  · rw [hworks.place] at hplace
    exact retired_next hsound action (hclearing caller hplace)

theorem onEnd_paced {sourcing : Sourcing Reader} {turn : Nat} {input : PacingInput}
    {held : Playing Reader} (hpaced : Paced sourcing turn input streamer playing held) :
    held.onEnd = playing.onEnd := by
  cases hpaced <;> rfl

theorem waiting_told {access : Access Reader} {told : Playing Reader}
    (htold : Told streamer playing access told)
    (hregister : access ≠ .register streamer) (honEnd : playing.onEnd = false) :
    told.onEnd = false :=
  (htold.quiet hregister).1 honEnd

theorem ready_told {access : Access Reader} {told : Playing Reader}
    (htold : Told streamer playing access told)
    (hclear : access ≠ .clearOnEnd streamer) (honEnd : playing.onEnd = true) :
    told.onEnd = true := by
  cases htold with
  | same | stopRunning | pause => exact honEnd
  | clearOnEnd => exact absurd rfl hclear
  | register => rfl

theorem Turns.clears_place {sourcing : Sourcing Reader} {caller : Caller}
    {place later : Place}
    (hturns : Turns sourcing caller place (.clearOnEnd streamer) later) :
    place = .clearing streamer := by
  cases hturns with
  | passes _ hneutral => cases hneutral
  | clears => rfl

theorem waiting_next (hsound : Sound state) (action : Action Reader)
    (hwaiting : state.sourcing.Awaits streamer → ∀ playing,
      state.sourcing.streamers streamer = some playing → playing.onEnd = false)
    (hawaits : (state.next nextSample action).sourcing.Awaits streamer)
    (held : Playing Reader)
    (hheld : (state.next nextSample action).sourcing.streamers streamer = some held) :
    held.onEnd = false := by
  obtain ⟨playing, hplaying, hmoves⟩ | ⟨_, _, _, _, _, _, reader, _, _, _, _, hnew⟩ :=
    present_before hsound action hheld
  · have hbefore := awaits_before (hsound.present hplaying) action hawaits
    have honEnd := hwaiting hbefore playing hplaying
    cases hmoves with
    | same | reader | toggler => exact honEnd
    | paced turn input hpaced => exact (onEnd_paced hpaced).trans honEnd
    | reports => exact onEnd_report playing honEnd
    | @setSource id connected call hcall told htold =>
        refine waiting_told htold ?_ honEnd
        intro hregisters
        -- the callback registered, no other call waits to register it
        obtain ⟨side, hstage⟩ := setSource_registers hregisters
        have hinstalled := hsound.built id call hcall side streamer (by rw [hstage]; rfl)
        have hsound' := @sound_next _ nextSample state
          (.sourcing (.setSourceStep id connected)) hsound
        obtain ⟨other, later, hlater, hunregistered⟩ := hawaits
        obtain ⟨_, hinstalled', _⟩ :=
          awaits_installer hsound' hlater hunregistered
        rw [hsound.installed_kept _ hinstalled] at hinstalled'
        cases hinstalled'
        obtain ⟨sources, stage⟩ := call
        subst hstage
        simp only [next, Sourcing.next, setSourceStep, hcall,
          Function.update_self] at hlater
        cases hlater
        cases hunregistered
    | stop htold => exact waiting_told htold stop_registers honEnd
  · rw [hnew]
    rfl

/-- The step after which a streamer no longer waits for its callback. -/
theorem registers_next {id : Nat} {connected : Bool} {call : SetSource Reader}
    {side : StreamType} {held : Playing Reader}
    (hcall : state.sourcing.setSources id = some call)
    (hstage : call.stage = .register side streamer)
    (howns : side = .audio ∨ call.sources.audio.isNone = true)
    (hheld : (state.next nextSample (.sourcing
      (.setSourceStep id connected))).sourcing.streamers streamer = some held) :
    held.onEnd = true := by
  obtain ⟨sources, stage⟩ := call
  subst hstage
  have haccess : (state.sourcing.setSourceTurn id connected sources
      (.register side streamer)).2 = .register streamer := by
    simp only [setSourceTurn]
    exact if_pos howns
  have hlater : (state.sourcing.access (.register streamer)).streamers streamer =
      some held := by
    simpa only [next, Sourcing.next, setSourceStep, hcall, haccess] using hheld
  cases hplaying : state.sourcing.streamers streamer with
  | none => simp [Sourcing.access, alter, hplaying] at hlater
  | some playing =>
      simp only [Sourcing.access, alter_self _ hplaying, Option.some.injEq] at hlater
      rw [← hlater]

/-- A streamer keeps its callback while nobody clears it. -/
theorem onEnd_moves {playing held : Playing Reader} {action : Action Reader}
    (hmoves : Moves nextSample state streamer playing action held)
    (hclear : ∀ caller, state.sourcing.place caller ≠ .clearing streamer)
    (htake : playing.reportAt = .take) (hat : held.reportAt = .take)
    (honEnd : playing.onEnd = true) : held.onEnd = true := by
  cases hmoves with
  | same | reader | toggler => exact honEnd
  | paced turn input hpaced => exact (onEnd_paced hpaced).trans honEnd
  | reports =>
      cases hended : playing.leg.pacingAt with
      | ended => simp [Playing.report, hended, htake] at hat
      | _ => simpa [Playing.report, hended] using honEnd
  | @setSource id connected call hcall told htold =>
      refine ready_told htold ?_ honEnd
      intro hclears
      have hturns := turns_setSourceTurn state.sourcing id connected call.sources
        call.stage
      rw [hclears] at hturns
      apply hclear (.setSource id)
      simpa [place, hcall] using Turns.clears_place hturns
  | stop htold =>
      refine ready_told htold ?_ honEnd
      intro hclears
      have hturns := turns_stopTurn state.sourcing state.sourcing.stopAt
      rw [hclears] at hturns
      exact hclear .stop (Turns.clears_place hturns)

/-- A streamer that has just been spawned waits for its callback. -/
theorem awaits_spawned {id : Nat} {connected : Bool} {call : SetSource Reader}
    {side : StreamType} {partner : Option Nat} {reader : Reader}
    (hcall : state.sourcing.setSources id = some call)
    (hstage : call.stage = .spawn side partner)
    (hreader : call.sources.get side = some reader) :
    (state.next nextSample (.sourcing (.setSourceStep id connected))).sourcing.Awaits
      state.sourcing.created := by
  obtain ⟨sources, stage⟩ := call
  subst hstage
  have hreader : sources.get side = some reader := hreader
  cases side with
  | audio =>
      refine ⟨id, ⟨sources, .ifMuted state.sourcing.created⟩, ?_, rfl⟩
      simp [next, Sourcing.next, setSourceStep, hcall, setSourceTurn, hreader]
  | video =>
      refine ⟨id, ⟨sources, .ifPaused .video state.sourcing.created⟩, ?_, rfl⟩
      simp [next, Sourcing.next, setSourceStep, hcall, setSourceTurn, hreader]

theorem ready_next (hreporting : Reporting state) (hregistered : Registered state streamer)
    (action : Action Reader) (howns : Owns (state.next nextSample action) streamer)
    (hkept : (state.next nextSample action).sourcing.retiredBy streamer = none)
    (hawaits : ¬ (state.next nextSample action).sourcing.Awaits streamer)
    (held : Playing Reader)
    (hheld : (state.next nextSample action).sourcing.streamers streamer = some held)
    (hat : held.reportAt = .take) : held.onEnd = true := by
  have hsound := hreporting.sound
  have hkept' : state.sourcing.retiredBy streamer = none := by
    by_contra hretired
    exact @retired_next _ nextSample _ _ hsound action hretired hkept
  obtain ⟨playing, hplaying, hmoves⟩ |
    ⟨hlast, id, connected, call, side, partner, reader, haction, hcall, hstage, hreader,
      _⟩ :=
    present_before hsound action hheld
  · have hcreated := hsound.present hplaying
    have howns' := (owns_next hsound action hcreated).mp howns
    by_cases hbefore : state.sourcing.Awaits streamer
    · obtain hlater | ⟨id, connected, call, side, rfl, hcall, hstage⟩ :=
        @awaits_after _ nextSample _ _ hsound action hbefore
      · exact absurd hlater hawaits
      · have hinstalled := hsound.built id call hcall side streamer (by rw [hstage]; rfl)
        obtain ⟨id', side', call', hinstalled', hcall', howner⟩ := howns'
        rw [hinstalled] at hinstalled'
        cases hinstalled'
        rw [hcall] at hcall'
        cases hcall'
        exact registers_next hcall hstage howner hheld
    · have htake : playing.reportAt = .take := by
        cases reports_next hreporting hplaying hmoves with
        | same hsame => exact hsame ▸ hat
        | takes _ _ _ hlater => rw [hlater] at hat; cases hat
        | calls _ _ _ _ hlater => rw [hlater] at hat; cases hat
      have honEnd := hregistered.ready howns' hkept' hbefore playing hplaying htake
      have hclear (caller : Caller) :
          state.sourcing.place caller ≠ .clearing streamer :=
        fun hplace => hregistered.clearing caller hplace hkept'
      exact onEnd_moves hmoves hclear htake hat honEnd
  · exfalso
    apply hawaits
    rw [haction, hlast]
    exact awaits_spawned hcall hstage hreader

theorem registered_next (hreporting : Reporting state) (action : Action Reader)
    (hregistered : Registered state streamer) :
    Registered (state.next nextSample action) streamer where
  clearing := clearing_next hreporting.sound action hregistered.clearing
  waiting := waiting_next hreporting.sound action hregistered.waiting
  ready := ready_next hreporting hregistered action

end Toggling

end RustTgCalls.Instances
