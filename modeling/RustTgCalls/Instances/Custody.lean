import RustTgCalls.Instances.SetSource

namespace RustTgCalls.Instances

open Media

/-! Which streamer each `set_source` and `stop` has in hand. -/

namespace Sourcing

variable {Reader : Type}

/-- What a caller has in hand: a streamer it is stopping, one it has spawned and
not stored (`lone` while no other can share its barrier), or a stored one whose
barrier it is to share. -/
inductive Place where
  | apart
  | clearing (old : Nat)
  | halting (old : Nat)
  | building (streamer : Nat) (lone : Bool)
  | keeping (streamer : Nat)
  | returned
  deriving DecidableEq, Repr

def setSourcePlace : SetSourceAt → Place
  | .clear _ old => .clearing old
  | .halt _ old => .halting old
  | .spawn _ (some partner) => .keeping partner
  | .ifMuted streamer => .building streamer true
  | .ifPaused side streamer | .pause side streamer | .register side streamer
  | .store side streamer => .building streamer (side == .audio)
  | .returned _ => .returned
  | _ => .apart

def stopPlace : StopAt → Place
  | .clear _ old => .clearing old
  | .halt _ old => .halting old
  | .returned => .returned
  | _ => .apart

def place (state : Sourcing Reader) : Caller → Place
  | .setSource id =>
      match state.setSources id with
      | some call => setSourcePlace call.stage
      | none => .apart
  | .stop => stopPlace state.stopAt

/-! What a step of a caller can do. -/

/-- The accesses that leave the streamers and the slots alone. -/
def Access.neutral : Access Reader → Bool
  | .none | .lock _ _ | .unlock _ | .clearPaused | .clearMuted => true
  | _ => false

/-- A caller's access, with what it has in hand before and behind it. -/
inductive Turns (state : Sourcing Reader) (caller : Caller) :
    Place → Access Reader → Place → Prop
  | passes (place : Place) {access : Access Reader} {later : Place}
      (hneutral : access.neutral = true)
      (hidle : ∀ old, place ≠ .clearing old ∧ place ≠ .halting old)
      (hlater : later = place ∨ later = .apart ∨ later = .returned) :
      Turns state caller place access later
  | takes (side : StreamType) {old : Nat} (hslot : state.slots side = some old) :
      Turns state caller .apart (.take side caller) (.clearing old)
  | clears (old : Nat) :
      Turns state caller (.clearing old) (.clearOnEnd old) (.halting old)
  | halts (old : Nat) :
      Turns state caller (.halting old) (.stopRunning old) .apart
  | spawns (reader : Reader) (syncBarrier : Bool) (partner : Option Nat)
      {place : Place} {lone : Bool}
      (hpartner : ∀ audio, partner = some audio → place = .keeping audio)
      (hlone : lone = true → partner = none)
      (hidle : ∀ old, place ≠ .clearing old ∧ place ≠ .halting old) :
      Turns state caller place (.spawn reader syncBarrier partner)
        (.building state.created lone)
  | pauses (streamer : Nat) (lone : Bool) :
      Turns state caller (.building streamer lone) (.pause streamer)
        (.building streamer lone)
  | registers (streamer : Nat) (lone : Bool) :
      Turns state caller (.building streamer lone) (.register streamer)
        (.building streamer lone)
  | stores (side : StreamType) (streamer : Nat) (lone : Bool) {later : Place}
      (hlater : later = .apart ∨ lone = true ∧ later = .keeping streamer) :
      Turns state caller (.building streamer lone) (.store side streamer) later

theorem turns_setSourceTurn (state : Sourcing Reader) (id : Nat)
    (connected : Bool) (sources : Sources Reader) (stage : SetSourceAt) :
    Turns state (.setSource id) (setSourcePlace stage)
      (state.setSourceTurn id connected sources stage).2
      (setSourcePlace (state.setSourceTurn id connected sources stage).1) := by
  have hpass {stage later : SetSourceAt} {access : Access Reader}
      (hneutral : access.neutral = true)
      (hidle : ∀ old, setSourcePlace stage ≠ .clearing old ∧
        setSourcePlace stage ≠ .halting old)
      (hlater : setSourcePlace later = setSourcePlace stage ∨
        setSourcePlace later = .apart ∨ setSourcePlace later = .returned) :
      Turns state (.setSource id) (setSourcePlace stage) access
        (setSourcePlace later) := .passes _ hneutral hidle hlater
  cases stage with
  | testClosed | gate =>
      apply hpass rfl (by simp [setSourcePlace])
      simp only [setSourceTurn]
      split <;> simp [setSourcePlace]
  | lock side =>
      simp only [setSourceTurn]
      split <;> exact hpass rfl (by simp [setSourcePlace]) (by simp [setSourcePlace])
  | take side =>
      simp only [setSourceTurn]
      split
      next old hslot => exact .takes side hslot
      next =>
        apply hpass rfl (by simp [setSourcePlace])
        cases side <;> simp [takenNext, setSourcePlace]
  | clear side old => exact .clears old
  | halt side old => cases side <;> exact .halts old
  | spawn side partner =>
      have hidle (old : Nat) :
          setSourcePlace (.spawn side partner) ≠ .clearing old ∧
            setSourcePlace (.spawn side partner) ≠ .halting old := by
        cases partner <;> simp [setSourcePlace]
      cases hget : sources.get side with
      | none =>
          simp only [setSourceTurn, hget]
          apply hpass rfl hidle
          cases side <;> simp [storedNext, setSourcePlace]
      | some reader =>
          cases side with
          | audio =>
              simp only [setSourceTurn, hget]
              exact .spawns _ _ _ (by simp) (by simp) hidle
          | video =>
              simp only [setSourceTurn, hget]
              refine .spawns _ _ _ ?_ (by simp) hidle
              rintro audio rfl
              rfl
  | ifMuted streamer =>
      apply hpass rfl (by simp [setSourcePlace])
      simp only [setSourceTurn]
      split <;> simp [setSourcePlace]
  | ifPaused side streamer =>
      apply hpass rfl (by simp [setSourcePlace])
      simp only [setSourceTurn]
      split <;> simp [setSourcePlace]
  | pause side streamer => exact .pauses streamer _
  | register side streamer =>
      simp only [setSourceTurn]
      split
      next => exact .registers streamer _
      next => exact hpass rfl (by simp [setSourcePlace]) (by simp [setSourcePlace])
  | store side streamer =>
      apply Turns.stores
      cases side <;> simp [setSourceTurn, storedNext, setSourcePlace]
  | unlock side =>
      apply hpass rfl (by simp [setSourcePlace])
      cases side <;> simp [setSourceTurn, setSourcePlace]
  | finish | returned _ =>
      exact hpass rfl (by simp [setSourcePlace])
        (by simp [setSourceTurn, setSourcePlace])

theorem turns_stopTurn (state : Sourcing Reader) (stage : StopAt) :
    Turns state .stop (stopPlace stage) (state.stopTurn stage).2
      (stopPlace (state.stopTurn stage).1) := by
  cases stage with
  | idle | clearPaused | clearMuted | returned =>
      exact .passes _ rfl (by simp [stopPlace]) (by simp [stopTurn, stopPlace])
  | lock side =>
      simp only [stopTurn]
      split <;>
        exact .passes _ rfl (by simp [stopPlace]) (by simp [stopPlace])
  | take side =>
      simp only [stopTurn]
      split
      next old hslot => exact .takes side hslot
      next => exact .passes _ rfl (by simp [stopPlace]) (by simp [stopPlace])
  | clear side old => exact .clears old
  | halt side old => exact .halts old
  | unlock side =>
      refine .passes _ rfl (by simp [stopPlace]) ?_
      cases side <;> simp [stopTurn, stopPlace]

/-! Who has which streamer in hand. -/

def Place.token : Place → Option Nat
  | .building streamer _ | .keeping streamer => some streamer
  | _ => none

def Place.alone : Place → Option Nat
  | .building streamer true | .keeping streamer => some streamer
  | _ => none

theorem Place.token_of_alone {place : Place} (halone : place.alone = some streamer) :
    place.token = some streamer := by
  cases place with
  | building other lone => cases lone <;> simp_all [alone, token]
  | keeping other => exact halone
  | _ => cases halone

/-- The streamer exists and no caller is still about to register its callback. -/
structure Settled (state : Sourcing Reader) (streamer : Nat) : Prop where
  created : streamer < state.created
  built : ∀ caller lone, state.place caller ≠ .building streamer lone

structure Wired (state : Sourcing Reader) : Prop where
  tokens : ∀ caller streamer, (state.place caller).token = some streamer →
    streamer < state.created
  unshared : ∀ caller other streamer,
    (state.place caller).token = some streamer →
      (state.place other).token = some streamer → caller = other
  lone : ∀ caller streamer, (state.place caller).alone = some streamer →
    state.partner streamer = none
  numbered : ∀ streamer, state.created ≤ streamer →
    state.partner streamer = none
  paired : ∀ streamer other, state.partner other = some streamer →
    state.partner streamer = some other
  slots : ∀ side streamer, state.slots side = some streamer →
    state.Settled streamer
  retired : ∀ streamer caller, state.retiredBy streamer = some caller →
    state.Settled streamer
  halted : ∀ streamer caller, state.retiredBy streamer = some caller →
    ∀ playing, state.streamers streamer = some playing →
      (playing.onEnd = false ∨ state.place caller = .clearing streamer) ∧
        (playing.leg.running = false ∨ state.place caller = .clearing streamer ∨
          state.place caller = .halting streamer)

/-- A caller's step: its access, with the new stage of the caller. -/
def proceed (state : Sourcing Reader) (access : Access Reader)
    (setSources : Nat → Option (SetSource Reader)) (stopAt : StopAt) :
    Sourcing Reader :=
  { state.access access with setSources, stopAt }

section Turns

variable {state : Sourcing Reader} {caller : Caller} {place later : Place}
  {access : Access Reader}

theorem created_access (state : Sourcing Reader) (access : Access Reader) :
    state.created ≤ (state.access access).created := by
  cases access with
  | take side caller =>
      simp only [Sourcing.access]
      split <;> exact Nat.le_refl _
  | spawn reader syncBarrier partner =>
      simp only [Sourcing.access]
      split <;> exact Nat.le_succ _
  | _ => exact Nat.le_refl _

theorem Turns.token_later (hturns : Turns state caller place access later)
    (htoken : later.token = some streamer) :
    place.token = some streamer ∨
      streamer = state.created ∧
        (state.access access).created = state.created + 1 := by
  cases hturns with
  | passes _ _ _ hlater =>
      rcases hlater with rfl | rfl | rfl
      · exact .inl htoken
      · cases htoken
      · cases htoken
  | takes | clears | halts => cases htoken
  | spawns reader syncBarrier partner =>
      refine .inr ⟨(Option.some.inj htoken).symm, ?_⟩
      simp only [Sourcing.access]
      split <;> rfl
  | pauses | registers => exact .inl htoken
  | stores _ _ _ hlater =>
      rcases hlater with rfl | ⟨_, rfl⟩
      · cases htoken
      · exact .inl htoken

theorem Turns.built_later {lone : Bool}
    (hturns : Turns state caller place access later)
    (hbuilding : later = .building streamer lone) :
    place = .building streamer lone ∨ streamer = state.created := by
  cases hturns with
  | passes _ _ _ hlater =>
      rcases hlater with rfl | rfl | rfl
      · exact .inl hbuilding
      · cases hbuilding
      · cases hbuilding
  | takes | clears | halts => cases hbuilding
  | spawns =>
      cases hbuilding
      exact .inr rfl
  | pauses | registers => exact .inl hbuilding
  | stores _ _ _ hlater =>
      rcases hlater with rfl | ⟨_, rfl⟩ <;> cases hbuilding

/-- What a caller comes to have alone has no partner yet. -/
theorem Turns.alone_later (hturns : Turns state caller place access later)
    (halone : later.alone = some streamer) :
    (state.access access).partner = state.partner ∧
      (place.alone = some streamer ∨ streamer = state.created) := by
  cases hturns with
  | passes _ hneutral _ hlater =>
      refine ⟨?_, ?_⟩
      · cases access <;> first | rfl | cases hneutral
      · rcases hlater with rfl | rfl | rfl
        · exact .inl halone
        · cases halone
        · cases halone
  | takes | clears | halts => cases halone
  | @spawns reader syncBarrier partner _ lone hpartner hlone =>
      cases lone with
      | false => cases halone
      | true =>
          rw [hlone rfl]
          exact ⟨rfl, .inr (Option.some.inj halone).symm⟩
  | pauses | registers => exact ⟨rfl, .inl halone⟩
  | stores _ other lone hlater =>
      rcases hlater with rfl | ⟨rfl, rfl⟩
      · cases halone
      · exact ⟨rfl, .inl halone⟩

theorem settled_later {setSources : Nat → Option (SetSource Reader)}
    {stopAt : StopAt} {streamer : Nat}
    (hturns : Turns state caller (state.place caller) access later)
    (hplace : (state.proceed access setSources stopAt).place =
      Function.update state.place caller later)
    (hsettled : state.Settled streamer) :
    (state.proceed access setSources stopAt).Settled streamer := by
  constructor
  · exact Nat.lt_of_lt_of_le hsettled.created (created_access state access)
  · intro other lone hbuilding
    rw [hplace] at hbuilding
    by_cases hother : other = caller
    · subst hother
      rw [Function.update_self] at hbuilding
      rcases hturns.built_later hbuilding with hbefore | hnew
      · exact hsettled.built other lone hbefore
      · exact absurd hsettled.created (by omega)
    · rw [Function.update_of_ne hother] at hbuilding
      exact hsettled.built other lone hbuilding

/-- A stored streamer is built. -/
theorem settled_stored {setSources : Nat → Option (SetSource Reader)}
    {stopAt : StopAt} {side : StreamType} {streamer : Nat} {lone : Bool}
    (hwired : state.Wired)
    (hbuilding : state.place caller = .building streamer lone)
    (hlater : later = .apart ∨ lone = true ∧ later = .keeping streamer)
    (hplace : (state.proceed (.store side streamer) setSources stopAt).place =
      Function.update state.place caller later) :
    (state.proceed (.store side streamer) setSources stopAt).Settled streamer := by
  have htoken : (state.place caller).token = some streamer := by
    rw [hbuilding]
    rfl
  constructor
  · exact hwired.tokens caller streamer htoken
  · intro other lone' hother
    rw [hplace] at hother
    by_cases hsame : other = caller
    · rw [hsame, Function.update_self] at hother
      rcases hlater with rfl | ⟨_, rfl⟩ <;> cases hother
    · rw [Function.update_of_ne hsame] at hother
      exact hsame (hwired.unshared other caller streamer (by rw [hother]; rfl)
        htoken)

theorem partner_access (state : Sourcing Reader) (access : Access Reader) :
    (state.access access).partner = state.partner ∨
      ∃ reader syncBarrier audio, access = .spawn reader syncBarrier (some audio) ∧
        (state.access access).partner = Function.update
          (Function.update state.partner state.created (some audio))
          audio (some state.created) := by
  cases access with
  | spawn reader syncBarrier partner =>
      cases partner with
      | none => exact .inl rfl
      | some audio => exact .inr ⟨reader, syncBarrier, audio, rfl, rfl⟩
  | take side caller =>
      left
      simp only [Sourcing.access]
      split <;> rfl
  | _ => exact .inl rfl

theorem Turns.keeping {reader : Reader} {syncBarrier : Bool} {audio : Nat}
    (hturns : Turns state caller place (.spawn reader syncBarrier (some audio))
      later) : place = .keeping audio := by
  cases hturns with
  | passes _ hneutral => cases hneutral
  | spawns _ _ _ hpartner => exact hpartner audio rfl

theorem slots_access (state : Sourcing Reader) (access : Access Reader)
    {side : StreamType} {streamer : Nat}
    (hslot : (state.access access).slots side = some streamer) :
    state.slots side = some streamer ∨ access = .store side streamer := by
  cases access with
  | take at_ caller =>
      simp only [Sourcing.access] at hslot
      split at hslot
      · by_cases hside : side = at_
        · simp [hside] at hslot
        · exact .inl (by simpa [hside] using hslot)
      · exact .inl hslot
  | store at_ other =>
      simp only [Sourcing.access] at hslot
      by_cases hside : side = at_
      · subst hside
        rw [Function.update_self] at hslot
        cases hslot
        exact .inr rfl
      · exact .inl (by simpa [hside] using hslot)
  | spawn reader syncBarrier partner =>
      left
      cases partner <;> exact hslot
  | _ => exact .inl hslot

theorem retiredBy_access (state : Sourcing Reader) (access : Access Reader)
    {streamer : Nat} {by_ : Caller}
    (hretired : (state.access access).retiredBy streamer = some by_) :
    state.retiredBy streamer = some by_ ∨
      ∃ side, access = .take side by_ ∧ state.slots side = some streamer := by
  cases access with
  | take side caller =>
      simp only [Sourcing.access] at hretired
      split at hretired
      next old hslot =>
        by_cases hold : streamer = old
        · subst hold
          obtain rfl : caller = by_ := by simpa using hretired
          exact .inr ⟨side, rfl, hslot⟩
        · exact .inl (by simpa [hold] using hretired)
      next => exact .inl hretired
  | spawn reader syncBarrier partner =>
      left
      cases partner <;> exact hretired
  | _ => exact .inl hretired

/-- What an access makes of a streamer. -/
inductive Told (streamer : Nat) (playing : Playing Reader) :
    Access Reader → Playing Reader → Prop
  | same (access : Access Reader)
      (hother : access ≠ .clearOnEnd streamer ∧ access ≠ .stopRunning streamer) :
      Told streamer playing access playing
  | clearOnEnd :
      Told streamer playing (.clearOnEnd streamer) { playing with onEnd := false }
  | stopRunning :
      Told streamer playing (.stopRunning streamer)
        { playing with leg := { playing.leg with running := false } }
  | pause :
      Told streamer playing (.pause streamer)
        { playing with leg := { playing.leg with paused := true } }
  | register :
      Told streamer playing (.register streamer) { playing with onEnd := true }

theorem alter_of_ne {streamer other : Nat} (hne : streamer ≠ other)
    (change : Playing Reader → Playing Reader) :
    (state.alter other change).streamers streamer = state.streamers streamer := by
  simp [alter, hne]

theorem alter_self {streamer : Nat} {playing : Playing Reader}
    (change : Playing Reader → Playing Reader)
    (hplaying : state.streamers streamer = some playing) :
    (state.alter streamer change).streamers streamer = some (change playing) := by
  simp [alter, hplaying]

theorem streamers_access {streamer : Nat} {playing : Playing Reader}
    (access : Access Reader) (hcreated : streamer ≠ state.created)
    (hplaying : state.streamers streamer = some playing) :
    ∃ told, Told streamer playing access told ∧
      (state.access access).streamers streamer = some told := by
  cases access with
  | clearOnEnd old =>
      by_cases hold : streamer = old
      · subst hold
        exact ⟨_, .clearOnEnd, alter_self _ hplaying⟩
      · exact ⟨_, .same _ (by simp [Ne.symm hold]),
          (alter_of_ne hold _).trans hplaying⟩
  | stopRunning old =>
      by_cases hold : streamer = old
      · subst hold
        exact ⟨_, .stopRunning, alter_self _ hplaying⟩
      · exact ⟨_, .same _ (by simp [Ne.symm hold]),
          (alter_of_ne hold _).trans hplaying⟩
  | pause other =>
      by_cases hother : streamer = other
      · subst hother
        exact ⟨_, .pause, alter_self _ hplaying⟩
      · exact ⟨_, .same _ (by simp), (alter_of_ne hother _).trans hplaying⟩
  | register other =>
      by_cases hother : streamer = other
      · subst hother
        exact ⟨_, .register, alter_self _ hplaying⟩
      · exact ⟨_, .same _ (by simp), (alter_of_ne hother _).trans hplaying⟩
  | spawn reader syncBarrier partner =>
      refine ⟨_, .same _ (by simp), ?_⟩
      cases partner <;> simpa [Sourcing.access, hcreated] using hplaying
  | take side caller =>
      refine ⟨_, .same _ (by simp), ?_⟩
      simp only [Sourcing.access]
      split <;> exact hplaying
  | none | lock _ _ | unlock _ | store _ _ | clearPaused | clearMuted =>
      exact ⟨_, .same _ (by simp), hplaying⟩

theorem streamers_none {streamer : Nat} (access : Access Reader)
    (hcreated : streamer ≠ state.created)
    (hnone : state.streamers streamer = none) :
    (state.access access).streamers streamer = none := by
  cases access with
  | clearOnEnd other | stopRunning other | pause other | register other =>
      by_cases hother : streamer = other
      · subst hother
        simp [Sourcing.access, alter, hnone]
      · exact (alter_of_ne hother _).trans hnone
  | spawn reader syncBarrier partner =>
      cases partner <;> simpa [Sourcing.access, hcreated] using hnone
  | take side caller =>
      simp only [Sourcing.access]
      split <;> exact hnone
  | none | lock _ _ | unlock _ | store _ _ | clearPaused | clearMuted =>
      exact hnone

theorem Told.quiet {streamer : Nat} {playing told : Playing Reader}
    (htold : Told streamer playing access told)
    (hregister : access ≠ .register streamer) :
    (playing.onEnd = false → told.onEnd = false) ∧
      (playing.leg.running = false → told.leg.running = false) := by
  cases htold with
  | same => exact ⟨id, id⟩
  | clearOnEnd => exact ⟨fun _ => rfl, id⟩
  | stopRunning => exact ⟨id, fun _ => rfl⟩
  | pause => exact ⟨id, id⟩
  | register => exact absurd rfl hregister

theorem Turns.not_register {streamer : Nat}
    (hturns : Turns state caller (state.place caller) access later)
    (hsettled : state.Settled streamer) : access ≠ .register streamer := by
  rintro rfl
  generalize hat : state.place caller = place at hturns
  cases hturns with
  | passes _ hneutral => cases hneutral
  | registers _ lone => exact hsettled.built caller lone hat

theorem Turns.clearing {streamer : Nat}
    (hturns : Turns state caller (.clearing streamer) access later) :
    access = .clearOnEnd streamer ∧ later = .halting streamer := by
  cases hturns with
  | passes _ _ hidle => exact absurd rfl (hidle streamer).1
  | clears => exact ⟨rfl, rfl⟩
  | spawns _ _ _ _ _ hidle => exact absurd rfl (hidle streamer).1

theorem Turns.halting {streamer : Nat}
    (hturns : Turns state caller (.halting streamer) access later) :
    access = .stopRunning streamer := by
  cases hturns with
  | passes _ _ hidle => exact absurd rfl (hidle streamer).2
  | halts => rfl
  | spawns _ _ _ _ _ hidle => exact absurd rfl (hidle streamer).2

theorem Told.cleared {streamer : Nat} {playing told : Playing Reader}
    (htold : Told streamer playing (.clearOnEnd streamer) told) :
    told.onEnd = false := by
  cases htold with
  | same _ hother => exact absurd rfl hother.1
  | clearOnEnd => rfl

theorem Told.stopped {streamer : Nat} {playing told : Playing Reader}
    (htold : Told streamer playing (.stopRunning streamer) told) :
    told.leg.running = false := by
  cases htold with
  | same _ hother => exact absurd rfl hother.2
  | stopRunning => rfl

/-- The stop of a retired streamer goes on with every step. -/
theorem halted_later {setSources : Nat → Option (SetSource Reader)}
    {stopAt : StopAt} {streamer : Nat} {by_ : Caller} {playing : Playing Reader}
    (hwired : state.Wired)
    (hturns : Turns state caller (state.place caller) access later)
    (hplace : (state.proceed access setSources stopAt).place =
      Function.update state.place caller later)
    (hretired : (state.access access).retiredBy streamer = some by_)
    (hplaying : (state.access access).streamers streamer = some playing) :
    (playing.onEnd = false ∨
        (state.proceed access setSources stopAt).place by_ =
          .clearing streamer) ∧
      (playing.leg.running = false ∨
        (state.proceed access setSources stopAt).place by_ =
            .clearing streamer ∨
          (state.proceed access setSources stopAt).place by_ =
            .halting streamer) := by
  rw [hplace]
  rcases retiredBy_access state access hretired with hbefore | ⟨side, rfl, hslot⟩
  · have hsettled := hwired.retired streamer by_ hbefore
    have hne : streamer ≠ state.created := Nat.ne_of_lt hsettled.created
    cases hold : state.streamers streamer with
    | none => simp [streamers_none access hne hold] at hplaying
    | some old =>
        obtain ⟨told, htold, hstreamer⟩ := streamers_access access hne hold
        rw [hplaying] at hstreamer
        cases hstreamer
        obtain ⟨honEnd, hrunning⟩ := hwired.halted streamer by_ hbefore old hold
        obtain ⟨hquiet, hstopped⟩ := htold.quiet (hturns.not_register hsettled)
        by_cases hcaller : by_ = caller
        · subst hcaller
          rw [Function.update_self]
          rcases hrunning with hrunning | hclearing | hhalting
          · refine ⟨?_, .inl (hstopped hrunning)⟩
            rcases honEnd with honEnd | hclearing
            · exact .inl (hquiet honEnd)
            · rw [hclearing] at hturns
              obtain ⟨rfl, _⟩ := hturns.clearing
              exact .inl htold.cleared
          · rw [hclearing] at hturns
            obtain ⟨rfl, hlater⟩ := hturns.clearing
            exact ⟨.inl htold.cleared, .inr (.inr hlater)⟩
          · have honEnd : old.onEnd = false := by
              rcases honEnd with honEnd | hclearing
              · exact honEnd
              · rw [hhalting] at hclearing
                cases hclearing
            rw [hhalting] at hturns
            obtain rfl := hturns.halting
            exact ⟨.inl (hquiet honEnd), .inl htold.stopped⟩
        · rw [Function.update_of_ne hcaller]
          exact ⟨honEnd.imp_left hquiet, hrunning.imp_left hstopped⟩
  · generalize hat : state.place caller = place at hturns
    cases hturns with
    | passes _ hneutral => cases hneutral
    | takes _ hold =>
        rw [hslot] at hold
        cases hold
        rw [Function.update_self]
        exact ⟨.inr rfl, .inr (.inl rfl)⟩

/-- The two that come to share a barrier had no partner. -/
theorem Wired.unpartnered {audio : Nat} (hwired : state.Wired)
    (hkeeping : state.place caller = .keeping audio) :
    audio < state.created ∧ state.partner audio = none ∧
      state.partner state.created = none := by
  refine ⟨?_, ?_, hwired.numbered _ (Nat.le_refl _)⟩
  · exact hwired.tokens caller audio (by rw [hkeeping]; rfl)
  · exact hwired.lone caller audio (by rw [hkeeping]; rfl)

theorem lone_later {setSources : Nat → Option (SetSource Reader)}
    {stopAt : StopAt} {other : Caller} {streamer : Nat} (hwired : state.Wired)
    (hturns : Turns state caller (state.place caller) access later)
    (hplace : (state.proceed access setSources stopAt).place =
      Function.update state.place caller later)
    (halone : ((state.proceed access setSources stopAt).place other).alone =
      some streamer) :
    (state.access access).partner streamer = none := by
  rw [hplace] at halone
  by_cases hother : other = caller
  · subst hother
    rw [Function.update_self] at halone
    obtain ⟨hsame, hbefore | rfl⟩ := hturns.alone_later halone
    · rw [hsame]
      exact hwired.lone other streamer hbefore
    · rw [hsame]
      exact hwired.numbered _ (Nat.le_refl _)
  · rw [Function.update_of_ne hother] at halone
    have hnone := hwired.lone other streamer halone
    have htoken := Place.token_of_alone halone
    rcases partner_access state access with
      hsame | ⟨reader, syncBarrier, audio, rfl, hpartner⟩
    · rw [hsame]
      exact hnone
    · have hkeeping := hturns.keeping
      have hnew : streamer ≠ state.created :=
        Nat.ne_of_lt (hwired.tokens other streamer htoken)
      have haudio : streamer ≠ audio := by
        rintro rfl
        exact hother (hwired.unshared other caller streamer htoken
          (by rw [hkeeping]; rfl))
      rw [hpartner, Function.update_of_ne haudio, Function.update_of_ne hnew]
      exact hnone

theorem paired_later {streamer other : Nat} (hwired : state.Wired)
    (hturns : Turns state caller (state.place caller) access later)
    (hpartner : (state.access access).partner other = some streamer) :
    (state.access access).partner streamer = some other := by
  rcases partner_access state access with
    hsame | ⟨reader, syncBarrier, audio, rfl, hnew⟩
  · rw [hsame] at hpartner ⊢
    exact hwired.paired streamer other hpartner
  · obtain ⟨hcreated, haudio, hfresh⟩ := hwired.unpartnered hturns.keeping
    have hne : state.created ≠ audio := Nat.ne_of_gt hcreated
    rw [hnew] at hpartner ⊢
    by_cases hother : other = audio
    · subst hother
      rw [Function.update_self] at hpartner
      cases hpartner
      rw [Function.update_of_ne hne, Function.update_self]
    · rw [Function.update_of_ne hother] at hpartner
      by_cases hspawned : other = state.created
      · subst hspawned
        rw [Function.update_self] at hpartner
        cases hpartner
        rw [Function.update_self]
      · rw [Function.update_of_ne hspawned] at hpartner
        have hback := hwired.paired streamer other hpartner
        have hstreamer : streamer ≠ audio := by
          rintro rfl
          simp [haudio] at hback
        have hold : streamer ≠ state.created := by
          rintro rfl
          simp [hfresh] at hback
        rw [Function.update_of_ne hstreamer, Function.update_of_ne hold]
        exact hback

theorem numbered_later {streamer : Nat} (hwired : state.Wired)
    (hturns : Turns state caller (state.place caller) access later)
    (hcreated : (state.access access).created ≤ streamer) :
    (state.access access).partner streamer = none := by
  have hbefore : state.created ≤ streamer :=
    Nat.le_trans (created_access state access) hcreated
  rcases partner_access state access with
    hsame | ⟨reader, syncBarrier, audio, rfl, hnew⟩
  · rw [hsame]
    exact hwired.numbered streamer hbefore
  · obtain ⟨haudio, _, _⟩ := hwired.unpartnered hturns.keeping
    have hlate : state.created + 1 ≤ streamer := hcreated
    rw [hnew, Function.update_of_ne (by omega), Function.update_of_ne (by omega)]
    exact hwired.numbered streamer hbefore

theorem wired_proceed {setSources : Nat → Option (SetSource Reader)}
    {stopAt : StopAt} (hwired : state.Wired)
    (hturns : Turns state caller (state.place caller) access later)
    (hplace : (state.proceed access setSources stopAt).place =
      Function.update state.place caller later) :
    (state.proceed access setSources stopAt).Wired := by
  have hcreated := created_access state access
  have htoken {other : Caller} {streamer : Nat}
      (htoken : ((state.proceed access setSources stopAt).place other).token =
        some streamer) :
      (state.place other).token = some streamer ∨ other = caller ∧
        streamer = state.created ∧
          (state.access access).created = state.created + 1 := by
    rw [hplace] at htoken
    by_cases hother : other = caller
    · subst hother
      rw [Function.update_self] at htoken
      exact (hturns.token_later htoken).imp_right fun hnew => ⟨rfl, hnew⟩
    · rw [Function.update_of_ne hother] at htoken
      exact .inl htoken
  constructor
  · intro other streamer hat
    change streamer < (state.access access).created
    rcases htoken hat with hbefore | ⟨_, rfl, hnew⟩
    · exact Nat.lt_of_lt_of_le (hwired.tokens other streamer hbefore) hcreated
    · omega
  · intro first second streamer hfirst hsecond
    rcases htoken hfirst with hfirst | ⟨rfl, rfl, _⟩ <;>
      rcases htoken hsecond with hsecond | ⟨rfl, hnew, _⟩
    · exact hwired.unshared first second streamer hfirst hsecond
    · exact absurd (hwired.tokens first streamer hfirst) (by omega)
    · exact absurd (hwired.tokens second _ hsecond) (by omega)
    · rfl
  · intro other streamer halone
    exact lone_later hwired hturns hplace halone
  · intro streamer hlate
    exact numbered_later hwired hturns hlate
  · intro streamer other hpartner
    exact paired_later hwired hturns hpartner
  · intro side streamer hslot
    rcases slots_access state access hslot with hbefore | rfl
    · exact settled_later hturns hplace (hwired.slots side streamer hbefore)
    · generalize hat : state.place caller = place at hturns
      cases hturns with
      | passes _ hneutral => cases hneutral
      | stores _ _ lone hlater => exact settled_stored hwired hat hlater hplace
  · intro streamer by_ hretired
    rcases retiredBy_access state access hretired with hbefore | ⟨side, _, hslot⟩
    · exact settled_later hturns hplace (hwired.retired streamer by_ hbefore)
    · exact settled_later hturns hplace (hwired.slots side streamer hslot)
  · intro streamer by_ hretired playing hplaying
    exact halted_later hwired hturns hplace hretired hplaying

end Turns

/-! A step of a caller, and any other step. -/

structure Begun (state : Sourcing Reader) : Prop where
  calls : ∀ id, state.started ≤ id → state.setSources id = none
  unstopped : state.closed = false → state.stopAt = .idle

theorem stages_access (state : Sourcing Reader) (access : Access Reader) :
    (state.access access).setSources = state.setSources ∧
      (state.access access).stopAt = state.stopAt ∧
        (state.access access).started = state.started ∧
          (state.access access).closed = state.closed := by
  cases access with
  | take side caller =>
      simp only [Sourcing.access]
      split <;> exact ⟨rfl, rfl, rfl, rfl⟩
  | spawn reader syncBarrier partner =>
      simp only [Sourcing.access]
      split <;> exact ⟨rfl, rfl, rfl, rfl⟩
  | _ => exact ⟨rfl, rfl, rfl, rfl⟩

/-- A step that is no caller's: it moves no streamer and stops none less. -/
structure Works (state later : Sourcing Reader) : Prop where
  place : later.place = state.place
  created : later.created = state.created
  partner : later.partner = state.partner
  slots : later.slots = state.slots
  retiredBy : later.retiredBy = state.retiredBy
  streamers : ∀ streamer playing, later.streamers streamer = some playing →
    ∃ before, state.streamers streamer = some before ∧
      (before.onEnd = false → playing.onEnd = false) ∧
      (before.leg.running = false → playing.leg.running = false)

theorem Works.refl (state : Sourcing Reader) : Works state state :=
  ⟨rfl, rfl, rfl, rfl, rfl, fun _ _ hplaying => ⟨_, hplaying, id, id⟩⟩

theorem Works.wired {state later : Sourcing Reader} (hworks : Works state later)
    (hwired : state.Wired) : later.Wired := by
  have hsettled {streamer : Nat} (hsettled : state.Settled streamer) :
      later.Settled streamer :=
    ⟨hworks.created.symm ▸ hsettled.created, hworks.place.symm ▸ hsettled.built⟩
  obtain ⟨htokens, hunshared, hlone, hnumbered, hpaired, hslots, hretired,
    hhalted⟩ := hwired
  constructor
  · rw [hworks.place, hworks.created]
    exact htokens
  · rw [hworks.place]
    exact hunshared
  · rw [hworks.place, hworks.partner]
    exact hlone
  · rw [hworks.created, hworks.partner]
    exact hnumbered
  · rw [hworks.partner]
    exact hpaired
  · rw [hworks.slots]
    exact fun side streamer hslot => hsettled (hslots side streamer hslot)
  · rw [hworks.retiredBy]
    exact fun streamer caller hby => hsettled (hretired streamer caller hby)
  · rw [hworks.place, hworks.retiredBy]
    intro streamer caller hby playing hplaying
    obtain ⟨before, hbefore, hquiet, hstopped⟩ :=
      hworks.streamers streamer playing hplaying
    obtain ⟨honEnd, hrunning⟩ := hhalted streamer caller hby before hbefore
    exact ⟨honEnd.imp_left hquiet, hrunning.imp_left hstopped⟩

theorem works_alter (state : Sourcing Reader) (streamer : Nat)
    {change : Playing Reader → Playing Reader}
    (hchange : ∀ playing, (playing.onEnd = false → (change playing).onEnd = false) ∧
      (playing.leg.running = false → (change playing).leg.running = false)) :
    Works state (state.alter streamer change) := by
  refine ⟨rfl, rfl, rfl, rfl, rfl, ?_⟩
  intro other playing hplaying
  by_cases hother : other = streamer
  · subst hother
    simp only [alter, Function.update_self, Option.map_eq_some_iff] at hplaying
    obtain ⟨before, hbefore, rfl⟩ := hplaying
    exact ⟨before, hbefore, hchange before⟩
  · rw [alter_of_ne hother] at hplaying
    exact ⟨playing, hplaying, id, id⟩

theorem onEnd_report (playing : Playing Reader) (honEnd : playing.onEnd = false) :
    playing.report.onEnd = false := by
  unfold Playing.report
  split
  · rfl
  · exact honEnd
  · exact honEnd

theorem running_pacing (playing : Playing Reader) (input : PacingInput) :
    (playing.pacing input).leg.running = playing.leg.running :=
  (playing.sameReader_pacingLeg input).running

theorem running_release (leg : Leg Reader) : leg.release.running = leg.running := by
  unfold Leg.release
  split <;> rfl

/-- What a turn of one pacing task makes of a streamer. -/
inductive Paced (state : Sourcing Reader) (turn : Nat) (input : PacingInput)
    (streamer : Nat) (playing : Playing Reader) : Playing Reader → Prop
  | other (hother : streamer ≠ turn) :
      Paced state turn input streamer playing playing
  | turn (hturn : streamer = turn) :
      Paced state turn input streamer playing (playing.pacing input)
  | meets (hturn : streamer = turn) (harriving : arriving playing = true) :
      Paced state turn input streamer playing (freed (playing.pacing input))
  | freed (arrived : Playing Reader)
      (hwaits : playing.leg.waits = true)
      (hpartner : state.partner turn = some streamer)
      (harrived : state.streamers turn = some arrived)
      (harriving : arriving arrived = true) :
      Paced state turn input streamer playing (freed playing)

theorem waiting_some {state : Sourcing Reader} {streamer partner : Nat}
    {playing : Playing Reader}
    (hwaiting : state.waiting streamer = some (partner, playing)) :
    state.partner streamer = some partner ∧
      state.streamers partner = some playing ∧ playing.leg.waits = true := by
  unfold waiting at hwaiting
  split at hwaiting
  next other hpartner =>
    split at hwaiting
    next held hheld =>
      split at hwaiting
      next hwaits =>
        cases hwaiting
        exact ⟨hpartner, hheld, hwaits⟩
      next => cases hwaiting
    next => cases hwaiting
  next => cases hwaiting

theorem paced_pacing (state : Sourcing Reader) (turn : Nat) (input : PacingInput)
    {streamer : Nat} {playing : Playing Reader}
    (hplaying : state.streamers streamer = some playing) :
    ∃ held, (state.pacing turn input).streamers streamer = some held ∧
      Paced state turn input streamer playing held := by
  unfold Sourcing.pacing
  cases hturn : state.streamers turn with
  | none =>
      refine ⟨playing, hplaying, .other ?_⟩
      rintro rfl
      simp [hplaying] at hturn
  | some arrived =>
      dsimp only
      split
      next partner other hwaiting =>
        split at hwaiting
        next harriving =>
          obtain ⟨hpartner, hother, hwaits⟩ := waiting_some hwaiting
          by_cases hfreed : streamer = partner
          · subst hfreed
            rw [hplaying] at hother
            cases hother
            exact ⟨_, Function.update_self .., .freed arrived hwaits hpartner
              hturn harriving⟩
          · dsimp only
            rw [Function.update_of_ne hfreed]
            by_cases hself : streamer = turn
            · subst hself
              rw [hplaying] at hturn
              cases hturn
              exact ⟨_, Function.update_self .., .meets rfl harriving⟩
            · rw [Function.update_of_ne hself]
              exact ⟨playing, hplaying, .other hself⟩
        next => cases hwaiting
      next =>
        by_cases hself : streamer = turn
        · subst hself
          rw [hplaying] at hturn
          cases hturn
          exact ⟨_, Function.update_self .., .turn rfl⟩
        · dsimp only
          rw [Function.update_of_ne hself]
          exact ⟨playing, hplaying, .other hself⟩

theorem pacing_none (state : Sourcing Reader) (turn : Nat) (input : PacingInput)
    {streamer : Nat} (hnone : state.streamers streamer = none) :
    (state.pacing turn input).streamers streamer = none := by
  unfold Sourcing.pacing
  cases hturn : state.streamers turn with
  | none => exact hnone
  | some arrived =>
      have hself : streamer ≠ turn := by
        rintro rfl
        simp [hnone] at hturn
      dsimp only
      split
      next partner other hwaiting =>
        split at hwaiting
        next =>
          obtain ⟨_, hother, _⟩ := waiting_some hwaiting
          have hfreed : streamer ≠ partner := by
            rintro rfl
            simp [hnone] at hother
          dsimp only
          rw [Function.update_of_ne hfreed, Function.update_of_ne hself]
          exact hnone
        next => cases hwaiting
      next =>
        dsimp only
        rw [Function.update_of_ne hself]
        exact hnone

theorem works_pacing (state : Sourcing Reader) (turn : Nat)
    (input : PacingInput) : Works state (state.pacing turn input) := by
  have hledger : (state.pacing turn input).place = state.place ∧
      (state.pacing turn input).created = state.created ∧
      (state.pacing turn input).partner = state.partner ∧
      (state.pacing turn input).slots = state.slots ∧
      (state.pacing turn input).retiredBy = state.retiredBy := by
    unfold Sourcing.pacing
    split
    · dsimp only
      split <;> exact ⟨rfl, rfl, rfl, rfl, rfl⟩
    · exact ⟨rfl, rfl, rfl, rfl, rfl⟩
  obtain ⟨hplace, hcreated, hpartner, hslots, hretiredBy⟩ := hledger
  refine ⟨hplace, hcreated, hpartner, hslots, hretiredBy, ?_⟩
  intro streamer held hheld
  cases hplaying : state.streamers streamer with
  | none => simp [pacing_none state turn input hplaying] at hheld
  | some playing =>
      obtain ⟨paced, hpaced, hcase⟩ := paced_pacing state turn input hplaying
      rw [hheld] at hpaced
      cases hpaced
      refine ⟨playing, rfl, ?_, ?_⟩
      · cases hcase <;> exact id
      · cases hcase with
        | other => exact id
        | turn =>
            rw [running_pacing]
            exact id
        | meets =>
            rw [freed, running_release, running_pacing]
            exact id
        | freed =>
            rw [Sourcing.freed, running_release]
            exact id

/-- Where only the dispatcher and the log of calls differ. -/
theorem works_log (state : Sourcing Reader) (dispatcher : Option Utils.Dispatcher)
    (jobs : Nat → Option (Nat × Option RustTgCallsError))
    (invoked : Nat → List (Option RustTgCallsError)) :
    Works state { state with dispatcher, jobs, invoked } :=
  ⟨rfl, rfl, rfl, rfl, rfl, fun _ _ hplaying => ⟨_, hplaying, id, id⟩⟩

theorem Works.trans {state middle later : Sourcing Reader}
    (hfirst : Works state middle) (hsecond : Works middle later) :
    Works state later := by
  refine ⟨hsecond.place.trans hfirst.place, hsecond.created.trans hfirst.created,
    hsecond.partner.trans hfirst.partner, hsecond.slots.trans hfirst.slots,
    hsecond.retiredBy.trans hfirst.retiredBy, ?_⟩
  intro streamer playing hplaying
  obtain ⟨between, hbetween, hquiet, hstopped⟩ :=
    hsecond.streamers streamer playing hplaying
  obtain ⟨before, hbefore, hquiet', hstopped'⟩ :=
    hfirst.streamers streamer between hbetween
  exact ⟨before, hbefore, hquiet ∘ hquiet', hstopped ∘ hstopped'⟩

theorem works_fire (state : Sourcing Reader) (streamer : Nat)
    (error : Option RustTgCallsError) :
    Works state (state.fire streamer error) := by
  unfold fire
  split
  · split <;> exact works_log state _ _ _
  · exact Works.refl state

theorem works_report (state : Sourcing Reader) (streamer : Nat) :
    Works state (state.report streamer) := by
  unfold Sourcing.report
  split
  next playing hplaying =>
    have hreported : Works state (state.alter streamer Playing.report) := by
      apply works_alter
      intro playing
      refine ⟨onEnd_report playing, ?_⟩
      rw [playing.report_frame.1]
      exact id
    dsimp only
    split
    · exact hreported.trans (works_fire _ streamer _)
    · exact hreported
  next => exact Works.refl state

theorem works_dispatch (state : Sourcing Reader)
    (action : Utils.Dispatcher.Action) : Works state (state.dispatch action) := by
  unfold dispatch
  split
  · dsimp only
    split
    · exact works_log state _ _ _
    · split <;> exact works_log state _ _ _
    · exact works_log state _ _ _
  · exact Works.refl state

theorem works_reader
    (nextSample : Reader → Except RustTgCallsError Sample × Reader)
    (state : Sourcing Reader) (streamer : Nat) (stalled : Bool) :
    Works state (state.next nextSample (.reader streamer stalled)) := by
  apply works_alter
  intro playing
  refine ⟨id, ?_⟩
  rw [(Leg.paused_readerStep nextSample playing.leg stalled).2]
  exact id

section Next

variable (nextSample : Reader → Except RustTgCallsError Sample × Reader)
  {state : Sourcing Reader}

/-- A new caller has no streamer in hand. -/
theorem works_call (hbegun : state.Begun) (action : Action Reader)
    (hcall : action = .stop ∨ ∃ sources, action = .setSource sources) :
    Works state (state.next nextSample action) := by
  rcases hcall with rfl | ⟨sources, rfl⟩
  · simp only [next]
    split
    next => exact Works.refl state
    next hopen =>
      have hidle := hbegun.unstopped (by simpa using hopen)
      refine ⟨?_, rfl, rfl, rfl, rfl, fun _ _ hplaying => ⟨_, hplaying, id, id⟩⟩
      funext caller
      cases caller with
      | setSource id => rfl
      | stop => simp [place, stopPlace, hidle]
  · refine ⟨?_, rfl, rfl, rfl, rfl, fun _ _ hplaying => ⟨_, hplaying, id, id⟩⟩
    funext caller
    cases caller with
    | stop => rfl
    | setSource id =>
        by_cases hnew : id = state.started
        · subst hnew
          have hnone := hbegun.calls state.started (Nat.le_refl _)
          simp [next, place, hnone, setSourcePlace]
        · simp [next, place, hnew]

/-- The step of a caller. -/
structure Proceeds (state later : Sourcing Reader) (caller : Caller)
    (access : Access Reader) : Prop where
  turns : Turns state caller (state.place caller) access (later.place caller)
  stages : ∃ setSources stopAt, later = state.proceed access setSources stopAt
  place : later.place = Function.update state.place caller (later.place caller)

theorem proceeds_setSourceStep (state : Sourcing Reader) (id : Nat)
    (connected : Bool) {call : SetSource Reader}
    (hcall : state.setSources id = some call) :
    Proceeds state (state.setSourceStep id connected) (.setSource id)
      (state.setSourceTurn id connected call.sources call.stage).2 := by
  have hstages := stages_access state
    (state.setSourceTurn id connected call.sources call.stage).2
  have hnow : state.place (.setSource id) = setSourcePlace call.stage := by
    simp [place, hcall]
  have hlater : (state.setSourceStep id connected).place (.setSource id) =
      setSourcePlace
        (state.setSourceTurn id connected call.sources call.stage).1 := by
    simp [setSourceStep, hcall, place]
  have hsame : state.setSourceStep id connected = state.proceed
      (state.setSourceTurn id connected call.sources call.stage).2
      (Function.update state.setSources id (some { call with
        stage := (state.setSourceTurn id connected call.sources call.stage).1 }))
      state.stopAt := by
    simp only [setSourceStep, hcall, proceed, ← hstages.2.1]
  refine ⟨?_, ⟨_, state.stopAt, hsame⟩, ?_⟩
  · rw [hnow, hlater]
    exact turns_setSourceTurn state id connected call.sources call.stage
  · funext other
    by_cases hother : other = .setSource id
    · subst hother
      rw [Function.update_self]
    · rw [Function.update_of_ne hother]
      cases other with
      | stop => simp [place, setSourceStep, hcall, hstages.2.1]
      | setSource which =>
          have hwhich : which ≠ id := fun hwhich => hother (by rw [hwhich])
          simp [place, setSourceStep, hcall, hwhich]

theorem proceeds_stopStep (state : Sourcing Reader) :
    Proceeds state state.stopStep .stop (state.stopTurn state.stopAt).2 := by
  have hstages := stages_access state (state.stopTurn state.stopAt).2
  have hsame : state.stopStep = state.proceed (state.stopTurn state.stopAt).2
      state.setSources (state.stopTurn state.stopAt).1 := by
    simp only [stopStep, proceed, ← hstages.1]
  refine ⟨turns_stopTurn state state.stopAt, ⟨_, _, hsame⟩, ?_⟩
  · funext other
    cases other with
    | stop => rw [Function.update_self]
    | setSource id =>
        rw [Function.update_of_ne (by simp)]
        simp [place, stopStep, hstages.1]

theorem Proceeds.wired {later : Sourcing Reader} {caller : Caller}
    {access : Access Reader} (hproceeds : Proceeds state later caller access)
    (hwired : state.Wired) : later.Wired := by
  obtain ⟨hturns, ⟨setSources, stopAt, hlater⟩, hplace⟩ := hproceeds
  generalize later.place caller = stage at hturns hplace
  subst hlater
  exact wired_proceed hwired hturns hplace

/-- The calls a task leaves alone. -/
structure SameCalls (state later : Sourcing Reader) : Prop where
  setSources : later.setSources = state.setSources
  started : later.started = state.started
  closed : later.closed = state.closed
  stopAt : later.stopAt = state.stopAt

theorem sameCalls_pacing (state : Sourcing Reader) (streamer : Nat)
    (input : PacingInput) : SameCalls state (state.pacing streamer input) := by
  unfold Sourcing.pacing
  split
  · dsimp only
    split <;> exact ⟨rfl, rfl, rfl, rfl⟩
  · exact ⟨rfl, rfl, rfl, rfl⟩

theorem sameCalls_report (state : Sourcing Reader) (streamer : Nat) :
    SameCalls state (state.report streamer) := by
  unfold Sourcing.report fire
  split
  · dsimp only
    split
    · split
      · split <;> exact ⟨rfl, rfl, rfl, rfl⟩
      · exact ⟨rfl, rfl, rfl, rfl⟩
    · exact ⟨rfl, rfl, rfl, rfl⟩
  · exact ⟨rfl, rfl, rfl, rfl⟩

theorem sameCalls_dispatch (state : Sourcing Reader)
    (action : Utils.Dispatcher.Action) :
    SameCalls state (state.dispatch action) := by
  unfold dispatch
  split
  · dsimp only
    split
    · exact ⟨rfl, rfl, rfl, rfl⟩
    · split <;> exact ⟨rfl, rfl, rfl, rfl⟩
    · exact ⟨rfl, rfl, rfl, rfl⟩
  · exact ⟨rfl, rfl, rfl, rfl⟩

theorem SameCalls.begun {later : Sourcing Reader}
    (hsame : SameCalls state later) (hbegun : state.Begun) : later.Begun := by
  constructor
  · rw [hsame.started, hsame.setSources]
    exact hbegun.calls
  · rw [hsame.closed, hsame.stopAt]
    exact hbegun.unstopped

theorem begun_next (hbegun : state.Begun) (action : Action Reader) :
    (state.next nextSample action).Begun := by
  cases action with
  | setSource sources =>
      refine ⟨?_, hbegun.unstopped⟩
      intro id hid
      have hlate : state.started + 1 ≤ id := hid
      have hne : id ≠ state.started := by omega
      simp only [next, Function.update_of_ne hne]
      exact hbegun.calls id (by omega)
  | setSourceStep id connected =>
      simp only [next]
      cases hcall : state.setSources id with
      | none =>
          simp only [setSourceStep, hcall]
          exact hbegun
      | some call =>
          have hstages := stages_access state
            (state.setSourceTurn id connected call.sources call.stage).2
          simp only [setSourceStep, hcall]
          constructor
          · intro other hother
            simp only [hstages.2.2.1] at hother
            have hnone := hbegun.calls other hother
            have hne : other ≠ id := by
              rintro rfl
              simp [hcall] at hnone
            simp only [Function.update_of_ne hne]
            exact hnone
          · intro hopen
            simp only [hstages.2.2.2] at hopen
            exact hstages.2.1.trans (hbegun.unstopped hopen)
  | stop =>
      simp only [next]
      split
      · exact hbegun
      · exact ⟨hbegun.calls, by simp⟩
  | stopStep =>
      have hstages := stages_access state (state.stopTurn state.stopAt).2
      simp only [next, stopStep]
      constructor
      · simp only [hstages.1, hstages.2.2.1]
        exact hbegun.calls
      · simp only [hstages.2.2.2]
        intro hopen
        rw [hbegun.unstopped hopen]
        rfl
  | reader streamer stalled => exact ⟨hbegun.calls, hbegun.unstopped⟩
  | pacing streamer input => exact (sameCalls_pacing state streamer input).begun hbegun
  | report streamer => exact (sameCalls_report state streamer).begun hbegun
  | dispatch action => exact (sameCalls_dispatch state action).begun hbegun

/-- Every step is a caller's or leaves what the callers have. -/
theorem next_cases (hbegun : state.Begun) (action : Action Reader) :
    (∃ caller access,
        Proceeds state (state.next nextSample action) caller access) ∨
      Works state (state.next nextSample action) := by
  cases action with
  | setSource sources =>
      exact .inr (works_call nextSample hbegun _ (.inr ⟨sources, rfl⟩))
  | setSourceStep id connected =>
      cases hcall : state.setSources id with
      | none =>
          right
          simp only [next, setSourceStep, hcall]
          exact Works.refl state
      | some call =>
          exact .inl ⟨_, _, proceeds_setSourceStep state id connected hcall⟩
  | stop => exact .inr (works_call nextSample hbegun _ (.inl rfl))
  | stopStep => exact .inl ⟨_, _, proceeds_stopStep state⟩
  | reader streamer stalled =>
      exact .inr (works_reader nextSample state streamer stalled)
  | pacing streamer input => exact .inr (works_pacing state streamer input)
  | report streamer => exact .inr (works_report state streamer)
  | dispatch action => exact .inr (works_dispatch state action)

theorem wired_next (hbegun : state.Begun) (hwired : state.Wired)
    (action : Action Reader) : (state.next nextSample action).Wired := by
  rcases next_cases nextSample hbegun action with
    ⟨caller, access, hproceeds⟩ | hworks
  · exact hproceeds.wired hwired
  · exact hworks.wired hwired

end Next

end Sourcing

end RustTgCalls.Instances
