import RustTgCalls.Facade
import RustTgCalls.Creations

namespace RustTgCalls

open Instances Transition

/-- The call is made and not yet in the map. -/
def CreateAt.constructed : CreateAt → Bool
  | .localParams _ | .insert _ _ => true
  | _ => false

/-- Nothing of the call is made yet. -/
def CreateAt.early : CreateAt → Bool
  | .idle | .test _ | .readCallback _ | .construct _ => true
  | _ => false

namespace Facade

/-! Which calls refuse a creation for their chat. -/

variable (formatSeconds : Nat → String) {facade : Facade}

/-- A creation is refused exactly by a live call in the map. -/
def RefusedByLive (facade : Facade) : Prop :=
  ∀ request : Request,
    facade.client.createTest request = .returned request (.error .connectionExists) ↔
      ∃ id call, facade.client.calls request.chatId = some id ∧
        facade.objects id = some call ∧ call.live = true

/-- The map holds no Failed or Closed call. -/
def AllLive (facade : Facade) : Prop :=
  ∀ chat id, facade.client.calls chat = some id →
    ∀ call ∈ facade.objects id, call.live = true

def Mapped (facade : Facade) (id : Nat) : Prop :=
  ∃ chat, facade.client.calls chat = some id

/-- No call dies in the map, and none enters it dead. -/
def Spared (facade : Facade) : Action → Prop
  | .step id _ =>
      (facade.client.creators id).inserting = true →
        ∀ call ∈ facade.objects id, call.live = true
  | .invoke chat op =>
      ∀ id ∈ facade.client.calls chat, facade.waits id op = false →
        ∀ call ∈ facade.objects id, call.killedBy op = false
  | .perform id op =>
      facade.waits id op = false → facade.Mapped id →
        ∀ call ∈ facade.objects id, call.killedBy op = false
  | .undergo id event =>
      facade.Mapped id → ∀ call ∈ facade.objects id, call.diesOf event = false
  | .stopRemoved id =>
      id ∈ facade.stopping → facade.installing id = none → facade.Mapped id →
        ∀ call ∈ facade.objects id, call.killedBy .stop = false
  | .stopVisited =>
      ∀ due id, facade.closeAt = .iterating due (some id) → facade.installing id = none →
        facade.Mapped id → ∀ call ∈ facade.objects id, call.killedBy .stop = false
  | _ => True

/-- A creation before its construction has no call. -/
def Unmade (facade : Facade) : Prop :=
  ∀ id, (facade.client.creators id).early = true → facade.objects id = none

/-- A creation past its construction has a call, and so has every entry. -/
structure Backed (facade : Facade) : Prop where
  numbered : facade.client.Numbered
  past : ∀ id, (facade.client.creators id).constructed = true → facade.objects id ≠ none
  mapped : ∀ id, facade.Mapped id → facade.objects id ≠ none
  settled : ∀ id, facade.Mapped id → (facade.client.creators id).settled = true

theorem refusedByLive_iff (hbacked : facade.Backed) :
    facade.RefusedByLive ↔ facade.AllLive := by
  have htest (request : Request) :
      facade.client.createTest request = .returned request (.error .connectionExists) ↔
        (facade.client.calls request.chatId).isSome = true := by
    unfold Client.createTest
    split
    next hsome => simp [hsome]
    next hnone =>
      simp only [hnone]
      cases request.kind <;> simp
  constructor
  · intro hrefused chat id hcalls call hcall
    have hrequest := htest ⟨chat, .group⟩
    rw [hrefused, hcalls] at hrequest
    obtain ⟨id', call', hcalls', hcall', hlive⟩ := hrequest.mpr rfl
    have hid := Option.some.inj hcalls'
    subst hid
    have hsame := Option.some.inj (hcall.symm.trans hcall')
    rwa [hsame]
  · intro hlive request
    rw [htest]
    constructor
    · intro hsome
      obtain ⟨id, hcalls⟩ := Option.isSome_iff_exists.mp hsome
      obtain ⟨call, hcall⟩ :=
        Option.ne_none_iff_exists'.mp (hbacked.mapped id ⟨request.chatId, hcalls⟩)
      exact ⟨id, call, hcalls, hcall, hlive _ id hcalls call hcall⟩
    · rintro ⟨id, call, hcalls, _⟩
      simp [hcalls]

/-! What one action does to the map and to the calls in it. -/

theorem calls_step {client : Client} {id : Nat} {input : CreateInput} {chat : Int}
    (hcalls : (client.next (.step id input)).calls chat = some other) :
    client.calls chat = some other ∨
      other = id ∧ (client.creators id).inserting = true := by
  simp only [Client.next] at hcalls
  split at hcalls
  next request json hinsert =>
    by_cases hchat : chat = request.chatId
    · subst hchat
      right
      simp only [Function.update_self, Option.some.injEq] at hcalls
      exact ⟨hcalls.symm, by simp [hinsert, CreateAt.inserting]⟩
    · left
      simpa [hchat] using hcalls
  next => exact .inl hcalls

theorem settled_of_inserting {client : Client} {id : Nat} {input : CreateInput}
    (hinserting : (client.creators id).inserting = true) :
    (client.createTurn (client.creators id) input).settled = true := by
  cases hat : client.creators id with
  | insert request json => rfl
  | _ => simp [hat, CreateAt.inserting] at hinserting

theorem constructed_of_inserting {stage : CreateAt}
    (hinserting : stage.inserting = true) : stage.constructed = true := by
  cases stage with
  | insert request json => rfl
  | _ => cases hinserting

theorem made_of_settled {id : Nat} {stage : CreateAt} (hsettled : stage.settled = true) :
    facade.made id stage = facade.objects id := by
  cases stage with
  | returned request result => rfl
  | _ => cases hsettled

theorem createTurn_of_settled {client : Client} {stage : CreateAt}
    (hsettled : stage.settled = true) (input : CreateInput) :
    client.createTurn stage input = stage := by
  cases stage with
  | returned request result => rfl
  | _ => cases hsettled

/-- A creation that comes to its construction has made its call. -/
theorem made_ne_none (hbacked : facade.Backed) {id : Nat} {input : CreateInput}
    (hconstructed :
      (facade.client.createTurn (facade.client.creators id) input).constructed = true) :
    facade.made id (facade.client.createTurn (facade.client.creators id) input) ≠ none := by
  have hpast := hbacked.past id
  cases hat : facade.client.creators id with
  | test request =>
      obtain ⟨chatId, kind⟩ := request
      rw [hat] at hconstructed
      simp only [Client.createTurn, Client.createTest] at hconstructed ⊢
      split
      next hsome => simp [hsome, CreateAt.constructed] at hconstructed
      next hnone => cases kind <;> simp_all [CreateAt.constructed, made]
  | construct request =>
      rw [hat] at hconstructed
      cases input <;> simp_all [Client.createTurn, CreateAt.constructed, made]
  | localParams request =>
      obtain ⟨chatId, kind⟩ := request
      have hobject := hpast (by simp [hat, CreateAt.constructed])
      rw [hat] at hconstructed
      cases input <;> cases kind <;>
        simp_all [Client.createTurn, CreateAt.constructed, made]
  | idle | readCallback request | insert request json | returned request result =>
      rw [hat] at hconstructed
      simp [Client.createTurn, CreateAt.constructed] at hconstructed

theorem backed_act (hbacked : facade.Backed) (id : Nat) (change : Call → Call) :
    (facade.act id change).Backed := by
  obtain ⟨hnumbered, hpast, hmapped, hsettled⟩ := hbacked
  have hkept (other : Nat) (hobject : facade.objects other ≠ none) :
      (facade.act id change).objects other ≠ none := by
    rw [objects_act]
    by_cases hother : other = id
    · subst hother
      simpa using hobject
    · simpa [hother] using hobject
  constructor
  · rwa [client_act]
  · intro other hconstructed
    rw [client_act] at hconstructed
    exact hkept other (hpast other hconstructed)
  · intro other hother
    rw [Mapped, client_act] at hother
    exact hkept other (hmapped other hother)
  · intro other hother
    rw [Mapped, client_act] at hother
    rw [client_act]
    exact hsettled other hother

theorem backed_step (hbacked : facade.Backed) (id : Nat) (input : CreateInput) :
    (facade.next formatSeconds (.step id input)).Backed := by
  obtain ⟨hnumbered, hpast, hmapped, hsettled⟩ := hbacked
  have hcreators := facade.client.creators_step id input
  have hentry (other : Nat) (hother : (facade.next formatSeconds (.step id input)).Mapped other) :
      facade.Mapped other ∨ other = id ∧ (facade.client.creators id).inserting = true := by
    obtain ⟨chat, hcalls⟩ := hother
    exact (calls_step hcalls).imp_left fun hbefore => ⟨chat, hbefore⟩
  constructor
  · exact facade.client.numbered_next _ hnumbered
  · intro other hconstructed
    simp only [next, hcreators] at hconstructed ⊢
    by_cases hother : other = id
    · subst hother
      rw [Function.update_self] at hconstructed ⊢
      exact made_ne_none ⟨hnumbered, hpast, hmapped, hsettled⟩ hconstructed
    · rw [Function.update_of_ne hother] at hconstructed ⊢
      exact hpast other hconstructed
  · intro other hother
    simp only [next]
    by_cases hsame : other = id
    · subst hsame
      rw [Function.update_self]
      obtain hbefore | ⟨_, hinserting⟩ := hentry other hother
      · rw [createTurn_of_settled (hsettled other hbefore),
          made_of_settled (hsettled other hbefore)]
        exact hmapped other hbefore
      · rw [made_of_settled (settled_of_inserting hinserting)]
        exact hpast other (constructed_of_inserting hinserting)
    · rw [Function.update_of_ne hsame]
      obtain hbefore | ⟨hwhich, _⟩ := hentry other hother
      · exact hmapped other hbefore
      · exact absurd hwhich hsame
  · intro other hother
    simp only [next, hcreators]
    by_cases hsame : other = id
    · subst hsame
      rw [Function.update_self]
      obtain hbefore | ⟨_, hinserting⟩ := hentry other hother
      · rw [createTurn_of_settled (hsettled other hbefore)]
        exact hsettled other hbefore
      · exact settled_of_inserting hinserting
    · rw [Function.update_of_ne hsame]
      obtain hbefore | ⟨hwhich, _⟩ := hentry other hother
      · exact hsettled other hbefore
      · exact absurd hwhich hsame

theorem backed_create (hbacked : facade.Backed) (request : Request) :
    (facade.next formatSeconds (.create request)).Backed := by
  obtain ⟨hnumbered, hpast, hmapped, hsettled⟩ := hbacked
  have hfresh := hnumbered facade.client.started (Nat.le_refl _)
  constructor
  · exact facade.client.numbered_next _ hnumbered
  · intro other hconstructed
    simp only [next, Client.next] at hconstructed ⊢
    by_cases hother : other = facade.client.started
    · subst hother
      simp [CreateAt.constructed] at hconstructed
    · rw [Function.update_of_ne hother] at hconstructed
      exact hpast other hconstructed
  · exact hmapped
  · intro other hother
    have hbefore := hsettled other hother
    simp only [next, Client.next]
    by_cases hsame : other = facade.client.started
    · subst hsame
      rw [hfresh] at hbefore
      cases hbefore
    · rwa [Function.update_of_ne hsame]

/-- Fewer entries are still backed. -/
theorem Backed.fewer (hbacked : facade.Backed) {other : Facade}
    (hnumbered : other.client.Numbered)
    (hcreators : other.client.creators = facade.client.creators)
    (hobjects : other.objects = facade.objects)
    (hfewer : ∀ id, other.Mapped id → facade.Mapped id) : other.Backed := by
  obtain ⟨_, hpast, hmapped, hsettled⟩ := hbacked
  constructor
  · exact hnumbered
  · rw [hcreators, hobjects]
    exact hpast
  · intro id hentry
    rw [hobjects]
    exact hmapped id (hfewer id hentry)
  · intro id hentry
    rw [hcreators]
    exact hsettled id (hfewer id hentry)

theorem mapped_remove {chat : Int} {id : Nat}
    (hmapped : (facade.next formatSeconds (.remove chat)).Mapped id) : facade.Mapped id := by
  obtain ⟨other, hcalls⟩ := hmapped
  simp only [next] at hcalls
  by_cases hchat : other = chat
  · subst hchat
    simp at hcalls
  · exact ⟨other, by simpa [hchat] using hcalls⟩

theorem backed_operate (hbacked : facade.Backed) (id : Nat) (op : Op) :
    (facade.operate formatSeconds id op).Backed := by
  obtain ⟨_, hsame⟩ | ⟨_, _, _, _, _, _, hbegun⟩ | ⟨_, hacted⟩ :=
    operate_cases formatSeconds facade id op
  · rwa [hsame]
  · rw [hbegun]
    exact hbacked.fewer hbacked.numbered rfl rfl fun _ hmapped => hmapped
  · rw [hacted]
    exact backed_act hbacked id _

theorem backed_next (facade : Facade) (action : Action) (hbacked : facade.Backed) :
    (facade.next formatSeconds action).Backed := by
  have hnumbered := hbacked.numbered
  cases action with
  | create request => exact backed_create formatSeconds hbacked request
  | step id input => exact backed_step formatSeconds hbacked id input
  | invoke chat op =>
      simp only [next]
      split
      · exact backed_operate formatSeconds hbacked _ op
      · exact hbacked
  | perform id op => exact backed_operate formatSeconds hbacked id op
  | enter id streams awaited now answer =>
      simp only [next]
      split
      · have hacted := backed_act hbacked id fun call =>
          (call.beginSource formatSeconds streams awaited now answer).1
        exact hacted.fewer hacted.numbered rfl rfl fun _ hmapped => hmapped
      · exact hbacked
  | install id =>
      simp only [next]
      split
      next installing _ =>
        have hacted := backed_act hbacked id (·.registerEnd installing)
        exact hacted.fewer hacted.numbered rfl rfl fun _ hmapped => hmapped
      next => exact hbacked
  | undergo id event => exact backed_act hbacked id _
  | remove chat =>
      exact hbacked.fewer hnumbered rfl rfl fun _ => mapped_remove formatSeconds
  | onStreamEnd | onConnectionChange =>
      exact hbacked.fewer hnumbered rfl rfl fun _ hmapped => hmapped
  | close | visit chat =>
      simp only [next]
      split
      · exact hbacked.fewer hnumbered rfl rfl fun _ hmapped => hmapped
      · exact hbacked
  | stopRemoved id =>
      simp only [next]
      split
      · have hacted := backed_act hbacked id fun call => (call.perform formatSeconds .stop).1
        exact hacted.fewer hacted.numbered rfl rfl fun _ hmapped => hmapped
      · exact hbacked
  | stopVisited =>
      simp only [next]
      split
      next due id _ =>
        split
        · have hacted := backed_act hbacked id fun call => (call.perform formatSeconds .stop).1
          exact hacted.fewer hacted.numbered rfl rfl fun _ hmapped => hmapped
        · exact hbacked
      next => exact hbacked
  | clear =>
      simp only [next]
      split
      · refine hbacked.fewer hnumbered rfl rfl ?_
        rintro _ ⟨_, hcalls⟩
        cases hcalls
      · exact hbacked

theorem backed_new (connectTimeout : Duration) : (new connectTimeout).Backed := by
  constructor
  · exact Client.numbered_new
  · intro id hconstructed
    cases hconstructed
  · rintro id ⟨_, hcalls⟩
    cases hcalls
  · rintro id ⟨_, hcalls⟩
    cases hcalls

theorem early_createTurn {client : Client} {stage : CreateAt} {input : CreateInput}
    (hearly : (client.createTurn stage input).early = true) : stage.early = true := by
  cases stage with
  | idle | test _ | readCallback _ | construct _ => rfl
  | localParams request => cases input <;> cases hearly
  | insert _ _ | returned _ _ => cases hearly

theorem made_of_early {id : Nat} {stage : CreateAt} (hearly : stage.early = true) :
    facade.made id stage = facade.objects id := by
  cases stage with
  | localParams _ | insert _ _ | returned _ _ => cases hearly
  | _ => rfl

theorem unmade_new (connectTimeout : Duration) : (new connectTimeout).Unmade :=
  fun _ _ => rfl

theorem Unmade.same (hunmade : facade.Unmade) {other : Facade}
    (hcreators : other.client.creators = facade.client.creators)
    (hobjects : ∀ id, facade.objects id = none → other.objects id = none) : other.Unmade := by
  intro id hearly
  rw [hcreators] at hearly
  exact hobjects id (hunmade id hearly)

theorem objects_act_none {id other : Nat} {change : Call → Call}
    (hnone : facade.objects other = none) : (facade.act id change).objects other = none := by
  rw [objects_act]
  by_cases hother : other = id
  · subst hother
    simp [hnone]
  · rwa [Function.update_of_ne hother]

theorem unmade_act (hunmade : facade.Unmade) (id : Nat) (change : Call → Call) :
    (facade.act id change).Unmade :=
  hunmade.same (by rw [client_act]) fun _ => objects_act_none

theorem unmade_operate (hunmade : facade.Unmade) (id : Nat) (op : Op) :
    (facade.operate formatSeconds id op).Unmade := by
  obtain ⟨_, hsame⟩ | ⟨_, _, _, _, _, _, hbegun⟩ | ⟨_, hacted⟩ :=
    operate_cases formatSeconds facade id op
  · rwa [hsame]
  · rw [hbegun]
    exact hunmade
  · rw [hacted]
    exact unmade_act hunmade id _

theorem unmade_next (facade : Facade) (action : Action) (hnumbered : facade.client.Numbered)
    (hunmade : facade.Unmade) : (facade.next formatSeconds action).Unmade := by
  cases action with
  | step id input =>
      intro other hearly
      have hcreators := facade.client.creators_step id input
      simp only [next, hcreators] at hearly ⊢
      by_cases hother : other = id
      · subst hother
        rw [Function.update_self] at hearly ⊢
        rw [made_of_early hearly]
        exact hunmade other (early_createTurn hearly)
      · rw [Function.update_of_ne hother] at hearly ⊢
        exact hunmade other hearly
  | create request =>
      intro other hearly
      by_cases hother : other = facade.client.started
      · subst hother
        exact hunmade _ (by rw [hnumbered _ (Nat.le_refl _)]; rfl)
      · exact hunmade other (by simpa [next, Client.next, hother] using hearly)
  | invoke chat op =>
      simp only [next]
      split
      · exact unmade_operate formatSeconds hunmade _ op
      · exact hunmade
  | perform id op => exact unmade_operate formatSeconds hunmade id op
  | undergo id event => exact unmade_act hunmade id _
  | enter id streams awaited now answer =>
      simp only [next]
      split
      · exact (unmade_act hunmade id _).same rfl fun _ hnone => hnone
      · exact hunmade
  | install id | stopRemoved id | stopVisited =>
      simp only [next]
      repeat' split
      all_goals first | exact hunmade | exact (unmade_act hunmade _ _).same rfl fun _ hnone => hnone
  | remove chat | onStreamEnd | onConnectionChange =>
      exact hunmade.same rfl fun _ hnone => hnone
  | close | visit chat | clear =>
      simp only [next]
      split
      · exact hunmade.same rfl fun _ hnone => hnone
      · exact hunmade

/-! The map stays free of dead calls exactly when its calls are spared. -/

theorem allLive_act (hlive : facade.AllLive) (id : Nat) (change : Call → Call) :
    (facade.act id change).AllLive ↔
      (facade.Mapped id → ∀ call ∈ facade.objects id, (change call).live = true) := by
  constructor
  · rintro hafter ⟨chat, hcalls⟩ call hcall
    apply hafter chat id
    · rwa [client_act]
    · rw [objects_act, Function.update_self, Option.mem_def.mp hcall]
      rfl
  · intro hkept chat other hcalls call hcall
    rw [client_act] at hcalls
    rw [objects_act] at hcall
    by_cases hother : other = id
    · subst hother
      rw [Function.update_self] at hcall
      obtain ⟨before, hbefore, hchange⟩ := Option.map_eq_some_iff.mp hcall
      subst hchange
      exact hkept ⟨chat, hcalls⟩ before hbefore
    · rw [Function.update_of_ne hother] at hcall
      exact hlive chat other hcalls call hcall

theorem allLive_perform (hlive : facade.AllLive) (id : Nat) (op : Op) :
    (facade.act id fun call => (call.perform formatSeconds op).1).AllLive ↔
      (facade.Mapped id → ∀ call ∈ facade.objects id, call.killedBy op = false) := by
  rw [allLive_act hlive]
  refine forall_congr' fun hmapped => forall_congr' fun call => forall_congr' fun hcall => ?_
  obtain ⟨chat, hcalls⟩ := hmapped
  rw [Call.live_perform formatSeconds (hlive chat id hcalls call hcall)]
  simp

theorem allLive_operate (hlive : facade.AllLive) (id : Nat) (op : Op) :
    (facade.operate formatSeconds id op).AllLive ↔
      (facade.waits id op = false → facade.Mapped id →
        ∀ call ∈ facade.objects id, call.killedBy op = false) := by
  obtain ⟨hwaits, hsame⟩ | ⟨_, _, _, _, _, rfl, hbegun⟩ | ⟨hfree, hacted⟩ :=
    operate_cases formatSeconds facade id op
  · rw [hsame]
    refine ⟨fun _ hfree => ?_, fun _ => hlive⟩
    rw [hwaits] at hfree
    cases hfree
  · rw [hbegun]
    refine ⟨fun _ _ _ call _ => ?_, fun _ => hlive⟩
    cases call <;> rfl
  · rw [hacted, allLive_perform formatSeconds hlive]
    exact ⟨fun hkept _ => hkept, fun hkept => hkept hfree⟩

/-- A change that neither kills nor revives. -/
theorem allLive_act_same (hlive : facade.AllLive) (id : Nat) {change : Call → Call}
    (hsame : ∀ call : Call, (change call).live = call.live) : (facade.act id change).AllLive := by
  rw [allLive_act hlive]
  rintro ⟨chat, hcalls⟩ call hcall
  rw [hsame]
  exact hlive chat id hcalls call hcall

theorem allLive_step (hbacked : facade.Backed) (hlive : facade.AllLive) (id : Nat)
    (input : CreateInput) :
    (facade.next formatSeconds (.step id input)).AllLive ↔
      facade.Spared (.step id input) := by
  have hobject (hsettled : (facade.client.createTurn (facade.client.creators id)
      input).settled = true) :
      (facade.next formatSeconds (.step id input)).objects id = facade.objects id := by
    simp only [next, Function.update_self]
    exact made_of_settled hsettled
  constructor
  · intro hafter hinserting call hcall
    cases hat : facade.client.creators id with
    | insert request json =>
        apply hafter request.chatId id
        · simp [next, Client.next, hat]
        · rwa [hobject (settled_of_inserting hinserting)]
    | _ => simp [hat, CreateAt.inserting] at hinserting
  · intro hspared chat other hcalls call hcall
    obtain hbefore | ⟨hwhich, hinserting⟩ := calls_step hcalls
    · by_cases hother : other = id
      · subst hother
        have hsettled := hbacked.settled other ⟨chat, hbefore⟩
        rw [hobject (by rwa [createTurn_of_settled hsettled])] at hcall
        exact hlive chat other hbefore call hcall
      · simp only [next, Function.update_of_ne hother] at hcall
        exact hlive chat other hbefore call hcall
    · subst hwhich
      rw [hobject (settled_of_inserting hinserting)] at hcall
      exact hspared hinserting call hcall

theorem allLive_next (facade : Facade) (action : Action) (hbacked : facade.Backed)
    (hlive : facade.AllLive) :
    (facade.next formatSeconds action).AllLive ↔ facade.Spared action := by
  cases action with
  | step id input => exact allLive_step formatSeconds hbacked hlive id input
  | perform id op => exact allLive_operate formatSeconds hlive id op
  | enter id streams awaited now answer =>
      refine ⟨fun _ => trivial, fun _ => ?_⟩
      simp only [next]
      split
      · exact allLive_act_same hlive id fun call => call.live_beginSource ..
      · exact hlive
  | install id =>
      refine ⟨fun _ => trivial, fun _ => ?_⟩
      simp only [next]
      split
      next installing _ => exact allLive_act_same hlive id fun call => call.live_registerEnd _
      next => exact hlive
  | undergo id event =>
      simp only [next, Spared]
      rw [allLive_act hlive]
      refine forall_congr' fun hmapped =>
        forall_congr' fun call => forall_congr' fun hcall => ?_
      obtain ⟨chat, hcalls⟩ := hmapped
      rw [Call.live_undergo (hlive chat id hcalls call hcall)]
      simp
  | invoke chat op =>
      simp only [next, Spared]
      cases hcalls : facade.client.calls chat with
      | none => simpa using hlive
      | some id =>
          rw [allLive_operate formatSeconds hlive]
          simp only [Option.mem_def, Option.some.injEq, forall_eq']
          exact ⟨fun hkept hfree => hkept hfree ⟨chat, hcalls⟩, fun hkept hfree _ => hkept hfree⟩
  | stopRemoved id =>
      simp only [next, Spared]
      split
      next hstopping =>
        have hacted := allLive_perform formatSeconds hlive id .stop
        exact Iff.trans Iff.rfl (hacted.trans
          ⟨fun hkept _ _ => hkept, fun hkept => hkept hstopping.1 hstopping.2⟩)
      next hstopping =>
        exact ⟨fun _ hmem hfree => absurd ⟨hmem, hfree⟩ hstopping, fun _ => hlive⟩
  | stopVisited =>
      simp only [next, Spared]
      split
      next due id hat =>
        split
        next hfree =>
          have hacted := allLive_perform formatSeconds hlive id .stop
          refine Iff.trans ?_ (hacted.trans ?_)
          · exact Iff.rfl
          · rw [hat]
            constructor
            · rintro hkept _ _ ⟨⟩ _
              exact hkept
            · intro hkept
              exact hkept due id rfl hfree
        next hwaits =>
          refine ⟨fun _ => ?_, fun _ => hlive⟩
          rw [hat]
          rintro _ _ ⟨⟩ hfree
          exact absurd hfree hwaits
      next hat =>
        refine ⟨fun _ due id hvisited => absurd hvisited (hat due id), fun _ => hlive⟩
  | remove chat =>
      refine ⟨fun _ => trivial, fun _ other id hcalls => ?_⟩
      simp only [next] at hcalls
      by_cases hchat : other = chat
      · subst hchat
        simp at hcalls
      · rw [Function.update_of_ne hchat] at hcalls
        exact hlive other id hcalls
  | clear =>
      refine ⟨fun _ => trivial, fun _ => ?_⟩
      simp only [next]
      split
      · intro _ _ hcalls
        cases hcalls
      · exact hlive
  | close | visit chat =>
      refine ⟨fun _ => trivial, fun _ => ?_⟩
      simp only [next]
      split <;> exact hlive
  | onStreamEnd | onConnectionChange | create request =>
      exact ⟨fun _ => trivial, fun _ => hlive⟩

/-- In every run, a creation is refused by live calls only, at every moment, exactly
when no call dies in the map or enters it dead. -/
theorem always_refusedByLive_iff (connectTimeout : Duration) (actions : List Action) :
    Always (next formatSeconds) RefusedByLive (new connectTimeout) actions ↔
      Along (next formatSeconds) Spared (new connectTimeout) actions := by
  have hproperty (facade : Facade) (hnow : facade.Backed ∧ facade.AllLive) :
      facade.RefusedByLive :=
    (refusedByLive_iff hnow.1).mpr hnow.2
  have hkeep (facade : Facade) (action : Action) (hnow : facade.Backed ∧ facade.AllLive)
      (hspared : facade.Spared action) :
      (facade.next formatSeconds action).Backed ∧
        (facade.next formatSeconds action).AllLive :=
    ⟨backed_next formatSeconds facade action hnow.1,
      (allLive_next formatSeconds facade action hnow.1 hnow.2).mpr hspared⟩
  have hbreak (facade : Facade) (action : Action) (hnow : facade.Backed ∧ facade.AllLive)
      (hrefused : (facade.next formatSeconds action).RefusedByLive) :
      facade.Spared action := by
    have hbacked := backed_next formatSeconds facade action hnow.1
    have hlive := (refusedByLive_iff hbacked).mp hrefused
    exact (allLive_next formatSeconds facade action hnow.1 hnow.2).mp hlive
  have hstart : (new connectTimeout).AllLive := by
    intro _ _ hcalls
    cases hcalls
  exact always_iff_along hproperty hkeep hbreak ⟨backed_new connectTimeout, hstart⟩

/-- An RTMP call is closed by a seek below zero, then another creation is tried. -/
def soughtBelowZero : List Action :=
  [.create ⟨7, .rtmp "rtmp://t/live"⟩, .step 0 (.ok ""), .step 0 (.ok ""),
    .invoke 7 (.setSource ⟨none, none, none⟩ .connected 0 (.ok 1)),
    .enter 0 ⟨none, none, none⟩ .connected 0 (.ok 1), .invoke 7 (.seekBy 0 (-1)),
    .create ⟨7, .group⟩, .step 1 (.ok "")]

/-- The creation is refused, with no live call in the map. -/
theorem closed_call_blocks_chat :
    let facade := after (next fun _ => "") (new 0) soughtBelowZero
    (facade.objects 0).map Call.netState = some .closed ∧
      facade.client.calls 7 = some 0 ∧
      facade.client.creators 1 = .returned ⟨7, .group⟩ (.error .connectionExists) ∧
      ¬ Always (next fun _ => "") RefusedByLive (new 0) soughtBelowZero := by
  intro facade
  have hcalls : facade.client.calls 7 = some 0 := by decide +kernel
  have hdead : (facade.objects 0).map Call.live = some false := by decide +kernel
  refine ⟨by decide +kernel, hcalls, by decide +kernel, ?_⟩
  intro halways
  obtain ⟨id, call, hcalls', hcall, hlive⟩ := (halways.after ⟨7, .group⟩).mp (by decide +kernel)
  have hid := Option.some.inj (hcalls.symm.trans hcalls')
  subst hid
  rw [hcall, Option.map_some, hlive] at hdead
  cases hdead

end Facade

end RustTgCalls
