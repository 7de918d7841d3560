import RustTgCalls.Library.Transition
import RustTgCalls.Client

namespace RustTgCalls

open Transition

/-! The call map under any number of creations for one chat. -/

namespace CreateAt

def request : CreateAt → Option Request
  | .idle => none
  | .test request | .readCallback request | .construct request
  | .localParams request | .insert request _ | .returned request _ =>
      some request

def concerns (stage : CreateAt) (chat : Int) : Bool :=
  match stage.request with
  | some request => request.chatId = chat
  | none => false

/-- Between the test of the map and the insertion. -/
def pending : CreateAt → Bool
  | .readCallback _ | .construct _ | .localParams _ | .insert _ _ => true
  | _ => false

def inserting : CreateAt → Bool
  | .insert _ _ => true
  | _ => false

def testing : CreateAt → Bool
  | .test _ => true
  | _ => false

def settled : CreateAt → Bool
  | .returned _ _ => true
  | _ => false

def refused : CreateAt → Bool
  | .returned _ (.error .connectionExists) => true
  | _ => false

def granted : CreateAt → Bool
  | .returned _ (.ok _) => true
  | _ => false

def failed : CreateAt → Bool
  | .returned _ (.error .connectionExists) => false
  | .returned _ (.error _) => true
  | _ => false

theorem not_refused {stage : CreateAt}
    (hstage : stage.pending = true ∨ stage.granted = true ∨
      stage.failed = true) : stage.refused = false := by
  cases stage with
  | returned request result =>
      cases result with
      | ok json => rfl
      | error error => cases error <;> simp_all [pending, granted, failed, refused]
  | _ => rfl

theorem not_inserting {stage : CreateAt}
    (hstage : stage.testing = true ∨ stage.granted = true ∨
      stage.refused = true) : stage.inserting = false := by
  cases stage with
  | insert request json => simp [testing, granted, refused] at hstage
  | _ => rfl

theorem not_failed {stage : CreateAt} (hgranted : stage.granted = true) :
    stage.failed = false := by
  cases stage with
  | returned request result =>
      cases result with
      | ok json => rfl
      | error error => cases hgranted
  | _ => rfl

def failsOn (stage : CreateAt) (input : CreateInput) : Bool :=
  match stage, input with
  | .construct _, .ok _ | .localParams _, .ok _ => false
  | .construct _, _ | .localParams _, _ => true
  | _, _ => false

end CreateAt

namespace Client

/-- One creation for the chat was granted, its call is in the map, all others
were refused, and no call was displaced. -/
structure Deduped (chat : Int) (client : Client) : Prop where
  winner : ∃ id, (client.creators id).concerns chat = true ∧
    (client.creators id).granted = true ∧ client.calls chat = some id ∧
    ∀ other, other ≠ id → (client.creators other).concerns chat = true →
      (client.creators other).refused = true
  kept : client.overwritten chat = []

/-- A creation that finds no call for the chat does so with no other one under
way, and none fails. -/
def Serial (chat : Int) (client : Client) : Action → Prop
  | .create _ => True
  | .step id input =>
      (client.creators id).concerns chat = true →
        (client.creators id).failsOn input = false ∧
        ((client.creators id).testing = true → client.calls chat = none →
          ∀ other < client.started,
            (client.creators other).concerns chat = true →
              (client.creators other).pending = false)

instance (chat : Int) (client : Client) : DecidablePred (client.Serial chat)
  | .create _ => .isTrue trivial
  | .step _ _ => inferInstanceAs (Decidable (_ → _))

def Settled (chat : Int) (client : Client) : Prop :=
  ∀ id < client.started, (client.creators id).concerns chat = true →
    (client.creators id).settled = true

instance (chat : Int) (client : Client) : Decidable (client.Settled chat) :=
  inferInstanceAs (Decidable (∀ id < client.started, _))

def Called (chat : Int) (client : Client) : Prop :=
  ∃ id < client.started, (client.creators id).concerns chat = true

instance (chat : Int) (client : Client) : Decidable (client.Called chat) :=
  inferInstanceAs (Decidable (∃ id < client.started, _))

/-! One creation, by where it stands. -/

theorem concerns_createTurn (client : Client) (stage : CreateAt)
    (input : CreateInput) (chat : Int) :
    (client.createTurn stage input).concerns chat = stage.concerns chat := by
  cases stage with
  | test request =>
      simp only [createTurn, createTest]
      split
      · rfl
      · split <;> rfl
  | construct request | localParams request => cases input <;> rfl
  | idle | readCallback _ | insert _ _ | returned _ _ => rfl

theorem createTurn_test (client : Client) {stage : CreateAt} {chat : Int}
    (htesting : stage.testing = true) (hconcerns : stage.concerns chat = true)
    (input : CreateInput) :
    (client.calls chat = none ∧
        (client.createTurn stage input).pending = true) ∨
      (client.calls chat ≠ none ∧
        (client.createTurn stage input).refused = true) := by
  cases stage with
  | test request =>
      have hchat : request.chatId = chat := by
        simpa [CreateAt.concerns, CreateAt.request] using hconcerns
      subst hchat
      simp only [createTurn, createTest]
      cases hcalls : client.calls request.chatId with
      | none =>
          left
          cases hkind : request.kind <;> simp [CreateAt.pending]
      | some id => simp [CreateAt.refused]
  | _ => cases htesting

theorem createTurn_settled {client : Client} {stage : CreateAt}
    (hstage : stage.granted = true ∨ stage.failed = true ∨
      stage.refused = true) (input : CreateInput) :
    client.createTurn stage input = stage := by
  cases stage with
  | returned request result => rfl
  | _ => simp [CreateAt.granted, CreateAt.failed, CreateAt.refused] at hstage

theorem createTurn_pending {client : Client} {stage : CreateAt}
    (hpending : stage.pending = true) (input : CreateInput) :
    (client.createTurn stage input).pending = true ∨
      (client.createTurn stage input).failed = true ∧
        stage.failsOn input = true ∨
      ∃ request json, stage = .insert request json ∧
        client.createTurn stage input = .returned request (.ok json) := by
  cases stage with
  | readCallback request => exact .inl rfl
  | construct request =>
      cases input with
      | ok json => exact .inl rfl
      | fails detail | invalid detail => exact .inr (.inl ⟨rfl, rfl⟩)
  | localParams request =>
      cases input with
      | ok json => exact .inl rfl
      | fails detail | invalid detail => exact .inr (.inl ⟨rfl, rfl⟩)
  | insert request json => exact .inr (.inr ⟨request, json, rfl, rfl⟩)
  | idle | test _ | returned _ _ => cases hpending

theorem creators_step (client : Client) (id : Nat) (input : CreateInput) :
    (client.next (.step id input)).creators =
      Function.update client.creators id
        (client.createTurn (client.creators id) input) := by
  simp only [next]
  split <;> rfl

theorem creators_step_self (client : Client) (id : Nat) (input : CreateInput) :
    (client.next (.step id input)).creators id =
      client.createTurn (client.creators id) input := by
  simp [creators_step]

theorem started_step (client : Client) (id : Nat) (input : CreateInput) :
    (client.next (.step id input)).started = client.started := by
  simp only [next]
  split <;> rfl

theorem calls_next {client : Client} (action : Action) (chat : Int)
    (hother : ∀ id input, action = .step id input →
      (client.creators id).concerns chat = true →
      (client.creators id).inserting = false) :
    (client.next action).calls chat = client.calls chat ∧
      (client.next action).overwritten chat = client.overwritten chat := by
  cases action with
  | create request => exact ⟨rfl, rfl⟩
  | step id input =>
      simp only [next]
      split
      next request json hinsert =>
        have hne : chat ≠ request.chatId := by
          rintro rfl
          have hidle := hother id input rfl
            (by simp [hinsert, CreateAt.concerns, CreateAt.request])
          simp [hinsert, CreateAt.inserting] at hidle
        simp [hne]
      next => exact ⟨rfl, rfl⟩

def Numbered (client : Client) : Prop :=
  ∀ id, client.started ≤ id → client.creators id = .idle

theorem numbered_new : Numbered new := fun _ _ => rfl

theorem numbered_next (client : Client) (action : Action)
    (hnumbered : client.Numbered) : (client.next action).Numbered := by
  intro id hid
  cases action with
  | create request =>
      have hid : client.started + 1 ≤ id := hid
      have hne : id ≠ client.started := by omega
      simpa [next, hne] using hnumbered id (by omega)
  | step which input =>
      rw [started_step] at hid
      rw [creators_step]
      by_cases hwhich : id = which
      · subst hwhich
        simp [hnumbered id hid, createTurn]
      · simpa [hwhich] using hnumbered id hid

def Entered (chat : Int) (client : Client) (id : Nat) : Prop :=
  (client.creators id).concerns chat = true ∧
    ((client.creators id).pending = true ∨ (client.creators id).granted = true)

def Failed (chat : Int) (client : Client) (id : Nat) : Prop :=
  (client.creators id).concerns chat = true ∧
    (client.creators id).failed = true

def Damaged (chat : Int) (client : Client) : Prop :=
  (∃ first second, first ≠ second ∧ client.Entered chat first ∧
    client.Entered chat second) ∨ ∃ id, client.Failed chat id

variable {chat : Int} {client : Client}

theorem not_idle {id : Nat}
    (hconcerns : (client.creators id).concerns chat = true) :
    client.creators id ≠ .idle := by
  intro hidle
  simp [hidle, CreateAt.concerns, CreateAt.request] at hconcerns

theorem creators_next_of_called (hnumbered : client.Numbered) {id : Nat}
    (hcalled : client.creators id ≠ .idle) (action : Action) :
    (client.next action).creators id = client.creators id ∨
      ∃ input, action = .step id input ∧
        (client.next action).creators id =
          client.createTurn (client.creators id) input := by
  cases action with
  | create request =>
      left
      have hne : id ≠ client.started := by
        rintro rfl
        exact hcalled (hnumbered _ (Nat.le_refl _))
      simp [next, hne]
  | step which input =>
      rw [creators_step]
      by_cases hwhich : id = which
      · subst hwhich
        exact .inr ⟨input, rfl, by simp⟩
      · exact .inl (by simp [hwhich])

theorem Entered.next (hnumbered : client.Numbered) {id : Nat}
    (hentered : client.Entered chat id) (action : Action) :
    (client.next action).Entered chat id ∨
      (client.next action).Failed chat id := by
  obtain ⟨hconcerns, hstage⟩ := hentered
  rcases creators_next_of_called hnumbered (not_idle hconcerns) action with
    hsame | ⟨input, _, hturn⟩
  · exact .inl ⟨by rwa [hsame], by rwa [hsame]⟩
  · have hconcerns' :
        ((client.next action).creators id).concerns chat = true := by
      rw [hturn, concerns_createTurn, hconcerns]
    rcases hstage with hpending | hgranted
    · rcases createTurn_pending hpending input with
        hstill | ⟨hfailed, _⟩ | ⟨request, json, _, hreturned⟩
      · exact .inl ⟨hconcerns', .inl (by rwa [hturn])⟩
      · exact .inr ⟨hconcerns', by rwa [hturn]⟩
      · exact .inl ⟨hconcerns', .inr (by rw [hturn, hreturned]; rfl)⟩
    · refine .inl ⟨hconcerns', .inr ?_⟩
      rwa [hturn, createTurn_settled (.inl hgranted)]

theorem Failed.next (hnumbered : client.Numbered) {id : Nat}
    (hfailed : client.Failed chat id) (action : Action) :
    (client.next action).Failed chat id := by
  obtain ⟨hconcerns, hstage⟩ := hfailed
  have hsame : (client.next action).creators id = client.creators id := by
    rcases creators_next_of_called hnumbered (not_idle hconcerns) action with
      hsame | ⟨input, _, hturn⟩
    · exact hsame
    · rw [hturn, createTurn_settled (.inr (.inl hstage))]
  exact ⟨by rwa [hsame], by rwa [hsame]⟩

theorem Damaged.next (client : Client) (action : Action)
    (hnumbered : client.Numbered) (hdamaged : client.Damaged chat) :
    (client.next action).Damaged chat := by
  rcases hdamaged with ⟨first, second, hne, hfirst, hsecond⟩ | ⟨id, hfailed⟩
  · rcases hfirst.next hnumbered action with hfirst | hfailed
    · rcases hsecond.next hnumbered action with hsecond | hfailed
      · exact .inl ⟨first, second, hne, hfirst, hsecond⟩
      · exact .inr ⟨second, hfailed⟩
    · exact .inr ⟨first, hfailed⟩
  · exact .inr ⟨id, hfailed.next hnumbered action⟩

/-- A creation that fails, or passes the test beside another one under way, does
the damage. -/
theorem damaged_of_not_serial (client : Client) (action : Action)
    (_ : client.Numbered) (hserial : ¬ client.Serial chat action) :
    (client.next action).Damaged chat := by
  cases action with
  | create request => exact absurd trivial hserial
  | step id input =>
      have hturn := client.creators_step_self id input
      simp only [Serial, Classical.not_imp, not_and_or, not_forall] at hserial
      obtain ⟨hconcerns, hfails | ⟨htesting, hnone, other, _, hother, hbusy⟩⟩ :=
        hserial
      · right
        refine ⟨id, by rw [hturn, concerns_createTurn, hconcerns], ?_⟩
        rw [hturn]
        cases hat : client.creators id with
        | construct request | localParams request =>
            cases input <;> simp_all [CreateAt.failsOn, createTurn,
              CreateAt.failed]
        | _ => simp [hat, CreateAt.failsOn] at hfails
      · left
        have hbusy : (client.creators other).pending = true := by
          simpa using hbusy
        have hne : other ≠ id := by
          rintro rfl
          cases hat : client.creators other <;>
            simp [hat, CreateAt.testing, CreateAt.pending] at htesting hbusy
        refine ⟨other, id, hne, ⟨?_, .inl ?_⟩, ?_, .inl ?_⟩
        · simpa [creators_step, hne] using hother
        · simpa [creators_step, hne] using hbusy
        · rw [hturn, concerns_createTurn, hconcerns]
        · rw [hturn]
          rcases createTurn_test client htesting hconcerns input with
            ⟨_, hpending⟩ | ⟨hsome, _⟩
          · exact hpending
          · exact absurd hnone hsome

theorem Deduped.undamaged (hdeduped : client.Deduped chat) :
    ¬ client.Damaged chat := by
  obtain ⟨⟨id, _, hgranted, _, hothers⟩, _⟩ := hdeduped
  have hentered (other : Nat) (hentered : client.Entered chat other) :
      other = id := by
    by_contra hne
    have hrefused := hothers other hne hentered.1
    have hnot : (client.creators other).refused = false :=
      CreateAt.not_refused (hentered.2.imp_right .inl)
    simp [hnot] at hrefused
  rintro (⟨first, second, hne, hfirst, hsecond⟩ | ⟨other, hconcerns, hfailed⟩)
  · exact hne ((hentered first hfirst).trans (hentered second hsecond).symm)
  · by_cases hsame : other = id
    · subst hsame
      simp [CreateAt.not_failed hgranted] at hfailed
    · have hrefused := hothers other hsame hconcerns
      simp [CreateAt.not_refused (.inr (.inr hfailed))] at hrefused

/-! A conforming run lets one creation at a time past the test. -/

/-- What the creations for the chat do while none fails and none passes the
test beside another. -/
inductive Phase (chat : Int) (client : Client) : Prop where
  | vacant (free : client.calls chat = none)
      (others : ∀ other, (client.creators other).concerns chat = true →
        (client.creators other).testing = true)
  | entering (id : Nat) (free : client.calls chat = none)
      (concerns : (client.creators id).concerns chat = true)
      (pending : (client.creators id).pending = true)
      (others : ∀ other, other ≠ id →
        (client.creators other).concerns chat = true →
        (client.creators other).testing = true)
  | taken (id : Nat) (stored : client.calls chat = some id)
      (concerns : (client.creators id).concerns chat = true)
      (granted : (client.creators id).granted = true)
      (others : ∀ other, other ≠ id →
        (client.creators other).concerns chat = true →
        (client.creators other).testing = true ∨
          (client.creators other).refused = true)

structure OneAtATime (chat : Int) (client : Client) : Prop where
  numbered : client.Numbered
  kept : client.overwritten chat = []
  phase : client.Phase chat

theorem oneAtATime_new : new.OneAtATime chat where
  numbered := numbered_new
  kept := rfl
  phase := .vacant rfl fun _ hconcerns => by cases hconcerns

theorem creators_next (hnumbered : client.Numbered) (action : Action)
    (id : Nat) :
    (client.next action).creators id = client.creators id ∨
      (∃ request, client.creators id = .idle ∧
        (client.next action).creators id = .test request) ∨
      ∃ input, action = .step id input ∧
        (client.next action).creators id =
          client.createTurn (client.creators id) input := by
  by_cases hidle : client.creators id = .idle
  · cases action with
    | create request =>
        by_cases hid : id = client.started
        · subst hid
          exact .inr (.inl ⟨request, hidle, by simp [next]⟩)
        · exact .inl (by simp [next, hid])
    | step which input =>
        left
        rw [creators_step]
        by_cases hwhich : id = which
        · subst hwhich
          simp [hidle, createTurn]
        · simp [hwhich]
  · exact (creators_next_of_called hnumbered hidle action).imp_right .inr

/-- A condition on the creations for the chat, all but one perhaps, is kept when
new creations meet it and the turn taken, if it is one of theirs, keeps it. -/
theorem others_next (keeps : CreateAt → Prop) (among : Nat → Prop)
    (hnumbered : client.Numbered) (action : Action)
    (hfresh : ∀ request, keeps (.test request))
    (hturn : ∀ other input, action = .step other input → among other →
      (client.creators other).concerns chat = true →
      keeps (client.creators other) →
      keeps (client.createTurn (client.creators other) input))
    (hothers : ∀ other, among other →
      (client.creators other).concerns chat = true →
      keeps (client.creators other)) :
    ∀ other, among other →
      ((client.next action).creators other).concerns chat = true →
      keeps ((client.next action).creators other) := by
  intro other hamong hconcerns
  rcases creators_next hnumbered action other with
    hsame | ⟨request, _, hnew⟩ | ⟨input, haction, hmoved⟩
  · rw [hsame] at hconcerns ⊢
    exact hothers other hamong hconcerns
  · rw [hnew]
    exact hfresh request
  · rw [hmoved, concerns_createTurn] at hconcerns
    rw [hmoved]
    exact hturn other input haction hamong hconcerns
      (hothers other hamong hconcerns)

theorem creators_next_other (hnumbered : client.Numbered) {id : Nat}
    {action : Action} (hcalled : client.creators id ≠ .idle)
    (hother : ∀ input, action ≠ .step id input) :
    (client.next action).creators id = client.creators id := by
  rcases creators_next_of_called hnumbered hcalled action with
    hsame | ⟨input, haction, _⟩
  · exact hsame
  · exact absurd haction (hother input)

/-- The first creation past the test. -/
theorem Phase.next_vacant (hnumbered : client.Numbered)
    (hfree : client.calls chat = none)
    (hothers : ∀ other, (client.creators other).concerns chat = true →
      (client.creators other).testing = true) (action : Action) :
    (client.next action).Phase chat ∧
      (client.next action).overwritten chat = client.overwritten chat := by
  obtain ⟨hcalls, hkept⟩ := calls_next action chat fun id _ _ hconcerns =>
    CreateAt.not_inserting (.inl (hothers id hconcerns))
  rw [hfree] at hcalls
  refine ⟨?_, hkept⟩
  by_cases hturn : ∃ id input, action = .step id input ∧
      (client.creators id).concerns chat = true
  · obtain ⟨id, input, rfl, hconcerns⟩ := hturn
    have hmoved := client.creators_step_self id input
    refine .entering id hcalls ?_ ?_ ?_
    · rw [hmoved, concerns_createTurn, hconcerns]
    · rw [hmoved]
      rcases createTurn_test client (hothers id hconcerns) hconcerns input with
        ⟨_, hpending⟩ | ⟨hsome, _⟩
      · exact hpending
      · exact absurd hfree hsome
    · refine others_next (·.testing = true) (· ≠ id) hnumbered _ (fun _ => rfl)
        ?_ (fun other _ => hothers other)
      intro other _ haction hne _ _
      cases haction
      exact absurd rfl hne
  · refine .vacant hcalls fun other =>
      others_next (·.testing = true) (fun _ => True) hnumbered action
        (fun _ => rfl) ?_ (fun other _ => hothers other) other trivial
    intro other input haction _ hconcerns _
    exact absurd ⟨other, input, haction, hconcerns⟩ hturn

theorem started_of_called (hnumbered : client.Numbered) {id : Nat}
    (hcalled : client.creators id ≠ .idle) : id < client.started := by
  by_contra hlate
  exact hcalled (hnumbered id (by omega))

/-- Beside a creation under way, the others only wait for their test. -/
theorem waiting_next (hnumbered : client.Numbered) {id : Nat}
    (hfree : client.calls chat = none)
    (hconcerns : (client.creators id).concerns chat = true)
    (hpending : (client.creators id).pending = true)
    (hothers : ∀ other, other ≠ id →
      (client.creators other).concerns chat = true →
      (client.creators other).testing = true) {action : Action}
    (hserial : client.Serial chat action) :
    ∀ other, other ≠ id →
      ((client.next action).creators other).concerns chat = true →
      ((client.next action).creators other).testing = true := by
  refine others_next (·.testing = true) (· ≠ id) hnumbered action
    (fun _ => rfl) ?_ hothers
  rintro other input rfl hne hother htesting
  have hstarted := started_of_called hnumbered (not_idle hconcerns)
  have hbusy := (hserial hother).2 htesting hfree id hstarted hconcerns
  simp [hpending] at hbusy

/-- The turn of the creation under way brings it further, or into the map. -/
theorem Phase.next_own {id : Nat} {input : CreateInput}
    (hfree : client.calls chat = none)
    (hconcerns : (client.creators id).concerns chat = true)
    (hpending : (client.creators id).pending = true)
    (hwaiting : ∀ other, other ≠ id →
      ((client.next (.step id input)).creators other).concerns chat = true →
      ((client.next (.step id input)).creators other).testing = true)
    (hserial : client.Serial chat (.step id input)) :
    (client.next (.step id input)).Phase chat ∧
      (client.next (.step id input)).overwritten chat =
        client.overwritten chat := by
  have hmoved := client.creators_step_self id input
  have hconcerns' :
      ((client.next (.step id input)).creators id).concerns chat = true := by
    rw [hmoved, concerns_createTurn, hconcerns]
  rcases createTurn_pending hpending input with
    hstill | ⟨_, hfails⟩ | ⟨request, json, hinsert, hreturned⟩
  · obtain ⟨hcalls, hkept⟩ := calls_next (.step id input) chat (by
      rintro _ _ ⟨⟩ _
      cases hat : client.creators id with
      | insert request json => simp [hat, createTurn, CreateAt.pending] at hstill
      | _ => rfl)
    exact ⟨.entering id (hcalls.trans hfree) hconcerns' (by rwa [hmoved])
      hwaiting, hkept⟩
  · simp [(hserial hconcerns).1] at hfails
  · have hchat : request.chatId = chat := by
      simpa [hinsert, CreateAt.concerns, CreateAt.request] using hconcerns
    subst hchat
    refine ⟨.taken id (by simp [next, hinsert]) hconcerns' ?_ ?_, ?_⟩
    · rw [hmoved, hreturned]
      rfl
    · exact fun other hne hother => .inl (hwaiting other hne hother)
    · simp [next, hinsert, hfree]

/-- The creation under way goes on alone until it inserts its call. -/
theorem Phase.next_entering (hnumbered : client.Numbered) {id : Nat}
    (hfree : client.calls chat = none)
    (hconcerns : (client.creators id).concerns chat = true)
    (hpending : (client.creators id).pending = true)
    (hothers : ∀ other, other ≠ id →
      (client.creators other).concerns chat = true →
      (client.creators other).testing = true) {action : Action}
    (hserial : client.Serial chat action) :
    (client.next action).Phase chat ∧
      (client.next action).overwritten chat = client.overwritten chat := by
  have hwaiting :=
    waiting_next hnumbered hfree hconcerns hpending hothers hserial
  by_cases hturn : ∃ input, action = .step id input
  · obtain ⟨input, rfl⟩ := hturn
    exact Phase.next_own hfree hconcerns hpending hwaiting hserial
  · have hsame := creators_next_other hnumbered (not_idle hconcerns)
      fun input haction => hturn ⟨input, haction⟩
    obtain ⟨hcalls, hkept⟩ := calls_next action chat (by
      intro other input haction hother
      have hne : other ≠ id := by
        rintro rfl
        exact hturn ⟨input, haction⟩
      exact CreateAt.not_inserting (.inl (hothers other hne hother)))
    exact ⟨.entering id (hcalls.trans hfree) (by rwa [hsame]) (by rwa [hsame])
      hwaiting, hkept⟩

/-- Once the call is in the map every later test refuses. -/
theorem Phase.next_taken (hnumbered : client.Numbered) {id : Nat}
    (hstored : client.calls chat = some id)
    (hconcerns : (client.creators id).concerns chat = true)
    (hgranted : (client.creators id).granted = true)
    (hothers : ∀ other, other ≠ id →
      (client.creators other).concerns chat = true →
      (client.creators other).testing = true ∨
        (client.creators other).refused = true) (action : Action) :
    (client.next action).Phase chat ∧
      (client.next action).overwritten chat = client.overwritten chat := by
  have hsame : (client.next action).creators id = client.creators id := by
    rcases creators_next_of_called hnumbered (not_idle hconcerns) action with
      hsame | ⟨input, _, hturn⟩
    · exact hsame
    · rw [hturn, createTurn_settled (.inl hgranted)]
  obtain ⟨hcalls, hkept⟩ := calls_next action chat fun other _ _ hother => by
    by_cases hwhich : other = id
    · subst hwhich
      exact CreateAt.not_inserting (.inr (.inl hgranted))
    · exact CreateAt.not_inserting
        ((hothers other hwhich hother).imp_right .inr)
  refine ⟨.taken id (hcalls.trans hstored) (by rwa [hsame]) (by rwa [hsame]) ?_,
    hkept⟩
  refine others_next (fun stage => stage.testing = true ∨ stage.refused = true)
    (· ≠ id) hnumbered action (fun _ => .inl rfl) ?_ hothers
  intro other input _ _ hother hstage
  right
  rcases hstage with htesting | hrefused
  · rcases createTurn_test client htesting hother input with
      ⟨hnone, _⟩ | ⟨_, hrefused⟩
    · simp [hstored] at hnone
    · exact hrefused
  · rwa [createTurn_settled (.inr (.inr hrefused))]

theorem OneAtATime.next (client : Client) (action : Action)
    (hone : client.OneAtATime chat) (hserial : client.Serial chat action) :
    (client.next action).OneAtATime chat := by
  obtain ⟨hnumbered, hkept, hphase⟩ := hone
  have hnext : (client.next action).Phase chat ∧
      (client.next action).overwritten chat = client.overwritten chat := by
    cases hphase with
    | vacant hfree hothers => exact Phase.next_vacant hnumbered hfree hothers action
    | entering id hfree hconcerns hpending hothers =>
        exact Phase.next_entering hnumbered hfree hconcerns hpending hothers hserial
    | taken id hstored hconcerns hgranted hothers =>
        exact Phase.next_taken hnumbered hstored hconcerns hgranted hothers action
  exact ⟨numbered_next client action hnumbered, hnext.2.trans hkept, hnext.1⟩

theorem OneAtATime.deduped (hone : client.OneAtATime chat)
    (hsettled : client.Settled chat) (hcalled : client.Called chat) :
    client.Deduped chat := by
  obtain ⟨hnumbered, hkept, hphase⟩ := hone
  have htested (id : Nat) (hconcerns : (client.creators id).concerns chat = true) :
      (client.creators id).testing = false ∧
        (client.creators id).pending = false := by
    have hreturned := hsettled id
      (started_of_called hnumbered (not_idle hconcerns)) hconcerns
    cases hat : client.creators id with
    | returned request result => exact ⟨rfl, rfl⟩
    | _ => simp [hat, CreateAt.settled] at hreturned
  cases hphase with
  | vacant _ hothers =>
      obtain ⟨id, _, hconcerns⟩ := hcalled
      have htesting := hothers id hconcerns
      simp [(htested id hconcerns).1] at htesting
  | entering id _ hconcerns hpending _ =>
      simp [(htested id hconcerns).2] at hpending
  | taken id hstored hconcerns hgranted hothers =>
      refine ⟨⟨id, hconcerns, hgranted, hstored, ?_⟩, hkept⟩
      intro other hne hother
      have hstage := hothers other hne hother
      simpa [(htested other hother).1] using hstage

/-- Once all creations for a chat have returned, exactly one was granted, the
others were refused and no call was displaced, exactly when they passed the test
one at a time and none failed. -/
theorem deduped_iff_along_serial (chat : Int) (actions : List Action)
    (hsettled : (after next new actions).Settled chat)
    (hcalled : (after next new actions).Called chat) :
    (after next new actions).Deduped chat ↔
      Along next (Serial chat) new actions := by
  constructor
  · intro hdeduped
    exact along_of_undamaged_of numbered_next damaged_of_not_serial Damaged.next
      numbered_new hdeduped.undamaged
  · intro hserial
    exact (hserial.invariant OneAtATime.next oneAtATime_new).deduped
      hsettled hcalled

/-- The second creation tests when the call of the first is in the map. -/
theorem deduped_oneAfterTheOther :
    (after next new
      [.create ⟨7, .group⟩, .step 0 (.ok ""), .step 0 (.ok ""),
        .create ⟨7, .rtmp "rtmp://t/live"⟩, .step 0 (.ok ""),
        .step 0 (.ok "local"), .step 0 (.ok ""), .step 1 (.ok "")]).Deduped 7 :=
  (deduped_iff_along_serial 7 _ (by decide) (by decide)).mpr (by decide)

/-- An RTMP call is created while a group call awaits its certificate: both
creations are granted, and the group call displaces the RTMP call. -/
theorem create_displaces_call :
    let client := after next new
      [.create ⟨7, .group⟩, .step 0 (.ok ""), .step 0 (.ok ""),
        .create ⟨7, .rtmp "rtmp://t/live"⟩, .step 1 (.ok ""), .step 1 (.ok ""),
        .step 0 (.ok ""), .step 0 (.ok "local"), .step 0 (.ok "")]
    client.Settled 7 ∧ client.Called 7 ∧
      client.creators 0 = .returned ⟨7, .group⟩ (.ok (some "local")) ∧
      client.creators 1 = .returned ⟨7, .rtmp "rtmp://t/live"⟩ (.ok none) ∧
      client.overwritten 7 = [1] ∧ ¬ client.Deduped 7 := by
  refine ⟨by decide, by decide, by decide, by decide, by decide, ?_⟩
  intro hdeduped
  exact absurd hdeduped.kept (by decide)

end Client

end RustTgCalls
