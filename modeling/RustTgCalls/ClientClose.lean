import RustTgCalls.Reaping

namespace RustTgCalls

open Instances Media Transition

namespace ClientCloseAt

def finished : ClientCloseAt → Bool
  | .returned _ => true
  | _ => false

def visited : ClientCloseAt → Option Nat
  | .iterating _ visited => visited
  | _ => none

/-- `close` has not begun, or its iterator has still to yield the chat. -/
def awaits (chat : Int) : ClientCloseAt → Bool
  | .idle => true
  | .iterating due _ => decide (chat ∈ due)
  | .returned _ => false

end ClientCloseAt

namespace Facade

/-! What `Client::close` leaves behind. -/

variable (formatSeconds : Nat → String) {facade : Facade}

/-- The creation's call has been stopped, and nothing of a source is left in it. -/
def stopped (facade : Facade) (id : Nat) : Bool :=
  (facade.objects id).any fun call => call.closed && call.empty

/-- `close` or a `stop` has the call in hand, to stop it next. -/
def inHand (facade : Facade) (id : Nat) : Bool :=
  facade.closeAt.visited == some id || facade.stopping.contains id

/-- A method that has looked its call up answers before it waits for anything. -/
def answerOf (facade : Facade) (id : Nat) (call : Call) (op : Op) :
    Option (Except RustTgCallsError Unit) :=
  match op with
  | .setSource _ _ _ _ => if call.closed then some (.error .closed) else none
  | op => if facade.waits id op then none else some (call.perform formatSeconds op).2

/-- What an action answers at once; a creation is asked for only if it began behind
`close`. -/
def answer (facade : Facade) : Action → Option (Except RustTgCallsError Unit)
  | .invoke chat op =>
      match facade.client.calls chat with
      | some id => (facade.objects id).bind fun call =>
          facade.answerOf formatSeconds id call op
      | none => some (.error .connectionNotFound)
  | .step id input =>
      match facade.closeAt, facade.client.creators id,
          facade.client.createTurn (facade.client.creators id) input with
      | .returned _, .returned _ _, _ => none
      | .returned started, _, .returned _ result =>
          if started ≤ id then some (result.map fun _ => ()) else none
      | _, _, _ => none
  | .remove _ | .onStreamEnd | .onConnectionChange | .close => some (.ok ())
  | _ => none

/-- Behind `close` every method answers Closed. -/
def AnswersClosed (facade : Facade) (action : Action) : Prop :=
  facade.closeAt.finished = true →
    ∀ result ∈ facade.answer formatSeconds action, result = .error .closed

/-- Behind `close` no method answers. -/
def Silent (facade : Facade) (action : Action) : Prop :=
  facade.closeAt.finished = true → facade.answer formatSeconds action = none

/-- All that was in flight has returned. -/
structure Quiet (facade : Facade) : Prop where
  creations : ∀ id < facade.client.started, (facade.client.creators id).settled = true
  entering : facade.entering = []
  installing : ∀ id < facade.client.started, facade.installing id = none
  stopping : facade.stopping = []

structure Final (facade : Facade) : Prop where
  stopped : ∀ id, (facade.client.creators id).granted = true → facade.stopped id = true
  map : ∀ chat id, facade.client.calls chat = some id → facade.stopped id = true

def Finished (facade : Facade) : Prop :=
  facade.closeAt.finished = true → facade.Quiet → facade.Final

/-- A creation inserts its call before the iterator of `close` is past the chat, and
displaces none that nobody stops; a `set_source` that found its call open finds it so
still when it installs its source. -/
def orderly (facade : Facade) : Action → Bool
  | .step id _ =>
      match facade.client.creators id with
      | .insert request _ =>
          facade.closeAt.awaits request.chatId &&
            (facade.client.calls request.chatId).all fun displaced =>
              facade.stopped displaced || facade.inHand displaced
      | _ => true
  | .enter id streams _ _ _ =>
      !facade.entering.contains (id, streams) ||
        (facade.objects id).all fun call => !call.closed
  | _ => true

/-- Where a call is that has not been stopped. -/
def Safe (facade : Facade) (id : Nat) : Prop :=
  facade.stopped id = true ∨ facade.inHand id = true ∨
    ∃ chat, facade.client.calls chat = some id ∧ facade.closeAt.awaits chat = true

/-- What an orderly run keeps: a call that was granted is stopped, or about to be, or
in the map where `close` has still to come. -/
structure Kept (facade : Facade) : Prop where
  backed : facade.Backed
  keyed : ∀ chat id, facade.client.calls chat = some id →
    (facade.client.creators id).concerns chat = true
  object : ∀ id, (facade.client.creators id).granted = true → facade.objects id ≠ none
  emptied : ∀ id, ∀ call ∈ facade.objects id, call.closed = true → call.empty = true
  held : ∀ id, facade.installing id ≠ none →
    ∃ call : GroupCall, facade.objects id = some (.group call) ∧ call.closed = false
  safe : ∀ id, (facade.client.creators id).granted = true → facade.Safe id
  behind : facade.closeAt.finished = true → ∀ chat, facade.client.calls chat = none

theorem kept_new (connectTimeout : Duration) : (new connectTimeout).Kept where
  backed := backed_new connectTimeout
  keyed := fun _ _ hcalls => by cases hcalls
  object := fun _ hgranted => by cases hgranted
  emptied := fun _ _ hcall => by cases hcall
  held := fun _ hinstalling => absurd rfl hinstalling
  safe := fun _ hgranted => by cases hgranted
  behind := fun hreturned => by cases hreturned

/-! A change of one call. -/

/-- A change that closes a call empties it, opens none, and leaves group calls group
calls. -/
structure Steady (change : Call → Call) : Prop where
  emptied : ∀ call, (call.closed = true → call.empty = true) →
    (change call).closed = true → (change call).empty = true
  lasts : ∀ call, call.closed = true → (change call).closed = true

theorem steady_perform (op : Op) : Steady fun call => (call.perform formatSeconds op).1 where
  emptied := fun _ hempty => Call.empty_of_perform formatSeconds hempty op
  lasts := fun call hclosed => by rwa [Call.perform_of_closed formatSeconds hclosed]

theorem steady_undergo (event : Event) : Steady (·.undergo event) where
  emptied := fun call hempty hclosed => by
    rw [Call.closed_undergo] at hclosed
    rw [Call.empty_undergo]
    exact hempty hclosed
  lasts := fun call hclosed => by rwa [Call.closed_undergo]

theorem Kept.change (hkept : facade.Kept) {other : Facade} {id : Nat} {change : Call → Call}
    (hemptied : ∀ call ∈ facade.objects id, (call.closed = true → call.empty = true) →
      (change call).closed = true → (change call).empty = true)
    (hlasts : ∀ call ∈ facade.objects id, call.closed = true → (change call).closed = true)
    (hclient : other.client = facade.client)
    (hobjects : other.objects = (facade.act id change).objects)
    (hheld : ∀ which, other.installing which ≠ none →
      ∃ call : GroupCall, other.objects which = some (.group call) ∧ call.closed = false)
    (hcloseAt : ∀ chat, other.closeAt.awaits chat = facade.closeAt.awaits chat)
    (hfinished : other.closeAt.finished = facade.closeAt.finished)
    (hinHand : ∀ which, (facade.client.creators which).granted = true →
      facade.inHand which = true → other.stopped which = true ∨ other.inHand which = true) :
    other.Kept := by
  have hacted := backed_act hkept.backed id change
  rw [objects_act] at hobjects
  constructor
  · exact hacted.fewer (hclient ▸ hkept.backed.numbered) (by rw [hclient, client_act])
      (by rw [hobjects, objects_act]) fun which hmapped => by
        rw [Mapped, client_act, ← hclient]
        exact hmapped
  · rw [hclient]
    exact hkept.keyed
  · intro which hgranted
    rw [hclient] at hgranted
    have hobject := hkept.object which hgranted
    rw [hobjects]
    by_cases hwhich : which = id
    · subst hwhich
      simpa using hobject
    · rwa [Function.update_of_ne hwhich]
  · intro which call hcall
    rw [hobjects] at hcall
    by_cases hwhich : which = id
    · subst hwhich
      rw [Function.update_self] at hcall
      obtain ⟨before, hbefore, rfl⟩ := Option.map_eq_some_iff.mp hcall
      exact hemptied before hbefore (hkept.emptied which before hbefore)
    · rw [Function.update_of_ne hwhich] at hcall
      exact hkept.emptied which call hcall
  · exact hheld
  · intro which hgranted
    rw [hclient] at hgranted
    obtain hstopped | hhand | ⟨chat, hcalls, hawaits⟩ := hkept.safe which hgranted
    · left
      by_cases hwhich : which = id
      · subst hwhich
        obtain ⟨call, hcall, hboth⟩ := (Option.any_eq_true ..).mp hstopped
        rw [Bool.and_eq_true] at hboth
        have hclosed := hlasts call hcall hboth.1
        have hempty := hemptied call hcall (fun _ => hboth.2) hclosed
        rw [stopped, hobjects, Function.update_self, Option.mem_def.mp hcall]
        simp [hclosed, hempty]
      · rw [stopped, hobjects, Function.update_of_ne hwhich]
        exact hstopped
    · exact (hinHand which hgranted hhand).imp_right .inl
    · exact .inr (.inr ⟨chat, by rwa [hclient], by rwa [hcloseAt]⟩)
  · rw [hclient, hfinished]
    exact hkept.behind

/-- Nothing but the registrations and the place of `close` is new. -/
theorem Kept.same (hkept : facade.Kept) {other : Facade}
    (hclient : other.client = facade.client) (hobjects : other.objects = facade.objects)
    (hinstalling : other.installing = facade.installing)
    (hcloseAt : ∀ chat, other.closeAt.awaits chat = facade.closeAt.awaits chat)
    (hfinished : other.closeAt.finished = facade.closeAt.finished)
    (hinHand : ∀ id, facade.inHand id = true → other.inHand id = true) : other.Kept := by
  refine @Kept.change facade hkept other 0 id (fun _ _ hempty => hempty)
    (fun _ _ hclosed => hclosed) hclient ?_ ?_ hcloseAt hfinished
    fun which _ hhand => .inr (hinHand which hhand)
  · rw [hobjects, objects_act, Option.map_id, id, Function.update_eq_self]
  · rw [hinstalling, hobjects]
    exact hkept.held

@[simp] theorem inHand_act (id other : Nat) (change : Call → Call) :
    (facade.act id change).inHand other = facade.inHand other := by
  simp [inHand]

/-- The locks of an open group call are held still. -/
theorem Kept.held_act (hkept : facade.Kept) {id : Nat} {change : Call → Call}
    (hchange : facade.installing id ≠ none → ∀ call : GroupCall, call.closed = false →
      ∃ after : GroupCall, change (.group call) = .group after ∧ after.closed = false) :
    ∀ which, facade.installing which ≠ none →
      ∃ call : GroupCall, (facade.act id change).objects which = some (.group call) ∧
        call.closed = false := by
  intro which hinstalling
  obtain ⟨call, hcall, hopen⟩ := hkept.held which hinstalling
  rw [objects_act]
  by_cases hwhich : which = id
  · subst hwhich
    obtain ⟨after, hafter, hstill⟩ := hchange hinstalling call hopen
    exact ⟨after, by simp [hcall, hafter], hstill⟩
  · exact ⟨call, by rwa [Function.update_of_ne hwhich], hopen⟩

theorem kept_act (hkept : facade.Kept) (id : Nat) {change : Call → Call} (hsteady : Steady change)
    (hheld : facade.installing id ≠ none → ∀ call : GroupCall, call.closed = false →
      ∃ after : GroupCall, change (.group call) = .group after ∧ after.closed = false) :
    (facade.act id change).Kept :=
  hkept.change (fun call _ => hsteady.emptied call) (fun call _ => hsteady.lasts call)
    (client_act ..) rfl (by rw [installing_act]; exact hkept.held_act hheld)
    (fun _ => by rw [closeAt_act]) (by rw [closeAt_act])
    fun _ _ hhand => .inr (by rwa [inHand_act])

theorem perform_unlocked {call : GroupCall} (hopen : call.closed = false) {op : Op}
    (hop : op.locks = false) :
    ∃ after : GroupCall, (Call.perform formatSeconds (.group call) op).1 = .group after ∧
      after.closed = false := by
  have hnotStop : op ≠ .stop := by
    rintro rfl
    cases hop
  have hclosed := Call.closed_perform_group formatSeconds call hnotStop
  cases hafter : (Call.perform formatSeconds (.group call) op).1 with
  | group after =>
      rw [hafter] at hclosed
      exact ⟨after, rfl, hclosed.trans hopen⟩
  | rtmp after => cases op <;> cases hafter

theorem kept_operate (hkept : facade.Kept) (id : Nat) (op : Op) :
    (facade.operate formatSeconds id op).Kept := by
  obtain ⟨_, hsame⟩ | ⟨_, _, _, _, _, _, hbegun⟩ | ⟨hfree, hacted⟩ :=
    operate_cases formatSeconds facade id op
  · rwa [hsame]
  · rw [hbegun]
    exact hkept.same rfl rfl rfl (fun _ => rfl) rfl fun _ hhand => hhand
  · rw [hacted]
    refine kept_act hkept id (steady_perform formatSeconds op) fun hinstalling call hopen => ?_
    have hheld : (facade.installing id).isSome = true := Option.isSome_iff_ne_none.mpr hinstalling
    exact perform_unlocked formatSeconds hopen (by simpa [waits, hheld] using hfree)

theorem kept_undergo (hkept : facade.Kept) (id : Nat) (event : Event) :
    (facade.act id (·.undergo event)).Kept := by
  refine kept_act hkept id (steady_undergo event) fun _ call hopen => ?_
  cases event with
  | legEnded leg error => cases leg <;> exact ⟨_, rfl, hopen⟩
  | _ => exact ⟨_, rfl, hopen⟩

/-- A call that is found open is installed into. -/
theorem kept_enter (hkept : facade.Kept) (id : Nat) (streams : Streams) (awaited : ConnState)
    (now : Instant) (answer : Except String Nat)
    (horderly : facade.orderly (.enter id streams awaited now answer) = true) :
    (facade.next formatSeconds (.enter id streams awaited now answer)).Kept := by
  simp only [next]
  split
  next hentering =>
    have hopen (call : Call) (hcall : call ∈ facade.objects id) : call.closed = false := by
      simpa [orderly, hentering.1, Option.mem_def.mp hcall] using horderly
    refine hkept.change ?_ ?_ (client_act ..) rfl ?_ (fun _ => by rw [closeAt_act])
      (by rw [closeAt_act]) ?_
    · intro call hcall _ hclosed
      rw [Call.closed_beginSource, hopen call hcall] at hclosed
      cases hclosed
    · intro call hcall hclosed
      rw [hopen call hcall] at hclosed
      cases hclosed
    · intro which hinstalling
      dsimp only at hinstalling ⊢
      by_cases hwhich : which = id
      · subst hwhich
        rw [Function.update_self] at hinstalling
        obtain ⟨installing, hinstalling⟩ := Option.ne_none_iff_exists'.mp hinstalling
        obtain ⟨call, hcall, hbegun⟩ := Option.bind_eq_some_iff.mp hinstalling
        cases call with
        | rtmp call => cases hbegun
        | group call =>
            refine ⟨(call.beginSource streams awaited).1, ?_, ?_⟩
            · simp only [objects_act, Function.update_self, hcall]
              rfl
            · rw [(call.beginSource_keeps streams awaited).1]
              exact hopen _ hcall
      · rw [Function.update_of_ne hwhich] at hinstalling
        obtain ⟨call, hcall, hstill⟩ := hkept.held which hinstalling
        exact ⟨call, by simpa [objects_act, hwhich] using hcall, hstill⟩
    · intro which _ hhand
      right
      simpa [inHand] using hhand
  next => exact hkept

theorem kept_install (hkept : facade.Kept) (id : Nat) :
    (facade.next formatSeconds (.install id)).Kept := by
  simp only [next]
  split
  next installing hinstalling =>
    obtain ⟨held, hheld, hopen⟩ := hkept.held id (by simp [hinstalling])
    refine hkept.change ?_ ?_ (client_act ..) rfl ?_ (fun _ => by rw [closeAt_act])
      (by rw [closeAt_act]) ?_
    · intro call hcall _ hclosed
      obtain rfl := Option.some.inj (hheld.symm.trans hcall)
      rw [Call.closed_registerEnd, Call.closed, hopen] at hclosed
      cases hclosed
    · intro call _ hclosed
      rwa [Call.closed_registerEnd]
    · intro which hother
      dsimp only at hother ⊢
      by_cases hwhich : which = id
      · subst hwhich
        simp at hother
      · rw [Function.update_of_ne hwhich] at hother
        obtain ⟨call, hcall, hstill⟩ := hkept.held which hother
        exact ⟨call, by simpa [objects_act, hwhich] using hcall, hstill⟩
    · intro which _ hhand
      right
      simpa [inHand] using hhand
  next => exact hkept

/-- The call that was in hand is stopped. -/
theorem kept_stop (hkept : facade.Kept) {id : Nat} (hfree : facade.installing id = none)
    {other : Facade} (hclient : other.client = facade.client)
    (hobjects : other.objects =
      (facade.act id fun call => (call.perform formatSeconds .stop).1).objects)
    (hinstalling : other.installing = facade.installing)
    (hcloseAt : ∀ chat, other.closeAt.awaits chat = facade.closeAt.awaits chat)
    (hfinished : other.closeAt.finished = facade.closeAt.finished)
    (hinHand : ∀ which, which ≠ id → facade.inHand which = true →
      other.inHand which = true) : other.Kept := by
  have hsteady := steady_perform formatSeconds .stop
  refine hkept.change (fun call _ => hsteady.emptied call) (fun call _ => hsteady.lasts call)
    hclient hobjects ?_ hcloseAt hfinished fun which hgranted hhand => ?_
  · rw [hinstalling, hobjects]
    exact hkept.held_act fun hbusy => absurd hfree hbusy
  · by_cases hwhich : which = id
    · subst hwhich
      left
      obtain ⟨call, hcall⟩ := Option.ne_none_iff_exists'.mp (hkept.object which hgranted)
      have hempty := Call.empty_of_stop formatSeconds (hkept.emptied which call hcall)
      simp [stopped, hobjects, objects_act, hcall, Call.closed_of_stop, hempty]
    · exact .inr (hinHand which hwhich hhand)

theorem granted_createTurn {client : Client} {stage : CreateAt} {input : CreateInput}
    (hgranted : (client.createTurn stage input).granted = true) :
    stage.granted = true ∨ stage.inserting = true := by
  cases stage with
  | returned request result => exact .inl hgranted
  | insert request json => exact .inr rfl
  | test request =>
      simp only [Client.createTurn, Client.createTest] at hgranted
      split at hgranted
      · cases hgranted
      · split at hgranted <;> cases hgranted
  | construct request | localParams request => cases input <;> cases hgranted
  | idle | readCallback request => cases hgranted

theorem settled_of_granted {stage : CreateAt} (hgranted : stage.granted = true) :
    stage.settled = true := by
  cases stage with
  | returned request result => rfl
  | _ => cases hgranted

/-- A turn of a creation that does not insert leaves the map alone. -/
theorem calls_of_not_inserting {client : Client} {id : Nat} {input : CreateInput}
    (hinserting : (client.creators id).inserting = false) :
    (client.next (.step id input)).calls = client.calls := by
  simp only [Client.next]
  split
  next hinsert => simp [hinsert, CreateAt.inserting] at hinserting
  next => rfl

theorem calls_of_insert {client : Client} {id : Nat} {input : CreateInput}
    (hinsert : client.creators id = .insert request json) :
    (client.next (.step id input)).calls =
      Function.update client.calls request.chatId (some id) := by
  simp [Client.next, hinsert]

theorem objects_step_of_settled {id : Nat} {input : CreateInput} {other : Nat}
    (hsettled : (facade.client.creators other).settled = true ∨
      (facade.client.creators other).inserting = true) :
    (facade.next formatSeconds (.step id input)).objects other = facade.objects other := by
  simp only [next]
  by_cases hother : other = id
  · subst hother
    rw [Function.update_self]
    apply made_of_settled
    obtain hsettled | hinserting := hsettled
    · rwa [createTurn_of_settled hsettled]
    · exact settled_of_inserting hinserting
  · rw [Function.update_of_ne hother]

theorem concerns_step (id : Nat) (input : CreateInput) (other : Nat) (chat : Int) :
    ((facade.next formatSeconds (.step id input)).client.creators other).concerns chat =
      (facade.client.creators other).concerns chat := by
  simp only [next, facade.client.creators_step id input]
  by_cases hother : other = id
  · subst hother
    rw [Function.update_self, Client.concerns_createTurn]
  · rw [Function.update_of_ne hother]

theorem granted_step {id : Nat} {input : CreateInput} {other : Nat}
    (hgranted : ((facade.next formatSeconds (.step id input)).client.creators
      other).granted = true) :
    (facade.client.creators other).granted = true ∨
      other = id ∧ (facade.client.creators id).inserting = true := by
  simp only [next, facade.client.creators_step id input] at hgranted
  by_cases hother : other = id
  · subst hother
    rw [Function.update_self] at hgranted
    exact (granted_createTurn hgranted).imp_right fun hinserting => ⟨rfl, hinserting⟩
  · rw [Function.update_of_ne hother] at hgranted
    exact .inl hgranted

/-- A call is made once, open and with nothing in it. -/
theorem made_cases (hunmade : facade.Unmade) {id : Nat} {input : CreateInput} :
    let stage := facade.client.createTurn (facade.client.creators id) input
    facade.made id stage = facade.objects id ∨
      facade.objects id = none ∧ ∃ call, facade.made id stage = some call ∧
        call.closed = false := by
  intro stage
  cases hat : facade.client.creators id with
  | test request =>
      obtain ⟨chatId, kind⟩ := request
      have hnone := hunmade id (by rw [hat]; rfl)
      simp only [stage, hat, Client.createTurn, Client.createTest]
      split
      · exact .inl rfl
      · cases kind with
        | group => exact .inl rfl
        | rtmp url => exact .inr ⟨hnone, _, rfl, rfl⟩
  | construct request =>
      have hnone := hunmade id (by rw [hat]; rfl)
      simp only [stage, hat]
      cases input with
      | ok json => exact .inr ⟨hnone, _, rfl, rfl⟩
      | fails _ | invalid _ => exact .inl rfl
  | localParams request =>
      obtain ⟨chatId, kind⟩ := request
      simp only [stage, hat]
      cases input <;> cases kind <;> exact .inl rfl
  | idle | readCallback _ | insert _ _ | returned _ _ =>
      simp only [stage, hat, Client.createTurn]
      exact .inl rfl

theorem objects_step (id : Nat) (input : CreateInput) (other : Nat) :
    (facade.next formatSeconds (.step id input)).objects other =
      if other = id then
        facade.made id (facade.client.createTurn (facade.client.creators id) input)
      else facade.objects other := by
  simp only [next, Function.update_apply]

/-- A call that was safe stays so when another one is inserted. -/
theorem safe_step (hkept : facade.Kept) {id : Nat} {input : CreateInput}
    (horderly : facade.orderly (.step id input) = true) {other : Nat}
    (hgranted : (facade.client.creators other).granted = true) :
    (facade.next formatSeconds (.step id input)).Safe other := by
  have hstopped : (facade.next formatSeconds (.step id input)).stopped other =
      facade.stopped other := by
    simp only [stopped]
    rw [objects_step_of_settled formatSeconds (.inl (settled_of_granted hgranted))]
  rw [Safe, hstopped]
  obtain hsafe | hsafe | ⟨chat, hcalls, hawaits⟩ := hkept.safe other hgranted
  · exact .inl hsafe
  · exact .inr (.inl hsafe)
  · cases hat : facade.client.creators id with
    | insert request json =>
        have hinserted : (facade.next formatSeconds (.step id input)).client.calls =
            Function.update facade.client.calls request.chatId (some id) :=
          calls_of_insert hat
        by_cases hchat : chat = request.chatId
        · subst hchat
          simp only [orderly, hat, hcalls, Option.all_some, Bool.and_eq_true,
            Bool.or_eq_true] at horderly
          exact horderly.2.imp_right .inl
        · refine .inr (.inr ⟨chat, ?_, hawaits⟩)
          rwa [hinserted, Function.update_of_ne hchat]
    | _ =>
        have hsame : (facade.next formatSeconds (.step id input)).client.calls =
            facade.client.calls := calls_of_not_inserting (by rw [hat]; rfl)
        exact .inr (.inr ⟨chat, by rwa [hsame], hawaits⟩)

/-- The entry that a creation makes is one that `close` has still to come to. -/
theorem safe_insert {id : Nat} {input : CreateInput}
    (horderly : facade.orderly (.step id input) = true)
    (hinserting : (facade.client.creators id).inserting = true) :
    (facade.next formatSeconds (.step id input)).Safe id := by
  cases hat : facade.client.creators id with
  | insert request json =>
      simp only [orderly, hat, Bool.and_eq_true] at horderly
      refine .inr (.inr ⟨request.chatId, ?_, horderly.1⟩)
      simp [next, calls_of_insert hat]
  | _ => simp [hat, CreateAt.inserting] at hinserting

theorem keyed_step (hkept : facade.Kept) {id : Nat} {input : CreateInput} {chat : Int}
    {other : Nat}
    (hcalls : (facade.next formatSeconds (.step id input)).client.calls chat = some other) :
    ((facade.next formatSeconds (.step id input)).client.creators other).concerns chat =
      true := by
  rw [concerns_step]
  obtain hbefore | ⟨rfl, hinserting⟩ := calls_step hcalls
  · exact hkept.keyed chat other hbefore
  · cases hat : facade.client.creators other with
    | insert request json =>
        simp only [next, calls_of_insert hat] at hcalls
        by_cases hchat : chat = request.chatId
        · simp [CreateAt.concerns, CreateAt.request, hchat]
        · rw [Function.update_of_ne hchat] at hcalls
          rw [← hat]
          exact hkept.keyed chat other hcalls
    | _ => simp [hat, CreateAt.inserting] at hinserting

theorem kept_step (hkept : facade.Kept) (hunmade : facade.Unmade) (id : Nat)
    (input : CreateInput)
    (horderly : facade.orderly (.step id input) = true) :
    (facade.next formatSeconds (.step id input)).Kept := by
  constructor
  · exact backed_step formatSeconds hkept.backed id input
  · exact fun chat other => keyed_step formatSeconds hkept
  · intro other hgranted
    obtain hbefore | ⟨rfl, hinserting⟩ := granted_step formatSeconds hgranted
    · rw [objects_step_of_settled formatSeconds (.inl (settled_of_granted hbefore))]
      exact hkept.object other hbefore
    · rw [objects_step_of_settled formatSeconds (.inr hinserting)]
      exact hkept.backed.past other (constructed_of_inserting hinserting)
  · intro other call hcall
    rw [objects_step] at hcall
    split at hcall
    next hother =>
      subst hother
      obtain hsame | ⟨_, made, hmade, hopen⟩ := made_cases hunmade
      · rw [hsame] at hcall
        exact hkept.emptied other call hcall
      · obtain rfl := Option.some.inj (hmade.symm.trans hcall)
        rw [hopen]
        exact fun hclosed => by cases hclosed
    next => exact hkept.emptied other call hcall
  · intro other hinstalling
    obtain ⟨call, hcall, hopen⟩ := hkept.held other hinstalling
    refine ⟨call, ?_, hopen⟩
    rw [objects_step]
    split
    next hother =>
      subst hother
      obtain hsame | ⟨hnone, _⟩ := made_cases hunmade
      · rwa [hsame]
      · rw [hnone] at hcall
        cases hcall
    next => exact hcall
  · intro other hgranted
    obtain hbefore | ⟨rfl, hinserting⟩ := granted_step formatSeconds hgranted
    · exact safe_step formatSeconds hkept horderly hbefore
    · exact safe_insert formatSeconds horderly hinserting
  · intro hfinished chat
    have hempty := hkept.behind hfinished
    cases hat : facade.client.creators id with
    | insert request json =>
        have hfinished : facade.closeAt.finished = true := hfinished
        cases hcloseAt : facade.closeAt with
        | returned started => simp [orderly, hat, hcloseAt, ClientCloseAt.awaits] at horderly
        | idle | iterating due visited =>
            rw [hcloseAt] at hfinished
            cases hfinished
    | _ =>
        simp only [next]
        rw [calls_of_not_inserting (by rw [hat]; rfl)]
        exact hempty chat

theorem kept_create (hkept : facade.Kept) (request : Request) :
    (facade.next formatSeconds (.create request)).Kept := by
  have hfresh := hkept.backed.numbered facade.client.started (Nat.le_refl _)
  have hsame (id : Nat) (hcalled : facade.client.creators id ≠ .idle) :
      (facade.client.next (.create request)).creators id = facade.client.creators id := by
    have hne : id ≠ facade.client.started := by
      rintro rfl
      exact hcalled hfresh
    simp [Client.next, hne]
  have hwas (id : Nat)
      (hgranted : ((facade.client.next (.create request)).creators id).granted = true) :
      (facade.client.creators id).granted = true := by
    by_cases hid : id = facade.client.started
    · subst hid
      simp [Client.next, CreateAt.granted] at hgranted
    · simpa [Client.next, hid] using hgranted
  constructor
  · exact backed_create formatSeconds hkept.backed request
  · intro chat id hcalls
    have hconcerns := hkept.keyed chat id hcalls
    simp only [next]
    rwa [hsame id (Client.not_idle hconcerns)]
  · intro id hgranted
    exact hkept.object id (hwas id hgranted)
  · exact hkept.emptied
  · exact hkept.held
  · intro id hgranted
    exact hkept.safe id (hwas id hgranted)
  · exact hkept.behind

theorem kept_remove (hkept : facade.Kept) (chat : Int) :
    (facade.next formatSeconds (.remove chat)).Kept := by
  have hcalls (other : Int) (id : Nat)
      (hafter : (facade.next formatSeconds (.remove chat)).client.calls other = some id) :
      facade.client.calls other = some id := by
    simp only [next] at hafter
    by_cases hother : other = chat
    · subst hother
      simp at hafter
    · rwa [Function.update_of_ne hother] at hafter
  constructor
  · exact backed_next formatSeconds facade (.remove chat) hkept.backed
  · exact fun other id hafter => hkept.keyed other id (hcalls other id hafter)
  · exact hkept.object
  · exact hkept.emptied
  · exact hkept.held
  · intro id hgranted
    obtain hsafe | hsafe | ⟨other, hother, hawaits⟩ := hkept.safe id hgranted
    · exact .inl hsafe
    · right
      left
      simp only [next, inHand, Bool.or_eq_true, List.contains_eq_mem, List.mem_append,
        decide_eq_true_eq] at hsafe ⊢
      exact hsafe.imp_right .inl
    · right
      by_cases hchat : other = chat
      · subst hchat
        left
        simp [next, inHand, hother]
      · right
        refine ⟨other, ?_, hawaits⟩
        simpa [next, hchat] using hother
  · intro hfinished other
    have hempty := hkept.behind hfinished other
    by_cases hother : other = chat
    · subst hother
      simp [next]
    · simpa [next, hother] using hempty

/-! The iteration. -/

theorem mem_chats (hkept : facade.Kept) {chat : Int} {id : Nat}
    (hcalls : facade.client.calls chat = some id) : chat ∈ facade.chats := by
  have hconcerns := hkept.keyed chat id hcalls
  have hstarted := Client.started_of_called hkept.backed.numbered (Client.not_idle hconcerns)
  have hsettled := hkept.backed.settled id ⟨chat, hcalls⟩
  cases hat : facade.client.creators id with
  | returned request result =>
      obtain rfl : request.chatId = chat := by
        simpa [hat, CreateAt.concerns, CreateAt.request] using hconcerns
      simp only [chats, List.mem_filterMap, List.mem_range]
      exact ⟨id, hstarted, by simp [hat, hcalls]⟩
  | _ => simp [hat, CreateAt.settled] at hsettled

/-- A new place of `close`. -/
theorem Kept.moved (hkept : facade.Kept) {other : ClientCloseAt}
    (hfinished : other.finished = false)
    (hsafe : ∀ id, (facade.client.creators id).granted = true →
      ({ facade with closeAt := other } : Facade).Safe id) :
    ({ facade with closeAt := other } : Facade).Kept where
  backed := hkept.backed.fewer hkept.backed.numbered rfl rfl fun _ hmapped => hmapped
  keyed := hkept.keyed
  object := hkept.object
  emptied := hkept.emptied
  held := hkept.held
  safe := hsafe
  behind := fun hreturned => by
    rw [hfinished] at hreturned
    cases hreturned

/-- The iterator is given every chat in the map. -/
theorem kept_close (hkept : facade.Kept) : (facade.next formatSeconds .close).Kept := by
  simp only [next]
  split
  next hat =>
    refine hkept.moved rfl fun id hgranted => ?_
    obtain hsafe | hsafe | ⟨chat, hcalls, _⟩ := hkept.safe id hgranted
    · exact .inl hsafe
    · refine .inr (.inl ?_)
      simpa [inHand, hat, ClientCloseAt.visited] using hsafe
    · exact .inr (.inr ⟨chat, hcalls, decide_eq_true (mem_chats hkept hcalls)⟩)
  next => exact hkept

/-- The call of the chat it yields is in the hand of `close`. -/
theorem kept_visit (hkept : facade.Kept) (chat : Int) :
    (facade.next formatSeconds (.visit chat)).Kept := by
  simp only [next]
  split
  next due hat =>
    refine hkept.moved rfl fun id hgranted => ?_
    obtain hsafe | hsafe | ⟨other, hcalls, hawaits⟩ := hkept.safe id hgranted
    · exact .inl hsafe
    · refine .inr (.inl ?_)
      simp only [inHand, hat, ClientCloseAt.visited, Bool.or_eq_true] at hsafe ⊢
      obtain hnone | hstopping := hsafe
      · cases hnone
      · exact .inr hstopping
    · have hdue : other ∈ due := by simpa [hat, ClientCloseAt.awaits] using hawaits
      by_cases hother : other = chat
      · subst hother
        refine .inr (.inl ?_)
        simp [inHand, ClientCloseAt.visited, hcalls]
      · exact .inr (.inr ⟨other, hcalls, by simp [ClientCloseAt.awaits, hdue, hother]⟩)
  next => exact hkept

theorem kept_stopVisited (hkept : facade.Kept) :
    (facade.next formatSeconds .stopVisited).Kept := by
  simp only [next]
  split
  next due id hat =>
    split
    next hfree =>
      refine kept_stop formatSeconds hkept hfree (client_act facade id _) rfl
        (installing_act ..) ?_ ?_ ?_
      · intro chat
        simp [hat, ClientCloseAt.awaits]
      · simp [hat, ClientCloseAt.finished]
      · intro which hwhich hhand
        simp only [inHand, hat, ClientCloseAt.visited, Bool.or_eq_true, beq_iff_eq,
          Option.some.injEq, stopping_act] at hhand ⊢
        obtain hvisited | hstopping := hhand
        · exact absurd hvisited.symm hwhich
        · exact .inr hstopping
    next => exact hkept
  next => exact hkept

/-- Once the iterator has nothing left to yield, it has stopped all that the map
holds. -/
theorem kept_clear (hkept : facade.Kept) : (facade.next formatSeconds .clear).Kept := by
  have hbacked := backed_next formatSeconds facade .clear hkept.backed
  simp only [next] at hbacked ⊢
  split at hbacked
  next hat =>
    refine ⟨hbacked, ?_, hkept.object, hkept.emptied, hkept.held, ?_, ?_⟩
    · intro _ _ hcalls
      cases hcalls
    · intro id hgranted
      obtain hsafe | hsafe | ⟨chat, _, hawaits⟩ := hkept.safe id hgranted
      · exact .inl hsafe
      · refine .inr (.inl ?_)
        simpa [inHand, hat, ClientCloseAt.visited] using hsafe
      · simp [hat, ClientCloseAt.awaits] at hawaits
    · exact fun _ _ => rfl
  next => exact hkept

theorem kept_stopRemoved (hkept : facade.Kept) (id : Nat) :
    (facade.next formatSeconds (.stopRemoved id)).Kept := by
  simp only [next]
  split
  next hstopping =>
    refine kept_stop formatSeconds hkept hstopping.2 (client_act facade id _) rfl
      (installing_act ..) (fun _ => by rw [closeAt_act]) (by rw [closeAt_act]) ?_
    intro which hwhich hhand
    simp only [inHand, closeAt_act, Bool.or_eq_true, List.contains_eq_mem,
      decide_eq_true_eq] at hhand ⊢
    exact hhand.imp_right (List.mem_erase_of_ne hwhich).mpr
  next => exact hkept

theorem kept_next (facade : Facade) (action : Action) (hunmade : facade.Unmade)
    (hkept : facade.Kept) (horderly : facade.orderly action = true) :
    (facade.next formatSeconds action).Kept := by
  cases action with
  | step id input => exact kept_step formatSeconds hkept hunmade id input horderly
  | create request => exact kept_create formatSeconds hkept request
  | invoke chat op =>
      simp only [next]
      split
      · exact kept_operate formatSeconds hkept _ op
      · exact hkept
  | perform id op => exact kept_operate formatSeconds hkept id op
  | enter id streams awaited now answer =>
      exact kept_enter formatSeconds hkept id streams awaited now answer horderly
  | install id => exact kept_install formatSeconds hkept id
  | undergo id event => exact kept_undergo hkept id event
  | remove chat => exact kept_remove formatSeconds hkept chat
  | stopRemoved id => exact kept_stopRemoved formatSeconds hkept id
  | close => exact kept_close formatSeconds hkept
  | visit chat => exact kept_visit formatSeconds hkept chat
  | stopVisited => exact kept_stopVisited formatSeconds hkept
  | clear => exact kept_clear formatSeconds hkept
  | onStreamEnd | onConnectionChange =>
      exact hkept.same rfl rfl rfl (fun _ => rfl) rfl fun _ hhand => hhand

theorem finished_of_kept (hkept : facade.Kept) : facade.Finished := by
  intro hfinished hquiet
  constructor
  · intro id hgranted
    obtain hsafe | hsafe | ⟨chat, hcalls, _⟩ := hkept.safe id hgranted
    · exact hsafe
    · cases hat : facade.closeAt with
      | returned started => simp [inHand, hat, ClientCloseAt.visited, hquiet.stopping] at hsafe
      | idle | iterating due visited =>
          rw [hat] at hfinished
          cases hfinished
    · rw [hkept.behind hfinished chat] at hcalls
      cases hcalls
  · intro chat id hcalls
    rw [hkept.behind hfinished chat] at hcalls
    cases hcalls

/-! What methods answer behind `close`. -/

theorem createTurn_not_closed {client : Client} {stage : CreateAt} {input : CreateInput}
    {request : Request} {result : Except RustTgCallsError (Option String)}
    (hsettled : stage.settled = false)
    (hturn : client.createTurn stage input = .returned request result) :
    result ≠ .error .closed := by
  rintro rfl
  cases stage with
  | test asked =>
      simp only [Client.createTurn, Client.createTest] at hturn
      split at hturn
      · cases hturn
      · split at hturn <;> cases hturn
  | construct asked | localParams asked => cases input <;> cases hturn
  | insert asked json | idle | readCallback asked => cases hturn
  | returned asked answered => cases hsettled

/-- Behind an orderly `close` nothing answers Closed. -/
theorem answer_not_closed (hkept : facade.Kept) (hfinished : facade.closeAt.finished = true)
    (action : Action) :
    ∀ result ∈ facade.answer formatSeconds action, result ≠ .error .closed := by
  rintro result hresult rfl
  cases action with
  | invoke chat op =>
      rw [answer, hkept.behind hfinished chat] at hresult
      cases hresult
  | step id input =>
      simp only [answer] at hresult
      split at hresult
      · cases hresult
      next started request answered hcloseAt hturn hnew =>
        split at hresult
        next hlate =>
          have hsettled : (facade.client.creators id).settled = false := by
            cases hat : facade.client.creators id with
            | returned asked before => exact (hnew asked before hat).elim
            | _ => rfl
          have hnot := createTurn_not_closed hsettled hturn
          cases answered with
          | ok json => cases hresult
          | error error =>
              have hsame : (.error error : Except RustTgCallsError Unit) = .error .closed :=
                Option.some.inj hresult
              cases hsame
              exact hnot rfl
        next => cases hresult
      · cases hresult
  | _ => cases hresult

theorem answersClosed_iff_silent (hkept : facade.Kept) (action : Action) :
    facade.AnswersClosed formatSeconds action ↔ facade.Silent formatSeconds action := by
  constructor
  · intro hcloses hfinished
    have hnever := answer_not_closed formatSeconds hkept hfinished action
    rw [Option.eq_none_iff_forall_not_mem]
    exact fun result hresult => hnever result hresult (hcloses hfinished result hresult)
  · intro hsilent hfinished result hresult
    rw [hsilent hfinished] at hresult
    cases hresult

/-- In every orderly run everything is stopped, once `close` and all that was in
flight have returned, and the map holds no live call; and every method called behind
`close` answers Closed exactly if none answers. -/
theorem close_final {connectTimeout : Duration} {actions : List Action}
    (horderly : Along (next formatSeconds) (fun facade action => facade.orderly action = true)
      (new connectTimeout) actions) :
    Always (next formatSeconds) Finished (new connectTimeout) actions ∧
      (Along (next formatSeconds) (AnswersClosed formatSeconds) (new connectTimeout) actions ↔
        Along (next formatSeconds) (Silent formatSeconds) (new connectTimeout) actions) := by
  have hnew : (new connectTimeout).Unmade ∧ (new connectTimeout).Kept :=
    ⟨unmade_new connectTimeout, kept_new connectTimeout⟩
  have hnext (facade : Facade) (action : Action) (hnow : facade.Unmade ∧ facade.Kept)
      (horderly : facade.orderly action = true) :
      (facade.next formatSeconds action).Unmade ∧ (facade.next formatSeconds action).Kept :=
    ⟨unmade_next formatSeconds facade action hnow.2.backed.numbered hnow.1,
      kept_next formatSeconds facade action hnow.1 hnow.2 horderly⟩
  constructor
  · exact (horderly.always hnext hnew).mono fun _ hnow => finished_of_kept hnow.2
  · exact along_congr_of hnext
      (fun _ action hnow _ => answersClosed_iff_silent formatSeconds hnow.2 action) hnew horderly

/-- A group call and an RTMP call are closed while sources are set on them. -/
def closedInOrder : List Action :=
  [.create ⟨7, .group⟩, .step 0 (.ok ""), .step 0 (.ok ""), .step 0 (.ok ""),
    .step 0 (.ok "local"), .step 0 (.ok ""),
    .create ⟨8, .rtmp "rtmp://t/live"⟩, .step 1 (.ok ""), .step 1 (.ok ""),
    .invoke 7 (.setSource ⟨some [], none, none⟩ .connected 0 (.ok 1)),
    .close, .visit 7, .enter 0 ⟨some [], none, none⟩ .connected 0 (.ok 1),
    .perform 1 (.setSource ⟨none, none, none⟩ .connected 0 (.ok 1)), .stopVisited,
    .enter 1 ⟨none, none, none⟩ .connected 0 (.ok 1), .install 0, .stopVisited,
    .visit 8, .stopVisited, .clear]

theorem close_final_inOrder :
    Always (next fun _ => "") Finished (new 0) closedInOrder ∧
      (Along (next fun _ => "") (AnswersClosed fun _ => "") (new 0) closedInOrder ↔
        Along (next fun _ => "") (Silent fun _ => "") (new 0) closedInOrder) :=
  close_final _ (by decide +kernel)

/-- A group call is created while `close` runs, and inserted behind it. -/
def insertedLate : List Action :=
  [.create ⟨7, .group⟩, .step 0 (.ok ""), .step 0 (.ok ""), .close, .clear,
    .step 0 (.ok ""), .step 0 (.ok "local"), .step 0 (.ok "")]

/-- The call is live, in the map, and a method called behind `close` finds no call. -/
theorem close_misses_late_call :
    let facade := after (next fun _ => "") (new 0) insertedLate
    facade.closeAt = .returned 1 ∧ facade.Quiet ∧ facade.client.calls 7 = some 0 ∧
      facade.stopped 0 = false ∧
      facade.answer (fun _ => "") (.invoke 8 (.pause 0)) =
        some (.error .connectionNotFound) ∧
      ¬ Always (next fun _ => "") Finished (new 0) insertedLate ∧
      ¬ Along (next fun _ => "") (AnswersClosed fun _ => "") (new 0)
        (insertedLate ++ [.invoke 8 (.pause 0)]) := by
  intro facade
  have hreturned : facade.closeAt = .returned 1 := by decide +kernel
  have hcalls : facade.client.calls 7 = some 0 := by decide +kernel
  have hlive : facade.stopped 0 = false := by decide +kernel
  have hquiet : facade.Quiet :=
    ⟨by decide +kernel, by decide +kernel, by decide +kernel, by decide +kernel⟩
  have hanswer : facade.answer (fun _ => "") (.invoke 8 (.pause 0)) =
      some (.error .connectionNotFound) := by decide +kernel
  have hfinished : facade.closeAt.finished = true := by rw [hreturned]; rfl
  refine ⟨hreturned, hquiet, hcalls, hlive, hanswer, ?_, ?_⟩
  · intro halways
    have hstopped := (halways.after hfinished hquiet).map 7 0 hcalls
    rw [hlive] at hstopped
    cases hstopped
  · intro halong
    obtain ⟨_, hcloses, _⟩ := along_append.mp halong
    have hresult := hcloses hfinished _ hanswer
    cases hresult

end Facade

end RustTgCalls
