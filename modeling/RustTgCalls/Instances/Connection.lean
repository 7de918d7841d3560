import RustTgCalls.Wrtc.Closing

namespace RustTgCalls.Instances

open Wrtc Transition

/-! The two copies of the connection state a `GroupCall` keeps: its own
`net_state`, written by the callback of the stack and by `connect`, and
`Stack::state()`, written by the transport under them. -/

namespace Connection

inductive CallAt where
  | idle
  | testClosed (json : String)
  | storeCalled (json : String)
  | enter (json : String)
  | awaiting (id : Nat)
  | callback
  | storeConnected
  | returned (result : Except RustTgCallsError Unit)

inductive StopAt where
  | idle
  | spawn
  | returned
  deriving DecidableEq, Repr

/-- The task `stop` spawns: `Stack::close`, which closes the transport and then
calls back. -/
inductive CloseTask where
  | idle
  | enter
  | closing
  | callback
  | returned
  deriving DecidableEq, Repr

end Connection

/-- `calls` are the `connect` calls in their order; one that has reached the
transport awaits the `connect` it made there. -/
structure Connection where
  transport : Transport
  netState : ConnState
  closed : Bool
  connectCalled : Bool
  started : Nat
  calls : Nat → Connection.CallAt
  stopAt : Connection.StopAt
  closeTask : Connection.CloseTask

namespace Connection

def new : Connection where
  transport := .new
  netState := .connecting
  closed := false
  connectCalled := false
  started := 0
  calls := fun _ => .idle
  stopAt := .idle
  closeTask := .idle

def state (connection : Connection) : ConnState :=
  connection.transport.shared.state

inductive Action where
  | connect (json : String)
  | connectStep (call : Nat) (input : ConnectInput)
  | workerStep (id : Nat) (input : WorkerInput)
  | stop
  | stopStep
  | closeStep

def resume (id : Nat) : ConnectAt → CallAt
  | .returned (.ok ()) => .callback
  | .returned (.error error) => .returned (.error error)
  | _ => .awaiting id

variable (codec : Codec)

def callTurn (connection : Connection) (input : ConnectInput) :
    CallAt → CallAt
  | .idle => .idle
  | .testClosed json =>
      if connection.closed then .returned (.error .closed)
      else .storeCalled json
  | .storeCalled json => .enter json
  | .enter _ => .awaiting connection.transport.started
  | .awaiting id =>
      resume id (Transport.connectTurn codec connection.transport.shared id
        (connection.transport.connects id) input).stage
  | .callback => .storeConnected
  | .storeConnected => .returned (.ok ())
  | .returned result => .returned result

def closeTurn (connection : Connection) : CloseTask → CloseTask
  | .idle => .idle
  | .enter => .closing
  | .closing =>
      match (Transport.closeTurn connection.transport.shared
        connection.transport.closeAt).1 with
      | .returned => .callback
      | _ => .closing
  | .callback => .returned
  | .returned => .returned

/-- The step of the transport an action is. -/
def drives (connection : Connection) : Action → Option Transport.Action
  | .connectStep call input =>
      match connection.calls call with
      | .enter json => some (.connect json)
      | .awaiting id => some (.connectStep id input)
      | _ => none
  | .workerStep id input => some (.workerStep id input)
  | .closeStep =>
      match connection.closeTask with
      | .enter => some .close
      | .closing => some .closeStep
      | _ => none
  | .connect _ | .stop | .stopStep => none

/-- What an action stores in `net_state`. -/
def stores (connection : Connection) : Action → Option ConnState
  | .connectStep call _ =>
      match connection.calls call with
      | .callback | .storeConnected => some .connected
      | _ => none
  | .closeStep =>
      if connection.closeTask = .callback then some .closed else none
  | .connect _ | .workerStep _ _ | .stop | .stopStep => none

/-- The tasks of the call after an action. -/
def move (connection : Connection) : Action → Connection
  | .connect json =>
      { connection with
        started := connection.started + 1
        calls := Function.update connection.calls connection.started
          (.testClosed json) }
  | .connectStep call input =>
      let called := match connection.calls call with
        | .storeCalled _ => true
        | _ => connection.connectCalled
      { connection with
        connectCalled := called
        calls := Function.update connection.calls call
          (connection.callTurn codec input (connection.calls call)) }
  | .workerStep _ _ => connection
  | .stop =>
      if connection.closed then connection
      else { connection with closed := true, stopAt := .spawn }
  | .stopStep =>
      if connection.stopAt = .spawn then
        { connection with stopAt := .returned, closeTask := .enter }
      else connection
  | .closeStep =>
      { connection with
        closeTask := connection.closeTurn connection.closeTask }

def drive (transport : Transport) : Option Transport.Action → Transport
  | some action => transport.next codec action
  | none => transport

def next (connection : Connection) (action : Action) : Connection :=
  { connection.move codec action with
    transport := drive codec connection.transport (connection.drives action)
    netState := (connection.stores action).getD connection.netState }

def CallAt.resting : CallAt → Bool
  | .idle | .returned _ => true
  | _ => false

/-- No `connect`, `stop` or spawned close is under way. -/
structure Quiet (connection : Connection) : Prop where
  calls : ∀ call < connection.started, (connection.calls call).resting = true
  stop : connection.stopAt ≠ .spawn
  close : connection.closeTask = .idle ∨ connection.closeTask = .returned

/-- At rest, both copies of the state agree. -/
def Synchronous (connection : Connection) : Prop :=
  Quiet connection → connection.netState = connection.state

instance : DecidablePred Quiet := fun connection =>
  decidable_of_iff
    ((∀ call < connection.started, (connection.calls call).resting = true) ∧
      connection.stopAt ≠ .spawn ∧
      (connection.closeTask = .idle ∨ connection.closeTask = .returned))
    ⟨fun ⟨hcalls, hstop, hclose⟩ => ⟨hcalls, hstop, hclose⟩,
      fun ⟨hcalls, hstop, hclose⟩ => ⟨hcalls, hstop, hclose⟩⟩

instance : DecidablePred Synchronous := fun _ =>
  inferInstanceAs (Decidable (_ → _))

/-! What each `connect` still does to `net_state`. -/

/-- A wait that a stored `Connected` has answered. -/
def heard (shared : Shared) : ConnectAt → Bool
  | .waiting seen => decide (seen < shared.notified)
  | _ => false

/-- The `connect` has yet to store `Connected`, and will. -/
def answered (connection : Connection) (call : Nat) : Bool :=
  match connection.calls call with
  | .awaiting id =>
      heard connection.transport.shared (connection.transport.connects id)
  | .callback | .storeConnected => true
  | _ => false

def pending (connection : Connection) (call : Nat) : Bool :=
  match connection.calls call with
  | .testClosed _ | .storeCalled _ | .enter _ => true
  | .awaiting id =>
      !heard connection.transport.shared (connection.transport.connects id)
  | _ => false

/-- `net_state` is `Connected`, or comes to be by a `connect` that has its
answer. -/
def Bound (connection : Connection) : Prop :=
  connection.netState = .connected ∨
    ∃ call < connection.started, connection.answered call = true

def Aligned (connection : Connection) : Prop :=
  connection.state = .connected ↔ connection.Bound

/-- A step of the transport's `connect` that ends in an error. -/
def refuses (shared : Shared) (input : ConnectInput) : ConnectAt → Bool
  | .testClosed _ => shared.closed
  | .accept json =>
      match codec.acceptRemote json with
      | .error _ => true
      | .ok _ => false
  | .bind _ | .localAddr _ | .configure _ | .stunCheck _ =>
      match input with
      | .fails _ => true
      | _ => false
  | .waiting seen =>
      match input with
      | .expire => !decide (seen < shared.notified ∨ shared.state = .connected)
      | _ => false
  | _ => false

/-- The `connect` that fails in the transport with this action. -/
def failing (connection : Connection) : Action → Option Nat
  | .connectStep call input =>
      match connection.calls call with
      | .awaiting id =>
          if refuses codec connection.transport.shared input
              (connection.transport.connects id) then
            some call
          else none
      | _ => none
  | _ => none

/-- The action with which a worker stores `Connected`. -/
def completes (connection : Connection) : Action → Bool
  | .workerStep id _ =>
      match connection.transport.workers id with
      | some worker =>
          match worker.stage with
          | .storeConnected _ _ => true
          | _ => false
      | none => false
  | _ => false

def storesState : Write → Bool
  | .storeConnecting _ | .storeConnected _ => true
  | _ => false

/-- Before `stop`, a `connect` fails and a handshake completes only where the
copies are aligned by it or another `connect` is still to bring them together;
behind the stored `Closed`, nothing else is stored in either. -/
structure InStep (connection : Connection) (action : Action) : Prop where
  failing : connection.closed = false →
    ∀ call ∈ connection.failing codec action, connection.Aligned ∨
      ∃ other < connection.started, other ≠ call ∧
        connection.pending other = true
  completes : connection.closed = false →
    connection.completes action = true → connection.Bound ∨
      ∃ call < connection.started, connection.pending call = true
  state : ∀ taken ∈ connection.drives action,
    ∀ write ∈ connection.transport.writes codec taken,
      storesState write = true →
        connection.transport.closeAt.pastStore = false
  netState : connection.stores action = some .connected →
    connection.closeTask ≠ .returned

instance (connection : Connection) : Decidable connection.Bound :=
  inferInstanceAs (Decidable (_ ∨ _))

instance (connection : Connection) : Decidable connection.Aligned :=
  inferInstanceAs (Decidable (_ ↔ _))

instance (connection : Connection) : DecidablePred (InStep codec connection) :=
  fun action => decidable_of_iff
    ((connection.closed = false →
        ∀ call ∈ connection.failing codec action, connection.Aligned ∨
          ∃ other < connection.started, other ≠ call ∧
            connection.pending other = true) ∧
      (connection.closed = false →
        connection.completes action = true → connection.Bound ∨
          ∃ call < connection.started, connection.pending call = true) ∧
      (∀ taken ∈ connection.drives action,
        ∀ write ∈ connection.transport.writes codec taken,
          storesState write = true →
            connection.transport.closeAt.pastStore = false) ∧
      (connection.stores action = some .connected →
        connection.closeTask ≠ .returned))
    ⟨fun ⟨hfailing, hcompletes, hstate, hnet⟩ =>
        ⟨hfailing, hcompletes, hstate, hnet⟩,
      fun ⟨hfailing, hcompletes, hstate, hnet⟩ =>
        ⟨hfailing, hcompletes, hstate, hnet⟩⟩

/-! One step of the transport. -/

def inFlight : ConnectAt → Bool
  | .returned _ => false
  | _ => true

/-- What a step of a `connect` under way makes of it. -/
inductive Resumes (shared : Shared) (stage : ConnectAt) (refused : Bool)
    (turn : Transport.ConnectTurn) : Prop
  | answered (hstage : turn.stage = .returned (.ok ()))
      (hquiet : turn.write = none)
      (hheard : heard shared stage = true ∨ shared.state = .connected)
  | waits (hflight : inFlight turn.stage = true)
      (hheard : heard shared turn.stage = false)
  | fails (error : RustTgCallsError) (hrefused : refused = true)
      (hstage : turn.stage = .returned (.error error))
      (hquiet : turn.write = none) (hheard : heard shared stage = false)

theorem resumes_connectTurn (shared : Shared) (id : Nat) (stage : ConnectAt)
    (input : ConnectInput) (hflight : inFlight stage = true) :
    Resumes shared stage (refuses codec shared input stage)
      (Transport.connectTurn codec shared id stage input) := by
  cases stage with
  | idle => exact .waits rfl rfl
  | testClosed json =>
      cases hclosed : shared.closed with
      | true =>
          apply Resumes.fails (.internal "transport is closed") hclosed <;>
            simp [Transport.connectTurn, hclosed, Transport.ConnectTurn.fail,
              Transport.ConnectTurn.goto, heard]
      | false =>
          apply Resumes.waits <;>
            simp [Transport.connectTurn, hclosed, Transport.ConnectTurn.goto,
              inFlight, heard]
  | storeConnecting _ | storeSocket _ | storeRemote _ => exact .waits rfl rfl
  | accept json =>
      cases haccept : codec.acceptRemote json with
      | error error =>
          apply Resumes.fails error <;>
            simp [refuses, Transport.connectTurn, haccept,
              Transport.ConnectTurn.fail, Transport.ConnectTurn.goto, heard]
      | ok selected =>
          apply Resumes.waits <;>
            simp [Transport.connectTurn, haccept, Transport.ConnectTurn.goto,
              inFlight, heard]
  | bind _ | localAddr _ | configure _ | stunCheck _ =>
      cases input with
      | fails detail => exact .fails _ rfl rfl rfl rfl
      | proceed | expire => exact .waits rfl rfl
  | check =>
      by_cases hstate : shared.state = .connected
      · apply Resumes.answered <;>
          simp [Transport.connectTurn, hstate, Transport.ConnectTurn.goto]
      · apply Resumes.waits <;>
          simp [Transport.connectTurn, hstate, Transport.ConnectTurn.goto,
            inFlight, heard]
  | waiting seen =>
      by_cases hheard : seen < shared.notified ∨ shared.state = .connected
      · apply Resumes.answered
        · simp [Transport.connectTurn, hheard, Transport.ConnectTurn.goto]
        · simp [Transport.connectTurn, hheard, Transport.ConnectTurn.goto]
        · simpa [heard] using hheard
      · have hunheard : ¬ seen < shared.notified := fun h => hheard (.inl h)
        cases input with
        | proceed | fails _ =>
            apply Resumes.waits
            · simp [Transport.connectTurn, hheard, Transport.ConnectTurn.goto,
                inFlight]
            · simp only [Transport.connectTurn, hheard, if_false]
              simpa [Transport.ConnectTurn.goto, heard] using hunheard
        | expire =>
            apply Resumes.fails
            · simp [refuses, hheard]
            · simp only [Transport.connectTurn, hheard, if_false]
              rfl
            · simp [Transport.connectTurn, hheard, Transport.ConnectTurn.fail,
                Transport.ConnectTurn.goto]
            · simpa [heard] using hunheard
  | returned _ => simp [inFlight] at hflight

theorem shared_next (transport : Transport) (taken : Transport.Action) :
    ((transport.next codec taken).shared = transport.shared ∧
        transport.writes codec taken = none) ∨
      ∃ write, transport.writes codec taken = some write ∧
        (transport.next codec taken).shared = transport.shared.write write := by
  cases hwrite : transport.writes codec taken with
  | none =>
      rw [Transport.next_of_quiet codec hwrite]
      exact .inl ⟨Transport.shared_move codec transport taken, rfl⟩
  | some write =>
      rw [Transport.next_of_write codec hwrite]
      exact .inr ⟨write, rfl, rfl⟩

theorem notified_write (shared : Shared) (write : Write) :
    shared.notified ≤ (shared.write write).notified := by
  cases write <;> simp [Shared.write]

theorem heard_mono {shared later : Shared} {stage : ConnectAt}
    (hnotified : shared.notified ≤ later.notified)
    (hheard : heard shared stage = true) : heard later stage = true := by
  cases stage with
  | waiting seen =>
      simp only [heard, decide_eq_true_eq] at hheard ⊢
      omega
  | _ => simp [heard] at hheard

theorem heard_congr {shared later : Shared} (stage : ConnectAt)
    (hnotified : later.notified = shared.notified) :
    heard later stage = heard shared stage := by
  cases stage <;> simp [heard, hnotified]

/-! Which `connect` of the transport a call awaits. -/

structure Wired (connection : Connection) : Prop where
  numbered : ∀ call, connection.started ≤ call → connection.calls call = .idle
  owned : ∀ call id, connection.calls call = .awaiting id →
    id < connection.transport.started ∧
      inFlight (connection.transport.connects id) = true
  apart : ∀ call other id, connection.calls call = .awaiting id →
    connection.calls other = .awaiting id → call = other

theorem calls_next_cases (connection : Connection) (action : Action)
    (call : Nat) :
    ((connection.next codec action).calls call = connection.calls call ∧
        ∀ input, action ≠ .connectStep call input) ∨
      (∃ json, action = .connect json ∧ call = connection.started ∧
        (connection.next codec action).calls call = .testClosed json) ∨
      ∃ input, action = .connectStep call input ∧
        (connection.next codec action).calls call =
          connection.callTurn codec input (connection.calls call) := by
  cases action with
  | connect json =>
      by_cases hnew : call = connection.started
      · exact .inr (.inl ⟨json, rfl, hnew, by simp [next, move, hnew]⟩)
      · exact .inl ⟨by simp [next, move, hnew], by simp⟩
  | connectStep which input =>
      by_cases hwhich : call = which
      · subst hwhich
        exact .inr (.inr ⟨input, rfl, by simp [next, move]⟩)
      · refine .inl ⟨by simp [next, move, hwhich], ?_⟩
        rintro _ ⟨⟩
        exact hwhich rfl
  | stop | stopStep =>
      left
      simp only [next, move]
      split <;> exact ⟨rfl, by simp⟩
  | workerStep _ _ | closeStep => exact .inl ⟨rfl, by simp⟩

theorem started_next (connection : Connection) (action : Action) :
    connection.started ≤ (connection.next codec action).started := by
  cases action with
  | connect json => exact Nat.le_succ _
  | stop | stopStep =>
      simp only [next, move]
      split <;> exact Nat.le_refl _
  | connectStep _ _ | workerStep _ _ | closeStep => exact Nat.le_refl _

theorem started_drive (transport : Transport)
    (taken : Option Transport.Action) :
    transport.started ≤ (drive codec transport taken).started := by
  cases taken with
  | none => exact Nat.le_refl _
  | some action =>
      rw [drive, Transport.started_next]
      exact Transport.started_move codec transport action

/-- A `connect` of the transport moves with the call that awaits it. -/
theorem connects_next_other {connection : Connection} {action : Action} {id : Nat}
    (hid : id < connection.transport.started)
    (helse : ∀ call input, action = .connectStep call input →
      connection.calls call ≠ .awaiting id) :
    (connection.next codec action).transport.connects id =
      connection.transport.connects id := by
  change (drive codec connection.transport
    (connection.drives action)).connects id = _
  cases htaken : connection.drives action with
  | none => rfl
  | some taken =>
      rcases Transport.connects_next_cases codec connection.transport taken id with
        hsame | ⟨json, _, hnew, _⟩ | ⟨input, hstep, _⟩
      · exact hsame
      · exact absurd hnew (Nat.ne_of_lt hid)
      · subst hstep
        cases action with
        | connectStep call input =>
            simp only [drives] at htaken
            split at htaken <;> cases htaken
            next hat => exact absurd hat (helse call _ rfl)
        | closeStep =>
            simp only [drives] at htaken
            split at htaken <;> cases htaken
        | connect _ | workerStep _ _ | stop | stopStep => cases htaken

theorem resume_awaiting {id other : Nat} {stage : ConnectAt}
    (hresume : resume id stage = .awaiting other) :
    id = other ∧ inFlight stage = true := by
  cases stage with
  | returned result => cases result <;> cases hresume
  | _ => exact ⟨CallAt.awaiting.inj hresume, rfl⟩

theorem resume_inFlight {id : Nat} {stage : ConnectAt}
    (hflight : inFlight stage = true) : resume id stage = .awaiting id := by
  cases stage with
  | returned result => simp [inFlight] at hflight
  | _ => rfl

theorem connects_awaited {connection : Connection} {call id : Nat}
    (input : ConnectInput) (hat : connection.calls call = .awaiting id) :
    (connection.next codec (.connectStep call input)).transport.connects id =
      (Transport.connectTurn codec connection.transport.shared id
        (connection.transport.connects id) input).stage := by
  simp [next, drives, hat, drive, Transport.move]

theorem transport_enter {connection : Connection} {call : Nat} {json : String}
    (input : ConnectInput) (hat : connection.calls call = .enter json) :
    (connection.next codec (.connectStep call input)).transport =
      connection.transport.next codec (.connect json) := by
  simp [next, drives, hat, drive]

/-- Where a call that comes to await a `connect` came from. -/
theorem callTurn_awaiting {connection : Connection} {input : ConnectInput}
    {stage : CallAt} {id : Nat}
    (hturn : connection.callTurn codec input stage = .awaiting id) :
    ((∃ json, stage = .enter json) ∧ id = connection.transport.started) ∨
      stage = .awaiting id ∧
        inFlight (Transport.connectTurn codec connection.transport.shared id
          (connection.transport.connects id) input).stage = true := by
  cases stage with
  | enter json =>
      exact .inl ⟨⟨json, rfl⟩, (CallAt.awaiting.inj hturn).symm⟩
  | awaiting own =>
      obtain ⟨rfl, hflight⟩ := resume_awaiting hturn
      exact .inr ⟨rfl, hflight⟩
  | testClosed json =>
      simp only [callTurn] at hturn
      split at hturn <;> cases hturn
  | idle | storeCalled _ | callback | storeConnected | returned _ =>
      cases hturn

theorem wired_next (connection : Connection) (action : Action)
    (hwired : Wired connection) :
    Wired (connection.next codec action) := by
  obtain ⟨hnumbered, howned, hapart⟩ := hwired
  have hstarted (id : Nat) (hid : id < connection.transport.started) :
      id < (connection.next codec action).transport.started :=
    Nat.lt_of_lt_of_le hid (started_drive codec _ _)
  constructor
  · intro call hcall
    have hbefore : connection.started ≤ call :=
      Nat.le_trans (started_next codec connection action) hcall
    rcases calls_next_cases codec connection action call with
      ⟨hsame, _⟩ | ⟨json, rfl, rfl, _⟩ | ⟨input, _, hturn⟩
    · rw [hsame]
      exact hnumbered call hbefore
    · exact absurd hcall (Nat.not_succ_le_self _)
    · rw [hturn, hnumbered call hbefore]
      rfl
  · intro call id hat
    rcases calls_next_cases codec connection action call with
      ⟨hsame, hnot⟩ | ⟨json, _, _, htest⟩ | ⟨input, rfl, hturn⟩
    · rw [hsame] at hat
      obtain ⟨hid, hflight⟩ := howned call id hat
      refine ⟨hstarted id hid, ?_⟩
      rw [connects_next_other codec hid]
      · exact hflight
      · rintro other input rfl hother
        exact hnot input (by rw [hapart call other id hat hother])
    · rw [htest] at hat
      cases hat
    · rw [hturn] at hat
      rcases callTurn_awaiting codec hat with
        ⟨⟨json, henter⟩, rfl⟩ | ⟨hawait, hflight⟩
      · rw [transport_enter codec input henter]
        simp [Transport.move, inFlight]
      · exact ⟨hstarted id (howned call id hawait).1,
          by rwa [connects_awaited codec input hawait]⟩
  · have hold {call id : Nat}
        (hat : (connection.next codec action).calls call = .awaiting id) :
        connection.calls call = .awaiting id ∨
          id = connection.transport.started ∧
            ∃ input, action = .connectStep call input := by
      rcases calls_next_cases codec connection action call with
        ⟨hsame, _⟩ | ⟨json, _, _, htest⟩ | ⟨input, hstep, hturn⟩
      · exact .inl (hsame ▸ hat)
      · rw [htest] at hat
        cases hat
      · rw [hturn] at hat
        rcases callTurn_awaiting codec hat with ⟨_, hnew⟩ | ⟨hawait, _⟩
        · exact .inr ⟨hnew, input, hstep⟩
        · exact .inl hawait
    intro call other id hcall hother
    rcases hold hcall with hcall | ⟨hnew, input, hstep⟩ <;>
      rcases hold hother with hother | ⟨hnew', input', hstep'⟩
    · exact hapart call other id hcall hother
    · exact absurd hnew' (Nat.ne_of_lt (howned call id hcall).1)
    · exact absurd hnew (Nat.ne_of_lt (howned other id hother).1)
    · rw [hstep] at hstep'
      cases hstep'
      rfl

theorem notified_drive (connection : Connection) (action : Action) :
    connection.transport.shared.notified ≤
      (connection.next codec action).transport.shared.notified := by
  change _ ≤ (drive codec connection.transport
    (connection.drives action)).shared.notified
  cases connection.drives action with
  | none => exact Nat.le_refl _
  | some taken =>
      rcases shared_next codec connection.transport taken with
        ⟨hsame, _⟩ | ⟨write, _, hshared⟩
      · exact Nat.le_of_eq (congrArg Shared.notified hsame).symm
      · rw [drive, hshared]
        exact notified_write _ write

section Others

variable {connection : Connection} {action : Action} {call : Nat}

/-- A call that takes no step stands as it stood. -/
theorem standing_other (hwired : Wired connection)
    (hother : ∀ input, action ≠ .connectStep call input)
    (hcall : call < connection.started) :
    (connection.next codec action).calls call = connection.calls call ∧
      ∀ id, connection.calls call = .awaiting id →
        (connection.next codec action).transport.connects id =
          connection.transport.connects id := by
  constructor
  · rcases calls_next_cases codec connection action call with
      ⟨hsame, _⟩ | ⟨_, _, hnew, _⟩ | ⟨input, hstep, _⟩
    · exact hsame
    · exact absurd hnew (Nat.ne_of_lt hcall)
    · exact absurd hstep (hother input)
  · intro id hat
    refine connects_next_other codec (hwired.owned call id hat).1 ?_
    rintro which input rfl hwhich
    exact hother input (by rw [hwired.apart call which id hat hwhich])

theorem answered_other (hwired : Wired connection)
    (hother : ∀ input, action ≠ .connectStep call input)
    (hcall : call < connection.started)
    (hanswered : connection.answered call = true) :
    (connection.next codec action).answered call = true := by
  obtain ⟨hsame, hconnects⟩ := standing_other codec hwired hother hcall
  unfold answered at hanswered ⊢
  rw [hsame]
  cases hat : connection.calls call with
  | awaiting id =>
      simp only [hat] at hanswered ⊢
      rw [hconnects id hat]
      exact heard_mono (notified_drive codec connection action) hanswered
  | callback | storeConnected => rfl
  | _ => simp [hat] at hanswered

theorem pending_other (hwired : Wired connection)
    (hother : ∀ input, action ≠ .connectStep call input)
    (hcall : call < connection.started)
    (hpending : connection.pending call = true) :
    (connection.next codec action).pending call = true ∨
      (connection.next codec action).answered call = true := by
  obtain ⟨hsame, _⟩ := standing_other codec hwired hother hcall
  unfold pending at hpending
  unfold pending answered
  rw [hsame]
  cases hat : connection.calls call with
  | awaiting id =>
      cases hheard : heard (connection.next codec action).transport.shared
          ((connection.next codec action).transport.connects id) with
      | true => exact .inr hheard
      | false => exact .inl (by simp [hheard])
  | testClosed _ | storeCalled _ | enter _ => exact .inl rfl
  | _ => simp [hat] at hpending

theorem standing_quiet (hwired : Wired connection)
    (hother : ∀ input, action ≠ .connectStep call input)
    (hcall : call < connection.started)
    (hnotified : (connection.next codec action).transport.shared.notified =
      connection.transport.shared.notified) :
    (connection.next codec action).answered call = connection.answered call ∧
      (connection.next codec action).pending call = connection.pending call := by
  obtain ⟨hsame, hconnects⟩ := standing_other codec hwired hother hcall
  unfold answered pending
  rw [hsame]
  cases hat : connection.calls call with
  | awaiting id =>
      simp only [hconnects id hat, heard_congr _ hnotified, and_self]
  | _ => exact ⟨rfl, rfl⟩

end Others

/-! Before `stop`: unless a `connect` is pending, `net_state` is bound for what
the transport holds. -/

def Kept (connection : Connection) : Prop :=
  (∃ call < connection.started, connection.pending call = true) ∨
    connection.Aligned

theorem kept_connect (connection : Connection) (json : String) :
    Kept (connection.next codec (.connect json)) := by
  refine .inl ⟨connection.started, Nat.lt_succ_self _, ?_⟩
  simp [pending, next, move]

section Kept

variable {connection : Connection} {action : Action}

theorem bound_other (hwired : Wired connection)
    (hnet : (connection.next codec action).netState = connection.netState)
    (hother : ∀ call, connection.answered call = true → ∀ input,
      action ≠ .connectStep call input)
    (hbound : connection.Bound) : (connection.next codec action).Bound := by
  rcases hbound with hconnected | ⟨call, hcall, hanswered⟩
  · exact .inl (hnet.trans hconnected)
  · refine .inr ⟨call, Nat.lt_of_lt_of_le hcall (started_next codec _ _), ?_⟩
    exact answered_other codec hwired (hother call hanswered) hcall hanswered

/-- A step of no call, which leaves the transport's state and notifications
alone, keeps what was kept. -/
theorem kept_quiet (hwired : Wired connection)
    (hother : ∀ call input, action ≠ .connectStep call input)
    (hstarted : (connection.next codec action).started = connection.started)
    (hnet : (connection.next codec action).netState = connection.netState)
    (hstate : (connection.next codec action).state = connection.state)
    (hnotified : (connection.next codec action).transport.shared.notified =
      connection.transport.shared.notified)
    (hkept : Kept connection) : Kept (connection.next codec action) := by
  have hstanding (call : Nat) (hcall : call < connection.started) :=
    standing_quiet codec hwired (hother call) hcall hnotified
  rcases hkept with ⟨call, hcall, hpending⟩ | haligned
  · exact .inl ⟨call, hstarted ▸ hcall, by rw [(hstanding call hcall).2, hpending]⟩
  · refine .inr ?_
    unfold Aligned at haligned ⊢
    rw [hstate, haligned]
    constructor
    · exact bound_other codec hwired hnet fun call _ => hother call
    · rintro (hconnected | ⟨call, hcall, hanswered⟩)
      · exact .inl (hnet ▸ hconnected)
      · rw [hstarted] at hcall
        exact .inr ⟨call, hcall, by rw [← (hstanding call hcall).1, hanswered]⟩

end Kept

theorem kept_workerStep (connection : Connection) (id : Nat)
    (input : WorkerInput) (hwired : Wired connection) (hkept : Kept connection)
    (hcompletes : connection.completes (.workerStep id input) = true →
      connection.Bound ∨
        ∃ call < connection.started, connection.pending call = true) :
    Kept (connection.next codec (.workerStep id input)) := by
  have hother (call : Nat) (other : ConnectInput) :
      Action.workerStep id input ≠ .connectStep call other := by simp
  rcases shared_next codec connection.transport (.workerStep id input) with
    ⟨hsame, _⟩ | ⟨write, hwrite, hshared⟩
  · refine kept_quiet codec hwired hother rfl rfl ?_ ?_ hkept
    · exact congrArg Shared.state hsame
    · exact congrArg Shared.notified hsame
  · rcases Transport.writes_cases codec hwrite with
      ⟨_, _, hstep, _⟩ | ⟨which, given, worker, hstep, hworker, hturn⟩ |
        ⟨hstep, _⟩
    · cases hstep
    · cases hstep
      have hwrites := Transport.workerTurn_write hturn
      generalize (Transport.workerTurn _ _ _ _).1 = stage at hwrites
      cases hwrites with
      | storeConnected session batch hat =>
          have hstate : (connection.next codec (.workerStep id input)).state =
              .connected := congrArg Shared.state hshared
          have hcomplete :
              connection.completes (.workerStep id input) = true := by
            simp [completes, hworker, hat]
          rcases hcompletes hcomplete with hbound | ⟨call, hcall, hpending⟩
          · exact .inr (iff_of_true hstate
              (bound_other codec hwired rfl (fun call _ => hother call) hbound))
          · rcases pending_other codec hwired (hother call) hcall hpending with
              hpending | hanswered
            · exact .inl ⟨call, hcall, hpending⟩
            · exact .inr (iff_of_true hstate (.inr ⟨call, hcall, hanswered⟩))
      | lockSrtp | lockDecrypt | install | skip | unlock =>
          exact kept_quiet codec hwired hother rfl rfl
            ((congrArg Shared.state hshared).trans rfl)
            ((congrArg Shared.notified hshared).trans rfl) hkept
    · cases hstep

/-! A step of a call. -/

section Step

variable {connection : Connection} {call : Nat}

theorem calls_stepped (connection : Connection) (call : Nat)
    (input : ConnectInput) :
    (connection.next codec (.connectStep call input)).calls call =
      connection.callTurn codec input (connection.calls call) := by
  simp [next, move]

theorem other_connectStep {other : Nat} {input : ConnectInput}
    (hother : other ≠ call) (given : ConnectInput) :
    Action.connectStep call input ≠ .connectStep other given := by
  rintro ⟨⟩
  exact hother rfl

/-- A step of a call with its answer leaves `net_state` bound. -/
theorem kept_answered (input : ConnectInput) (hwired : Wired connection)
    (hquiet : (connection.next codec (.connectStep call input)).transport.shared =
      connection.transport.shared)
    (hunpending : connection.pending call = false)
    (hbefore : connection.Bound)
    (hbound : (connection.next codec (.connectStep call input)).Bound)
    (hkept : Kept connection) :
    Kept (connection.next codec (.connectStep call input)) := by
  rcases hkept with ⟨other, hother, hpending⟩ | haligned
  · have hne : other ≠ call := by
      rintro rfl
      simp [hpending] at hunpending
    refine .inl ⟨other, hother, ?_⟩
    rw [(standing_quiet codec hwired (other_connectStep hne) hother
      (congrArg Shared.notified hquiet)).2, hpending]
  · refine .inr (iff_of_true ?_ hbound)
    exact (congrArg Shared.state hquiet).trans (haligned.mpr hbefore)

theorem shared_stepped (input : ConnectInput) {id : Nat}
    (hat : connection.calls call = .awaiting id) :
    (connection.next codec (.connectStep call input)).transport.shared =
        connection.transport.shared ∨
      ∃ write, (Transport.connectTurn codec connection.transport.shared id
          (connection.transport.connects id) input).write = some write ∧
        (connection.next codec (.connectStep call input)).transport.shared =
          connection.transport.shared.write write := by
  have hdrive : (connection.next codec (.connectStep call input)).transport =
      connection.transport.next codec (.connectStep id input) := by
    simp [next, drives, hat, drive]
  rw [hdrive]
  exact (shared_next codec connection.transport (.connectStep id input)).imp_left
    And.left

/-- A call that fails at rest changes nothing for the others. -/
theorem aligned_failed (input : ConnectInput) (hwired : Wired connection)
    (hquiet : (connection.next codec (.connectStep call input)).transport.shared =
      connection.transport.shared)
    (hnet : (connection.next codec (.connectStep call input)).netState =
      connection.netState)
    (hbefore : connection.answered call = false)
    (hafter : (connection.next codec (.connectStep call input)).answered call =
      false)
    (haligned : connection.Aligned) :
    (connection.next codec (.connectStep call input)).Aligned := by
  have hstanding (other : Nat) (hother : other < connection.started) :
      (connection.next codec (.connectStep call input)).answered other =
        connection.answered other := by
    by_cases hne : other = call
    · rw [hne, hbefore, hafter]
    · exact (standing_quiet codec hwired (other_connectStep hne) hother
        (congrArg Shared.notified hquiet)).1
  have hstate : (connection.next codec (.connectStep call input)).state =
      connection.state := congrArg Shared.state hquiet
  unfold Aligned Bound at haligned ⊢
  rw [hstate, hnet, haligned]
  apply or_congr_right
  constructor
  · rintro ⟨other, hother, hanswered⟩
    exact ⟨other, hother, by rw [hstanding other hother, hanswered]⟩
  · rintro ⟨other, hother, hanswered⟩
    exact ⟨other, hother, by rw [← hstanding other hother, hanswered]⟩

theorem shared_quiet (input : ConnectInput) {id : Nat}
    (hat : connection.calls call = .awaiting id)
    (hquiet : (Transport.connectTurn codec connection.transport.shared id
      (connection.transport.connects id) input).write = none) :
    (connection.next codec (.connectStep call input)).transport.shared =
      connection.transport.shared := by
  obtain hsame | ⟨write, hwrite, _⟩ := shared_stepped codec input hat
  · exact hsame
  · rw [hquiet] at hwrite
    cases hwrite

theorem kept_awaiting (input : ConnectInput) {id : Nat}
    (hat : connection.calls call = .awaiting id)
    (hcall : call < connection.started) (hwired : Wired connection)
    (hfailing : ∀ failed ∈ connection.failing codec (.connectStep call input),
      connection.Aligned ∨ ∃ other < connection.started, other ≠ failed ∧
        connection.pending other = true)
    (hkept : Kept connection) :
    Kept (connection.next codec (.connectStep call input)) := by
  have hstage := calls_stepped codec connection call input
  have hconnects := connects_awaited codec input hat
  have hnet : (connection.next codec (.connectStep call input)).netState =
      connection.netState := by simp [next, stores, hat]
  rw [hat] at hstage
  simp only [callTurn] at hstage
  rcases resumes_connectTurn codec connection.transport.shared id
      (connection.transport.connects id) input (hwired.owned call id hat).2 with
    ⟨hok, hquiet, hheard⟩ | ⟨hflight, hunheard⟩ |
      ⟨error, hrefused, herror, hquiet, hunheard⟩
  · have hsame := shared_quiet codec input hat hquiet
    have hbound : (connection.next codec (.connectStep call input)).Bound :=
      .inr ⟨call, hcall, by simp [answered, hstage, hok, resume]⟩
    rcases hheard with hheard | hstate
    · refine kept_answered codec input hwired hsame ?_ ?_ hbound hkept
      · simp [pending, hat, hheard]
      · exact .inr ⟨call, hcall, by simp [answered, hat, hheard]⟩
    · exact .inr (iff_of_true ((congrArg Shared.state hsame).trans hstate) hbound)
  · have hnotified : (connection.next codec
        (.connectStep call input)).transport.shared.notified =
        connection.transport.shared.notified := by
      rcases shared_stepped codec input hat with hsame | ⟨write, hwrite, hshared⟩
      · rw [hsame]
      · rw [hshared]
        rcases Transport.connectTurn_write codec hwrite with
          ⟨_, _, rfl⟩ | ⟨_, _, rfl⟩ | ⟨_, _, rfl⟩ <;> rfl
    refine .inl ⟨call, hcall, ?_⟩
    rw [resume_inFlight hflight] at hstage
    simp [pending, hstage, hconnects, heard_congr _ hnotified, hunheard]
  · have hsame := shared_quiet codec input hat hquiet
    have hfailed : call ∈ connection.failing codec (.connectStep call input) := by
      simp [failing, hat, hrefused]
    rcases hfailing call hfailed with haligned | ⟨other, hother, hne, hpending⟩
    · refine .inr (aligned_failed codec input hwired hsame hnet ?_ ?_ haligned)
      · simp [answered, hat, hunheard]
      · simp [answered, hstage, herror, resume]
    · refine .inl ⟨other, hother, ?_⟩
      rw [(standing_quiet codec hwired (other_connectStep hne) hother
        (congrArg Shared.notified hsame)).2, hpending]

theorem kept_connectStep (connection : Connection) (call : Nat)
    (input : ConnectInput) (hwired : Wired connection)
    (hopen : connection.closed = false)
    (hfailing : ∀ failed ∈ connection.failing codec (.connectStep call input),
      connection.Aligned ∨ ∃ other < connection.started, other ≠ failed ∧
        connection.pending other = true)
    (hkept : Kept connection) :
    Kept (connection.next codec (.connectStep call input)) := by
  have hstage := calls_stepped codec connection call input
  have hcall (hbusy : connection.calls call ≠ .idle) :
      call < connection.started := by
    by_contra hlate
    exact hbusy (hwired.numbered call (Nat.le_of_not_lt hlate))
  cases hat : connection.calls call with
  | idle | returned _ =>
      have hsame : connection.next codec (.connectStep call input) =
          connection := by
        have hturn : connection.callTurn codec input (connection.calls call) =
            connection.calls call := by
          rw [hat]
          rfl
        simp only [next, move, drives, stores, hturn, Function.update_eq_self]
        simp [hat, drive]
      rwa [hsame]
  | testClosed json | storeCalled json =>
      refine .inl ⟨call, hcall (by simp [hat]), ?_⟩
      simp [pending, hstage, hat, callTurn, hopen]
  | enter json =>
      refine .inl ⟨call, hcall (by simp [hat]), ?_⟩
      rw [hat] at hstage
      simp only [callTurn] at hstage
      simp [pending, hstage, transport_enter codec input hat, Transport.move, heard]
  | awaiting id =>
      exact kept_awaiting codec input hat (hcall (by simp [hat])) hwired hfailing
        hkept
  | callback | storeConnected =>
      refine kept_answered codec input hwired ?_ ?_ ?_ (.inl ?_) hkept
      · simp [next, drives, hat, drive]
      · simp [pending, hat]
      · exact .inr ⟨call, hcall (by simp [hat]), by simp [answered, hat]⟩
      · simp [next, stores, hat]

end Step

/-! Behind the stored `Closed`. -/

structure Shut (transport : Transport) : Prop where
  opened : transport.closeAt = .idle ∨ transport.closeAt = .swapClosed →
    transport.shared.closed = false
  state : transport.closeAt.pastStore = true → transport.shared.state = .closed

def Live (state : ConnState) : Prop := state = .connecting ∨ state = .connected

theorem closed_foreign {shared : Shared} {write : Write}
    (hforeign : write.foreign = true) :
    (shared.write write).closed = shared.closed := by
  cases write <;> first | rfl | simp [Write.foreign] at hforeign

theorem state_foreign (shared : Shared) {write : Write}
    (hforeign : write.foreign = true) :
    (shared.write write).state = shared.state ∧ storesState write = false ∨
      Live (shared.write write).state ∧ storesState write = true := by
  cases write with
  | storeConnecting _ => exact .inr ⟨.inl rfl, rfl⟩
  | storeConnected _ => exact .inr ⟨.inr rfl, rfl⟩
  | storeSocket _ | storeRemote _ _ | lockSrtp | lockDecrypt | install _
  | skip _ | unlock => exact .inl ⟨rfl, rfl⟩
  | swapClosed | storeClosed | clearSrtp | clearDecrypt | clearSocket =>
      simp [Write.foreign] at hforeign

theorem shut_closeStep {transport : Transport} (hshut : Shut transport) :
    Shut (transport.next codec .closeStep) := by
  obtain ⟨hcloseAt, hshared⟩ := Transport.next_closeStep codec transport
  obtain ⟨hopened, hstate⟩ := hshut
  constructor
  · rw [hcloseAt, hshared]
    cases hat : transport.closeAt with
    | idle =>
        exact fun _ => hopened (.inl hat)
    | swapClosed =>
        simp [Transport.closeTurn, hopened (.inr hat)]
    | clearSrtp | clearDecrypt =>
        simp only [Transport.closeTurn]
        split <;> simp
    | storeClosed | clearSocket | returned => simp [Transport.closeTurn]
  · rw [hcloseAt, hshared]
    cases hat : transport.closeAt with
    | idle => simp [Transport.closeTurn, CloseAt.pastStore]
    | swapClosed =>
        simp [Transport.closeTurn, hopened (.inr hat), CloseAt.pastStore]
    | storeClosed => exact fun _ => rfl
    | clearSrtp | clearDecrypt =>
        have hclosed := hstate (by rw [hat]; rfl)
        intro _
        simp only [Transport.closed, Transport.closeTurn]
        split
        next hwrite =>
          split at hwrite <;> cases hwrite
          exact hclosed
        next => exact hclosed
    | clearSocket | returned => exact fun _ => hstate (by rw [hat]; rfl)

theorem shut_next {transport : Transport} {taken : Transport.Action}
    (hshut : Shut transport)
    (htimely : ∀ write ∈ transport.writes codec taken,
      storesState write = true → transport.closeAt.pastStore = false) :
    Shut (transport.next codec taken) := by
  by_cases hclose : taken = .closeStep
  · subst hclose
    exact shut_closeStep codec hshut
  · obtain ⟨hcloseAt, hshared⟩ :=
      Transport.next_elsewhere codec transport taken hclose
    have hkept : Shut { transport with
        shared := (transport.next codec taken).shared } := by
      obtain ⟨hopened, hstate⟩ := hshut
      rcases hshared with ⟨hsame, _⟩ | ⟨write, hwrite, hforeign, hshared⟩
      · exact ⟨hsame ▸ hopened, hsame ▸ hstate⟩
      · rw [hshared]
        refine ⟨(closed_foreign hforeign).symm ▸ hopened, ?_⟩
        intro hpast
        rcases state_foreign transport.shared hforeign with
          ⟨hsame, _⟩ | ⟨_, hstores⟩
        · exact hsame.trans (hstate hpast)
        · have hearly := htimely write hwrite hstores
          simp [hearly] at hpast
    rcases hcloseAt with hsame | ⟨hidle, hcalled⟩
    · exact ⟨hsame ▸ hkept.opened, hsame ▸ hkept.state⟩
    · refine ⟨fun _ => hkept.opened (.inl hidle), ?_⟩
      simp [hcalled, CloseAt.pastStore]

theorem live_next {transport : Transport} {taken : Transport.Action}
    (helsewhere : taken ≠ .closeStep) (hlive : Live transport.shared.state) :
    Live (transport.next codec taken).shared.state := by
  obtain ⟨_, ⟨hsame, _⟩ | ⟨write, _, hforeign, hshared⟩⟩ :=
    Transport.next_elsewhere codec transport taken helsewhere
  · rwa [hsame]
  · rw [hshared]
    rcases state_foreign transport.shared hforeign with
      ⟨hsame, _⟩ | ⟨hlive, _⟩
    · rwa [hsame]
    · exact hlive

/-- How far `stop`, the task it spawns and the transport's `close` have come. -/
def Staged (connection : Connection) : Prop :=
  match connection.stopAt, connection.closeTask with
  | .idle, .idle =>
      connection.closed = false ∧ connection.transport.closeAt = .idle
  | .spawn, .idle | .returned, .enter =>
      connection.closed = true ∧ connection.transport.closeAt = .idle
  | .returned, .closing => connection.closed = true
  | .returned, .callback | .returned, .returned =>
      connection.closed = true ∧ connection.transport.closeAt = .returned
  | _, _ => False

theorem closeAt_next {connection : Connection} {action : Action}
    (helsewhere : action ≠ .closeStep) :
    (connection.next codec action).transport.closeAt =
      connection.transport.closeAt := by
  change (drive codec connection.transport (connection.drives action)).closeAt = _
  cases htaken : connection.drives action with
  | none => rfl
  | some taken =>
      have hlocal : taken ≠ .closeStep ∧ taken ≠ .close := by
        cases action with
        | connectStep call input =>
            simp only [drives] at htaken
            split at htaken <;> cases htaken <;> simp
        | workerStep id input =>
            cases htaken
            simp
        | closeStep => exact absurd rfl helsewhere
        | connect _ | stop | stopStep => cases htaken
      have hcloseAt : (connection.transport.next codec taken).closeAt =
          (connection.transport.move codec taken).closeAt := by
        unfold Transport.next
        dsimp only
        split <;> rfl
      rw [drive, hcloseAt]
      rcases Transport.closeAt_move codec hlocal.1 with hsame | ⟨_, hclose, _⟩
      · exact hsame
      · exact absurd hclose hlocal.2

theorem staged_next (connection : Connection) (action : Action)
    (hstaged : Staged connection) : Staged (connection.next codec action) := by
  cases action with
  | connect _ | connectStep _ _ | workerStep _ _ =>
      unfold Staged at hstaged ⊢
      rw [closeAt_next codec (by simp)]
      exact hstaged
  | stop =>
      unfold Staged at hstaged ⊢
      rw [closeAt_next codec (by simp)]
      simp only [next, move]
      cases hclosed : connection.closed with
      | true => simpa [hclosed] using hstaged
      | false =>
          cases hstop : connection.stopAt <;>
            cases hclose : connection.closeTask <;>
            simp_all
  | stopStep =>
      unfold Staged at hstaged ⊢
      rw [closeAt_next codec (by simp)]
      simp only [next, move]
      by_cases hspawn : connection.stopAt = .spawn
      · cases hclose : connection.closeTask <;> simp_all
      · simpa [hspawn] using hstaged
  | closeStep =>
      unfold Staged at hstaged ⊢
      simp only [next, move, drives]
      cases hstop : connection.stopAt <;>
        cases hclose : connection.closeTask <;>
        simp only [hstop, hclose] at hstaged
      case idle.idle => exact hstaged
      case spawn.idle => exact hstaged
      case returned.enter => exact hstaged.1
      case returned.closing =>
        have hcloseAt := (Transport.next_closeStep codec connection.transport).1
        simp only [closeTurn, drive]
        cases hturn : (Transport.closeTurn connection.transport.shared
            connection.transport.closeAt).1 with
        | returned => exact ⟨hstaged, hcloseAt.trans hturn⟩
        | _ => exact hstaged
      case returned.callback => exact hstaged
      case returned.returned => exact hstaged

/-- What a run in step keeps. -/
structure Sound (connection : Connection) : Prop where
  wired : Wired connection
  staged : Staged connection
  shut : Shut connection.transport
  state : connection.closed = false → Live connection.state
  netState : connection.closed = false → Live connection.netState
  kept : connection.closed = false → Kept connection
  reported : connection.closeTask = .returned → connection.netState = .closed

theorem Staged.open {connection : Connection} (hstaged : Staged connection)
    (hopen : connection.closed = false) :
    connection.stopAt = .idle ∧ connection.closeTask = .idle := by
  unfold Staged at hstaged
  cases hstop : connection.stopAt <;> cases hclose : connection.closeTask <;>
    simp_all

theorem Staged.closed {connection : Connection} (hstaged : Staged connection)
    (hreturned : connection.closeTask = .returned) :
    connection.closed = true ∧ connection.transport.closeAt = .returned := by
  unfold Staged at hstaged
  cases hstop : connection.stopAt <;> simp_all

theorem closed_next {connection : Connection} {action : Action}
    (hopen : (connection.next codec action).closed = false) :
    connection.closed = false ∧ action ≠ .stop := by
  cases action with
  | stop =>
      simp only [next, move] at hopen
      split at hopen
      next hclosed => simp [hclosed] at hopen
      next => cases hopen
  | stopStep =>
      simp only [next, move] at hopen
      split at hopen <;> exact ⟨hopen, by simp⟩
  | connect _ | connectStep _ _ | workerStep _ _ | closeStep =>
      exact ⟨hopen, by simp⟩

/-- Before `stop`, only `connect` and the workers do anything. -/
theorem next_open {connection : Connection} {action : Action}
    (hsound : Sound connection)
    (hopen : (connection.next codec action).closed = false) :
    connection.next codec action = connection ∨
      (∃ json, action = .connect json) ∨
      (∃ call input, action = .connectStep call input) ∨
      ∃ id input, action = .workerStep id input := by
  obtain ⟨hbefore, hstop⟩ := closed_next codec hopen
  obtain ⟨hstopAt, hclose⟩ := hsound.staged.open hbefore
  cases action with
  | connect json => exact .inr (.inl ⟨json, rfl⟩)
  | connectStep call input => exact .inr (.inr (.inl ⟨call, input, rfl⟩))
  | workerStep id input => exact .inr (.inr (.inr ⟨id, input, rfl⟩))
  | stop => exact absurd rfl hstop
  | stopStep =>
      left
      cases connection
      simp_all [next, move, drives, stores, drive]
  | closeStep =>
      left
      cases connection
      simp_all [next, move, drives, stores, drive, closeTurn]

theorem drives_open {connection : Connection} {action : Action}
    {taken : Transport.Action} (hclose : connection.closeTask = .idle)
    (htaken : connection.drives action = some taken) : taken ≠ .closeStep := by
  cases action with
  | connectStep call input =>
      simp only [drives] at htaken
      split at htaken <;> cases htaken <;> simp
  | workerStep id input =>
      cases htaken
      simp
  | closeStep => simp [drives, hclose] at htaken
  | connect _ | stop | stopStep => cases htaken

/-- `Connected` is stored by the calls, and `Closed` once at the end of the
close task. -/
theorem stores_cases {connection : Connection} {action : Action}
    {stored : ConnState} (hstores : connection.stores action = some stored) :
    stored = .connected ∨
      stored = .closed ∧ action = .closeStep ∧
        connection.closeTask = .callback := by
  cases action with
  | connectStep call input =>
      simp only [stores] at hstores
      split at hstores <;> cases hstores <;> exact .inl rfl
  | closeStep =>
      simp only [stores] at hstores
      split at hstores <;> cases hstores
      next hcallback => exact .inr ⟨rfl, rfl, hcallback⟩
  | connect _ | workerStep _ _ | stop | stopStep => cases hstores

theorem netState_next (connection : Connection) (action : Action) :
    (connection.next codec action).netState =
      (connection.stores action).getD connection.netState := rfl

/-- The close task comes to its end with the store of `Closed`. -/
theorem closeTask_returned {connection : Connection} {action : Action}
    (hreturned : (connection.next codec action).closeTask = .returned) :
    connection.closeTask = .returned ∨
      connection.stores action = some .closed := by
  cases action with
  | closeStep =>
      simp only [next, move] at hreturned
      cases hat : connection.closeTask with
      | callback => exact .inr (by simp [stores, hat])
      | returned => exact .inl rfl
      | closing =>
          simp only [hat, closeTurn] at hreturned
          split at hreturned <;> cases hreturned
      | idle | enter => simp [hat, closeTurn] at hreturned
  | stop =>
      simp only [next, move] at hreturned
      split at hreturned <;> exact .inl hreturned
  | stopStep =>
      simp only [next, move] at hreturned
      split at hreturned
      · cases hreturned
      · exact .inl hreturned
  | connect _ | connectStep _ _ | workerStep _ _ => exact .inl hreturned

theorem sound_next (connection : Connection) (action : Action)
    (hsound : Sound connection) (hinStep : InStep codec connection action) :
    Sound (connection.next codec action) := by
  have hsound' := hsound
  obtain ⟨hwired, hstaged, hshut, hstate, hnetState, hkept, hreported⟩ := hsound
  constructor
  · exact wired_next codec connection action hwired
  · exact staged_next codec connection action hstaged
  · change Shut (drive codec connection.transport (connection.drives action))
    cases htaken : connection.drives action with
    | none => exact hshut
    | some taken => exact shut_next codec hshut (hinStep.state taken htaken)
  · intro hopen
    obtain ⟨hbefore, _⟩ := closed_next codec hopen
    have hclose := (hstaged.open hbefore).2
    change Live (drive codec connection.transport
      (connection.drives action)).shared.state
    cases htaken : connection.drives action with
    | none => exact hstate hbefore
    | some taken =>
        exact live_next codec (drives_open hclose htaken) (hstate hbefore)
  · intro hopen
    obtain ⟨hbefore, _⟩ := closed_next codec hopen
    rw [netState_next]
    cases hstores : connection.stores action with
    | none => exact hnetState hbefore
    | some stored =>
        rcases stores_cases hstores with rfl | ⟨_, _, hcallback⟩
        · exact .inr rfl
        · simp [(hstaged.open hbefore).2] at hcallback
  · intro hopen
    obtain ⟨hbefore, _⟩ := closed_next codec hopen
    rcases next_open codec hsound' hopen with
      hsame | ⟨json, rfl⟩ | ⟨call, input, rfl⟩ | ⟨id, input, rfl⟩
    · rw [hsame]
      exact hkept hbefore
    · exact kept_connect codec connection json
    · exact kept_connectStep codec connection call input hwired hbefore
        (hinStep.failing hbefore) (hkept hbefore)
    · exact kept_workerStep codec connection id input hwired (hkept hbefore)
        (hinStep.completes hbefore)
  · intro hreturned
    rw [netState_next]
    rcases closeTask_returned codec hreturned with hbefore | hcloses
    · cases hstores : connection.stores action with
      | none => exact hreported hbefore
      | some stored =>
          rcases stores_cases hstores with rfl | ⟨_, _, hcallback⟩
          · exact absurd hbefore (hinStep.netState hstores)
          · simp [hbefore] at hcallback
    · rw [hcloses]
      rfl

theorem sound_new : Sound new := by
  constructor
  · constructor <;> simp [new]
  · simp [Staged, new, Transport.new]
  · constructor <;> simp [new, Transport.new, CloseAt.pastStore]
  · exact fun _ => .inl rfl
  · exact fun _ => .inl rfl
  · refine fun _ => .inr ?_
    unfold Aligned Bound
    simp [state, new, Transport.new]
  · simp [new]

theorem synchronous_of_sound {connection : Connection}
    (hsound : Sound connection) : Synchronous connection := by
  intro hquiet
  cases hclosed : connection.closed with
  | true =>
      have hreturned : connection.closeTask = .returned := by
        have hstaged := hsound.staged
        unfold Staged at hstaged
        have hstop := hquiet.stop
        rcases hquiet.close with hidle | hreturned
        · cases hat : connection.stopAt <;> simp_all
        · exact hreturned
      have hstate := hsound.shut.state
        (by rw [(hsound.staged.closed hreturned).2]; rfl)
      rw [hsound.reported hreturned, state, hstate]
  | false =>
      have hidle (call : Nat) (hcall : call < connection.started) :
          connection.pending call = false ∧ connection.answered call = false := by
        have hcalls := hquiet.calls call hcall
        unfold pending answered
        cases hat : connection.calls call <;> simp_all [CallAt.resting]
      rcases hsound.kept hclosed with ⟨call, hcall, hpending⟩ | haligned
      · simp [(hidle call hcall).1] at hpending
      · have hbound : connection.Bound ↔ connection.netState = .connected := by
          constructor
          · rintro (hnet | ⟨call, hcall, hanswered⟩)
            · exact hnet
            · simp [(hidle call hcall).2] at hanswered
          · exact .inl
        rcases hsound.state hclosed with hstate | hstate <;>
          rcases hsound.netState hclosed with hnet | hnet
        · rw [hnet, hstate]
        · have hconnected := haligned.mpr (.inl hnet)
          simp [hstate] at hconnected
        · have hconnected := hbound.mp (haligned.mp hstate)
          simp [hnet] at hconnected
        · rw [hnet, hstate]

/-- In a run in step, the copies of the state agree whenever the call is at
rest. -/
theorem always_synchronous (actions : List Action)
    (hinStep : Along (next codec) (InStep codec) new actions) :
    Always (next codec) Synchronous new actions :=
  (hinStep.always (sound_next codec) sound_new).mono
    fun _ => synchronous_of_sound

def ring (call : Nat) (json : String) (steps : Nat) : List Action :=
  .connect json :: List.replicate steps (.connectStep call .proceed)

def handshake (id : Nat) : List Action :=
  [.workerStep id .proceed,
    .workerStep id (.datagram Transport.sampleAddr [22]
      ⟨.ok [.handshakeComplete], some [1]⟩)] ++
  List.replicate 7 (.workerStep id .proceed)

def hangUp : List Action := .stop :: .stopStep :: List.replicate 7 .closeStep

theorem synchronous_ring_hangUp :
    Always (next Transport.sampleCodec) Synchronous new
      (ring 0 "{}" 13 ++ handshake 0 ++
        List.replicate 3 (.connectStep 0 .proceed) ++ hangUp) :=
  always_synchronous Transport.sampleCodec _ (by decide +kernel)

def strictCodec : Codec where
  probe := fun _ => none
  decode := fun json =>
    if json = "{}" then Transport.sampleCodec.decode json
    else .error "expected value at line 1 column 1"
  parseIp := Transport.sampleCodec.parseIp

/-- A second `connect` that is refused for its JSON takes the transport back to
`Connecting`, and the call stays `Connected`. -/
theorem refused_connect_desynchronizes :
    ¬ Always (next strictCodec) Synchronous new
      (ring 0 "{}" 13 ++ handshake 0 ++
        List.replicate 3 (.connectStep 0 .proceed) ++ ring 1 "null" 6) := by
  intro halways
  have hlast := halways.after (by decide +kernel)
  exact absurd hlast (by decide +kernel)

end Connection

end RustTgCalls.Instances
