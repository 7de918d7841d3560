import RustTgCalls.Wrtc.Transport

namespace RustTgCalls.Wrtc

/-! Which `connect` a worker and its handshakes belong to. -/

namespace ConnectAt

def stored : ConnectAt → Bool
  | .storeRemote _ | .configure _ | .stunCheck _ => true
  | _ => false

def settled : ConnectAt → Bool
  | .check | .waiting _ | .returned _ => true
  | _ => false

end ConnectAt

def WorkerAt.session : WorkerAt → Option Session
  | .lockSrtp session _ | .lockDecrypt session _ | .install session _
  | .storeConnected session _ => some session
  | _ => none

namespace Transport

variable (codec : Codec)

theorem connectTurn_settled {shared : Shared} {id : Nat} {stage : ConnectAt}
    {input : ConnectInput} (hsettled : stage.settled = true) :
    (connectTurn codec shared id stage input).stage.settled = true := by
  cases stage with
  | check =>
      simp only [connectTurn]
      split <;> rfl
  | waiting seen =>
      simp only [connectTurn]
      split
      · rfl
      · split <;> rfl
  | returned result => rfl
  | _ => cases hsettled

theorem connectTurn_stored {shared : Shared} {id : Nat} {stage : ConnectAt}
    {input : ConnectInput}
    (hstored : (connectTurn codec shared id stage input).stage.stored = true) :
    stage.stored = true ∨
      (connectTurn codec shared id stage input).write =
        some (.storeSocket id) := by
  cases stage with
  | storeSocket selected => exact .inr rfl
  | storeRemote _ | configure _ | stunCheck _ => exact .inl rfl
  | idle | storeConnecting _ | returned _ => cases hstored
  | bind _ | localAddr _ => cases input <;> cases hstored
  | testClosed json | accept json | check =>
      simp only [connectTurn] at hstored
      split at hstored <;> cases hstored
  | waiting seen =>
      simp only [connectTurn] at hstored
      split at hstored
      · cases hstored
      · split at hstored <;> cases hstored

theorem settled_of_spawn {shared : Shared} {id : Nat} {stage : ConnectAt}
    {input : ConnectInput} {worker : Worker}
    (hspawn : (connectTurn codec shared id stage input).spawn = some worker) :
    (connectTurn codec shared id stage input).stage.settled = true := by
  obtain ⟨selected, rfl, rfl⟩ := connectTurn_spawn codec hspawn
  simp only [connectTurn]
  split <;> rfl

theorem workerTurn_session {shared : Shared} {id : Nat} {worker : Worker}
    {input : WorkerInput} {session : Session}
    (hsession : (workerTurn shared id worker input).1.session = some session) :
    worker.stage.session = some session ∨ session.connect = id := by
  unfold workerTurn at hsession
  cases hat : worker.stage with
  | loop =>
      simp only [hat] at hsession
      split at hsession <;> cases hsession
  | select =>
      cases input with
      | proceed | timer =>
          simp only [hat] at hsession
          cases hsession
      | datagram peerAddr data answer =>
          simp only [hat, receive] at hsession
          split at hsession
          · cases hsession
          · split at hsession
            · cases hsession
            · split at hsession
              · split at hsession <;> cases hsession
              · cases hsession
  | events batch =>
      simp only [hat] at hsession
      split at hsession
      · cases hsession
      · split at hsession <;> cases hsession
        exact .inr rfl
  | lockSrtp held batch | lockDecrypt held batch =>
      left
      simp only [hat] at hsession
      split at hsession <;> exact hsession
  | install held batch =>
      left
      simp only [hat] at hsession
      split at hsession
      · exact hsession
      · cases hsession
  | storeConnected _ _ | unlock _ | ended =>
      simp only [hat] at hsession
      cases hsession

/-- How far the tasks have come: a worker belongs to a `connect` that has stored
its socket, and has handshakes of its own endpoint only. -/
structure Spawned (transport : Transport) : Prop where
  fresh : ∀ id, transport.started ≤ id → transport.connects id = .idle
  storedBound : ∀ id, (transport.connects id).stored = true →
    id < transport.history.bound
  settled : ∀ id worker, transport.workers id = some worker →
    (transport.connects id).settled = true
  workerBound : ∀ id worker, transport.workers id = some worker →
    id < transport.history.bound
  session : ∀ id worker session, transport.workers id = some worker →
    worker.stage.session = some session → session.connect = id

theorem spawned_new : Spawned new := by
  constructor <;> simp [new, ConnectAt.stored]

theorem bound_record (history : History) (write : Write) :
    history.bound ≤ (history.record write).bound := by
  cases write with
  | storeSocket connect => exact Nat.le_max_left _ _
  | _ => exact Nat.le_refl _

theorem bound_next (transport : Transport) (action : Action) :
    transport.history.bound ≤
      (transport.next codec action).history.bound := by
  cases hwrite : transport.writes codec action with
  | none => simp [next_of_quiet codec hwrite]
  | some write =>
      simpa [next_of_write codec hwrite] using
        bound_record transport.history write

namespace Spawned

variable {transport : Transport} {codec}

theorem fresh_next (hspawned : transport.Spawned) (action : Action) {id : Nat}
    (hid : (transport.next codec action).started ≤ id) :
    (transport.next codec action).connects id = .idle := by
  have hold : transport.started ≤ id :=
    Nat.le_trans (by simpa using started_move codec transport action) hid
  have hidle := hspawned.fresh id hold
  rcases connects_next_cases codec transport action id with
    hsame | ⟨json, rfl, rfl, _⟩ | ⟨input, _, hturn⟩
  · rw [hsame, hidle]
  · have hbeyond : transport.started + 1 ≤ transport.started := hid
    omega
  · rw [hturn, hidle]
    rfl

theorem storedBound_next (hspawned : transport.Spawned) (action : Action)
    {id : Nat}
    (hstored : ((transport.next codec action).connects id).stored = true) :
    id < (transport.next codec action).history.bound := by
  have hbound := bound_next codec transport action
  rcases connects_next_cases codec transport action id with
    hsame | ⟨json, _, _, htest⟩ | ⟨input, rfl, hturn⟩
  · rw [hsame] at hstored
    exact Nat.lt_of_lt_of_le (hspawned.storedBound id hstored) hbound
  · rw [htest] at hstored
    cases hstored
  · rw [hturn] at hstored
    rcases connectTurn_stored codec hstored with hbefore | hwrite
    · exact Nat.lt_of_lt_of_le (hspawned.storedBound id hbefore) hbound
    · have hwrite : transport.writes codec (.connectStep id input) =
          some (.storeSocket id) := hwrite
      rw [next_of_write codec hwrite]
      exact Nat.lt_of_lt_of_le (Nat.lt_succ_self id) (Nat.le_max_right _ _)

theorem settled_kept (hspawned : transport.Spawned) (action : Action) {id : Nat}
    (hsettled : (transport.connects id).settled = true) :
    ((transport.next codec action).connects id).settled = true := by
  rcases connects_next_cases codec transport action id with
    hsame | ⟨_, _, rfl, _⟩ | ⟨input, _, hturn⟩
  · rwa [hsame]
  · simp [hspawned.fresh _ (Nat.le_refl _), ConnectAt.settled] at hsettled
  · rw [hturn]
    exact connectTurn_settled codec hsettled

theorem settled_next (hspawned : transport.Spawned) (action : Action) {id : Nat}
    {worker : Worker}
    (hworker : (transport.next codec action).workers id = some worker) :
    ((transport.next codec action).connects id).settled = true := by
  rcases workers_next_cases codec hworker with
    hsame | ⟨_, old, _, hold, _⟩ | ⟨input, rfl, hspawn⟩
  · exact hspawned.settled_kept action (hspawned.settled id worker hsame)
  · exact hspawned.settled_kept action (hspawned.settled id old hold)
  · have hstage := settled_of_spawn codec hspawn
    simpa [move] using hstage

theorem workerBound_next (hspawned : transport.Spawned) (action : Action)
    {id : Nat} {worker : Worker}
    (hworker : (transport.next codec action).workers id = some worker) :
    id < (transport.next codec action).history.bound := by
  refine Nat.lt_of_lt_of_le ?_ (bound_next codec transport action)
  rcases workers_next_cases codec hworker with
    hsame | ⟨_, old, _, hold, _⟩ | ⟨input, _, hspawn⟩
  · exact hspawned.workerBound id worker hsame
  · exact hspawned.workerBound id old hold
  · obtain ⟨selected, hat, _⟩ := connectTurn_spawn codec hspawn
    exact hspawned.storedBound id (by rw [hat]; rfl)

theorem session_next (hspawned : transport.Spawned) (action : Action) {id : Nat}
    {worker : Worker} {session : Session}
    (hworker : (transport.next codec action).workers id = some worker)
    (hsession : worker.stage.session = some session) :
    session.connect = id := by
  rcases workers_next_cases codec hworker with
    hsame | ⟨input, old, _, hold, rfl⟩ | ⟨_, _, hspawn⟩
  · exact hspawned.session id worker session hsame hsession
  · rcases workerTurn_session hsession with hbefore | hown
    · exact hspawned.session id old session hold hbefore
    · exact hown
  · obtain ⟨_, _, rfl⟩ := connectTurn_spawn codec hspawn
    cases hsession

end Spawned

theorem spawned_next (transport : Transport) (action : Action)
    (hspawned : transport.Spawned) :
    (transport.next codec action).Spawned where
  fresh _ := hspawned.fresh_next action
  storedBound _ := hspawned.storedBound_next action
  settled _ _ := hspawned.settled_next action
  workerBound _ _ := hspawned.workerBound_next action
  session _ _ _ := hspawned.session_next action

end Transport

end RustTgCalls.Wrtc
