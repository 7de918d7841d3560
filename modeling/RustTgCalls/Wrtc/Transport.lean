import RustTgCalls.Library.Transition
import RustTgCalls.Media.FrameReader
import RustTgCalls.Wrtc.Remote
import Mathlib.Logic.Function.Basic

namespace RustTgCalls.Wrtc

open Media

/-! `DirectTransport` with the tasks that share its fields: any number of
`connect` calls, the worker each of them spawns, media sends and a `close`.  A
step makes at most one access to a shared field. -/

/-- A DTLS handshake completed on the endpoint of one `connect`. -/
structure Session where
  connect : Nat
  json : String
  peerAddr : SocketAddr
  certificate : Bytes
  deriving DecidableEq, Repr

inductive Half where
  | server
  | client
  deriving DecidableEq, Repr

/-- Keys derived from a session: the server's half encrypts, the client's
decrypts. -/
structure SrtpContext where
  session : Session
  half : Half
  deriving DecidableEq, Repr

structure RemoteAddr where
  connect : Nat
  addr : SocketAddr
  deriving DecidableEq, Repr

/-- The fields behind the transport's handles; a socket is known by the
`connect` that bound it. -/
structure Shared where
  state : ConnState
  closed : Bool
  udpSocket : Option Nat
  remoteAddr : Option RemoteAddr
  srtpContext : Option SrtpContext
  decryptSrtpContext : Option SrtpContext
  srtpLocked : Bool
  decryptLocked : Bool
  notified : Nat
  deriving DecidableEq, Repr

/-- One access that changes a shared field. -/
inductive Write where
  | storeConnecting (connect : Nat)
  | storeSocket (connect : Nat)
  | storeRemote (connect : Nat) (addr : SocketAddr)
  | lockSrtp
  | lockDecrypt
  | install (session : Session)
  | storeConnected (session : Session)
  | skip (session : Session)
  | unlock
  | swapClosed
  | storeClosed
  | clearSrtp
  | clearDecrypt
  | clearSocket
  deriving DecidableEq, Repr

def Shared.write (shared : Shared) : Write → Shared
  | .storeConnecting _ => { shared with state := .connecting }
  | .storeSocket connect => { shared with udpSocket := some connect }
  | .storeRemote connect addr =>
      { shared with remoteAddr := some ⟨connect, addr⟩ }
  | .lockSrtp => { shared with srtpLocked := true }
  | .lockDecrypt => { shared with decryptLocked := true }
  -- under both locks
  | .install session =>
      { shared with
        srtpContext := some ⟨session, .server⟩
        decryptSrtpContext := some ⟨session, .client⟩ }
  | .storeConnected _ =>
      { shared with state := .connected, notified := shared.notified + 1 }
  | .skip _ => shared
  | .unlock => { shared with srtpLocked := false, decryptLocked := false }
  | .swapClosed => { shared with closed := true }
  | .storeClosed => { shared with state := .closed }
  | .clearSrtp => { shared with srtpContext := none }
  | .clearDecrypt => { shared with decryptSrtpContext := none }
  | .clearSocket => { shared with udpSocket := none }

def Write.foreign : Write → Bool
  | .swapClosed | .storeClosed | .clearSrtp | .clearDecrypt | .clearSocket =>
      false
  | _ => true

def Write.ofWorker : Write → Bool
  | .lockSrtp | .lockDecrypt | .install _ | .storeConnected _ | .skip _
  | .unlock => true
  | _ => false

/-- What the fields do not keep: the bound on the `connect` calls that stored
their socket, the first handshake completed on the endpoint of each, and the one
that stored `Connected` last. -/
structure History where
  bound : Nat
  completed : Nat → Option Session
  connectedBy : Option Session

def History.record (history : History) : Write → History
  | .storeSocket connect =>
      { history with bound := max history.bound (connect + 1) }
  | .storeConnected session =>
      { history with
        completed :=
          Function.update history.completed session.connect (some session)
        connectedBy := some session }
  | .skip session =>
      { history with
        completed := Function.update history.completed session.connect
          ((history.completed session.connect).or (some session)) }
  | _ => history

inductive ConnectAt where
  | idle
  | testClosed (json : String)
  | storeConnecting (json : String)
  | accept (json : String)
  | bind (selected : Selected)
  | localAddr (selected : Selected)
  | storeSocket (selected : Selected)
  | storeRemote (selected : Selected)
  | configure (selected : Selected)
  | stunCheck (selected : Selected)
  | check
  | waiting (seen : Nat)
  | returned (result : Except RustTgCallsError Unit)

/-- What a `connect` is scheduled with: its next step, a failure of the library
it calls there, or the end of its ten seconds. -/
inductive ConnectInput where
  | proceed
  | fails (detail : String)
  | expire

inductive EndpointEvent where
  | handshakeComplete
  | other
  deriving DecidableEq, Repr

/-- The endpoint's answer to a datagram: the events it reports, and the peer's
certificate once it holds a connection with that peer whose keys can be
derived. -/
structure DtlsAnswer where
  events : Except String (List EndpointEvent)
  certificate : Option Bytes

structure Batch where
  peerAddr : SocketAddr
  left : List EndpointEvent
  certificate : Option Bytes
  deriving DecidableEq, Repr

inductive WorkerAt where
  | loop
  | select
  | events (batch : Batch)
  | lockSrtp (session : Session) (batch : Batch)
  | lockDecrypt (session : Session) (batch : Batch)
  | install (session : Session) (batch : Batch)
  | storeConnected (session : Session) (batch : Batch)
  | unlock (batch : Batch)
  | ended
  deriving DecidableEq, Repr

structure Worker where
  json : String
  stage : WorkerAt
  deriving DecidableEq, Repr

inductive WorkerInput where
  | proceed
  | timer
  | datagram (peerAddr : SocketAddr) (data : Bytes) (answer : DtlsAnswer)

inductive CloseAt where
  | idle
  | swapClosed
  | storeClosed
  | clearSrtp
  | clearDecrypt
  | clearSocket
  | returned
  deriving DecidableEq, Repr

/-- Where a media send stands: audio is encrypted before the socket is read, and
video after. -/
inductive SendAt where
  | idle
  | testClosed (stream : StreamType)
  | audioEncrypt
  | audioSocket (context : SrtpContext)
  | audioAddr (context : SrtpContext) (socket : Nat)
  | videoSocket
  | videoAddr (socket : Nat)
  | videoEncrypt (socket : Nat) (addr : SocketAddr)
  | transmit (context : SrtpContext) (socket : Nat) (addr : SocketAddr)
  | returned
  deriving DecidableEq, Repr

structure Transmission where
  context : SrtpContext
  socket : Nat
  addr : SocketAddr
  deriving DecidableEq, Repr

/-- `started` counts the `connect` calls, which are known by their order. -/
structure Transport where
  shared : Shared
  history : History
  started : Nat
  connects : Nat → ConnectAt
  workers : Nat → Option Worker
  closeAt : CloseAt
  sends : Nat → SendAt
  wire : List Transmission

namespace Transport

def new : Transport where
  shared :=
    { state := .connecting
      closed := false
      udpSocket := none
      remoteAddr := none
      srtpContext := none
      decryptSrtpContext := none
      srtpLocked := false
      decryptLocked := false
      notified := 0 }
  history :=
    { bound := 0
      completed := fun _ => none
      connectedBy := none }
  started := 0
  connects := fun _ => .idle
  workers := fun _ => none
  closeAt := .idle
  sends := fun _ => .idle
  wire := []

inductive Action where
  | connect (json : String)
  | connectStep (id : Nat) (input : ConnectInput)
  | workerStep (id : Nat) (input : WorkerInput)
  | close
  | closeStep
  | send (id : Nat) (stream : StreamType)
  | sendStep (id : Nat)

/-- A step of `connect`: where it goes on, what it writes, and the worker it
spawns. -/
structure ConnectTurn where
  stage : ConnectAt
  write : Option Write
  spawn : Option Worker

def ConnectTurn.goto (stage : ConnectAt) : ConnectTurn := ⟨stage, none, none⟩

def ConnectTurn.fail (error : RustTgCallsError) : ConnectTurn :=
  .goto (.returned (.error error))

def ConnectTurn.ask (input : ConnectInput) (message : String)
    (stage : ConnectAt) : ConnectTurn :=
  match input with
  | .fails detail => .fail (.internal (message ++ detail))
  | _ => .goto stage

def connectTurn (codec : Codec) (shared : Shared) (id : Nat)
    (stage : ConnectAt) (input : ConnectInput) : ConnectTurn :=
  match stage with
  | .idle => .goto .idle
  | .testClosed json =>
      if shared.closed then .fail (.internal "transport is closed")
      else .goto (.storeConnecting json)
  | .storeConnecting json => ⟨.accept json, some (.storeConnecting id), none⟩
  | .accept json =>
      match codec.acceptRemote json with
      | .error error => .fail error
      | .ok selected => .goto (.bind selected)
  | .bind selected =>
      .ask input "failed to bind UDP socket: " (.localAddr selected)
  | .localAddr selected =>
      .ask input "failed to get local addr: " (.storeSocket selected)
  | .storeSocket selected =>
      ⟨.storeRemote selected, some (.storeSocket id), none⟩
  | .storeRemote selected =>
      ⟨.configure selected, some (.storeRemote id selected.addr), none⟩
  | .configure selected =>
      .ask input "failed to build DTLS config: " (.stunCheck selected)
  | .stunCheck selected =>
      match input with
      | .fails detail =>
          .fail (.internal ("failed to build STUN binding req: " ++ detail))
      | _ => ⟨.check, none, some ⟨selected.json, .loop⟩⟩
  | .check =>
      if shared.state = .connected then .goto (.returned (.ok ()))
      else .goto (.waiting shared.notified)
  | .waiting seen =>
      if seen < shared.notified ∨ shared.state = .connected then
        .goto (.returned (.ok ()))
      else
        match input with
        | .expire => .fail (.internal
            "timeout waiting for DTLS handshake to complete with Telegram SFU")
        | _ => .goto (.waiting seen)
  | .returned result => .goto (.returned result)

def isStun (data : Bytes) : Bool :=
  decide (20 ≤ data.length) &&
    decide ((data.drop 4).take 4 = [0x21, 0x12, 0xa4, 0x42])

def receive (peerAddr : SocketAddr) (data : Bytes) (answer : DtlsAnswer) :
    WorkerAt :=
  match data with
  | [] => .loop
  | first :: _ =>
      if isStun data then .loop
      else if 20 ≤ first ∧ first ≤ 23 then
        match answer.events with
        | .error _ => .loop
        | .ok events => .events ⟨peerAddr, events, answer.certificate⟩
      -- SRTCP feedback only raises a flag of the media path
      else .loop

/-- `handle_dtls_packet` from its event loop on, between two awaits of the
worker loop. -/
def workerTurn (shared : Shared) (id : Nat) (worker : Worker)
    (input : WorkerInput) : WorkerAt × Option Write :=
  match worker.stage with
  | .loop => (if shared.closed then .ended else .select, none)
  | .select =>
      match input with
      | .proceed => (.select, none)
      | .timer => (.loop, none)
      | .datagram peerAddr data answer => (receive peerAddr data answer, none)
  | .events batch =>
      match batch.left with
      | [] => (.loop, none)
      | event :: left =>
          match event, batch.certificate with
          | .handshakeComplete, some certificate =>
              (.lockSrtp ⟨id, worker.json, batch.peerAddr, certificate⟩
                { batch with left := left }, none)
          | _, _ => (.events { batch with left := left }, none)
  | .lockSrtp session batch =>
      if shared.srtpLocked then (.lockSrtp session batch, none)
      else (.lockDecrypt session batch, some .lockSrtp)
  | .lockDecrypt session batch =>
      if shared.decryptLocked then (.lockDecrypt session batch, none)
      else (.install session batch, some .lockDecrypt)
  | .install session batch =>
      if shared.srtpContext.isNone then
        (.storeConnected session batch, some (.install session))
      else (.unlock batch, some (.skip session))
  | .storeConnected session batch =>
      (.unlock batch, some (.storeConnected session))
  | .unlock batch => (.events batch, some .unlock)
  | .ended => (.ended, none)

/-- `close`; the media fields it clears before the socket are left out. -/
def closeTurn (shared : Shared) (stage : CloseAt) : CloseAt × Option Write :=
  match stage with
  | .idle => (.idle, none)
  | .swapClosed =>
      if shared.closed then (.returned, none)
      else (.storeClosed, some .swapClosed)
  | .storeClosed => (.clearSrtp, some .storeClosed)
  | .clearSrtp =>
      if shared.srtpLocked then (.clearSrtp, none)
      else (.clearDecrypt, some .clearSrtp)
  | .clearDecrypt =>
      if shared.decryptLocked then (.clearDecrypt, none)
      else (.clearSocket, some .clearDecrypt)
  | .clearSocket => (.returned, some .clearSocket)
  | .returned => (.returned, none)

/-- `send_rtp_bytes` as far as it reads the shared fields. -/
def sendTurn (shared : Shared) (stage : SendAt) :
    SendAt × Option Transmission :=
  match stage with
  | .idle => (.idle, none)
  | .testClosed stream =>
      if shared.closed then (.returned, none)
      else match stream with
        | .audio => (.audioEncrypt, none)
        | .video => (.videoSocket, none)
  | .audioEncrypt =>
      if shared.srtpLocked then (.audioEncrypt, none)
      else match shared.srtpContext with
        | some context => (.audioSocket context, none)
        | none => (.returned, none)
  | .audioSocket context =>
      match shared.udpSocket with
      | some socket => (.audioAddr context socket, none)
      | none => (.returned, none)
  | .audioAddr context socket =>
      match shared.remoteAddr with
      | some remote => (.transmit context socket remote.addr, none)
      | none => (.returned, none)
  | .videoSocket =>
      match shared.udpSocket with
      | some socket => (.videoAddr socket, none)
      | none => (.returned, none)
  | .videoAddr socket =>
      match shared.remoteAddr with
      | some remote => (.videoEncrypt socket remote.addr, none)
      | none => (.returned, none)
  | .videoEncrypt socket addr =>
      if shared.srtpLocked then (.videoEncrypt socket addr, none)
      else match shared.srtpContext with
        | some context => (.transmit context socket addr, none)
        | none => (.returned, none)
  | .transmit context socket addr =>
      (.returned, some ⟨context, socket, addr⟩)
  | .returned => (.returned, none)

variable (codec : Codec)

/-- The shared access an action makes. -/
def writes (transport : Transport) : Action → Option Write
  | .connectStep id input =>
      (connectTurn codec transport.shared id (transport.connects id) input).write
  | .workerStep id input =>
      match transport.workers id with
      | some worker => (workerTurn transport.shared id worker input).2
      | none => none
  | .closeStep => (closeTurn transport.shared transport.closeAt).2
  | .connect _ | .close | .send _ _ | .sendStep _ => none

/-- The tasks after an action, with the shared fields as they were. -/
def move (transport : Transport) : Action → Transport
  | .connect json =>
      { transport with
        started := transport.started + 1
        connects := Function.update transport.connects transport.started
          (.testClosed json) }
  | .connectStep id input =>
      let turn :=
        connectTurn codec transport.shared id (transport.connects id) input
      { transport with
        connects := Function.update transport.connects id turn.stage
        workers := match turn.spawn with
          | some worker => Function.update transport.workers id (some worker)
          | none => transport.workers }
  | .workerStep id input =>
      match transport.workers id with
      | some worker =>
          let stage := (workerTurn transport.shared id worker input).1
          { transport with
            workers := Function.update transport.workers id
              (some { worker with stage := stage }) }
      | none => transport
  | .close =>
      if transport.closeAt = .idle then
        { transport with closeAt := .swapClosed }
      else transport
  | .closeStep =>
      { transport with
        closeAt := (closeTurn transport.shared transport.closeAt).1 }
  | .send id stream =>
      if transport.sends id = .idle then
        { transport with
          sends := Function.update transport.sends id (.testClosed stream) }
      else transport
  | .sendStep id =>
      let (stage, transmission) :=
        sendTurn transport.shared (transport.sends id)
      { transport with
        sends := Function.update transport.sends id stage
        wire := transport.wire ++ transmission.toList }

/-- One atomic step; a step that is not possible changes nothing. -/
def next (transport : Transport) (action : Action) : Transport :=
  let moved := transport.move codec action
  match transport.writes codec action with
  | some write =>
      { moved with
        shared := transport.shared.write write
        history := transport.history.record write }
  | none => moved

/-! What a step can do, once for each task. -/

theorem connectTurn_write {shared : Shared} {id : Nat} {stage : ConnectAt}
    {input : ConnectInput} {write : Write}
    (hwrite : (connectTurn codec shared id stage input).write = some write) :
    (∃ json, stage = .storeConnecting json ∧ write = .storeConnecting id) ∨
      (∃ selected, stage = .storeSocket selected ∧ write = .storeSocket id) ∨
      ∃ selected, stage = .storeRemote selected ∧
        write = .storeRemote id selected.addr := by
  have hask (message : String) (next : ConnectAt) :
      (ConnectTurn.ask input message next).write = none := by
    unfold ConnectTurn.ask
    split <;> rfl
  cases stage with
  | storeConnecting json =>
      cases hwrite
      exact .inl ⟨json, rfl, rfl⟩
  | storeSocket selected =>
      cases hwrite
      exact .inr (.inl ⟨selected, rfl, rfl⟩)
  | storeRemote selected =>
      cases hwrite
      exact .inr (.inr ⟨selected, rfl, rfl⟩)
  | idle | returned _ => cases hwrite
  | bind _ | localAddr _ | configure _ =>
      simp [connectTurn, hask] at hwrite
  | testClosed json | check =>
      simp only [connectTurn] at hwrite
      split at hwrite <;> cases hwrite
  | accept json | stunCheck selected =>
      simp only [connectTurn] at hwrite
      split at hwrite <;> cases hwrite
  | waiting seen =>
      simp only [connectTurn] at hwrite
      split at hwrite
      · cases hwrite
      · split at hwrite <;> cases hwrite

theorem connectTurn_spawn {shared : Shared} {id : Nat} {stage : ConnectAt}
    {input : ConnectInput} {worker : Worker}
    (hspawn : (connectTurn codec shared id stage input).spawn = some worker) :
    ∃ selected, stage = .stunCheck selected ∧
      worker = ⟨selected.json, .loop⟩ := by
  have hask (message : String) (next : ConnectAt) :
      (ConnectTurn.ask input message next).spawn = none := by
    unfold ConnectTurn.ask
    split <;> rfl
  cases stage with
  | stunCheck selected =>
      simp only [connectTurn] at hspawn
      split at hspawn <;> cases hspawn
      exact ⟨selected, rfl, rfl⟩
  | idle | storeConnecting _ | storeSocket _ | storeRemote _ | returned _ =>
      cases hspawn
  | bind _ | localAddr _ | configure _ => simp [connectTurn, hask] at hspawn
  | testClosed _ | accept _ | check =>
      simp only [connectTurn] at hspawn
      split at hspawn <;> cases hspawn
  | waiting _ =>
      simp only [connectTurn] at hspawn
      split at hspawn
      · cases hspawn
      · split at hspawn <;> cases hspawn

inductive WorkerWrites (shared : Shared) (worker : Worker) :
    Write → WorkerAt → Prop
  | lockSrtp (session : Session) (batch : Batch)
      (hat : worker.stage = .lockSrtp session batch)
      (hfree : shared.srtpLocked = false) :
      WorkerWrites shared worker .lockSrtp (.lockDecrypt session batch)
  | lockDecrypt (session : Session) (batch : Batch)
      (hat : worker.stage = .lockDecrypt session batch)
      (hfree : shared.decryptLocked = false) :
      WorkerWrites shared worker .lockDecrypt (.install session batch)
  | install (session : Session) (batch : Batch)
      (hat : worker.stage = .install session batch)
      (hnone : shared.srtpContext = none) :
      WorkerWrites shared worker (.install session)
        (.storeConnected session batch)
  | skip (session : Session) (batch : Batch)
      (hat : worker.stage = .install session batch)
      (hsome : shared.srtpContext ≠ none) :
      WorkerWrites shared worker (.skip session) (.unlock batch)
  | storeConnected (session : Session) (batch : Batch)
      (hat : worker.stage = .storeConnected session batch) :
      WorkerWrites shared worker (.storeConnected session) (.unlock batch)
  | unlock (batch : Batch) (hat : worker.stage = .unlock batch) :
      WorkerWrites shared worker .unlock (.events batch)

theorem workerTurn_write {shared : Shared} {id : Nat} {worker : Worker}
    {input : WorkerInput} {write : Write}
    (hwrite : (workerTurn shared id worker input).2 = some write) :
    WorkerWrites shared worker write
      (workerTurn shared id worker input).1 := by
  unfold workerTurn at hwrite ⊢
  cases hat : worker.stage with
  | loop | ended => simp [hat] at hwrite
  | select => cases input <;> simp [hat] at hwrite
  | events batch =>
      simp only [hat] at hwrite
      split at hwrite
      · cases hwrite
      · split at hwrite <;> cases hwrite
  | lockSrtp session batch =>
      simp only [hat] at hwrite ⊢
      split at hwrite <;> cases hwrite
      next hfree =>
        simpa [hfree] using .lockSrtp session batch hat (by simpa using hfree)
  | lockDecrypt session batch =>
      simp only [hat] at hwrite ⊢
      split at hwrite <;> cases hwrite
      next hfree =>
        simpa [hfree] using .lockDecrypt session batch hat (by simpa using hfree)
  | install session batch =>
      simp only [hat] at hwrite ⊢
      split at hwrite <;> cases hwrite
      next hnone =>
        simpa [hnone] using .install session batch hat (by simpa using hnone)
      next hsome =>
        simpa [hsome] using .skip session batch hat (by simpa using hsome)
  | storeConnected session batch =>
      simp only [hat] at hwrite ⊢
      cases hwrite
      exact .storeConnected session batch hat
  | unlock batch =>
      simp only [hat] at hwrite ⊢
      cases hwrite
      exact .unlock batch hat

theorem installs_of_storeConnected {shared : Shared} {id : Nat}
    {worker : Worker} {input : WorkerInput} {session : Session} {batch : Batch}
    (hstage : (workerTurn shared id worker input).1 =
      .storeConnected session batch) :
    (workerTurn shared id worker input).2 = some (.install session) := by
  unfold workerTurn at hstage ⊢
  cases hat : worker.stage with
  | install session batch =>
      simp only [hat] at hstage ⊢
      split at hstage <;> cases hstage
      next hnone => simp [hnone]
  | loop | lockSrtp _ _ | lockDecrypt _ _ =>
      simp only [hat] at hstage
      split at hstage <;> cases hstage
  | select =>
      cases input with
      | proceed | timer => simp [hat] at hstage
      | datagram peerAddr data answer =>
          simp only [hat, receive] at hstage
          split at hstage
          · cases hstage
          · split at hstage
            · cases hstage
            · split at hstage
              · split at hstage <;> cases hstage
              · cases hstage
  | events batch =>
      simp only [hat] at hstage
      split at hstage
      · cases hstage
      · split at hstage <;> cases hstage
  | storeConnected _ _ | unlock _ | ended => simp [hat] at hstage

/-- Who makes a write. -/
theorem writes_cases {transport : Transport} {action : Action} {write : Write}
    (hwrite : transport.writes codec action = some write) :
    (∃ id input, action = .connectStep id input ∧
      (connectTurn codec transport.shared id (transport.connects id)
        input).write = some write) ∨
      (∃ id input worker, action = .workerStep id input ∧
        transport.workers id = some worker ∧
        (workerTurn transport.shared id worker input).2 = some write) ∨
      action = .closeStep ∧
        (closeTurn transport.shared transport.closeAt).2 = some write := by
  cases action with
  | connectStep id input => exact .inl ⟨id, input, rfl, hwrite⟩
  | workerStep id input =>
      simp only [writes] at hwrite
      split at hwrite
      next worker hworker =>
        exact .inr (.inl ⟨id, input, worker, rfl, hworker, hwrite⟩)
      next => cases hwrite
  | closeStep => exact .inr (.inr ⟨rfl, hwrite⟩)
  | connect _ | close | send _ _ | sendStep _ => cases hwrite

theorem foreign_connectTurn {shared : Shared} {id : Nat} {stage : ConnectAt}
    {input : ConnectInput} {write : Write}
    (hwrite : (connectTurn codec shared id stage input).write = some write) :
    write.foreign = true ∧ write.ofWorker = false := by
  rcases connectTurn_write codec hwrite with
    ⟨_, _, rfl⟩ | ⟨_, _, rfl⟩ | ⟨_, _, rfl⟩ <;> exact ⟨rfl, rfl⟩

theorem WorkerWrites.foreign {shared : Shared} {worker : Worker} {write : Write}
    {stage : WorkerAt} (hwrites : WorkerWrites shared worker write stage) :
    write.foreign = true := by
  cases hwrites <;> rfl

theorem foreign_closeTurn {shared : Shared} {stage : CloseAt} {write : Write}
    (hwrite : (closeTurn shared stage).2 = some write) :
    write.foreign = false ∧ write.ofWorker = false := by
  cases stage with
  | idle | returned => cases hwrite
  | swapClosed | clearSrtp | clearDecrypt =>
      simp only [closeTurn] at hwrite
      split at hwrite <;> cases hwrite
      exact ⟨rfl, rfl⟩
  | storeClosed | clearSocket =>
      cases hwrite
      exact ⟨rfl, rfl⟩

theorem worker_of_write {transport : Transport} {action : Action} {write : Write}
    (hwrite : transport.writes codec action = some write)
    (hown : write.ofWorker = true) :
    ∃ id input worker, action = .workerStep id input ∧
      transport.workers id = some worker ∧
      WorkerWrites transport.shared worker write
        (workerTurn transport.shared id worker input).1 := by
  rcases writes_cases codec hwrite with
    ⟨_, _, _, hturn⟩ | ⟨id, input, worker, haction, hworker, hturn⟩ | ⟨_, hturn⟩
  · simp [(foreign_connectTurn codec hturn).2] at hown
  · exact ⟨id, input, worker, haction, hworker, workerTurn_write hturn⟩
  · simp [(foreign_closeTurn hturn).2] at hown

/-- Only a step of `close` and its call move `close`. -/
theorem closeAt_move {transport : Transport} {action : Action}
    (helsewhere : action ≠ .closeStep) :
    (transport.move codec action).closeAt = transport.closeAt ∨
      transport.closeAt = .idle ∧ action = .close ∧
        (transport.move codec action).closeAt = .swapClosed := by
  cases action with
  | closeStep => exact absurd rfl helsewhere
  | workerStep _ _ | send _ _ =>
      simp only [move]
      split <;> exact .inl rfl
  | close =>
      simp only [move]
      split
      next hidle => exact .inr ⟨hidle, trivial, rfl⟩
      next => exact .inl rfl
  | connect _ | connectStep _ _ | sendStep _ => exact .inl rfl

@[simp] theorem shared_move (transport : Transport) (action : Action) :
    (transport.move codec action).shared = transport.shared := by
  cases action with
  | workerStep id input =>
      unfold move
      dsimp only
      split <;> rfl
  | close | send _ _ =>
      unfold move
      dsimp only
      split <;> rfl
  | connect _ | connectStep _ _ | closeStep | sendStep _ => rfl

@[simp] theorem history_move (transport : Transport) (action : Action) :
    (transport.move codec action).history = transport.history := by
  cases action with
  | workerStep id input =>
      unfold move
      dsimp only
      split <;> rfl
  | close | send _ _ =>
      unfold move
      dsimp only
      split <;> rfl
  | connect _ | connectStep _ _ | closeStep | sendStep _ => rfl

theorem next_of_write {transport : Transport} {action : Action} {write : Write}
    (hwrite : transport.writes codec action = some write) :
    transport.next codec action =
      { transport.move codec action with
        shared := transport.shared.write write
        history := transport.history.record write } := by
  simp [next, hwrite]

theorem next_of_quiet {transport : Transport} {action : Action}
    (hquiet : transport.writes codec action = none) :
    transport.next codec action = transport.move codec action := by
  simp [next, hquiet]

theorem shared_next (transport : Transport) (action : Action) :
    (transport.next codec action).shared =
      (transport.writes codec action).elim transport.shared transport.shared.write := by
  unfold next
  cases transport.writes codec action with
  | none => simp
  | some write => rfl

@[simp] theorem workers_next (transport : Transport) (action : Action) :
    (transport.next codec action).workers =
      (transport.move codec action).workers := by
  unfold next
  dsimp only
  split <;> rfl

/-- A worker after a step is the one before, has taken the step, or was spawned
by it. -/
theorem workers_next_cases {transport : Transport} {action : Action} {id : Nat}
    {worker : Worker}
    (hworker : (transport.next codec action).workers id = some worker) :
    transport.workers id = some worker ∨
      (∃ input old, action = .workerStep id input ∧
        transport.workers id = some old ∧
        worker = { old with
          stage := (workerTurn transport.shared id old input).1 }) ∨
      ∃ input, action = .connectStep id input ∧
        (connectTurn codec transport.shared id (transport.connects id)
          input).spawn = some worker := by
  rw [workers_next] at hworker
  cases action with
  | connectStep which input =>
      cases hspawn : (connectTurn codec transport.shared which
          (transport.connects which) input).spawn with
      | none =>
          simp only [move, hspawn] at hworker
          exact .inl hworker
      | some spawned =>
          simp only [move, hspawn] at hworker
          by_cases hwhich : id = which
          · subst hwhich
            obtain rfl : spawned = worker := by simpa using hworker
            exact .inr (.inr ⟨input, rfl, hspawn⟩)
          · left
            simpa [hwhich] using hworker
  | workerStep which input =>
      simp only [move] at hworker
      split at hworker
      next old hold =>
        by_cases hwhich : id = which
        · subst hwhich
          right
          left
          exact ⟨input, old, rfl, hold, by simpa using hworker.symm⟩
        · left
          simpa [hwhich] using hworker
      next => exact .inl hworker
  | close | send _ _ =>
      simp only [move] at hworker
      split at hworker <;> exact .inl hworker
  | connect _ | closeStep | sendStep _ => exact .inl hworker

@[simp] theorem connects_next (transport : Transport) (action : Action) :
    (transport.next codec action).connects =
      (transport.move codec action).connects := by
  unfold next
  dsimp only
  split <;> rfl

@[simp] theorem started_next (transport : Transport) (action : Action) :
    (transport.next codec action).started =
      (transport.move codec action).started := by
  unfold next
  dsimp only
  split <;> rfl

theorem connects_next_cases (transport : Transport) (action : Action)
    (id : Nat) :
    (transport.next codec action).connects id = transport.connects id ∨
      (∃ json, action = .connect json ∧ id = transport.started ∧
        (transport.next codec action).connects id = .testClosed json) ∨
      ∃ input, action = .connectStep id input ∧
        (transport.next codec action).connects id =
          (connectTurn codec transport.shared id (transport.connects id)
            input).stage := by
  rw [connects_next]
  cases action with
  | connect json =>
      by_cases hnew : id = transport.started
      · exact .inr (.inl ⟨json, rfl, hnew, by simp [move, hnew]⟩)
      · exact .inl (by simp [move, hnew])
  | connectStep which input =>
      by_cases hwhich : id = which
      · subst hwhich
        exact .inr (.inr ⟨input, rfl, by simp [move]⟩)
      · exact .inl (by simp [move, hwhich])
  | workerStep which input =>
      simp only [move]
      split <;> exact .inl rfl
  | close | send _ _ =>
      simp only [move]
      split <;> exact .inl rfl
  | closeStep | sendStep _ => exact .inl rfl

theorem started_move (transport : Transport) (action : Action) :
    transport.started ≤ (transport.move codec action).started := by
  cases action with
  | connect json => exact Nat.le_succ _
  | workerStep which input =>
      simp only [move]
      split <;> exact Nat.le_refl _
  | close | send _ _ =>
      simp only [move]
      split <;> exact Nat.le_refl _
  | connectStep _ _ | closeStep | sendStep _ => exact Nat.le_refl _

/-! One remote answer, and the steps of a call that takes it. -/

def sampleCandidate : Candidate where
  generation := "0"
  component := "1"
  protocol := "udp"
  port := "5000"
  ip := "10.0.0.1"
  foundation := "1"
  id := "1"
  priority := "1"
  candidateType := "host"
  network := "1"
  relAddr := ""
  relPort := ""
  tcpType := ""

def sampleAddr : SocketAddr := ⟨.v4 0x0A000001, 5000⟩

def sampleCodec : Codec where
  probe := fun _ => none
  decode := fun _ =>
    .ok ⟨"u", "p", [⟨"sha-256", "passive", "AA"⟩], [sampleCandidate]⟩
  parseIp := fun _ => some sampleAddr.ip

def dial (id : Nat) : List Action :=
  .connect "{}" :: List.replicate 9 (.connectStep id .proceed)

/-- A datagram that completes a handshake, and all the worker does with it. -/
def shake (id : Nat) (peerAddr : SocketAddr) (certificate : Bytes) :
    List Action :=
  [.workerStep id .proceed,
    .workerStep id (.datagram peerAddr [22]
      ⟨.ok [.handshakeComplete], some certificate⟩)] ++
  List.replicate 7 (.workerStep id .proceed)

def hangUp : List Action := .close :: List.replicate 5 .closeStep

end Transport

end RustTgCalls.Wrtc
