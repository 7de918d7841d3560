import RustTgCalls.Wrtc.Workers

namespace RustTgCalls.Wrtc

open Transition

/-! Which `connect` the fields belong to. -/

namespace Transport

variable (codec : Codec)

structure Installed (transport : Transport) (session : Session) : Prop where
  srtp : transport.shared.srtpContext = some ⟨session, .server⟩
  decrypt : transport.shared.decryptSrtpContext = some ⟨session, .client⟩

def latest (transport : Transport) : Nat := transport.started - 1

/-- Once the handshake of the most recent `connect` is completed the transport
is connected with its keys, and no keys of an earlier `connect` meet the socket
and address of later ones. -/
structure Coherent (transport : Transport) : Prop where
  recent : ∀ session,
    transport.history.completed transport.latest = some session →
      transport.shared.state = .connected ∧ transport.Installed session
  noStale : ∀ context, transport.shared.srtpContext = some context ∨
      transport.shared.decryptSrtpContext = some context →
    ∀ socket remote, transport.shared.udpSocket = some socket →
      transport.shared.remoteAddr = some remote →
        ¬ (context.session.connect < socket ∧
          context.session.connect < remote.connect)

def NoClose (_ : Transport) (action : Action) : Prop :=
  match action with
  | .close => False
  | _ => True

/-- A socket is stored only while no keys of an earlier `connect` are installed,
a handshake is installed only while no later `connect` has stored its socket,
and `Connecting` is stored over a completed handshake of the most recent
`connect` by none before it. -/
def admits (transport : Transport) : Write → Prop
  | .storeSocket connect =>
      (∀ context ∈ transport.shared.srtpContext,
        connect ≤ context.session.connect) ∧
      ∀ context ∈ transport.shared.decryptSrtpContext,
        connect ≤ context.session.connect
  | .install session => transport.history.bound ≤ session.connect + 1
  | .storeConnecting connect =>
      connect = transport.latest ∨
        transport.history.completed transport.latest = none
  | _ => True

def Orderly (transport : Transport) (action : Action) : Prop :=
  ∀ write ∈ transport.writes codec action, transport.admits write

instance (transport : Transport) : DecidablePred transport.NoClose
  | .close => .isFalse id
  | .connect _ | .connectStep _ _ | .workerStep _ _ | .closeStep | .send _ _
  | .sendStep _ => .isTrue trivial

instance (transport : Transport) : DecidablePred transport.admits
  | .storeSocket _ => inferInstanceAs (Decidable (_ ∧ _))
  | .install _ => inferInstanceAs (Decidable (_ ≤ _))
  | .storeConnecting _ => inferInstanceAs (Decidable (_ ∨ _))
  | .storeRemote _ _ | .lockSrtp | .lockDecrypt | .storeConnected _ | .skip _
  | .unlock | .swapClosed | .storeClosed | .clearSrtp | .clearDecrypt
  | .clearSocket => .isTrue trivial

instance (transport : Transport) : DecidablePred (Orderly codec transport) :=
  fun action => inferInstanceAs
    (Decidable (∀ write ∈ transport.writes codec action, _))

/-- The fields tell one story: the keys installed are of a handshake that is, or
is about to be, recorded, no later `connect` has stored its socket, and the most
recent `connect` has its way. -/
structure Ordered (transport : Transport) : Prop where
  spawned : transport.Spawned
  closeIdle : transport.closeAt = .idle
  paired : ∀ context, transport.shared.srtpContext = some context ∨
      transport.shared.decryptSrtpContext = some context →
    transport.Installed context.session
  newest : ∀ session, transport.Installed session →
    transport.history.bound ≤ session.connect + 1
  socket : ∀ connect, transport.shared.udpSocket = some connect →
    connect < transport.history.bound
  known : ∀ id session, transport.history.completed id = some session →
    ∃ worker, transport.workers id = some worker
  pending : ∀ id worker session batch, transport.workers id = some worker →
    worker.stage = .storeConnected session batch → transport.Installed session
  done : ∀ session, transport.Installed session →
    transport.history.completed session.connect = some session ∨
      ∃ worker batch, transport.workers session.connect = some worker ∧
        worker.stage = .storeConnected session batch
  recent : ∀ session,
    transport.history.completed transport.latest = some session →
      transport.shared.state = .connected ∧ transport.Installed session

theorem Installed.unique {transport : Transport} {first second : Session}
    (hfirst : transport.Installed first)
    (hsecond : transport.Installed second) : first = second := by
  have hsame := hfirst.srtp.symm.trans hsecond.srtp
  cases hsame
  rfl

namespace Ordered

variable {transport : Transport} {codec}

theorem coherent (hordered : transport.Ordered) : transport.Coherent := by
  constructor
  · exact hordered.recent
  · intro context hcontext socket remote hsocket _ ⟨hlater, _⟩
    have hnewest := hordered.newest _ (hordered.paired context hcontext)
    have hbound := hordered.socket socket hsocket
    omega

theorem worker_lt (hordered : transport.Ordered) {id : Nat} {worker : Worker}
    (hworker : transport.workers id = some worker) : id < transport.started := by
  by_contra hfresh
  have hidle := hordered.spawned.fresh id (Nat.le_of_not_lt hfresh)
  have hsettled := hordered.spawned.settled id worker hworker
  simp [hidle, ConnectAt.settled] at hsettled

theorem worker_of_installed (hordered : transport.Ordered) {session : Session}
    (hinstalled : transport.Installed session) :
    ∃ worker, transport.workers session.connect = some worker := by
  rcases hordered.done session hinstalled with hdone | ⟨worker, _, hworker, _⟩
  · exact hordered.known _ _ hdone
  · exact ⟨worker, hworker⟩

theorem writes_cases (hordered : transport.Ordered) {action : Action}
    {write : Write} (hwrite : transport.writes codec action = some write) :
    (∃ id input, action = .connectStep id input ∧
      (connectTurn codec transport.shared id (transport.connects id)
        input).write = some write) ∨
      ∃ id input worker, action = .workerStep id input ∧
        transport.workers id = some worker ∧
        WorkerWrites transport.shared worker write
          (workerTurn transport.shared id worker input).1 := by
  rcases Transport.writes_cases codec hwrite with
    hconnect | ⟨id, input, worker, haction, hworker, hturn⟩ | ⟨_, hturn⟩
  · exact .inl hconnect
  · exact .inr ⟨id, input, worker, haction, hworker, workerTurn_write hturn⟩
  · simp [hordered.closeIdle, closeTurn] at hturn

theorem shared_next (hordered : transport.Ordered) {action : Action}
    {write : Write} (hwrite : transport.writes codec action = some write) :
    (transport.next codec action).shared = transport.shared.write write ∧
      (transport.next codec action).history =
        transport.history.record write ∧
      (transport.next codec action).latest = transport.latest ∧
      write.foreign = true := by
  rw [next_of_write codec hwrite]
  refine ⟨rfl, rfl, ?_⟩
  rcases hordered.writes_cases hwrite with
    ⟨_, _, rfl, hturn⟩ | ⟨id, _, worker, rfl, hworker, hturn⟩
  · exact ⟨rfl, (foreign_connectTurn codec hturn).1⟩
  · exact ⟨by simp [latest, move, hworker], hturn.foreign⟩

theorem of_install (hordered : transport.Ordered) {action : Action}
    {session : Session}
    (hwrite : transport.writes codec action = some (.install session)) :
    transport.shared.srtpContext = none ∧
      ∃ worker batch,
        (transport.next codec action).workers session.connect = some worker ∧
          worker.stage = .storeConnected session batch := by
  obtain ⟨id, input, worker, rfl, hworker, hturn⟩ :=
    worker_of_write codec hwrite rfl
  generalize hstage : (workerTurn _ _ _ _).1 = stage at hturn
  cases hturn with
  | install _ batch hat hnone =>
      have hown : session.connect = id :=
        hordered.spawned.session id worker session hworker (by rw [hat]; rfl)
      refine ⟨hnone, { worker with stage := .storeConnected session batch },
        batch, ?_, rfl⟩
      simp [move, hworker, hown, hstage]

theorem of_storeConnected (hordered : transport.Ordered) {action : Action}
    {session : Session}
    (hwrite : transport.writes codec action = some (.storeConnected session)) :
    transport.Installed session ∧
      ∃ worker, transport.workers session.connect = some worker := by
  obtain ⟨id, input, worker, rfl, hworker, hturn⟩ :=
    worker_of_write codec hwrite rfl
  generalize (workerTurn _ _ _ _).1 = stage at hturn
  cases hturn with
  | storeConnected _ batch hat =>
      have hown : session.connect = id :=
        hordered.spawned.session id worker session hworker (by rw [hat]; rfl)
      exact ⟨hordered.pending id worker session batch hworker hat,
        worker, hown ▸ hworker⟩

theorem of_skip (hordered : transport.Ordered) {action : Action}
    {session : Session}
    (hwrite : transport.writes codec action = some (.skip session)) :
    transport.shared.srtpContext ≠ none ∧
      ∃ worker batch, transport.workers session.connect = some worker ∧
        worker.stage = .install session batch := by
  obtain ⟨id, input, worker, rfl, hworker, hturn⟩ :=
    worker_of_write codec hwrite rfl
  generalize (workerTurn _ _ _ _).1 = stage at hturn
  cases hturn with
  | skip _ batch hat hsome =>
      have hown : session.connect = id :=
        hordered.spawned.session id worker session hworker (by rw [hat]; rfl)
      exact ⟨hsome, worker, batch, hown ▸ hworker, hat⟩

theorem of_storeConnecting (hordered : transport.Ordered) {action : Action}
    {connect : Nat}
    (hwrite : transport.writes codec action =
      some (.storeConnecting connect)) :
    transport.history.completed connect = none := by
  rcases hordered.writes_cases hwrite with
    ⟨id, _, _, hturn⟩ | ⟨_, _, worker, _, _, hturn⟩
  · rcases connectTurn_write codec hturn with
      ⟨_, hat, hsame⟩ | ⟨_, _, hno⟩ | ⟨_, _, hno⟩
    · cases hsame
      cases hcompleted : transport.history.completed connect with
      | none => rfl
      | some session =>
          obtain ⟨worker, hworker⟩ := hordered.known _ _ hcompleted
          have hsettled := hordered.spawned.settled _ worker hworker
          simp [hat, ConnectAt.settled] at hsettled
    · cases hno
    · cases hno
  · generalize (workerTurn _ _ _ _).1 = stage at hturn
    cases hturn

theorem installed_next (hordered : transport.Ordered) (action : Action)
    (session : Session) :
    (transport.next codec action).Installed session ↔
      transport.Installed session ∨
        transport.writes codec action = some (.install session) := by
  cases hwrite : transport.writes codec action with
  | none =>
      rw [next_of_quiet codec hwrite]
      constructor
      · exact fun hnow => .inl ⟨by simpa using hnow.srtp, by simpa using hnow.decrypt⟩
      · rintro (hbefore | hno)
        · exact ⟨by simpa using hbefore.srtp, by simpa using hbefore.decrypt⟩
        · cases hno
  | some write =>
      obtain ⟨hshared, _, _, hforeign⟩ := hordered.shared_next hwrite
      cases write with
      | install installed =>
          obtain ⟨hnone, _⟩ := hordered.of_install hwrite
          constructor
          · rintro ⟨hsrtp, _⟩
            rw [hshared] at hsrtp
            cases hsrtp
            exact .inr rfl
          · rintro (hbefore | hsame)
            · simp [hbefore.srtp] at hnone
            · cases hsame
              exact ⟨by rw [hshared]; rfl, by rw [hshared]; rfl⟩
      | swapClosed | storeClosed | clearSrtp | clearDecrypt | clearSocket =>
          cases hforeign
      | _ =>
          constructor
          · rintro ⟨hsrtp, hdecrypt⟩
            rw [hshared] at hsrtp hdecrypt
            exact .inl ⟨hsrtp, hdecrypt⟩
          · rintro (hbefore | hno)
            · exact ⟨by rw [hshared]; exact hbefore.srtp,
                by rw [hshared]; exact hbefore.decrypt⟩
            · cases hno

theorem completed_next (hordered : transport.Ordered) (action : Action)
    {id : Nat} {session : Session}
    (hnow : (transport.next codec action).history.completed id =
      some session) :
    transport.history.completed id = some session ∨
      session.connect = id ∧
        (transport.writes codec action = some (.storeConnected session) ∨
          transport.writes codec action = some (.skip session) ∧
            transport.history.completed id = none) := by
  cases hwrite : transport.writes codec action with
  | none =>
      rw [next_of_quiet codec hwrite] at hnow
      exact .inl (by simpa using hnow)
  | some write =>
      obtain ⟨_, hhistory, _, _⟩ := hordered.shared_next hwrite
      rw [hhistory] at hnow
      cases write with
      | storeConnected stored =>
          by_cases hid : id = stored.connect
          · subst hid
            have hsame : stored = session := by
              simpa [History.record] using hnow
            subst hsame
            exact .inr ⟨rfl, .inl rfl⟩
          · exact .inl (by simpa [History.record, hid] using hnow)
      | skip skipped =>
          by_cases hid : id = skipped.connect
          · subst hid
            cases hbefore : transport.history.completed skipped.connect with
            | some old => exact .inl (by simpa [History.record, hbefore] using hnow)
            | none =>
                have hsame : skipped = session := by
                  simpa [History.record, hbefore] using hnow
                subst hsame
                exact .inr ⟨rfl, .inr ⟨rfl, rfl⟩⟩
          · exact .inl (by simpa [History.record, hid] using hnow)
      | _ => exact .inl hnow

theorem completed_kept (hordered : transport.Ordered) (action : Action)
    {session : Session} (hinstalled : transport.Installed session)
    (hdone : transport.history.completed session.connect = some session ∨
      transport.writes codec action = some (.storeConnected session)) :
    (transport.next codec action).history.completed session.connect =
      some session := by
  cases hwrite : transport.writes codec action with
  | none =>
      rw [next_of_quiet codec hwrite]
      simpa [hwrite] using hdone
  | some write =>
      obtain ⟨_, hhistory, _, _⟩ := hordered.shared_next hwrite
      rw [hhistory]
      cases write with
      | storeConnected stored =>
          have hsame : stored = session :=
            (hordered.of_storeConnected hwrite).1.unique hinstalled
          simp [History.record, hsame]
      | skip skipped =>
          have hbefore : transport.history.completed session.connect =
              some session := by simpa [hwrite] using hdone
          by_cases hid : session.connect = skipped.connect
          · simp [History.record, ← hid, hbefore]
          · simpa [History.record, hid] using hbefore
      | _ => simpa [hwrite, History.record] using hdone

variable (codec) in
theorem bound_next_cases (hordered : transport.Ordered) (action : Action) :
    (transport.next codec action).history.bound = transport.history.bound ∨
      ∃ connect,
        transport.writes codec action = some (.storeSocket connect) ∧
          (transport.next codec action).history.bound =
            max transport.history.bound (connect + 1) := by
  cases hwrite : transport.writes codec action with
  | none =>
      rw [next_of_quiet codec hwrite]
      exact .inl (by simp)
  | some write =>
      obtain ⟨_, hhistory, _, _⟩ := hordered.shared_next hwrite
      rw [hhistory]
      cases write with
      | storeSocket connect => exact .inr ⟨connect, rfl, rfl⟩
      | _ => exact .inl rfl

theorem pending_kept (hordered : transport.Ordered) (action : Action)
    {id : Nat} {worker : Worker} {session : Session} {batch : Batch}
    (hworker : transport.workers id = some worker)
    (hat : worker.stage = .storeConnected session batch) :
    (transport.next codec action).workers id = some worker ∨
      transport.writes codec action = some (.storeConnected session) := by
  rw [workers_next]
  cases action with
  | workerStep which input =>
      by_cases hwhich : which = id
      · subst hwhich
        exact .inr (by simp [writes, hworker, workerTurn, hat])
      · left
        cases hother : transport.workers which with
        | none => simpa [move, hother] using hworker
        | some other => simpa [move, hother, Ne.symm hwhich] using hworker
  | connectStep which input =>
      left
      have hsettled := hordered.spawned.settled id worker hworker
      cases hspawn : (connectTurn codec transport.shared which
          (transport.connects which) input).spawn with
      | none => simpa [move, hspawn] using hworker
      | some spawned =>
          obtain ⟨selected, hstage, _⟩ := connectTurn_spawn codec hspawn
          have hne : id ≠ which := by
            rintro rfl
            simp [hstage, ConnectAt.settled] at hsettled
          simpa [move, hspawn, hne] using hworker
  | close | send _ _ =>
      left
      simp only [move]
      split <;> exact hworker
  | connect _ | closeStep | sendStep _ => exact .inl hworker

theorem worker_kept {id : Nat} {worker : Worker} (action : Action)
    (hworker : transport.workers id = some worker) :
    ∃ worker, (transport.next codec action).workers id = some worker := by
  rw [workers_next]
  cases action with
  | workerStep which input =>
      by_cases hwhich : which = id
      · subst hwhich
        simp [move, hworker]
      · cases hother : transport.workers which with
        | none => exact ⟨worker, by simpa [move, hother] using hworker⟩
        | some other =>
            exact ⟨worker, by simpa [move, hother, Ne.symm hwhich] using hworker⟩
  | connectStep which input =>
      cases hspawn : (connectTurn codec transport.shared which
          (transport.connects which) input).spawn with
      | none => exact ⟨worker, by simpa [move, hspawn] using hworker⟩
      | some spawned =>
          by_cases hwhich : id = which
          · exact ⟨spawned, by simp [move, hspawn, hwhich]⟩
          · exact ⟨worker, by simpa [move, hspawn, hwhich] using hworker⟩
  | close | send _ _ =>
      simp only [move]
      split <;> exact ⟨worker, hworker⟩
  | connect _ | closeStep | sendStep _ => exact ⟨worker, hworker⟩

variable (codec) in
/-- The most recent `connect` stays it until the next call, which has no
handshake yet. -/
theorem latest_next (hordered : transport.Ordered) (action : Action) :
    (transport.next codec action).latest = transport.latest ∨
      (transport.next codec action).history.completed
        (transport.next codec action).latest = none := by
  cases action with
  | connect json =>
      right
      cases hcompleted : transport.history.completed transport.started with
      | none => simpa [latest, next, writes, move] using hcompleted
      | some session =>
          obtain ⟨worker, hworker⟩ := hordered.known _ _ hcompleted
          have hbefore := hordered.worker_lt hworker
          omega
  | workerStep which input =>
      left
      simp only [latest, started_next, move]
      split <;> rfl
  | close | send _ _ =>
      left
      simp only [latest, started_next, move]
      split <;> rfl
  | connectStep _ _ | closeStep | sendStep _ =>
      left
      simp [latest, move]

/-- A second handshake on the endpoint of the most recent `connect` finds the
first one recorded. -/
theorem skip_latest (hordered : transport.Ordered) {action : Action}
    {session : Session}
    (hwrite : transport.writes codec action = some (.skip session))
    (hlatest : session.connect = transport.latest) :
    transport.history.completed session.connect ≠ none := by
  intro hnone
  obtain ⟨hsome, worker, batch, hworker, hat⟩ := hordered.of_skip hwrite
  obtain ⟨context, hcontext⟩ := Option.ne_none_iff_exists'.mp hsome
  have hinstalled := hordered.paired context (.inl hcontext)
  have hnewest := hordered.newest _ hinstalled
  have hbound := hordered.spawned.workerBound _ worker hworker
  obtain ⟨installer, hinstaller⟩ := hordered.worker_of_installed hinstalled
  have hstarted := hordered.worker_lt hinstaller
  have hown : context.session.connect = session.connect := by
    unfold latest at hlatest
    omega
  rcases hordered.done _ hinstalled with hdone | ⟨other, _, hother, hstage⟩
  · rw [hown, hnone] at hdone
    cases hdone
  · rw [hown, hworker] at hother
    cases hother
    rw [hat] at hstage
    cases hstage

theorem state_next (hordered : transport.Ordered) (action : Action)
    (horderly : transport.Orderly codec action)
    (hconnected : transport.shared.state = .connected)
    (hcompleted : transport.history.completed transport.latest ≠ none) :
    (transport.next codec action).shared.state = .connected := by
  cases hwrite : transport.writes codec action with
  | none =>
      rw [next_of_quiet codec hwrite]
      simpa using hconnected
  | some write =>
      obtain ⟨hshared, _, _, hforeign⟩ := hordered.shared_next hwrite
      rw [hshared]
      cases write with
      | storeConnecting connect =>
          have hnone := hordered.of_storeConnecting hwrite
          have hfirst : connect = transport.latest ∨
              transport.history.completed transport.latest = none :=
            horderly _ hwrite
          rcases hfirst with rfl | hfirst
          · exact absurd hnone hcompleted
          · exact absurd hfirst hcompleted
      | storeConnected session => rfl
      | swapClosed | storeClosed | clearSrtp | clearDecrypt | clearSocket =>
          cases hforeign
      | _ => exact hconnected

theorem recent_next (hordered : transport.Ordered) (action : Action)
    (horderly : transport.Orderly codec action) (session : Session)
    (hnow : (transport.next codec action).history.completed
      (transport.next codec action).latest = some session) :
    (transport.next codec action).shared.state = .connected ∧
      (transport.next codec action).Installed session := by
  have hlatest : (transport.next codec action).latest = transport.latest := by
    rcases hordered.latest_next codec action with hsame | hnone
    · exact hsame
    · simp [hnone] at hnow
  rw [hlatest] at hnow
  rcases hordered.completed_next action hnow with
    hbefore | ⟨hown, hwrite | ⟨hwrite, hnone⟩⟩
  · obtain ⟨hconnected, hinstalled⟩ := hordered.recent session hbefore
    exact ⟨hordered.state_next action horderly hconnected (by simp [hbefore]),
      (hordered.installed_next action session).mpr (.inl hinstalled)⟩
  · obtain ⟨hshared, _⟩ := hordered.shared_next hwrite
    obtain ⟨hinstalled, _⟩ := hordered.of_storeConnected hwrite
    exact ⟨by rw [hshared]; rfl,
      (hordered.installed_next action session).mpr (.inl hinstalled)⟩
  · rw [← hown] at hnone
    exact absurd hnone (hordered.skip_latest hwrite hown)

theorem socket_next (hordered : transport.Ordered) (action : Action)
    (connect : Nat) (hsocket :
      (transport.next codec action).shared.udpSocket = some connect) :
    connect < (transport.next codec action).history.bound := by
  have hmonotone := bound_next codec transport action
  cases hwrite : transport.writes codec action with
  | none =>
      rw [next_of_quiet codec hwrite] at hsocket
      exact Nat.lt_of_lt_of_le
        (hordered.socket connect (by simpa using hsocket)) hmonotone
  | some write =>
      obtain ⟨hshared, hhistory, _, hforeign⟩ := hordered.shared_next hwrite
      rw [hshared] at hsocket
      cases write with
      | storeSocket stored =>
          cases hsocket
          rw [hhistory]
          exact Nat.lt_of_lt_of_le (Nat.lt_succ_self _) (Nat.le_max_right _ _)
      | swapClosed | storeClosed | clearSrtp | clearDecrypt | clearSocket =>
          cases hforeign
      | _ => exact Nat.lt_of_lt_of_le (hordered.socket connect hsocket) hmonotone

theorem newest_next (hordered : transport.Ordered) (action : Action)
    (horderly : transport.Orderly codec action) (session : Session)
    (hnow : (transport.next codec action).Installed session) :
    (transport.next codec action).history.bound ≤ session.connect + 1 := by
  rcases hordered.bound_next_cases codec action with
    hbound | ⟨connect, hwrite, hbound⟩
  · rw [hbound]
    rcases (hordered.installed_next action session).mp hnow with
      hbefore | hwrite
    · exact hordered.newest session hbefore
    · exact horderly _ hwrite
  · rw [hbound]
    have hbefore : transport.Installed session := by
      rcases (hordered.installed_next action session).mp hnow with
        hbefore | hinstall
      · exact hbefore
      · simp [hwrite] at hinstall
    have hnewest := hordered.newest session hbefore
    have hearlier : connect ≤ session.connect :=
      (horderly _ hwrite).1 ⟨session, .server⟩ hbefore.srtp
    omega

theorem paired_next (hordered : transport.Ordered) (action : Action)
    (context : SrtpContext)
    (hnow : (transport.next codec action).shared.srtpContext = some context ∨
      (transport.next codec action).shared.decryptSrtpContext = some context) :
    (transport.next codec action).Installed context.session := by
  cases hwrite : transport.writes codec action with
  | none =>
      have hbefore := hordered.paired context (by
        simpa [next_of_quiet codec hwrite] using hnow)
      exact (hordered.installed_next action _).mpr (.inl hbefore)
  | some write =>
      obtain ⟨hshared, _, _, hforeign⟩ := hordered.shared_next hwrite
      rw [hshared] at hnow
      cases write with
      | install session =>
          have hsame : context.session = session := by
            rcases hnow with hnow | hnow <;> cases hnow <;> rfl
          rw [hsame]
          exact (hordered.installed_next action session).mpr (.inr hwrite)
      | swapClosed | storeClosed | clearSrtp | clearDecrypt | clearSocket =>
          cases hforeign
      | _ =>
          have hbefore := hordered.paired context hnow
          exact (hordered.installed_next action _).mpr (.inl hbefore)

end Ordered

theorem closeAt_next (transport : Transport) (action : Action) :
    (transport.next codec action).closeAt =
      (transport.move codec action).closeAt := by
  unfold next
  dsimp only
  split <;> rfl

theorem ordered_new : Ordered new where
  spawned := spawned_new
  closeIdle := rfl
  paired := by simp [new]
  newest := fun session hinstalled => by cases hinstalled.srtp
  socket := by simp [new]
  known := by simp [new]
  pending := by simp [new]
  done := fun session hinstalled => by cases hinstalled.srtp
  recent := by simp [new]

variable {codec} in
theorem ordered_next (transport : Transport) (action : Action)
    (hordered : transport.Ordered)
    (hconforms : transport.NoClose action ∧ transport.Orderly codec action) :
    (transport.next codec action).Ordered where
  spawned := spawned_next codec transport action hordered.spawned
  closeIdle := by
    have hidle := hordered.closeIdle
    have hnoClose := hconforms.1
    rw [closeAt_next]
    by_cases hstep : action = .closeStep
    · subst hstep
      simp [move, hidle, closeTurn]
    · rcases closeAt_move codec hstep with hsame | ⟨_, rfl, _⟩
      · rw [hsame, hidle]
      · exact hnoClose.elim
  paired := hordered.paired_next action
  newest := hordered.newest_next action hconforms.2
  socket := hordered.socket_next action
  known := by
    intro id session hnow
    rcases hordered.completed_next action hnow with
      hbefore | ⟨rfl, hwrite | ⟨hwrite, _⟩⟩
    · obtain ⟨worker, hworker⟩ := hordered.known id session hbefore
      exact Ordered.worker_kept action hworker
    · obtain ⟨_, worker, hworker⟩ := hordered.of_storeConnected hwrite
      exact Ordered.worker_kept action hworker
    · obtain ⟨_, worker, _, hworker, _⟩ := hordered.of_skip hwrite
      exact Ordered.worker_kept action hworker
  pending := by
    intro id worker session batch hworker hstage
    rcases workers_next_cases codec hworker with
      hsame | ⟨input, old, rfl, hold, rfl⟩ | ⟨_, _, hspawn⟩
    · exact (hordered.installed_next action session).mpr
        (.inl (hordered.pending id worker session batch hsame hstage))
    · have hinstalls := installs_of_storeConnected hstage
      exact (hordered.installed_next _ session).mpr
        (.inr (by simp [writes, hold, hinstalls]))
    · obtain ⟨_, _, rfl⟩ := connectTurn_spawn codec hspawn
      cases hstage
  done := by
    intro session hnow
    rcases (hordered.installed_next action session).mp hnow with
      hbefore | hwrite
    · rcases hordered.done session hbefore with
        hdone | ⟨worker, batch, hworker, hat⟩
      · exact .inl (hordered.completed_kept action hbefore (.inl hdone))
      · rcases hordered.pending_kept action hworker hat with hkept | hwrite
        · exact .inr ⟨worker, batch, hkept, hat⟩
        · exact .inl (hordered.completed_kept action hbefore (.inr hwrite))
    · obtain ⟨_, worker, batch, hworker, hat⟩ := hordered.of_install hwrite
      exact .inr ⟨worker, batch, hworker, hat⟩
  recent := hordered.recent_next action hconforms.2

/-- The transport stays coherent over every orderly run in which `close` is not
called. -/
theorem always_coherent (actions : List Action)
    (hnoClose : Along (next codec) NoClose new actions)
    (horderly : Along (next codec) (Orderly codec) new actions) :
    Always (next codec) Coherent new actions :=
  ((along_and.mpr ⟨hnoClose, horderly⟩).always ordered_next ordered_new).mono
    fun _ => Ordered.coherent

/-- A second `connect` after the first one timed out. -/
def dialAgain : List Action :=
  dial 0 ++ [.connectStep 0 .proceed, .connectStep 0 .expire] ++
    dial 1 ++ shake 1 sampleAddr [1] ++
    .send 0 .audio :: List.replicate 5 (.sendStep 0)

theorem coherent_dialAgain :
    Always (next sampleCodec) Coherent new dialAgain ∧
      (after (next sampleCodec) new dialAgain).wire =
        [⟨⟨⟨1, "{}", sampleAddr, [1]⟩, .server⟩, 1, sampleAddr⟩] :=
  ⟨always_coherent sampleCodec dialAgain (by decide +kernel)
    (by decide +kernel), by decide +kernel⟩

/-- After a second `connect` the keys of the first stay, and its own handshake
leaves the transport connecting. -/
theorem reconnect_keeps_old_keys :
    ¬ Always (next sampleCodec) Coherent new
      (dial 0 ++ shake 0 sampleAddr [1] ++ dial 1 ++
        shake 1 sampleAddr [1]) := by
  intro halways
  have hlast := always_iff_prefixes.mp halways _ (List.prefix_refl _)
  have hconnected := (hlast.recent ⟨1, "{}", sampleAddr, [1]⟩
    (by decide +kernel)).1
  exact absurd hconnected (by decide +kernel)

end Transport

end RustTgCalls.Wrtc
