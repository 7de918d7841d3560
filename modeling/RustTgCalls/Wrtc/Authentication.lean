import RustTgCalls.Wrtc.Transport

namespace RustTgCalls.Wrtc

open Media Transition

/-! Whose handshakes the transport takes its keys from.  `digest` computes the
fingerprint of a certificate under a named hash. -/

variable (codec : Codec) (digest : String → Bytes → String)

/-- The handshake was made with the candidate the remote JSON selects, by the
holder of a certificate the JSON names. -/
def Authentic (session : Session) : Prop :=
  ∃ selected ∈ (codec.acceptRemote session.json).toOption,
    session.peerAddr = selected.addr ∧
      ∃ fp ∈ selected.params.fingerprints,
        digest fp.hash session.certificate = fp.fingerprint

instance : DecidablePred (Authentic codec digest) := fun session =>
  inferInstanceAs (Decidable
    (∃ selected ∈ (codec.acceptRemote session.json).toOption, _))

namespace WorkerAt

/-- The stages that hold the lock of the encrypting context. -/
def locks : WorkerAt → Bool
  | .lockDecrypt _ _ | .install _ _ | .storeConnected _ _ | .unlock _ => true
  | _ => false

/-- The stages that have seen a context under the lock. -/
def installed : WorkerAt → Bool
  | .storeConnected _ _ | .unlock _ => true
  | _ => false

/-- The handshake that is completed and not yet tried to install. -/
def inHand (id : Nat) (json : String) : WorkerAt → Option Session
  | .events batch =>
      if .handshakeComplete ∈ batch.left then
        batch.certificate.map fun certificate => ⟨id, json, batch.peerAddr, certificate⟩
      else none
  | .lockSrtp session _ | .lockDecrypt session _ | .install session _ => some session
  | _ => none

end WorkerAt

namespace Transport

/-- Contexts are installed and `Connected` is stored only through authentic
handshakes. -/
structure Authenticated (transport : Transport) : Prop where
  srtp : ∀ context, transport.shared.srtpContext = some context →
    Authentic codec digest context.session
  decrypt : ∀ context, transport.shared.decryptSrtpContext = some context →
    Authentic codec digest context.session
  connected : transport.shared.state = .connected →
    ∃ session, transport.history.connectedBy = some session ∧
      Authentic codec digest session

/-- Each handshake that completes on a datagram is authentic if no context is
installed or being installed, and so is each that a worker has in hand when `close`
clears the context. -/
def Offered (transport : Transport) : Action → Prop
  | .workerStep id (.datagram peerAddr data answer) =>
      transport.shared.srtpContext = none → transport.shared.srtpLocked = false →
        ∀ worker, transport.workers id = some worker → worker.stage = .select →
          ∀ session, (receive peerAddr data answer).inHand id worker.json = some session →
            Authentic codec digest session
  | .closeStep =>
      transport.closeAt = .clearSrtp → transport.shared.srtpLocked = false →
        ∀ id worker, transport.workers id = some worker →
          ∀ session, worker.stage.inHand id worker.json = some session →
            Authentic codec digest session
  | _ => True

/-- A worker with the lock knows whether a context is installed, and what it may
still install is authentic. -/
structure Sound (shared : Shared) (id : Nat) (worker : Worker) : Prop where
  locked : worker.stage.locks = true → shared.srtpLocked = true
  installed : worker.stage.installed = true → shared.srtpContext ≠ none
  pending : shared.srtpContext = none →
    shared.srtpLocked = false ∨ worker.stage.locks = true →
      ∀ session, worker.stage.inHand id worker.json = some session →
        Authentic codec digest session
  connecting : ∀ session batch, worker.stage = .storeConnected session batch →
    Authentic codec digest session

structure Trusted (transport : Transport) : Prop where
  authenticated : transport.Authenticated codec digest
  sound : ∀ id worker, transport.workers id = some worker →
    Sound codec digest transport.shared id worker
  exclusive : ∀ first second one two, transport.workers first = some one →
    transport.workers second = some two → one.stage.locks = true → two.stage.locks = true →
      first = second
  decrypt : transport.shared.decryptLocked = true → transport.shared.srtpLocked = true

theorem trusted_new : Trusted codec digest new := by
  constructor
  · constructor <;> simp [new]
  · simp [new]
  · simp [new]
  · simp [new]

section Sound

variable {codec digest} {shared : Shared} {id : Nat} {worker : Worker}

theorem locks_receive (peerAddr : SocketAddr) (data : Bytes) (answer : DtlsAnswer) :
    (receive peerAddr data answer).locks = false := by
  unfold receive
  repeat' split
  all_goals rfl

/-- Without the lock only what is in hand matters. -/
theorem sound_of_free (hlocks : worker.stage.locks = false)
    (hpending : shared.srtpContext = none → shared.srtpLocked = false →
      ∀ session, worker.stage.inHand id worker.json = some session →
        Authentic codec digest session) :
    Sound codec digest shared id worker := by
  refine ⟨by simp [hlocks], ?_, ?_, ?_⟩
  · intro hinstalled
    revert hlocks
    cases hat : worker.stage <;> simp [hat, WorkerAt.installed, WorkerAt.locks] at hinstalled ⊢
  · intro hnone hturn
    exact hpending hnone (hturn.resolve_right (by simp [hlocks]))
  · intro session batch hat
    simp [hat, WorkerAt.locks] at hlocks

theorem Sound.congr (hsound : Sound codec digest shared id worker) {other : Shared}
    (hcontext : other.srtpContext = shared.srtpContext)
    (hlocked : other.srtpLocked = shared.srtpLocked) : Sound codec digest other id worker := by
  obtain ⟨hheld, hinstalled, hpending, hconnecting⟩ := hsound
  constructor
  · rwa [hlocked]
  · rwa [hcontext]
  · rwa [hcontext, hlocked]
  · exact hconnecting

/-- What a worker's own turn leaves. -/
theorem Sound.turn (hsound : Sound codec digest shared id worker) (input : WorkerInput)
    (hoffered : worker.stage = .select → shared.srtpContext = none →
      shared.srtpLocked = false → ∀ session,
        (workerTurn shared id worker input).1.inHand id worker.json = some session →
          Authentic codec digest session) :
    Sound codec digest
      ((workerTurn shared id worker input).2.elim shared shared.write) id
      { worker with stage := (workerTurn shared id worker input).1 } := by
  obtain ⟨hheld, hinstalled, hpending, hconnecting⟩ := hsound
  unfold workerTurn at hoffered ⊢
  cases hat : worker.stage with
  | loop | ended =>
      apply sound_of_free
      · dsimp only
        first | rfl | (split <;> rfl)
      · dsimp only
        intro _ _ session hhand
        first | cases hhand | (split at hhand <;> cases hhand)
  | select =>
      rw [hat] at hoffered
      apply sound_of_free
      · cases input with
        | proceed | timer => rfl
        | datagram peerAddr data answer => exact locks_receive peerAddr data answer
      · intro hnone hfree session hhand
        cases input with
        | proceed | timer => cases hhand
        | datagram peerAddr data answer => exact hoffered rfl hnone hfree session hhand
  | events batch =>
      rw [hat] at hpending
      dsimp only
      cases hleft : batch.left with
      | nil => exact sound_of_free rfl (by intro _ _ _ hhand; cases hhand)
      | cons event left =>
          have hhand (session : Session) (hmem : .handshakeComplete ∈ event :: left)
              (hsession : batch.certificate.map
                (fun certificate => ⟨id, worker.json, batch.peerAddr, certificate⟩) =
                  some session) :
              (WorkerAt.events batch).inHand id worker.json = some session := by
            simp [WorkerAt.inHand, hleft, hmem, hsession]
          cases event with
          | handshakeComplete =>
              cases hcertificate : batch.certificate with
              | none =>
                  apply sound_of_free rfl
                  simp [WorkerAt.inHand]
              | some certificate =>
                  apply sound_of_free rfl
                  rintro hnone hfree session ⟨⟩
                  exact hpending hnone (.inl hfree) _
                    (hhand _ List.mem_cons_self (by simp [hcertificate]))
          | other =>
              apply sound_of_free rfl
              intro hnone hfree session hlater
              simp only [WorkerAt.inHand] at hlater
              split at hlater
              next hmem =>
                exact hpending hnone (.inl hfree) _
                  (hhand session (List.mem_cons_of_mem _ hmem) hlater)
              next => cases hlater
  | lockSrtp session batch =>
      rw [hat] at hpending
      cases hlock : shared.srtpLocked with
      | true =>
          apply sound_of_free rfl
          intro hnone hfree
          exact hpending hnone (.inl hfree)
      | false =>
          refine ⟨fun _ => rfl, by simp [WorkerAt.installed], ?_, by simp⟩
          intro hnone _
          exact hpending hnone (.inl hlock)
  | lockDecrypt session batch =>
      rw [hat] at hheld hpending
      have hlocked := hheld rfl
      cases hlock : shared.decryptLocked with
      | true =>
          refine ⟨fun _ => hlocked, by simp [WorkerAt.installed], ?_, by simp⟩
          intro hnone _
          exact hpending hnone (.inr rfl)
      | false =>
          refine ⟨fun _ => hlocked, by simp [WorkerAt.installed], ?_, by simp⟩
          intro hnone _
          exact hpending hnone (.inr rfl)
  | install session batch =>
      rw [hat] at hheld hpending
      have hlocked := hheld rfl
      cases hcontext : shared.srtpContext with
      | none =>
          have hauthentic := hpending hcontext (.inr rfl) session rfl
          refine ⟨fun _ => hlocked, fun _ => by simp [Shared.write], ?_, ?_⟩
          · intro hnone
            cases hnone
          · rintro _ _ ⟨⟩
            exact hauthentic
      | some context =>
          refine ⟨fun _ => hlocked, ?_, ?_, by simp⟩
          · intro _ hnone
            simp [Shared.write, hcontext] at hnone
          · intro _ _ session hhand
            cases hhand
  | storeConnected session batch =>
      rw [hat] at hheld hinstalled
      refine ⟨fun _ => hheld rfl, fun _ => hinstalled rfl, ?_, by simp⟩
      intro _ _ session hhand
      cases hhand
  | unlock batch =>
      rw [hat] at hinstalled
      apply sound_of_free rfl
      intro hnone
      exact absurd hnone (hinstalled rfl)

/-- A step of another task leaves a worker as sound as it was. -/
theorem Sound.foreign (hsound : Sound codec digest shared id worker) {write : Write}
    (hwrite : write.ofWorker = false) (hclear : write ≠ .clearSrtp) :
    Sound codec digest (shared.write write) id worker := by
  apply hsound.congr
  · cases write <;> first | rfl | exact absurd rfl hclear | cases hwrite
  · cases write <;> first | rfl | cases hwrite

theorem Sound.clear (hsound : Sound codec digest shared id worker)
    (hfree : shared.srtpLocked = false)
    (hoffered : ∀ session, worker.stage.inHand id worker.json = some session →
      Authentic codec digest session) :
    Sound codec digest (shared.write .clearSrtp) id worker := by
  apply sound_of_free
  · by_contra hlocks
    have hlocked := hsound.locked (by simpa using hlocks)
    rw [hfree] at hlocked
    cases hlocked
  · exact fun _ _ => hoffered

/-- A worker that does not hold the lock is untouched by the one whose turn it is. -/
theorem Sound.other (hsound : Sound codec digest shared id worker) {which : Nat}
    {turning : Worker} {write : Write} {stage : WorkerAt}
    (hturning : Sound codec digest shared which turning)
    (hwrites : WorkerWrites shared turning write stage)
    (hexclusive : worker.stage.locks = true → turning.stage.locks = false) :
    Sound codec digest (shared.write write) id worker := by
  cases hwrites with
  | lockSrtp session batch hat hfree =>
      refine ⟨fun _ => rfl, hsound.installed, ?_, hsound.connecting⟩
      intro hnone _
      exact hsound.pending hnone (.inl hfree)
  | lockDecrypt session batch hat _ => exact hsound.congr rfl rfl
  | install session batch hat _ =>
      refine ⟨hsound.locked, fun _ => by simp [Shared.write], ?_, hsound.connecting⟩
      intro hnone
      cases hnone
  | skip session batch hat _ => exact hsound.congr rfl rfl
  | storeConnected session batch hat => exact hsound.congr rfl rfl
  | unlock batch hat =>
      have hlocks : worker.stage.locks = false := by
        by_contra hlocks
        have hnot := hexclusive (by simpa using hlocks)
        rw [hat] at hnot
        cases hnot
      apply sound_of_free hlocks
      intro hnone
      exact absurd hnone (hturning.installed (by rw [hat]; rfl))

end Sound

theorem Authenticated.write {transport : Transport}
    (hauthenticated : transport.Authenticated codec digest) {write : Write}
    (hinstall : ∀ session, write = .install session →
      Authentic codec digest session)
    (hconnected : ∀ session, write = .storeConnected session →
      Authentic codec digest session) (moved : Transport)
    (hshared : moved.shared = transport.shared.write write)
    (hhistory : moved.history = transport.history.record write) :
    moved.Authenticated codec digest := by
  obtain ⟨hsrtp, hdecrypt, hstate⟩ := hauthenticated
  constructor <;> rw [hshared]
  · cases write with
    | install session =>
        rintro context hcontext
        cases hcontext
        exact hinstall session rfl
    | clearSrtp => simp [Shared.write]
    | _ => exact hsrtp
  · cases write with
    | install session =>
        rintro context hcontext
        cases hcontext
        exact hinstall session rfl
    | clearDecrypt => simp [Shared.write]
    | _ => exact hdecrypt
  · rw [hhistory]
    cases write with
    | storeConnected session =>
        intro _
        exact ⟨session, rfl, hconnected session rfl⟩
    | storeConnecting _ | storeClosed => simp [Shared.write]
    | _ => exact hstate

theorem authenticated_next (transport : Transport) (action : Action)
    (htrusted : transport.Trusted codec digest) :
    (transport.next codec action).Authenticated codec digest := by
  have hauthenticated := htrusted.authenticated
  cases hwrite : transport.writes codec action with
  | none =>
      rw [next_of_quiet codec hwrite]
      constructor
      · simpa using hauthenticated.srtp
      · simpa using hauthenticated.decrypt
      · simpa using hauthenticated.connected
  | some write =>
      have hinstall : ∀ session, write = .install session →
          Authentic codec digest session := by
        rintro session rfl
        obtain ⟨id, _, worker, _, hworker, hwrites⟩ := worker_of_write codec hwrite rfl
        have hsound := htrusted.sound id worker hworker
        generalize (workerTurn _ _ _ _).1 = stage at hwrites
        cases hwrites with
        | install _ batch hat hnone =>
            exact hsound.pending hnone (.inr (by rw [hat]; rfl)) session (by rw [hat]; rfl)
      have hconnected : ∀ session, write = .storeConnected session →
          Authentic codec digest session := by
        rintro session rfl
        obtain ⟨id, _, worker, _, hworker, hwrites⟩ := worker_of_write codec hwrite rfl
        generalize (workerTurn _ _ _ _).1 = stage at hwrites
        cases hwrites with
        | storeConnected _ batch hat =>
            exact (htrusted.sound id worker hworker).connecting session batch hat
      exact hauthenticated.write codec digest hinstall hconnected _
        (by simp [next_of_write codec hwrite])
        (by simp [next_of_write codec hwrite])

/-- Only the lock that was free is taken. -/
theorem locks_turn {shared : Shared} {id : Nat} {worker : Worker} {input : WorkerInput}
    (hlocks : (workerTurn shared id worker input).1.locks = true) :
    worker.stage.locks = true ∨ shared.srtpLocked = false := by
  unfold workerTurn at hlocks
  cases hat : worker.stage with
  | lockDecrypt _ _ | install _ _ | storeConnected _ _ | unlock _ => exact .inl rfl
  | lockSrtp session batch =>
      right
      by_contra hlocked
      simp only [Bool.not_eq_false] at hlocked
      simp [hat, hlocked, WorkerAt.locks] at hlocks
  | loop =>
      simp only [hat] at hlocks
      split at hlocks <;> cases hlocks
  | ended => simp [hat, WorkerAt.locks] at hlocks
  | select =>
      cases input with
      | proceed | timer => simp [hat, WorkerAt.locks] at hlocks
      | datagram peerAddr data answer => simp [hat, locks_receive] at hlocks
  | events batch =>
      simp only [hat] at hlocks
      repeat' split at hlocks
      all_goals cases hlocks

theorem trusted_workerStep {transport : Transport} {id : Nat} {worker : Worker}
    (hworker : transport.workers id = some worker) (input : WorkerInput)
    (htrusted : transport.Trusted codec digest)
    (hoffered : transport.Offered codec digest (.workerStep id input)) :
    (transport.next codec (.workerStep id input)).Trusted codec digest := by
  have hsound := htrusted.sound id worker hworker
  have hshared : (transport.next codec (.workerStep id input)).shared =
      (workerTurn transport.shared id worker input).2.elim transport.shared
        transport.shared.write := by
    rw [shared_next, writes, hworker]
  have hworkers : (transport.next codec (.workerStep id input)).workers =
      Function.update transport.workers id
        (some { worker with stage := (workerTurn transport.shared id worker input).1 }) := by
    rw [workers_next, move, hworker]
  have hothers (other : Nat) (each : Worker) (hother : other ≠ id)
      (heach : transport.workers other = some each) (hlocks : each.stage.locks = true) :
      worker.stage.locks = false := by
    by_contra hown
    exact hother (htrusted.exclusive other id each worker heach hworker hlocks
      (by simpa using hown))
  constructor
  · exact authenticated_next codec digest transport _ htrusted
  · intro other each heach
    rw [hshared]
    rw [hworkers] at heach
    by_cases hother : other = id
    · subst hother
      obtain rfl : { worker with
          stage := (workerTurn transport.shared other worker input).1 } = each := by
        simpa using heach
      apply hsound.turn
      intro hat hnone hfree session hhand
      cases input with
      | proceed | timer => simp [workerTurn, hat, WorkerAt.inHand] at hhand
      | datagram peerAddr data answer =>
          simp only [workerTurn, hat] at hhand
          exact hoffered hnone hfree worker hworker hat session hhand
    · have hsame : transport.workers other = some each := by simpa [hother] using heach
      have heachSound := htrusted.sound other each hsame
      cases hwrite : (workerTurn transport.shared id worker input).2 with
      | none => exact heachSound
      | some write =>
          exact heachSound.other hsound (workerTurn_write hwrite) (hothers other each hother hsame)
  · rw [hworkers]
    intro first second one two hone htwo hfirst hsecond
    have hlocked (other : Nat) (each : Worker) (heach : transport.workers other = some each)
        (hlocks : each.stage.locks = true) (hother : other ≠ id)
        (hturn : (workerTurn transport.shared id worker input).1.locks = true) : False := by
      obtain hown | hfree := locks_turn hturn
      · simp [hothers other each hother heach hlocks] at hown
      · simp [(htrusted.sound other each heach).locked hlocks] at hfree
    by_cases hisFirst : first = id <;> by_cases hisSecond : second = id
    · rw [hisFirst, hisSecond]
    · subst hisFirst
      simp only [Function.update_self, Option.some.injEq] at hone
      subst hone
      exact (hlocked second two (by simpa [hisSecond] using htwo) hsecond hisSecond hfirst).elim
    · subst hisSecond
      simp only [Function.update_self, Option.some.injEq] at htwo
      subst htwo
      exact (hlocked first one (by simpa [hisFirst] using hone) hfirst hisFirst hsecond).elim
    · exact htrusted.exclusive first second one two (by simpa [hisFirst] using hone)
        (by simpa [hisSecond] using htwo) hfirst hsecond
  · rw [hshared]
    cases hwrite : (workerTurn transport.shared id worker input).2 with
    | none => exact htrusted.decrypt
    | some write =>
        have hwrites := workerTurn_write hwrite
        generalize (workerTurn transport.shared id worker input).1 = stage at hwrites
        cases hwrites with
        | lockDecrypt _ _ hat _ => exact fun _ => hsound.locked (by rw [hat]; rfl)
        | lockSrtp _ _ _ _ => exact fun _ => rfl
        | unlock _ _ => simp [Shared.write]
        | install _ _ _ _ | skip _ _ _ _ | storeConnected _ _ _ => exact htrusted.decrypt

/-- What a step leaves that no worker makes. -/
theorem trusted_foreign {transport : Transport} {action : Action}
    (htrusted : transport.Trusted codec digest)
    (hworkers : ∀ id worker, (transport.next codec action).workers id = some worker →
      transport.workers id = some worker ∨ worker.stage = .loop)
    (hwrite : ∀ write, transport.writes codec action = some write → write.ofWorker = false)
    (hclear : transport.writes codec action = some .clearSrtp →
      transport.shared.srtpLocked = false ∧ ∀ id worker, transport.workers id = some worker →
        ∀ session, worker.stage.inHand id worker.json = some session →
          Authentic codec digest session) :
    (transport.next codec action).Trusted codec digest := by
  have hkept (write : Write) (hforeign : write.ofWorker = false) :
      (transport.shared.write write).decryptLocked = transport.shared.decryptLocked ∧
        (transport.shared.write write).srtpLocked = transport.shared.srtpLocked := by
    cases write <;> first | exact ⟨rfl, rfl⟩ | cases hforeign
  constructor
  · exact authenticated_next codec digest transport action htrusted
  · intro id worker hworker
    rw [shared_next]
    obtain hsame | hloop := hworkers id worker hworker
    · have hsound := htrusted.sound id worker hsame
      cases hwrites : transport.writes codec action with
      | none => exact hsound
      | some write =>
          by_cases hclears : write = .clearSrtp
          · subst hclears
            obtain ⟨hfree, hhand⟩ := hclear hwrites
            exact hsound.clear hfree (hhand id worker hsame)
          · exact hsound.foreign (hwrite write hwrites) hclears
    · apply sound_of_free
      · rw [hloop]
        rfl
      · rw [hloop]
        intro _ _ session hhand
        cases hhand
  · intro first second one two hone htwo hfirst hsecond
    have hold (id : Nat) (worker : Worker)
        (hworker : (transport.next codec action).workers id = some worker)
        (hlocks : worker.stage.locks = true) : transport.workers id = some worker := by
      refine (hworkers id worker hworker).resolve_right fun hloop => ?_
      rw [hloop] at hlocks
      cases hlocks
    exact htrusted.exclusive first second one two (hold first one hone hfirst)
      (hold second two htwo hsecond) hfirst hsecond
  · rw [shared_next]
    cases hwrites : transport.writes codec action with
    | none => exact htrusted.decrypt
    | some write =>
        obtain ⟨hdecrypt, hsrtp⟩ := hkept write (hwrite write hwrites)
        simpa [hdecrypt, hsrtp] using htrusted.decrypt

theorem clear_of_closeTurn {shared : Shared} {stage : CloseAt}
    (hclear : (closeTurn shared stage).2 = some .clearSrtp) :
    stage = .clearSrtp ∧ shared.srtpLocked = false := by
  cases stage with
  | clearSrtp =>
      simp only [closeTurn] at hclear
      split at hclear
      · cases hclear
      next hfree => exact ⟨rfl, by simpa using hfree⟩
  | swapClosed | clearDecrypt =>
      simp only [closeTurn] at hclear
      split at hclear <;> cases hclear
  | idle | storeClosed | clearSocket | returned => cases hclear

theorem trusted_next (transport : Transport) (action : Action)
    (htrusted : transport.Trusted codec digest)
    (hoffered : transport.Offered codec digest action) :
    (transport.next codec action).Trusted codec digest := by
  cases action with
  | workerStep id input =>
      cases hworker : transport.workers id with
      | some worker => exact trusted_workerStep codec digest hworker input htrusted hoffered
      | none =>
          have hsame : transport.next codec (.workerStep id input) = transport := by
            simp [next, writes, move, hworker]
          rwa [hsame]
  | connectStep id input =>
      apply trusted_foreign codec digest htrusted
      · intro other worker hworker
        obtain hsame | ⟨_, _, haction, _⟩ | ⟨_, haction, hspawn⟩ :=
          workers_next_cases codec hworker
        · exact .inl hsame
        · cases haction
        · obtain ⟨_, _, rfl⟩ := connectTurn_spawn codec hspawn
          exact .inr rfl
      · exact fun write hwrite => (foreign_connectTurn codec hwrite).2
      · intro hclear
        obtain ⟨hforeign, _⟩ := foreign_connectTurn codec hclear
        cases hforeign
  | closeStep =>
      apply trusted_foreign codec digest htrusted
      · exact fun _ _ hworker => .inl (by simpa [move] using hworker)
      · exact fun write hwrite => (foreign_closeTurn hwrite).2
      · intro hclear
        obtain ⟨hat, hfree⟩ := clear_of_closeTurn hclear
        exact ⟨hfree, hoffered hat hfree⟩
  | connect _ | close | send _ _ | sendStep _ =>
      apply trusted_foreign codec digest htrusted
      · intro id worker hworker
        rw [workers_next] at hworker
        simp only [move] at hworker
        first
          | exact .inl hworker
          | (split at hworker <;> exact .inl hworker)
      · intro write hwrite
        cases hwrite
      · intro hclear
        cases hclear

/-! The worker that has a handshake in hand goes on to install it, if the lock is
free and no context is installed. -/

section Install

variable {codec} {transport : Transport} {id : Nat} {worker : Worker}

theorem shared_proceed (codec : Codec) (hworker : transport.workers id = some worker) :
    (transport.next codec (.workerStep id .proceed)).shared =
      (workerTurn transport.shared id worker .proceed).2.elim transport.shared
        transport.shared.write := by
  rw [shared_next, writes, hworker]

theorem workers_proceed (codec : Codec)
    (hworker : transport.workers id = some worker) :
    (transport.next codec (.workerStep id .proceed)).workers id =
      some { worker with stage := (workerTurn transport.shared id worker .proceed).1 } := by
  rw [workers_next, move, hworker]
  exact Function.update_self ..

/-- A worker goes on by itself. -/
def goingOn (id count : Nat) : List Action := List.replicate count (.workerStep id .proceed)

def goesOn (codec : Codec) (transport : Transport) (id count : Nat) : Transport :=
  after (next codec) transport (goingOn id count)

theorem install_of_lockSrtp {session : Session} {batch : Batch}
    (hworker : transport.workers id = some worker)
    (hat : worker.stage = .lockSrtp session batch)
    (hnone : transport.shared.srtpContext = none)
    (hsrtp : transport.shared.srtpLocked = false)
    (hdecrypt : transport.shared.decryptLocked = false) :
    (goesOn codec transport id 3).shared.srtpContext = some ⟨session, .server⟩ := by
  have hworkerFirst := workers_proceed codec hworker
  have hsharedFirst := shared_proceed codec hworker
  simp only [workerTurn, hat, hsrtp, Bool.false_eq_true, if_false, Option.elim_some,
    Shared.write] at hworkerFirst hsharedFirst
  have hworkerSecond := workers_proceed codec hworkerFirst
  have hsharedSecond := shared_proceed codec hworkerFirst
  simp only [workerTurn, hsharedFirst, hdecrypt, Bool.false_eq_true, if_false, Option.elim_some,
    Shared.write] at hworkerSecond hsharedSecond
  have hsharedInstall := shared_proceed codec hworkerSecond
  simp only [workerTurn, hsharedSecond, hnone, Option.isNone_none, if_true, Option.elim_some,
    Shared.write] at hsharedInstall
  simp only [goesOn, goingOn, List.replicate, after_cons, after_nil, hsharedInstall]

theorem install_of_events {left : List EndpointEvent} {session : Session} {batch : Batch}
    (hworker : transport.workers id = some worker) (hleft : batch.left = left)
    (hat : worker.stage = .events batch)
    (hhand : worker.stage.inHand id worker.json = some session)
    (hnone : transport.shared.srtpContext = none)
    (hsrtp : transport.shared.srtpLocked = false)
    (hdecrypt : transport.shared.decryptLocked = false) :
    ∃ count, (goesOn codec transport id count).shared.srtpContext =
      some ⟨session, .server⟩ := by
  simp only [hat, WorkerAt.inHand] at hhand
  split at hhand
  next hmem =>
    obtain ⟨certificate, hcertificate, rfl⟩ := Option.map_eq_some_iff.mp hhand
    induction left generalizing transport worker batch with
    | nil => simp [hleft] at hmem
    | cons event left ih =>
        have hworkerNext := workers_proceed codec hworker
        have hsharedNext := shared_proceed codec hworker
        cases event with
        | handshakeComplete =>
            simp only [workerTurn, hat, hleft, hcertificate, Option.elim_none]
              at hworkerNext hsharedNext
            exact ⟨4, install_of_lockSrtp hworkerNext rfl (by rwa [hsharedNext])
              (by rwa [hsharedNext]) (by rwa [hsharedNext])⟩
        | other =>
            simp only [workerTurn, hat, hleft, Option.elim_none] at hworkerNext hsharedNext
            have htail : .handshakeComplete ∈ left := by simpa [hleft] using hmem
            obtain ⟨count, hcount⟩ := ih hworkerNext rfl rfl (by rwa [hsharedNext])
              (by rwa [hsharedNext]) (by rwa [hsharedNext]) htail hcertificate
              (by simp [hcertificate])
            exact ⟨count + 1, hcount⟩
  next => cases hhand

/-- Whatever a worker has in hand is installed if it alone goes on. -/
theorem install_of_inHand {session : Session} (hworker : transport.workers id = some worker)
    (hlocks : worker.stage.locks = false)
    (hhand : worker.stage.inHand id worker.json = some session)
    (hnone : transport.shared.srtpContext = none)
    (hsrtp : transport.shared.srtpLocked = false)
    (hdecrypt : transport.shared.decryptLocked = false) :
    ∃ count, (goesOn codec transport id count).shared.srtpContext =
      some ⟨session, .server⟩ := by
  cases hat : worker.stage with
  | events batch => exact install_of_events hworker rfl hat hhand hnone hsrtp hdecrypt
  | lockSrtp held batch =>
      rw [hat] at hhand
      cases hhand
      exact ⟨3, install_of_lockSrtp hworker hat hnone hsrtp hdecrypt⟩
  | lockDecrypt _ _ | install _ _ | storeConnected _ _ | unlock _ =>
      rw [hat] at hlocks
      cases hlocks
  | loop | select | ended =>
      rw [hat] at hhand
      cases hhand

end Install

/-- Authenticated throughout, however a worker goes on from where the run stands. -/
def Prevails (transport : Transport) : Prop :=
  ∀ id count, (goesOn codec transport id count).Authenticated codec digest

/-- No peer has a say in that. -/
theorem along_goingOn (transport : Transport) (id count : Nat) :
    Along (next codec) (Offered codec digest) transport (goingOn id count) := by
  induction count generalizing transport with
  | zero => trivial
  | succ count ih => exact ⟨trivial, ih _⟩

theorem prevails_of_trusted {transport : Transport} (htrusted : transport.Trusted codec digest) :
    transport.Prevails codec digest := by
  intro id count
  exact ((along_goingOn codec digest transport id count).invariant
    (trusted_next codec digest) htrusted).authenticated

/-- A handshake in hand that is not authentic would be installed. -/
theorem authentic_of_prevails {transport : Transport}
    (hprevails : transport.Prevails codec digest) {id : Nat} {worker : Worker}
    {session : Session} (hworker : transport.workers id = some worker)
    (hlocks : worker.stage.locks = false)
    (hhand : worker.stage.inHand id worker.json = some session)
    (hnone : transport.shared.srtpContext = none)
    (hsrtp : transport.shared.srtpLocked = false)
    (hdecrypt : transport.shared.decryptLocked = false) :
    Authentic codec digest session := by
  obtain ⟨count, hinstalled⟩ := install_of_inHand hworker hlocks hhand hnone hsrtp hdecrypt
  exact (hprevails id count).srtp _ hinstalled

theorem offered_of_prevails {transport : Transport} {action : Action}
    (htrusted : transport.Trusted codec digest)
    (hprevails : (transport.next codec action).Prevails codec digest) :
    transport.Offered codec digest action := by
  have hunlocked (hfree : transport.shared.srtpLocked = false) :
      transport.shared.decryptLocked = false := by
    by_contra hlocked
    have hheld := htrusted.decrypt (by simpa using hlocked)
    rw [hfree] at hheld
    cases hheld
  cases action with
  | workerStep id input =>
      cases input with
      | proceed | timer => trivial
      | datagram peerAddr data answer =>
          intro hnone hfree worker hworker hat session hhand
          have hshared : (transport.next codec
              (.workerStep id (.datagram peerAddr data answer))).shared = transport.shared := by
            simp [shared_next, writes, hworker, workerTurn, hat]
          have hworkers : (transport.next codec
              (.workerStep id (.datagram peerAddr data answer))).workers id =
                some { worker with stage := receive peerAddr data answer } := by
            simp [move, hworker, workerTurn, hat]
          exact authentic_of_prevails codec digest hprevails hworkers (locks_receive ..) hhand
            (by rwa [hshared]) (by rwa [hshared]) (by rw [hshared]; exact hunlocked hfree)
  | closeStep =>
      intro hat hfree id worker hworker session hhand
      have hshared : (transport.next codec .closeStep).shared =
          transport.shared.write .clearSrtp := by
        simp [shared_next, writes, closeTurn, hat, hfree]
      have hworkers : (transport.next codec .closeStep).workers id = some worker := by
        simpa [move] using hworker
      have hlocks : worker.stage.locks = false := by
        by_contra hlocks
        have hheld := (htrusted.sound id worker hworker).locked (by simpa using hlocks)
        rw [hfree] at hheld
        cases hheld
      exact authentic_of_prevails codec digest hprevails hworkers hlocks hhand
        (by rw [hshared]; rfl) (by rw [hshared]; exact hfree)
        (by rw [hshared]; exact hunlocked hfree)
  | connect _ | connectStep _ _ | close | send _ _ | sendStep _ => trivial

theorem prevails_iff_offered (actions : List Action) :
    Always (next codec) (Prevails codec digest) new actions ↔
      Along (next codec) (Offered codec digest) new actions :=
  always_iff_along (fun _ => prevails_of_trusted codec digest) (trusted_next codec digest)
    (fun _ _ => offered_of_prevails codec digest) (trusted_new codec digest)

/-- The keys are authenticated throughout a run, and however a worker goes on from
any of its states, exactly if the handshakes are that peers complete while there is
a context to install. -/
theorem always_authenticated_iff (actions : List Action) :
    (∀ first, first <+: actions → ∀ id count,
      Always (next codec) (Authenticated codec digest) new (first ++ goingOn id count)) ↔
        Along (next codec) (Offered codec digest) new actions := by
  rw [← prevails_iff_offered]
  constructor
  · intro hruns
    rw [always_iff_prefixes]
    intro first hfirst id count
    have hlast := (hruns first hfirst id count).after
    rwa [after_append] at hlast
  · rintro halways first ⟨later, rfl⟩ id count
    have halong := (prevails_iff_offered codec digest _).mp halways
    have hrun : Along (next codec) (Offered codec digest) new (first ++ goingOn id count) :=
      along_append.mpr ⟨(along_append.mp halong).1, along_goingOn codec digest _ id count⟩
    exact (hrun.always (trusted_next codec digest) (trusted_new codec digest)).mono
      fun _ htrusted => htrusted.authenticated

/-- A stranger with a certificate nobody announced completes a handshake. -/
theorem stranger_connects :
    ¬ Always (next sampleCodec)
      (Authenticated sampleCodec fun _ _ => "BB") new
      (dial 0 ++ shake 0 ⟨.v4 0x06060606, 666⟩ [1]) := by
  intro halways
  have hlast := always_iff_prefixes.mp halways _ (List.prefix_refl _)
  have hauthentic := hlast.srtp
    ⟨⟨0, "{}", ⟨.v4 0x06060606, 666⟩, [1]⟩, .server⟩ (by decide +kernel)
  exact absurd hauthentic (by decide +kernel)

end Transport

end RustTgCalls.Wrtc
