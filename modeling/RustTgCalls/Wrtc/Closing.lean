import RustTgCalls.Wrtc.Transport

namespace RustTgCalls.Wrtc

open Transition

/-! What `close` has cleared, and what may still be written behind it. -/

namespace CloseAt

def pastStore : CloseAt → Bool
  | .idle | .swapClosed | .storeClosed => false
  | .clearSrtp | .clearDecrypt | .clearSocket | .returned => true

def pastSrtp : CloseAt → Bool
  | .clearDecrypt | .clearSocket | .returned => true
  | _ => false

def pastDecrypt : CloseAt → Bool
  | .clearSocket | .returned => true
  | _ => false

end CloseAt

namespace Write

def timely (closeAt : CloseAt) : Write → Bool
  | .storeConnecting _ | .storeConnected _ => !closeAt.pastStore
  | .install _ => !closeAt.pastSrtp
  | .storeSocket _ => closeAt != .returned
  | _ => true

end Write

/-- What `close` has done so far is still so. -/
structure Cleared (closeAt : CloseAt) (shared : Shared) : Prop where
  opened : closeAt = .idle ∨ closeAt = .swapClosed → shared.closed = false
  state : closeAt.pastStore = true → shared.state = .closed
  srtp : closeAt.pastSrtp = true → shared.srtpContext = none
  decrypt : closeAt.pastDecrypt = true → shared.decryptSrtpContext = none
  socket : closeAt = .returned → shared.udpSocket = none

def Reopened (closeAt : CloseAt) (shared : Shared) : Prop :=
  closeAt.pastStore = true ∧ shared.state ≠ .closed ∨
    closeAt.pastSrtp = true ∧ shared.srtpContext ≠ none ∨
    closeAt = .returned ∧ shared.udpSocket ≠ none

section Writes

variable {closeAt : CloseAt} {shared : Shared}

theorem Cleared.write {write : Write} (hcleared : Cleared closeAt shared)
    (hforeign : write.foreign = true) (htimely : write.timely closeAt = true) :
    Cleared closeAt (shared.write write) := by
  obtain ⟨hopened, hstate, hsrtp, hdecrypt, hsocket⟩ := hcleared
  have hpast : closeAt.pastDecrypt = true → closeAt.pastSrtp = true := by
    cases closeAt <;> simp [CloseAt.pastDecrypt, CloseAt.pastSrtp]
  cases write with
  | storeConnecting connect | storeConnected session =>
      have hearly : closeAt.pastStore = false := by
        simpa [Write.timely] using htimely
      exact ⟨hopened, by simp [hearly], hsrtp, hdecrypt, hsocket⟩
  | install session =>
      have hearly : closeAt.pastSrtp = false := by
        simpa [Write.timely] using htimely
      refine ⟨hopened, hstate, by simp [hearly], ?_, hsocket⟩
      intro hlate
      simp [hpast hlate] at hearly
  | storeSocket connect =>
      have hearly : closeAt ≠ .returned := by simpa [Write.timely] using htimely
      exact ⟨hopened, hstate, hsrtp, hdecrypt, fun hlate => absurd hlate hearly⟩
  | storeRemote _ _ | lockSrtp | lockDecrypt | skip _ | unlock =>
      exact ⟨hopened, hstate, hsrtp, hdecrypt, hsocket⟩
  | swapClosed | storeClosed | clearSrtp | clearDecrypt | clearSocket =>
      simp [Write.foreign] at hforeign

theorem Reopened.write {write : Write} (hreopened : Reopened closeAt shared)
    (hforeign : write.foreign = true) :
    Reopened closeAt (shared.write write) := by
  rcases hreopened with ⟨hpast, hstate⟩ | ⟨hpast, hsrtp⟩ | ⟨hpast, hsocket⟩
  · refine .inl ⟨hpast, ?_⟩
    cases write <;> simp_all [Shared.write, Write.foreign]
  · refine .inr (.inl ⟨hpast, ?_⟩)
    cases write <;> simp_all [Shared.write, Write.foreign]
  · refine .inr (.inr ⟨hpast, ?_⟩)
    cases write <;> simp_all [Shared.write, Write.foreign]

theorem reopened_of_late {write : Write}
    (hlate : write.timely closeAt = false) :
    Reopened closeAt (shared.write write) := by
  cases write with
  | storeConnecting connect | storeConnected session =>
      exact .inl ⟨by simpa [Write.timely] using hlate, by simp [Shared.write]⟩
  | install session =>
      exact .inr (.inl
        ⟨by simpa [Write.timely] using hlate, by simp [Shared.write]⟩)
  | storeSocket connect =>
      exact .inr (.inr
        ⟨by simpa [Write.timely] using hlate, by simp [Shared.write]⟩)
  | storeRemote _ _ | lockSrtp | lockDecrypt | skip _ | unlock | swapClosed
  | storeClosed | clearSrtp | clearDecrypt | clearSocket =>
      simp [Write.timely] at hlate

theorem foreign_of_late {write : Write} (hlate : write.timely closeAt = false) :
    write.foreign = true := by
  cases write <;> simp_all [Write.timely, Write.foreign]

end Writes

namespace Transport

variable (codec : Codec)

/-- Once `close` has returned, the transport is closed and empty. -/
def StaysClosed (transport : Transport) : Prop :=
  transport.closeAt = .returned →
    transport.shared.state = .closed ∧
      transport.shared.srtpContext = none ∧
      transport.shared.decryptSrtpContext = none ∧
      transport.shared.udpSocket = none

def Damaged (transport : Transport) : Prop :=
  Reopened transport.closeAt transport.shared

/-- What the step writes comes before `close` has done with the field. -/
def Timely (transport : Transport) (action : Action) : Prop :=
  ∀ write ∈ transport.writes codec action,
    write.timely transport.closeAt = true

instance (transport : Transport) : DecidablePred (Timely codec transport) :=
  fun action => inferInstanceAs
    (Decidable (∀ write ∈ transport.writes codec action, _))

theorem next_elsewhere (transport : Transport) (action : Action)
    (helsewhere : action ≠ .closeStep) :
    ((transport.next codec action).closeAt = transport.closeAt ∨
      transport.closeAt = .idle ∧
        (transport.next codec action).closeAt = .swapClosed) ∧
      ((transport.next codec action).shared = transport.shared ∧
          transport.writes codec action = none ∨
        ∃ write, transport.writes codec action = some write ∧
          write.foreign = true ∧
          (transport.next codec action).shared =
            transport.shared.write write) := by
  have hcloseAt : (transport.move codec action).closeAt = transport.closeAt ∨
      transport.closeAt = .idle ∧
        (transport.move codec action).closeAt = .swapClosed :=
    (closeAt_move codec helsewhere).imp_right fun ⟨hidle, _, hcalled⟩ =>
      ⟨hidle, hcalled⟩
  cases hwrite : transport.writes codec action with
  | none =>
      rw [next_of_quiet codec hwrite]
      exact ⟨hcloseAt, .inl ⟨shared_move codec transport action, rfl⟩⟩
  | some write =>
      rw [next_of_write codec hwrite]
      refine ⟨hcloseAt, .inr ⟨write, rfl, ?_, rfl⟩⟩
      rcases writes_cases codec hwrite with
        ⟨_, _, _, hturn⟩ | ⟨_, _, _, _, _, hturn⟩ | ⟨hclose, _⟩
      · exact (foreign_connectTurn codec hturn).1
      · exact (workerTurn_write hturn).foreign
      · exact absurd hclose helsewhere

def closed (shared : Shared) (closeAt : CloseAt) : Shared :=
  match (closeTurn shared closeAt).2 with
  | some write => shared.write write
  | none => shared

theorem next_closeStep (transport : Transport) :
    (transport.next codec .closeStep).closeAt =
        (closeTurn transport.shared transport.closeAt).1 ∧
      (transport.next codec .closeStep).shared =
        closed transport.shared transport.closeAt := by
  cases hturn : (closeTurn transport.shared transport.closeAt).2 with
  | none =>
      have hquiet : transport.writes codec .closeStep = none := hturn
      rw [next_of_quiet codec hquiet]
      exact ⟨rfl, by simp [closed, hturn]⟩
  | some write =>
      have hwrite : transport.writes codec .closeStep = some write := hturn
      rw [next_of_write codec hwrite]
      exact ⟨rfl, by simp [closed, hturn]⟩

theorem cleared_closeTurn {closeAt : CloseAt} {shared : Shared}
    (hcleared : Cleared closeAt shared) :
    Cleared (closeTurn shared closeAt).1 (closed shared closeAt) := by
  have hcleared' := hcleared
  obtain ⟨hopened, hstate, hsrtp, hdecrypt, hsocket⟩ := hcleared
  cases closeAt with
  | idle | returned => exact hcleared'
  | swapClosed =>
      have hopen : shared.closed = false := hopened (.inr rfl)
      simp only [closeTurn, closed, hopen]
      constructor <;> simp [CloseAt.pastStore, CloseAt.pastSrtp,
        CloseAt.pastDecrypt]
  | storeClosed =>
      constructor <;> simp [closeTurn, closed, CloseAt.pastSrtp,
        CloseAt.pastDecrypt, Shared.write]
  | clearSrtp =>
      have hclosed := hstate rfl
      cases hlock : shared.srtpLocked <;> constructor <;>
        simp [closeTurn, closed, hlock, CloseAt.pastSrtp, CloseAt.pastDecrypt,
          Shared.write, hclosed]
  | clearDecrypt =>
      have hclosed := hstate rfl
      have hnone := hsrtp rfl
      cases hlock : shared.decryptLocked <;> constructor <;>
        simp [closeTurn, closed, hlock, CloseAt.pastDecrypt, Shared.write,
          hclosed, hnone]
  | clearSocket =>
      exact ⟨by simp [closeTurn], fun _ => hstate rfl, fun _ => hsrtp rfl,
        fun _ => hdecrypt rfl, fun _ => rfl⟩

theorem reopened_closeTurn {closeAt : CloseAt} {shared : Shared}
    (hreopened : Reopened closeAt shared) :
    Reopened (closeTurn shared closeAt).1 (closed shared closeAt) := by
  cases closeAt with
  | idle | swapClosed | storeClosed =>
      simp [Reopened, CloseAt.pastStore, CloseAt.pastSrtp] at hreopened
  | clearSrtp =>
      have hstate : shared.state ≠ .closed := by
        simpa [Reopened, CloseAt.pastStore, CloseAt.pastSrtp] using hreopened
      left
      cases hlock : shared.srtpLocked <;>
        simpa [closeTurn, closed, hlock, CloseAt.pastStore, Shared.write]
          using hstate
  | clearDecrypt =>
      cases hlock : shared.decryptLocked <;>
        simpa [Reopened, closeTurn, closed, hlock, CloseAt.pastStore,
          CloseAt.pastSrtp, Shared.write] using hreopened
  | clearSocket =>
      have hkept : shared.state ≠ .closed ∨ shared.srtpContext ≠ none := by
        simpa [Reopened, CloseAt.pastStore, CloseAt.pastSrtp] using hreopened
      rcases hkept with hstate | hsrtp
      · exact .inl ⟨rfl, hstate⟩
      · exact .inr (.inl ⟨rfl, hsrtp⟩)
  | returned => exact hreopened

theorem cleared_next (transport : Transport) (action : Action)
    (hcleared : Cleared transport.closeAt transport.shared)
    (htimely : transport.Timely codec action) :
    Cleared (transport.next codec action).closeAt
      (transport.next codec action).shared := by
  by_cases hclose : action = .closeStep
  · subst hclose
    obtain ⟨hcloseAt, hshared⟩ := next_closeStep codec transport
    rw [hcloseAt, hshared]
    exact cleared_closeTurn hcleared
  · obtain ⟨hcloseAt, hshared⟩ := next_elsewhere codec transport action hclose
    have hkept : Cleared transport.closeAt
        (transport.next codec action).shared := by
      rcases hshared with ⟨hsame, _⟩ | ⟨write, hwrite, hforeign, hshared⟩
      · rwa [hsame]
      · rw [hshared]
        exact hcleared.write hforeign (htimely write hwrite)
    rcases hcloseAt with hsame | ⟨hidle, hcalled⟩
    · rwa [hsame]
    · rw [hcalled]
      constructor <;> simp [CloseAt.pastStore, CloseAt.pastSrtp,
        CloseAt.pastDecrypt, hkept.opened (.inl hidle)]

theorem damaged_next (transport : Transport) (action : Action)
    (hreopened : transport.Damaged) :
    (transport.next codec action).Damaged := by
  unfold Damaged at hreopened ⊢
  by_cases hclose : action = .closeStep
  · subst hclose
    obtain ⟨hcloseAt, hshared⟩ := next_closeStep codec transport
    rw [hcloseAt, hshared]
    exact reopened_closeTurn hreopened
  · obtain ⟨hcloseAt, hshared⟩ := next_elsewhere codec transport action hclose
    rcases hcloseAt with hsame | ⟨hidle, _⟩
    · rw [hsame]
      rcases hshared with ⟨hsame, _⟩ | ⟨write, _, hforeign, hshared⟩
      · rwa [hsame]
      · rw [hshared]
        exact hreopened.write hforeign
    · simp [Reopened, hidle, CloseAt.pastStore, CloseAt.pastSrtp] at hreopened

theorem damaged_of_not_timely (transport : Transport) (action : Action)
    (hlate : ¬ transport.Timely codec action) :
    (transport.next codec action).Damaged := by
  unfold Damaged
  simp only [Timely, not_forall, Bool.not_eq_true] at hlate
  obtain ⟨write, hwrite, hlate⟩ := hlate
  have hwrite : transport.writes codec action = some write := hwrite
  have hreopened : Reopened transport.closeAt (transport.shared.write write) :=
    reopened_of_late hlate
  by_cases hclose : action = .closeStep
  · subst hclose
    have hforeign := foreign_of_late hlate
    simp [(foreign_closeTurn hwrite).1] at hforeign
  · obtain ⟨hcloseAt, hshared⟩ := next_elsewhere codec transport action hclose
    rcases hshared with ⟨_, hquiet⟩ | ⟨other, hother, _, hshared⟩
    · simp [hwrite] at hquiet
    · obtain rfl : write = other := by
        rw [hwrite] at hother
        exact Option.some.inj hother
      rcases hcloseAt with hsame | ⟨hidle, _⟩
      · rwa [hsame, hshared]
      · simp [Reopened, hidle, CloseAt.pastStore, CloseAt.pastSrtp]
          at hreopened

theorem cleared_new : Cleared new.closeAt new.shared := by
  constructor <;> simp [new, CloseAt.pastStore, CloseAt.pastSrtp,
    CloseAt.pastDecrypt]

/-- In a run in which `close` has returned, the transport stays closed exactly
when nothing was written behind it. -/
theorem always_staysClosed_iff (actions : List Action)
    (hreturned : (after (next codec) new actions).closeAt = .returned) :
    Always (next codec) StaysClosed new actions ↔
      Along (next codec) (Timely codec) new actions := by
  constructor
  · intro halways
    have hlast := always_iff_prefixes.mp halways _ (List.prefix_refl _) hreturned
    refine along_of_undamaged (damaged_of_not_timely codec)
      (damaged_next codec) ?_
    rintro (⟨_, hstate⟩ | ⟨_, hsrtp⟩ | ⟨_, hsocket⟩)
    · exact hstate hlast.1
    · exact hsrtp hlast.2.1
    · exact hsocket hlast.2.2.2
  · intro htimely
    have hcleared := htimely.always (cleared_next codec) cleared_new
    refine hcleared.mono fun transport hcleared hreturned => ?_
    have hpast : transport.closeAt.pastStore = true ∧
        transport.closeAt.pastSrtp = true ∧
        transport.closeAt.pastDecrypt = true := by
      simp [hreturned, CloseAt.pastStore, CloseAt.pastSrtp,
        CloseAt.pastDecrypt]
    exact ⟨hcleared.state hpast.1, hcleared.srtp hpast.2.1,
      hcleared.decrypt hpast.2.2, hcleared.socket hreturned⟩

theorem staysClosed_hangUp :
    Always (next sampleCodec) StaysClosed new
      (dial 0 ++ shake 0 sampleAddr [1] ++ hangUp ++
        [.workerStep 0 .proceed]) :=
  (always_staysClosed_iff sampleCodec _ (by decide +kernel)).mpr
    (by decide +kernel)

/-- A `connect` that found the transport open stores `Connecting` behind
`close`. -/
theorem connect_reopens_closed :
    ¬ Always (next sampleCodec) StaysClosed new
      ([.connect "{}", .connectStep 0 .proceed] ++ hangUp ++
        [.connectStep 0 .proceed]) := by
  intro halways
  have hlast := always_iff_prefixes.mp halways _ (List.prefix_refl _)
  have hclosed := (hlast (by decide +kernel)).1
  exact absurd hclosed (by decide +kernel)

end Transport

end RustTgCalls.Wrtc
