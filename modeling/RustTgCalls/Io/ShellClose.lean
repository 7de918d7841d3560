import RustTgCalls.Io.ShellReader

namespace RustTgCalls.Io.ShellReader

open Transition

/-! Whether `close` reaches its kill on a child that does not exit by itself. -/

/-- No `close` is blocked on the mutex while the reap task holds it waiting for
the running child. -/
def Unblocked (reader : ShellReader) : Prop :=
  ∀ id, reader.closers id = .queued → reader.mutex.holder = some .reap →
    reader.reapAt = .waiting → reader.process ≠ .running

/-- No task that has been started can go on, and no signal is pending. -/
def Quiet (reader : ShellReader) : Prop :=
  reader.next .reap = reader ∧ reader.next .die = reader ∧
    ∀ id, reader.next (.closer id) = reader

def Called (reader : ShellReader) : Prop :=
  ∃ id, reader.closers id ≠ .idle

def Involuntary (_ : ShellReader) : Action → Prop
  | .exit _ => False
  | _ => True

/-- A `close` comes to the mutex while the reap task does not hold it. -/
def Prompt (reader : ShellReader) : Action → Prop
  | .closer id => reader.closers id = .lock → reader.mutex.holder ≠ some .reap
  | _ => True

instance (reader : ShellReader) : DecidablePred (Involuntary reader)
  | .exit _ => .isFalse id
  | .reap | .call _ | .closer _ | .die => .isTrue trivial

instance (reader : ShellReader) : DecidablePred (Prompt reader)
  | .closer _ => inferInstanceAs (Decidable (_ → _))
  | .reap | .call _ | .exit _ | .die => .isTrue trivial

structure Live (reader : ShellReader) : Prop where
  child : reader.child = true
  killed : reader.killed = false
  running : reader.process = .running

structure Taken (reader : ShellReader) : Prop where
  child : reader.child = false
  killed : reader.killed = true

def Passive (reader : ShellReader) (id : Nat) : Prop :=
  reader.closers id = .idle ∨ reader.closers id = .called ∨
    reader.closers id = .returned

def OthersPassive (reader : ShellReader) (id : Nat) : Prop :=
  ∀ other, other ≠ id → reader.Passive other

/-- The reap task has not come to the mutex yet, or holds it for good. -/
def ReapFirst (reader : ShellReader) : Prop :=
  reader.mutex = .free ∧ reader.reapAt = .lock ∨
    reader.mutex = .held .reap [] ∧ reader.reapAt = .waiting

/-- The reap task comes to the mutex, or waits for it, behind one `close`. -/
def ReapBehind (reader : ShellReader) (id : Nat) : Prop :=
  reader.mutex = .held (.closer id) [] ∧ reader.reapAt = .lock ∨
    reader.mutex = .held (.closer id) [.reap] ∧ reader.reapAt = .queued

/-- The reap task finds the slot empty. -/
def ReapLast (reader : ShellReader) : Prop :=
  reader.mutex = .free ∧ reader.reapAt = .lock ∨
    reader.mutex = .held .reap [] ∧ reader.reapAt = .queued ∨
    reader.mutex = .free ∧ reader.reapAt = .returned

inductive Phase (reader : ShellReader) : Prop
  | opened (hclosed : reader.closed = false) (hlive : reader.Live)
      (hreap : reader.ReapFirst)
      (hpassive : ∀ id, reader.closers id = .idle ∨ reader.closers id = .called)
  | locking (id : Nat) (hclosed : reader.closed = true) (hlive : reader.Live)
      (hreap : reader.ReapFirst) (hat : reader.closers id = .lock)
      (hothers : reader.OthersPassive id)
  | holding (id : Nat) (hclosed : reader.closed = true) (hlive : reader.Live)
      (hreap : reader.ReapBehind id) (hat : reader.closers id = .queued)
      (hothers : reader.OthersPassive id)
  | killing (id : Nat) (hclosed : reader.closed = true) (htaken : reader.Taken)
      (hreap : reader.ReapBehind id)
      (hat : reader.closers id = .killing ∨ reader.closers id = .markExited)
      (hothers : reader.OthersPassive id)
  | finished (hclosed : reader.closed = true) (htaken : reader.Taken)
      (hreap : reader.ReapLast)
      (hpassive : ∀ id, reader.Passive id)

variable {reader : ShellReader}

theorem phase_new (hasOnExit : Bool) : Phase (new hasOnExit) :=
  .opened rfl ⟨rfl, rfl, rfl⟩ (.inl ⟨rfl, rfl⟩) fun _ => .inl rfl

theorem reapStep_first (hlive : reader.Live) (hreap : reader.ReapFirst) :
    reader.reapStep =
      { reader with mutex := .held .reap [], reapAt := .waiting } := by
  obtain ⟨mutex, child, process, _⟩ := reader
  obtain ⟨rfl, _, rfl⟩ := hlive
  rcases hreap with ⟨rfl, rfl⟩ | ⟨rfl, rfl⟩ <;> rfl

theorem reapStep_behind {id : Nat} (hreap : reader.ReapBehind id) :
    reader.reapStep =
      { reader with
        mutex := .held (.closer id) [.reap]
        reapAt := .queued } := by
  obtain ⟨mutex, child, process, killed, closed, exited, exitError, _⟩ := reader
  rcases hreap with ⟨rfl, rfl⟩ | ⟨rfl, rfl⟩ <;> rfl

theorem reapStep_last (htaken : reader.Taken) (hreap : reader.ReapLast) :
    reader.reapStep =
      { reader with mutex := .free, reapAt := .returned } := by
  obtain ⟨mutex, child, process, _⟩ := reader
  obtain ⟨rfl, _⟩ := htaken
  rcases hreap with ⟨rfl, rfl⟩ | ⟨rfl, rfl⟩ | ⟨rfl, rfl⟩ <;> rfl

theorem moveTo_self {which : Nat} {closerAt : CloserAt}
    (hat : reader.closers which = closerAt) :
    reader.moveTo which closerAt = reader := by
  simp [moveTo, ← hat]

/-- Once the reader is closed, a passive call has nowhere to go but back. -/
theorem closerStep_passive {which : Nat} (hclosed : reader.closed = true)
    (hpassive : reader.Passive which) :
    ∃ closerAt, (closerAt = .idle ∨ closerAt = .called ∨ closerAt = .returned) ∧
      reader.closerStep which = reader.moveTo which closerAt := by
  rcases hpassive with hat | hat | hat
  · exact ⟨.idle, by simp, by simp [closerStep, hat, moveTo_self hat]⟩
  · exact ⟨.returned, by simp, by simp [closerStep, hat, hclosed]⟩
  · exact ⟨.returned, by simp, by simp [closerStep, hat, moveTo_self hat]⟩

namespace Phase

theorem unblocked (hphase : reader.Phase) : reader.Unblocked := by
  intro which hqueued hholder _
  cases hphase with
  | opened _ _ _ hpassive => rcases hpassive which with hat | hat <;> simp_all
  | locking id _ _ _ hat hothers =>
      by_cases hsame : which = id
      · simp_all
      · rcases hothers which hsame with hat | hat | hat <;> simp_all
  | holding id _ _ hreap _ _ =>
      rcases hreap with ⟨hmutex, _⟩ | ⟨hmutex, _⟩ <;> simp [hmutex] at hholder
  | killing id _ _ hreap _ _ =>
      rcases hreap with ⟨hmutex, _⟩ | ⟨hmutex, _⟩ <;> simp [hmutex] at hholder
  | finished _ _ _ hpassive =>
      rcases hpassive which with hat | hat | hat <;> simp_all

theorem passive_moveTo {id other : Nat} {closerAt : CloserAt}
    (hpassive : reader.Passive other)
    (hat : closerAt = .idle ∨ closerAt = .called ∨ closerAt = .returned) :
    (reader.moveTo id closerAt).Passive other := by
  by_cases hsame : other = id
  · subst hsame
    simpa [Passive, moveTo] using hat
  · simpa [Passive, moveTo, hsame] using hpassive

theorem moveTo (hphase : reader.Phase) (hclosed : reader.closed = true)
    {which : Nat} {closerAt : CloserAt} (hpassive : reader.Passive which)
    (hat : closerAt = .idle ∨ closerAt = .called ∨ closerAt = .returned) :
    (reader.moveTo which closerAt).Phase := by
  have hothers {id : Nat} (hothers : reader.OthersPassive id) :
      (reader.moveTo which closerAt).OthersPassive id :=
    fun other hother => passive_moveTo (hothers other hother) hat
  have hkeeps {id : Nat} (hactive : ¬ reader.Passive id) :
      (reader.moveTo which closerAt).closers id = reader.closers id := by
    have hne : id ≠ which := by
      rintro rfl
      exact hactive hpassive
    simp [ShellReader.moveTo, hne]
  cases hphase with
  | opened hopen => simp [hopen] at hclosed
  | locking id _ hlive hreap hid hrest =>
      refine .locking id hclosed ⟨hlive.1, hlive.2, hlive.3⟩ hreap ?_
        (hothers hrest)
      rw [hkeeps (by simp [Passive, hid]), hid]
  | holding id _ hlive hreap hid hrest =>
      refine .holding id hclosed ⟨hlive.1, hlive.2, hlive.3⟩ hreap ?_
        (hothers hrest)
      rw [hkeeps (by simp [Passive, hid]), hid]
  | killing id _ htaken hreap hid hrest =>
      refine .killing id hclosed ⟨htaken.1, htaken.2⟩ hreap ?_ (hothers hrest)
      rw [hkeeps (by rcases hid with hid | hid <;> simp [Passive, hid])]
      exact hid
  | finished _ htaken hreap hrest =>
      exact .finished hclosed ⟨htaken.1, htaken.2⟩ hreap fun other =>
        passive_moveTo (hrest other) hat

theorem reapStep (hphase : reader.Phase) : reader.reapStep.Phase := by
  cases hphase with
  | opened hopen hlive hreap hpassive =>
      rw [reapStep_first hlive hreap]
      exact .opened hopen ⟨hlive.1, hlive.2, hlive.3⟩ (.inr ⟨rfl, rfl⟩) hpassive
  | locking id hclosed hlive hreap hid hothers =>
      rw [reapStep_first hlive hreap]
      exact .locking id hclosed ⟨hlive.1, hlive.2, hlive.3⟩ (.inr ⟨rfl, rfl⟩)
        hid hothers
  | holding id hclosed hlive hreap hid hothers =>
      rw [reapStep_behind hreap]
      exact .holding id hclosed ⟨hlive.1, hlive.2, hlive.3⟩ (.inr ⟨rfl, rfl⟩)
        hid hothers
  | killing id hclosed htaken hreap hid hothers =>
      rw [reapStep_behind hreap]
      exact .killing id hclosed ⟨htaken.1, htaken.2⟩ (.inr ⟨rfl, rfl⟩)
        hid hothers
  | finished hclosed htaken hreap hpassive =>
      rw [reapStep_last htaken hreap]
      exact .finished hclosed ⟨htaken.1, htaken.2⟩ (.inr (.inr ⟨rfl, rfl⟩))
        hpassive

theorem closerStep_opened (hopen : reader.closed = false) (hlive : reader.Live)
    (hreap : reader.ReapFirst)
    (hpassive : ∀ id, reader.closers id = .idle ∨ reader.closers id = .called)
    (which : Nat) : (reader.closerStep which).Phase := by
  unfold ShellReader.closerStep
  rcases hpassive which with hat | hat
  · simpa [hat] using Phase.opened hopen hlive hreap hpassive
  · simp only [hat, hopen]
    refine .locking which rfl ⟨hlive.1, hlive.2, hlive.3⟩ hreap
      (by simp [ShellReader.moveTo]) ?_
    intro other hother
    simpa [Passive, ShellReader.moveTo, hother] using
      (hpassive other).imp id Or.inl

theorem othersPassive_moveTo {id : Nat} (hothers : reader.OthersPassive id)
    (closerAt : CloserAt) : (reader.moveTo id closerAt).OthersPassive id := by
  intro other hother
  simpa [Passive, ShellReader.moveTo, hother] using hothers other hother

theorem closerStep_locking {id : Nat} (hclosed : reader.closed = true)
    (hlive : reader.Live) (hreap : reader.ReapFirst)
    (hat : reader.closers id = .lock) (hothers : reader.OthersPassive id)
    (hprompt : reader.Prompt (.closer id)) : (reader.closerStep id).Phase := by
  rcases hreap with ⟨hmutex, hreap⟩ | ⟨hmutex, _⟩
  · unfold ShellReader.closerStep
    simp only [hat, hmutex, FairMutex.request_free]
    exact .holding id hclosed ⟨hlive.1, hlive.2, hlive.3⟩
      (.inl ⟨rfl, hreap⟩) (by simp [ShellReader.moveTo])
      (othersPassive_moveTo hothers _)
  · exact absurd (by simp [hmutex]) (hprompt hat)

theorem closerStep_holding {id : Nat} (hclosed : reader.closed = true)
    (hlive : reader.Live) (hreap : reader.ReapBehind id)
    (hat : reader.closers id = .queued) (hothers : reader.OthersPassive id) :
    (reader.closerStep id).Phase := by
  have hholder : reader.mutex.holder = some (.closer id) := by
    rcases hreap with ⟨hmutex, _⟩ | ⟨hmutex, _⟩ <;> simp [hmutex]
  unfold ShellReader.closerStep
  simp only [hat, hholder, hlive.child, if_true]
  exact .killing id hclosed ⟨rfl, rfl⟩ hreap
    (by simp [ShellReader.moveTo]) (othersPassive_moveTo hothers _)

theorem closerStep_killing {id : Nat} (hclosed : reader.closed = true)
    (htaken : reader.Taken) (hreap : reader.ReapBehind id)
    (hat : reader.closers id = .killing ∨ reader.closers id = .markExited)
    (hothers : reader.OthersPassive id) : (reader.closerStep id).Phase := by
  unfold ShellReader.closerStep
  rcases hat with hat | hat
  · simp only [hat]
    split
    · exact .killing id hclosed htaken hreap (.inl hat) hothers
    · exact .killing id hclosed ⟨htaken.1, htaken.2⟩ hreap
        (by simp [ShellReader.moveTo]) (othersPassive_moveTo hothers _)
  · simp only [hat]
    refine .finished hclosed ⟨htaken.1, htaken.2⟩ ?_ ?_
    · rcases hreap with ⟨hmutex, hreap⟩ | ⟨hmutex, hreap⟩
      · exact .inl ⟨by simp [ShellReader.moveTo, hmutex], hreap⟩
      · exact .inr (.inl ⟨by simp [ShellReader.moveTo, hmutex], hreap⟩)
    · intro other
      by_cases hsame : other = id
      · simp [Passive, ShellReader.moveTo, hsame]
      · simpa [Passive, ShellReader.moveTo, hsame] using hothers other hsame

theorem closerStep (hphase : reader.Phase) (which : Nat)
    (hprompt : reader.Prompt (.closer which)) :
    (reader.closerStep which).Phase := by
  by_cases hpassive : reader.closed = true ∧ reader.Passive which
  · obtain ⟨closerAt, hat, hstep⟩ := closerStep_passive hpassive.1 hpassive.2
    rw [hstep]
    exact hphase.moveTo hpassive.1 hpassive.2 hat
  have hactive {id : Nat} (hclosed : reader.closed = true)
      (hothers : reader.OthersPassive id) : id = which := by
    by_contra hne
    exact hpassive ⟨hclosed, hothers which (Ne.symm hne)⟩
  cases hphase with
  | opened hopen hlive hreap hpassive =>
      exact closerStep_opened hopen hlive hreap hpassive which
  | locking id hclosed hlive hreap hat hothers =>
      obtain rfl := hactive hclosed hothers
      exact closerStep_locking hclosed hlive hreap hat hothers hprompt
  | holding id hclosed hlive hreap hat hothers =>
      obtain rfl := hactive hclosed hothers
      exact closerStep_holding hclosed hlive hreap hat hothers
  | killing id hclosed htaken hreap hat hothers =>
      obtain rfl := hactive hclosed hothers
      exact closerStep_killing hclosed htaken hreap hat hothers
  | finished hclosed _ _ hrest => exact absurd ⟨hclosed, hrest which⟩ hpassive

theorem call (hphase : reader.Phase) (which : Nat)
    (hidle : reader.closers which = .idle) :
    (reader.moveTo which .called).Phase := by
  cases hclosed : reader.closed with
  | true => exact hphase.moveTo hclosed (.inl hidle) (by simp)
  | false =>
      cases hphase with
      | opened _ hlive hreap hpassive =>
          refine .opened hclosed ⟨hlive.1, hlive.2, hlive.3⟩ hreap ?_
          intro other
          by_cases hsame : other = which
          · simp [ShellReader.moveTo, hsame]
          · simpa [ShellReader.moveTo, hsame] using hpassive other
      | locking _ hyes | holding _ hyes | killing _ hyes | finished hyes =>
          simp [hclosed] at hyes

theorem die (hphase : reader.Phase) (result : WaitResult)
    (hkilled : reader.killed = true) :
    { reader with process := .exited result }.Phase := by
  cases hphase with
  | opened _ hlive | locking _ _ hlive | holding _ _ hlive =>
      simp [hlive.killed] at hkilled
  | killing id hclosed htaken hreap hat hothers =>
      exact .killing id hclosed ⟨htaken.1, htaken.2⟩ hreap hat hothers
  | finished hclosed htaken hreap hpassive =>
      exact .finished hclosed ⟨htaken.1, htaken.2⟩ hreap hpassive

end Phase

theorem phase_next (reader : ShellReader) (action : Action)
    (hphase : reader.Phase) (hinvoluntary : reader.Involuntary action)
    (hprompt : reader.Prompt action) : (reader.next action).Phase := by
  cases action with
  | reap => exact hphase.reapStep
  | call id =>
      unfold next
      dsimp only
      split
      next hidle => exact hphase.call id hidle
      next => exact hphase
  | closer id => exact hphase.closerStep id hprompt
  | die =>
      unfold next
      dsimp only
      split
      next hpending => exact hphase.die _ hpending.1
      next => exact hphase
  | exit result => exact hinvoluntary.elim

theorem prompt_of_unblocked (reader : ShellReader) (action : Action)
    (hphase : reader.Phase) (hnext : (reader.next action).Unblocked) :
    reader.Prompt action := by
  cases action with
  | reap | call _ | die | exit _ => trivial
  | closer which =>
      intro hat hholder
      have hfirst : reader.Live ∧ reader.reapAt = .waiting := by
        cases hphase with
        | opened _ _ _ hpassive =>
            rcases hpassive which with hidle | hidle <;> simp [hidle] at hat
        | locking _ _ hlive hreap =>
            rcases hreap with ⟨hmutex, _⟩ | ⟨_, hreap⟩
            · simp [hmutex] at hholder
            · exact ⟨hlive, hreap⟩
        | holding id _ _ hreap | killing id _ _ hreap =>
            rcases hreap with ⟨hmutex, _⟩ | ⟨hmutex, _⟩ <;>
              simp [hmutex] at hholder
        | finished _ _ _ hpassive =>
            rcases hpassive which with hidle | hidle | hidle <;>
              simp [hidle] at hat
      obtain ⟨hlive, hreap⟩ := hfirst
      have hstep : reader.next (.closer which) =
          { reader with mutex := reader.mutex.request (.closer which) }.moveTo
            which .queued := by
        simp [next, closerStep, hat]
      have hholder' : (reader.mutex.request (.closer which)).holder =
          some .reap := by
        cases hmutex : reader.mutex with
        | free => simp [hmutex] at hholder
        | held holder waiting => simpa [hmutex] using hholder
      rw [hstep] at hnext
      exact hnext which (by simp [moveTo]) hholder' hreap hlive.running

/-- When nothing can go on, a `close` that was called has sent its signal. -/
theorem Phase.killed_of_quiet {reader : ShellReader} (hphase : reader.Phase)
    (hquiet : reader.Quiet) (hcalled : reader.Called) :
    reader.killed = true := by
  obtain ⟨_, _, hclosers⟩ := hquiet
  have hstuck (id : Nat) : (reader.next (.closer id)).closers id =
      reader.closers id := by rw [hclosers id]
  cases hphase with
  | opened hopen _ _ hpassive =>
      obtain ⟨id, hbusy⟩ := hcalled
      have hat := (hpassive id).resolve_left hbusy
      have hnow := hstuck id
      simp [next, ShellReader.closerStep, hat, hopen, ShellReader.moveTo] at hnow
  | locking id _ _ _ hat =>
      have hnow := hstuck id
      simp [next, ShellReader.closerStep, hat, ShellReader.moveTo] at hnow
  | holding id _ hlive hreap hat =>
      have hholder : reader.mutex.holder = some (.closer id) := by
        rcases hreap with ⟨hmutex, _⟩ | ⟨hmutex, _⟩ <;> simp [hmutex]
      have hnow := hstuck id
      simp [next, ShellReader.closerStep, hat, hholder, hlive.child,
        ShellReader.moveTo] at hnow
  | killing _ _ htaken | finished _ htaken => exact htaken.killed

/-- Over every run of a child that does not exit by itself, closing never waits
for that exit, and sends its signal once everything has come to rest, exactly
when each `close` comes to the mutex before the reap task. -/
theorem close_terminates_iff (hasOnExit : Bool) (actions : List Action)
    (hinvoluntary : Along next Involuntary (new hasOnExit) actions) :
    (Always next Unblocked (new hasOnExit) actions ∧
      ((after next (new hasOnExit) actions).Quiet →
        (after next (new hasOnExit) actions).Called →
        (after next (new hasOnExit) actions).killed = true)) ↔
      Along next Prompt (new hasOnExit) actions := by
  have hunblocked : Always next Unblocked (new hasOnExit) actions ↔
      Along next Prompt (new hasOnExit) actions :=
    always_iff_along_of (fun _ => Phase.unblocked) phase_next
      (fun reader action hphase _ => prompt_of_unblocked reader action hphase)
      (phase_new hasOnExit) hinvoluntary
  constructor
  · exact fun hterminates => hunblocked.mp hterminates.1
  · intro hprompt
    refine ⟨hunblocked.mpr hprompt, ?_⟩
    have hphase : (after next (new hasOnExit) actions).Phase :=
      (along_and.mpr ⟨hinvoluntary, hprompt⟩).invariant
        (fun reader action hphase hboth =>
          phase_next reader action hphase hboth.1 hboth.2)
        (phase_new hasOnExit)
    exact hphase.killed_of_quiet

def closeFirst : List Action :=
  [.call 0, .closer 0, .closer 0, .reap, .closer 0, .die, .closer 0, .closer 0,
    .reap]

theorem close_terminates_closeFirst :
    Always next Unblocked (new true) closeFirst ∧
      ((after next (new true) closeFirst).Quiet →
        (after next (new true) closeFirst).Called →
        (after next (new true) closeFirst).killed = true) :=
  (close_terminates_iff true closeFirst (by decide)).mpr (by decide)

/-- The reap task is scheduled first, and `close` never gets the mutex. -/
theorem close_blocked_by_reap :
    ¬ Always next Unblocked (new true) [.reap, .call 0, .closer 0, .closer 0] := by
  intro halways
  have hunblocked := always_iff_prefixes.mp halways _ (List.prefix_refl _)
  exact hunblocked 0 (by decide) (by decide) (by decide) (by decide)

end RustTgCalls.Io.ShellReader
