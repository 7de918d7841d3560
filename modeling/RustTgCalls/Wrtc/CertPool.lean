import RustTgCalls.Library.FairMutex
import RustTgCalls.Library.Transition
import Mathlib.Data.List.Nodup

namespace RustTgCalls.Wrtc

open Transition

/-! The pool of certificates, with the worker that fills it and any number of calls
that take one, each a step at a time. -/

/-- `PeerFactory::take_cert` gives the lock back before it generates a key;
`CertPool::take`, as `Factory::new_stack` calls it, keeps it. -/
inductive Caller where
  | takeCert
  | take
  deriving DecidableEq, Repr

inductive CertWorkerAt (Cert : Type) where
  | testClosed
  | generating
  | sending (cert : Cert)
  | sleeping
  | ended
  deriving DecidableEq, Repr

/-- `none` is the result of a key generation that failed. -/
inductive TakerAt (Cert : Type) where
  | idle
  | lock (caller : Caller)
  | loadClosed (caller : Caller)
  | tryRecv (caller : Caller)
  | generating (caller : Caller)
  | returned (result : Option Cert)
  deriving DecidableEq, Repr

/-- `keygens` counts the key generations that have ended; `produced` lists what the
worker has made and `taken` what has left the channel. -/
structure CertPool (Cert : Type) where
  closed : Bool
  channel : List Cert
  worker : CertWorkerAt Cert
  lock : FairMutex Nat
  takers : Nat → TakerAt Cert
  keygens : Nat
  produced : List Cert
  taken : List Cert

def CertWorkerAt.pending {Cert : Type} : CertWorkerAt Cert → List Cert
  | .sending cert => [cert]
  | _ => []

namespace TakerAt

variable {Cert : Type}

/-- The call is among those that hold the lock or wait for it. -/
def queues : TakerAt Cert → Bool
  | .lock _ | .loadClosed _ | .tryRecv _ | .generating .take => true
  | _ => false

/-- The call is past the lock and has not given it back. -/
def holds : TakerAt Cert → Bool
  | .loadClosed _ | .tryRecv _ | .generating .take => true
  | _ => false

def result : TakerAt Cert → Option Cert
  | .returned result => result
  | _ => none

end TakerAt

namespace CertPool

variable {Cert : Type}

inductive Action where
  | worker
  | call (taker : Nat) (caller : Caller)
  | taker (taker : Nat)
  | close
  deriving DecidableEq, Repr

/-- A pool of size zero has no worker. -/
def new (size : Nat) : CertPool Cert where
  closed := false
  channel := []
  worker := if size = 0 then .ended else .testClosed
  lock := .free
  takers := fun _ => .idle
  keygens := 0
  produced := []
  taken := []

def move (pool : CertPool Cert) (taker : Nat) (stage : TakerAt Cert) : CertPool Cert :=
  { pool with takers := Function.update pool.takers taker stage }

/-- The guard is dropped. -/
def leave (pool : CertPool Cert) (taker : Nat) (stage : TakerAt Cert) : CertPool Cert :=
  { pool.move taker stage with lock := pool.lock.release }

/-- `try_take` has given nothing. -/
def missed (pool : CertPool Cert) (taker : Nat) : Caller → CertPool Cert
  | .takeCert => pool.leave taker (.generating .takeCert)
  | .take => pool.move taker (.generating .take)

section Generate

variable (size : Nat) (generate : Nat → Option Cert)

def workerStep (pool : CertPool Cert) : CertPool Cert :=
  match pool.worker with
  | .testClosed => { pool with worker := if pool.closed then .ended else .generating }
  | .generating =>
      match generate pool.keygens with
      | some cert =>
          { pool with
            worker := .sending cert
            keygens := pool.keygens + 1
            produced := pool.produced ++ [cert] }
      | none => { pool with worker := .sleeping, keygens := pool.keygens + 1 }
  | .sending cert =>
      if pool.channel.length < size then
        { pool with channel := pool.channel ++ [cert], worker := .testClosed }
      else pool
  | .sleeping => { pool with worker := .testClosed }
  | .ended => pool

def takerStep (pool : CertPool Cert) (taker : Nat) : CertPool Cert :=
  match pool.takers taker with
  | .idle | .returned _ => pool
  | .lock caller =>
      if pool.lock.holder = some taker then pool.move taker (.loadClosed caller) else pool
  | .loadClosed caller =>
      if pool.closed then pool.missed taker caller else pool.move taker (.tryRecv caller)
  | .tryRecv caller =>
      match pool.channel with
      | cert :: rest =>
          { pool.leave taker (.returned (some cert)) with
            channel := rest
            taken := pool.taken ++ [cert] }
      | [] => pool.missed taker caller
  | .generating caller =>
      let made := { pool with keygens := pool.keygens + 1 }
      let result := TakerAt.returned (generate pool.keygens)
      match caller with
      | .takeCert => made.move taker result
      | .take => made.leave taker result

def next (pool : CertPool Cert) : Action → CertPool Cert
  | .worker => pool.workerStep size generate
  | .call taker caller =>
      match pool.takers taker with
      | .idle => { pool.move taker (.lock caller) with lock := pool.lock.request taker }
      | _ => pool
  | .taker taker => pool.takerStep generate taker
  | .close => { pool with closed := true }

end Generate

/-- What nobody has taken. -/
def stored (pool : CertPool Cert) : List Cert := pool.channel ++ pool.worker.pending

/-! Who has the lock. -/

structure Locked (pool : CertPool Cert) : Prop where
  nodup : pool.lock.tasks.Nodup
  queued : ∀ taker, taker ∈ pool.lock.tasks ↔ (pool.takers taker).queues = true
  holder : ∀ taker, (pool.takers taker).holds = true → pool.lock.holder = some taker

theorem locked_new (size : Nat) : Locked (new size : CertPool Cert) where
  nodup := List.nodup_nil
  queued := fun _ => by simp [new, FairMutex.tasks, TakerAt.queues]
  holder := fun _ hholds => by simp [new, TakerAt.holds] at hholds

/-- A taker goes on without giving the lock back, and gets past it only as its
holder. -/
theorem Locked.move {pool : CertPool Cert} (hlocked : Locked pool) {taker : Nat}
    {stage : TakerAt Cert} (hqueues : stage.queues = (pool.takers taker).queues)
    (hholds : stage.holds = true → pool.lock.holder = some taker) :
    Locked (pool.move taker stage) := by
  obtain ⟨hnodup, hqueued, hholder⟩ := hlocked
  refine ⟨hnodup, fun other => ?_, fun other => ?_⟩
  · by_cases hother : other = taker
    · subst hother
      simpa [CertPool.move, hqueues] using hqueued other
    · simpa [CertPool.move, hother] using hqueued other
  · by_cases hother : other = taker
    · subst hother
      simpa [CertPool.move] using hholds
    · simpa [CertPool.move, hother] using hholder other

theorem Locked.leave {pool : CertPool Cert} (hlocked : Locked pool) {taker : Nat}
    {stage : TakerAt Cert} (hpast : (pool.takers taker).holds = true)
    (hqueues : stage.queues = false) (hholds : stage.holds = false) :
    Locked (pool.leave taker stage) := by
  obtain ⟨hnodup, hqueued, hholder⟩ := hlocked
  have htaker := hholder taker hpast
  refine ⟨FairMutex.nodup_release hnodup, fun other => ?_, fun other hother => ?_⟩
  · by_cases hsame : other = taker
    · subst hsame
      have hgone := FairMutex.not_mem_release hnodup htaker
      simpa [CertPool.leave, CertPool.move, hqueues] using hgone
    · have hmem : other ∈ pool.lock.release.tasks ↔ other ∈ pool.lock.tasks :=
        ⟨FairMutex.mem_of_mem_release, FairMutex.mem_release htaker hsame⟩
      simpa [CertPool.leave, CertPool.move, hsame] using hmem.trans (hqueued other)
  · by_cases hsame : other = taker
    · subst hsame
      simp [CertPool.leave, CertPool.move, hholds] at hother
    · have hother : (pool.takers other).holds = true := by
        simpa [CertPool.leave, CertPool.move, hsame] using hother
      exact absurd (Option.some.inj ((hholder other hother).symm.trans htaker)) hsame

/-- The lock and the takers alone decide who has it. -/
theorem Locked.congr {pool moved : CertPool Cert} (hlocked : Locked pool)
    (hlock : moved.lock = pool.lock) (htakers : moved.takers = pool.takers) :
    Locked moved := by
  obtain ⟨hnodup, hqueued, hholder⟩ := hlocked
  rw [← hlock] at hnodup hqueued hholder
  rw [← htakers] at hqueued hholder
  exact ⟨hnodup, hqueued, hholder⟩

theorem Locked.missed {pool : CertPool Cert} (hlocked : Locked pool) {taker : Nat}
    (hpast : (pool.takers taker).holds = true) (hqueues : (pool.takers taker).queues = true)
    (caller : Caller) : Locked (pool.missed taker caller) := by
  cases caller with
  | takeCert => exact hlocked.leave hpast rfl rfl
  | take => exact hlocked.move hqueues.symm fun _ => hlocked.holder taker hpast

theorem Locked.call {pool : CertPool Cert} (hlocked : Locked pool) {taker : Nat}
    (hidle : pool.takers taker = .idle) (caller : Caller) :
    Locked { pool.move taker (.lock caller) with lock := pool.lock.request taker } := by
  obtain ⟨hnodup, hqueued, hholder⟩ := hlocked
  have hnew : taker ∉ pool.lock.tasks := by
    rw [hqueued, hidle]
    simp [TakerAt.queues]
  refine ⟨FairMutex.nodup_request hnodup hnew, fun other => ?_, fun other hholds => ?_⟩
  · by_cases hother : other = taker
    · subst hother
      simp [CertPool.move, TakerAt.queues]
    · simpa [CertPool.move, hother] using hqueued other
  · by_cases hother : other = taker
    · subst hother
      simp [CertPool.move, TakerAt.holds] at hholds
    · have hholds : (pool.takers other).holds = true := by
        simpa [CertPool.move, hother] using hholds
      exact FairMutex.holder_request (hholder other hholds)

section Generate

variable {size : Nat} {generate : Nat → Option Cert}

theorem workerStep_frame (pool : CertPool Cert) :
    (pool.workerStep size generate).lock = pool.lock ∧
      (pool.workerStep size generate).takers = pool.takers ∧
      (pool.workerStep size generate).closed = pool.closed ∧
      (pool.workerStep size generate).taken = pool.taken := by
  unfold workerStep
  split
  case h_2 => split <;> exact ⟨rfl, rfl, rfl, rfl⟩
  case h_3 => split <;> exact ⟨rfl, rfl, rfl, rfl⟩
  all_goals exact ⟨rfl, rfl, rfl, rfl⟩

theorem locked_takerStep {pool : CertPool Cert} (hlocked : Locked pool) (taker : Nat) :
    Locked (pool.takerStep generate taker) := by
  unfold takerStep
  split
  next => exact hlocked
  next => exact hlocked
  next caller hat =>
    split
    next hholder => exact hlocked.move (by rw [hat]; rfl) fun _ => hholder
    next => exact hlocked
  next caller hat =>
    have hholds : (pool.takers taker).holds = true := by rw [hat]; rfl
    split
    · exact hlocked.missed hholds (by rw [hat]; rfl) caller
    · exact hlocked.move (by rw [hat]; rfl) fun _ => hlocked.holder taker hholds
  next caller hat =>
    have hholds : (pool.takers taker).holds = true := by rw [hat]; rfl
    split
    next cert rest _ =>
      have hleft : Locked (pool.leave taker (.returned (some cert))) :=
        hlocked.leave hholds rfl rfl
      exact hleft.congr rfl rfl
    next => exact hlocked.missed hholds (by rw [hat]; rfl) caller
  next caller hat =>
    have hmade : Locked { pool with keygens := pool.keygens + 1 } := hlocked.congr rfl rfl
    cases caller with
    | takeCert =>
        refine hmade.move ?_ fun hholds => ?_
        · show _ = (pool.takers taker).queues
          rw [hat]
          rfl
        · cases hholds
    | take =>
        refine hmade.leave ?_ rfl rfl
        show (pool.takers taker).holds = true
        rw [hat]
        rfl

theorem locked_next (pool : CertPool Cert) (action : Action) (hlocked : Locked pool) :
    Locked (pool.next size generate action) := by
  cases action with
  | worker =>
      obtain ⟨hlock, htakers, _, _⟩ := @workerStep_frame _ size generate pool
      exact hlocked.congr hlock htakers
  | call taker caller =>
      simp only [next]
      split
      next hidle => exact hlocked.call hidle caller
      next => exact hlocked
  | taker taker => exact locked_takerStep hlocked taker
  | close => exact hlocked.congr rfl rfl

end Generate

/-! Whose the certificates are: a taker's, or nobody's yet. -/

def Owns (pool : CertPool Cert) : Option Nat → Cert → Prop
  | some taker, cert => (pool.takers taker).result = some cert
  | none, cert => cert ∈ pool.stored

/-- No two key generations give the same certificate. -/
def Fresh (generate : Nat → Option Cert) : Prop :=
  ∀ i j cert, generate i = some cert → generate j = some cert → i = j

structure Distinct (generate : Nat → Option Cert) (pool : CertPool Cert) : Prop where
  made : ∀ place cert, pool.Owns place cert → ∃ i < pool.keygens, generate i = some cert
  unique : ∀ place other cert, pool.Owns place cert → pool.Owns other cert → place = other
  nodup : pool.stored.Nodup

section Distinct

variable {size : Nat} {generate : Nat → Option Cert} {pool moved : CertPool Cert}

theorem stored_new (size : Nat) : (new size : CertPool Cert).stored = [] := by
  unfold new stored
  split <;> rfl

theorem distinct_new (generate : Nat → Option Cert) (size : Nat) :
    Distinct generate (new size) := by
  have hnone (place : Option Nat) (cert : Cert) : ¬ (new size).Owns place cert := by
    cases place with
    | none => simp [Owns, stored_new]
    | some taker => simp [Owns, new, TakerAt.result]
  refine ⟨fun place cert howns => absurd howns (hnone place cert),
    fun place other cert howns => absurd howns (hnone place cert), ?_⟩
  rw [stored_new]
  exact List.nodup_nil

/-- Nothing changes hands. -/
theorem Distinct.still (hdistinct : Distinct generate pool)
    (hstored : moved.stored = pool.stored)
    (hresult : ∀ taker, (moved.takers taker).result = (pool.takers taker).result)
    (hkeygens : pool.keygens ≤ moved.keygens) : Distinct generate moved := by
  obtain ⟨hmade, hunique, hnodup⟩ := hdistinct
  have howns (place : Option Nat) (cert : Cert) :
      moved.Owns place cert ↔ pool.Owns place cert := by
    cases place with
    | none => simp [Owns, hstored]
    | some taker => simp [Owns, hresult]
  refine ⟨fun place cert hplace => ?_, fun place other cert hplace hother => ?_, ?_⟩
  · obtain ⟨i, hi, hcert⟩ := hmade place cert ((howns place cert).mp hplace)
    exact ⟨i, Nat.lt_of_lt_of_le hi hkeygens, hcert⟩
  · exact hunique place other cert ((howns place cert).mp hplace)
      ((howns other cert).mp hother)
  · rw [hstored]
    exact hnodup

/-- A certificate that has just been made goes to one place. -/
theorem Distinct.make (hdistinct : Distinct generate pool) (hfresh : Fresh generate)
    {cert : Cert} (hcert : generate pool.keygens = some cert)
    (hkeygens : moved.keygens = pool.keygens + 1) {place : Option Nat}
    (howns : ∀ other each, moved.Owns other each ↔
      pool.Owns other each ∨ other = place ∧ each = cert)
    (hnodup : moved.stored.Nodup) : Distinct generate moved := by
  obtain ⟨hmade, hunique, _⟩ := hdistinct
  have hnew (other : Option Nat) : ¬ pool.Owns other cert := by
    intro hother
    obtain ⟨i, hi, hmadeBefore⟩ := hmade other cert hother
    exact absurd (hfresh i pool.keygens cert hmadeBefore hcert) (Nat.ne_of_lt hi)
  refine ⟨fun other each hother => ?_, fun first second each hfirst hsecond => ?_, hnodup⟩
  · rw [hkeygens]
    obtain hold | ⟨_, rfl⟩ := (howns other each).mp hother
    · obtain ⟨i, hi, heach⟩ := hmade other each hold
      exact ⟨i, Nat.lt_succ_of_lt hi, heach⟩
    · exact ⟨pool.keygens, Nat.lt_succ_self _, hcert⟩
  · obtain hfirst | ⟨rfl, rfl⟩ := (howns first each).mp hfirst
    · obtain hsecond | ⟨_, rfl⟩ := (howns second each).mp hsecond
      · exact hunique first second each hfirst hsecond
      · exact absurd hfirst (hnew first)
    · obtain hsecond | ⟨rfl, _⟩ := (howns second each).mp hsecond
      · exact absurd hsecond (hnew second)
      · rfl

theorem owns_move {taker : Nat} {stage : TakerAt Cert}
    (hstored : moved.stored = pool.stored)
    (htakers : moved.takers = Function.update pool.takers taker stage)
    (hresult : (pool.takers taker).result = none) (place : Option Nat) (cert : Cert) :
    moved.Owns place cert ↔
      pool.Owns place cert ∨ place = some taker ∧ stage.result = some cert := by
  cases place with
  | none => simp [Owns, hstored]
  | some other =>
      by_cases hother : other = taker
      · subst hother
        simp [Owns, htakers, hresult]
      · simp [Owns, htakers, hother]

/-- A taker that gets nothing moves on. -/
theorem Distinct.goto (hdistinct : Distinct generate pool) {taker : Nat}
    {stage : TakerAt Cert} (hstored : moved.stored = pool.stored)
    (htakers : moved.takers = Function.update pool.takers taker stage)
    (hresult : (pool.takers taker).result = none) (hnothing : stage.result = none)
    (hkeygens : pool.keygens ≤ moved.keygens) : Distinct generate moved := by
  apply hdistinct.still hstored _ hkeygens
  intro other
  rw [htakers]
  by_cases hother : other = taker
  · subst hother
    simp [hresult, hnothing]
  · simp [hother]

theorem Distinct.missed (hdistinct : Distinct generate pool) {taker : Nat}
    (hresult : (pool.takers taker).result = none) (caller : Caller) :
    Distinct generate (pool.missed taker caller) := by
  cases caller <;> exact hdistinct.goto rfl rfl hresult rfl (Nat.le_refl _)

/-- What a taker generates itself is its own. -/
theorem Distinct.generated (hdistinct : Distinct generate pool) (hfresh : Fresh generate)
    {taker : Nat} (hstored : moved.stored = pool.stored)
    (htakers : moved.takers =
      Function.update pool.takers taker (.returned (generate pool.keygens)))
    (hresult : (pool.takers taker).result = none)
    (hkeygens : moved.keygens = pool.keygens + 1) : Distinct generate moved := by
  cases hcert : generate pool.keygens with
  | none =>
      rw [hcert] at htakers
      exact hdistinct.goto hstored htakers hresult rfl (by omega)
  | some cert =>
      rw [hcert] at htakers
      apply @Distinct.make _ _ _ _ hdistinct hfresh _ hcert hkeygens (some taker)
      · intro other each
        rw [owns_move hstored htakers hresult]
        simp [TakerAt.result, eq_comm]
      · rw [hstored]
        exact hdistinct.nodup

/-- The oldest certificate of the channel becomes the taker's. -/
theorem Distinct.received (hdistinct : Distinct generate pool) {taker : Nat} {cert : Cert}
    {rest : List Cert} (hchannel : pool.channel = cert :: rest)
    (hresult : (pool.takers taker).result = none) :
    Distinct generate
      { pool.leave taker (.returned (some cert)) with
        channel := rest
        taken := pool.taken ++ [cert] } := by
  obtain ⟨hmade, hunique, hnodup⟩ := hdistinct
  have hstored : pool.stored = cert :: (rest ++ pool.worker.pending) := by
    simp [stored, hchannel]
  rw [hstored] at hnodup
  obtain ⟨hnew, hrest⟩ := List.nodup_cons.mp hnodup
  -- where a certificate is now, and where it was
  have hwas (place : Option Nat) (each : Cert)
      (howns : { pool.leave taker (.returned (some cert)) with
        channel := rest
        taken := pool.taken ++ [cert] }.Owns place each) :
      place = some taker ∧ each = cert ∨
        place ≠ some taker ∧ each ≠ cert ∧ pool.Owns place each := by
    cases place with
    | none =>
        have hmem : each ∈ rest ++ pool.worker.pending := howns
        refine .inr ⟨by simp, ?_, ?_⟩
        · rintro rfl
          exact hnew hmem
        · show each ∈ pool.stored
          rw [hstored]
          exact List.mem_cons_of_mem _ hmem
    | some other =>
        by_cases hother : other = taker
        · subst hother
          have heach : some cert = some each := by
            simpa [Owns, CertPool.leave, CertPool.move, TakerAt.result] using howns
          exact .inl ⟨rfl, (Option.some.inj heach).symm⟩
        · have howned : pool.Owns (some other) each := by
            simpa [Owns, CertPool.leave, CertPool.move, hother] using howns
          refine .inr ⟨by simp [hother], ?_, howned⟩
          rintro rfl
          have hin : pool.Owns none each := by simp [Owns, hstored]
          cases hunique _ _ _ howned hin
  refine ⟨fun place each howns => ?_, fun first second each hfirst hsecond => ?_, hrest⟩
  · obtain ⟨_, rfl⟩ | ⟨_, _, hbefore⟩ := hwas place each howns
    · exact hmade none each (by simp [Owns, hstored])
    · exact hmade place each hbefore
  · obtain ⟨rfl, rfl⟩ | ⟨_, hother, hbefore⟩ := hwas first each hfirst
    · obtain ⟨rfl, _⟩ | ⟨_, hother, _⟩ := hwas second each hsecond
      · rfl
      · exact absurd rfl hother
    · obtain ⟨_, rfl⟩ | ⟨_, _, hbeforeToo⟩ := hwas second each hsecond
      · exact absurd rfl hother
      · exact hunique first second each hbefore hbeforeToo

theorem Distinct.workerStep (hdistinct : Distinct generate pool) (hfresh : Fresh generate) :
    Distinct generate (pool.workerStep size generate) := by
  unfold CertPool.workerStep
  split
  next hat =>
    refine hdistinct.still ?_ (fun _ => rfl) (Nat.le_refl _)
    cases hclosed : pool.closed <;> simp [stored, hat, CertWorkerAt.pending]
  next hat =>
    have hstored : pool.stored = pool.channel := by simp [stored, hat, CertWorkerAt.pending]
    split
    next cert hcert =>
      have howns (place : Option Nat) (each : Cert) :
          { pool with
            worker := .sending cert
            keygens := pool.keygens + 1
            produced := pool.produced ++ [cert] }.Owns place each ↔
          pool.Owns place each ∨ place = none ∧ each = cert := by
        cases place with
        | none => simp [Owns, stored, CertWorkerAt.pending, hat]
        | some taker => simp [Owns]
      have hnew : cert ∉ pool.channel := by
        intro hmem
        obtain ⟨i, hi, hbefore⟩ := hdistinct.made none cert (by simpa [Owns, hstored] using hmem)
        exact absurd (hfresh i pool.keygens cert hbefore hcert) (Nat.ne_of_lt hi)
      apply hdistinct.make hfresh hcert rfl howns
      have hnodup := hdistinct.nodup
      rw [hstored] at hnodup
      simpa [stored, CertWorkerAt.pending, List.concat_eq_append] using hnodup.concat hnew
    next =>
      exact hdistinct.still (by simp [stored, hat, CertWorkerAt.pending]) (fun _ => rfl)
        (Nat.le_succ _)
  next cert hat =>
    split
    · exact hdistinct.still (by simp [stored, hat, CertWorkerAt.pending]) (fun _ => rfl)
        (Nat.le_refl _)
    · exact hdistinct
  next hat =>
    exact hdistinct.still (by simp [stored, hat, CertWorkerAt.pending]) (fun _ => rfl)
      (Nat.le_refl _)
  next => exact hdistinct

theorem Distinct.takerStep (hdistinct : Distinct generate pool) (hfresh : Fresh generate)
    (taker : Nat) : Distinct generate (pool.takerStep generate taker) := by
  unfold CertPool.takerStep
  split
  next => exact hdistinct
  next => exact hdistinct
  next caller hat =>
    have hresult : (pool.takers taker).result = none := by rw [hat]; rfl
    split
    · exact hdistinct.goto rfl rfl hresult rfl (Nat.le_refl _)
    · exact hdistinct
  next caller hat =>
    have hresult : (pool.takers taker).result = none := by rw [hat]; rfl
    split
    · exact hdistinct.missed hresult caller
    · exact hdistinct.goto rfl rfl hresult rfl (Nat.le_refl _)
  next caller hat =>
    have hresult : (pool.takers taker).result = none := by rw [hat]; rfl
    split
    next cert rest hchannel => exact hdistinct.received hchannel hresult
    next => exact hdistinct.missed hresult caller
  next caller hat =>
    have hresult : (pool.takers taker).result = none := by rw [hat]; rfl
    cases caller <;> exact hdistinct.generated hfresh rfl rfl hresult rfl

theorem distinct_next (hfresh : Fresh generate) (hdistinct : Distinct generate pool)
    (action : Action) : Distinct generate (pool.next size generate action) := by
  cases action with
  | worker => exact hdistinct.workerStep hfresh
  | call taker caller =>
      simp only [next]
      split
      next hidle => exact hdistinct.goto rfl rfl (by rw [hidle]; rfl) rfl (Nat.le_refl _)
      next => exact hdistinct
  | taker taker => exact hdistinct.takerStep hfresh taker
  | close => exact hdistinct.still rfl (fun _ => rfl) (Nat.le_refl _)

end Distinct

/-! The order of the certificates, and how many there are. -/

structure Queued (size : Nat) (pool : CertPool Cert) : Prop where
  fifo : pool.taken ++ pool.stored = pool.produced
  bounded : pool.channel.length ≤ size

section Queued

variable {size : Nat} {generate : Nat → Option Cert} {pool : CertPool Cert}

theorem queued_new (size : Nat) : Queued size (new size : CertPool Cert) where
  fifo := by
    rw [stored_new]
    rfl
  bounded := Nat.zero_le _

theorem Queued.congr (hqueued : Queued size pool) {moved : CertPool Cert}
    (hchannel : moved.channel = pool.channel) (hworker : moved.worker = pool.worker)
    (hproduced : moved.produced = pool.produced) (htaken : moved.taken = pool.taken) :
    Queued size moved := by
  obtain ⟨hfifo, hbounded⟩ := hqueued
  refine ⟨?_, by rw [hchannel]; exact hbounded⟩
  rw [htaken, hproduced, stored, hchannel, hworker]
  exact hfifo

theorem Queued.missed (hqueued : Queued size pool) (taker : Nat) (caller : Caller) :
    Queued size (pool.missed taker caller) := by
  cases caller <;> exact hqueued.congr rfl rfl rfl rfl

theorem queued_workerStep (hqueued : Queued size pool) :
    Queued size (pool.workerStep size generate) := by
  obtain ⟨hfifo, hbounded⟩ := hqueued
  unfold workerStep
  split
  next hat =>
    refine ⟨?_, hbounded⟩
    rw [← hfifo]
    cases hclosed : pool.closed <;> simp [stored, hat, CertWorkerAt.pending]
  next hat =>
    split
    next cert _ =>
      refine ⟨?_, hbounded⟩
      simp [stored, CertWorkerAt.pending, ← hfifo, hat]
    next =>
      refine ⟨?_, hbounded⟩
      simp [stored, CertWorkerAt.pending, ← hfifo, hat]
  next cert hat =>
    split
    next hroom =>
      refine ⟨?_, by simpa [Nat.succ_le_iff] using hroom⟩
      simp [stored, CertWorkerAt.pending, ← hfifo, hat]
    next => exact ⟨hfifo, hbounded⟩
  next hat =>
    refine ⟨?_, hbounded⟩
    simp [stored, CertWorkerAt.pending, ← hfifo, hat]
  next => exact ⟨hfifo, hbounded⟩

theorem queued_takerStep (hqueued : Queued size pool) (taker : Nat) :
    Queued size (pool.takerStep generate taker) := by
  unfold takerStep
  split
  next => exact hqueued
  next => exact hqueued
  next caller _ =>
    split
    · exact hqueued.congr rfl rfl rfl rfl
    · exact hqueued
  next caller _ =>
    split
    · exact hqueued.missed taker caller
    · exact hqueued.congr rfl rfl rfl rfl
  next caller _ =>
    split
    next cert rest hchannel =>
      obtain ⟨hfifo, hbounded⟩ := hqueued
      refine ⟨?_, ?_⟩
      · show pool.taken ++ [cert] ++ (rest ++ pool.worker.pending) = pool.produced
        rw [← hfifo, stored, hchannel]
        simp
      · rw [hchannel] at hbounded
        exact Nat.le_of_succ_le hbounded
    next => exact hqueued.missed taker caller
  next caller _ => cases caller <;> exact hqueued.congr rfl rfl rfl rfl

theorem queued_next (pool : CertPool Cert) (action : Action) (hqueued : Queued size pool) :
    Queued size (pool.next size generate action) := by
  cases action with
  | worker => exact queued_workerStep hqueued
  | call taker caller =>
      simp only [next]
      split
      · exact hqueued.congr rfl rfl rfl rfl
      · exact hqueued
  | taker taker => exact queued_takerStep hqueued taker
  | close => exact hqueued.congr rfl rfl rfl rfl

end Queued

/-- What holds of the pool at any time: its certificates leave in the order they were
made, at most `size` of them wait, no certificate belongs to two calls or to a call
and the pool, and `take_cert` generates a key only without the lock. -/
structure Law (size : Nat) (pool : CertPool Cert) : Prop where
  fifo : pool.taken ++ pool.stored = pool.produced
  bounded : pool.channel.length ≤ size
  owned : ∀ taker other cert, (pool.takers taker).result = some cert →
    (pool.takers other).result = some cert → taker = other
  unstored : ∀ taker cert, (pool.takers taker).result = some cert → cert ∉ pool.stored
  distinct : pool.stored.Nodup
  unlocked : ∀ taker, pool.takers taker = .generating .takeCert → taker ∉ pool.lock.tasks
  waits : ∀ taker, pool.lock.holder = some taker → ∃ caller,
    pool.takers taker = .lock caller ∨ pool.takers taker = .loadClosed caller ∨
      pool.takers taker = .tryRecv caller ∨
        caller = .take ∧ pool.takers taker = .generating caller

theorem law_always (size : Nat) (generate : Nat → Option Cert) (hfresh : Fresh generate)
    (actions : List Action) :
    Always (next size generate) (Law size) (new size) actions := by
  have hall : Along (next size generate) (fun _ _ => True) (new size) actions := along_true
  have hdistinct := hall.always (fun pool action (hpool : Distinct generate pool) _ =>
    distinct_next hfresh hpool action) (distinct_new generate size)
  have hqueued := hall.always (fun pool action hpool _ => queued_next pool action hpool)
    (queued_new size)
  have hlocked := hall.always (fun pool action hpool _ => locked_next pool action hpool)
    (locked_new size)
  apply (hdistinct.and (hqueued.and hlocked)).mono
  rintro pool ⟨hdistinct, hqueued, hlocked⟩
  refine ⟨hqueued.fifo, hqueued.bounded, ?_, ?_, hdistinct.nodup, ?_, ?_⟩
  · intro taker other cert htaker hother
    exact Option.some.inj (hdistinct.unique (some taker) (some other) cert htaker hother)
  · intro taker cert htaker hmem
    cases hdistinct.unique (some taker) none cert htaker hmem
  · intro taker hat hmem
    rw [hlocked.queued, hat] at hmem
    simp [TakerAt.queues] at hmem
  · intro taker hholder
    have hqueues := (hlocked.queued taker).mp (FairMutex.mem_of_holder hholder)
    cases hat : pool.takers taker with
    | lock caller => exact ⟨caller, .inl rfl⟩
    | loadClosed caller => exact ⟨caller, .inr (.inl rfl)⟩
    | tryRecv caller => exact ⟨caller, .inr (.inr (.inl rfl))⟩
    | generating caller =>
        cases caller with
        | take => exact ⟨.take, .inr (.inr (.inr ⟨rfl, rfl⟩))⟩
        | takeCert => simp [hat, TakerAt.queues] at hqueues
    | idle | returned _ => simp [hat, TakerAt.queues] at hqueues

/-- Two calls at once, and numbers for certificates. -/
theorem law_numbers :
    Always (next 2 some) (Law 2) (new 2)
      [.worker, .worker, .call 0 .takeCert, .worker, .call 1 .take, .taker 0, .taker 0,
        .taker 0, .taker 1, .taker 1, .taker 1, .taker 1] :=
  law_always 2 some (fun _ _ _ hfirst hsecond => Option.some.inj (hfirst.trans hsecond.symm)) _

/-! A pool that is being closed. -/

/-- A certificate that a call past the flag may still take. -/
def mayTake (pool : CertPool Cert) : Nat :=
  match pool.lock.holder with
  | some taker =>
      match pool.takers taker with
      | .tryRecv _ => 1
      | _ => 0
  | none => 0

/-- A certificate that the worker may still make. -/
def mayMake (pool : CertPool Cert) : Nat :=
  match pool.worker with
  | .generating => 1
  | _ => 0

theorem mayTake_le (pool : CertPool Cert) : pool.mayTake ≤ 1 := by
  unfold mayTake
  split
  · split <;> decide
  · decide

theorem mayMake_le (pool : CertPool Cert) : pool.mayMake ≤ 1 := by
  unfold mayMake
  split <;> decide

section Closing

variable {size : Nat} {generate : Nat → Option Cert} {pool : CertPool Cert}

/-- The next holder is at the lock. -/
theorem mayTake_leave (hlocked : Locked pool) {taker : Nat} {stage : TakerAt Cert}
    (hpast : (pool.takers taker).holds = true) : (pool.leave taker stage).mayTake = 0 := by
  unfold mayTake
  split
  next next hholder =>
    have htaker := hlocked.holder taker hpast
    have hmem : next ∈ pool.lock.release.tasks := FairMutex.mem_of_holder hholder
    have hother : next ≠ taker := by
      rintro rfl
      exact FairMutex.not_mem_release hlocked.nodup htaker hmem
    split
    next caller hat =>
      have hat : pool.takers next = .tryRecv caller := by
        simpa [leave, move, hother] using hat
      have hsame := hlocked.holder next (by rw [hat]; rfl)
      exact absurd (Option.some.inj (hsame.symm.trans htaker)) hother
    next => rfl
  next => rfl

theorem mayTake_of_tryRecv (hlocked : Locked pool) {taker : Nat} {caller : Caller}
    (hat : pool.takers taker = .tryRecv caller) : pool.mayTake = 1 := by
  have hholder := hlocked.holder taker (by rw [hat]; rfl)
  simp [mayTake, hholder, hat]

theorem mayTake_move {taker : Nat} {stage : TakerAt Cert}
    (hstage : ∀ caller, stage ≠ .tryRecv caller) :
    (pool.move taker stage).mayTake ≤ pool.mayTake := by
  unfold mayTake move
  cases hholder : pool.lock.holder with
  | none => simp
  | some holder =>
      by_cases hsame : holder = taker
      · subst hsame
        cases stage with
        | tryRecv caller => exact absurd rfl (hstage caller)
        | _ => simp
      · simp [hsame]

theorem mayTake_call (taker : Nat) (caller : Caller) :
    { pool.move taker (.lock caller) with lock := pool.lock.request taker }.mayTake ≤
      pool.mayTake := by
  cases hlock : pool.lock with
  | free => simp [mayTake, move]
  | held holder waiting =>
      by_cases hsame : holder = taker
      · subst hsame
        simp [mayTake, move]
      · simp [mayTake, move, hlock, hsame]

/-- What has been made or taken since, and what may still be. -/
structure Spends (pool moved : CertPool Cert) : Prop where
  closed : moved.closed = pool.closed
  taken : moved.taken.length + moved.mayTake ≤ pool.taken.length + pool.mayTake
  produced : moved.produced.length + moved.mayMake ≤
    pool.produced.length + pool.mayMake

theorem Spends.still {moved : CertPool Cert} (hclosed : moved.closed = pool.closed)
    (htaken : moved.taken = pool.taken) (hmayTake : moved.mayTake ≤ pool.mayTake)
    (hproduced : moved.produced = pool.produced) (hworker : moved.worker = pool.worker) :
    Spends pool moved := by
  refine ⟨hclosed, ?_, ?_⟩
  · rw [htaken]
    omega
  · exact Nat.le_of_eq (by rw [hproduced, mayMake, mayMake, hworker])

theorem spends_workerStep (hclosed : pool.closed = true) :
    Spends pool (pool.workerStep size generate) := by
  obtain ⟨hlock, htakers, hflag, htaken⟩ := @workerStep_frame _ size generate pool
  refine ⟨hflag, ?_, ?_⟩
  · exact Nat.le_of_eq (by rw [htaken, mayTake, mayTake, hlock, htakers])
  · unfold workerStep
    split
    next hat => simp [mayMake, hat, hclosed]
    next hat => split <;> simp [mayMake, hat]
    next cert hat => split <;> simp [mayMake, hat]
    next hat => simp [mayMake, hat]
    next => exact Nat.le_refl _

theorem spends_missed (hlocked : Locked pool) {taker : Nat}
    (hpast : (pool.takers taker).holds = true) (caller : Caller) :
    Spends pool (pool.missed taker caller) := by
  cases caller with
  | takeCert =>
      refine .still rfl rfl ?_ rfl rfl
      have hleft := @mayTake_leave _ _ hlocked taker (.generating .takeCert) hpast
      rw [missed, hleft]
      exact Nat.zero_le _
  | take => exact .still rfl rfl (mayTake_move (by simp)) rfl rfl

theorem spends_takerStep (hlocked : Locked pool) (hclosed : pool.closed = true)
    (taker : Nat) : Spends pool (pool.takerStep generate taker) := by
  have hsame : Spends pool pool := .still rfl rfl (Nat.le_refl _) rfl rfl
  unfold takerStep
  split
  next => exact hsame
  next => exact hsame
  next caller hat =>
    split
    · exact .still rfl rfl (mayTake_move (by simp)) rfl rfl
    · exact hsame
  next caller hat =>
    rw [if_pos hclosed]
    exact spends_missed hlocked (by rw [hat]; rfl) caller
  next caller hat =>
    split
    next cert rest _ =>
      have hbefore := mayTake_of_tryRecv hlocked hat
      have hafter := @mayTake_leave _ _ hlocked taker (.returned (some cert)) (by rw [hat]; rfl)
      refine ⟨rfl, ?_, Nat.le_refl _⟩
      change (pool.taken ++ [cert]).length +
        (pool.leave taker (.returned (some cert))).mayTake ≤ _
      rw [hbefore, hafter]
      simp
    next => exact spends_missed hlocked (by rw [hat]; rfl) caller
  next caller hat =>
    cases caller with
    | takeCert =>
        refine .still rfl rfl ?_ rfl rfl
        exact @mayTake_move _ { pool with keygens := pool.keygens + 1 } _ _ (by simp)
    | take =>
        refine .still rfl rfl ?_ rfl rfl
        have hmade : Locked { pool with keygens := pool.keygens + 1 } :=
          hlocked.congr rfl rfl
        have hleft := @mayTake_leave _ _ hmade taker (.returned (generate pool.keygens))
          (by change (pool.takers taker).holds = true; rw [hat]; rfl)
        change CertPool.mayTake (CertPool.leave _ _ _) ≤ _
        rw [hleft]
        exact Nat.zero_le _

theorem spends_next (hlocked : Locked pool) (hclosed : pool.closed = true) (action : Action) :
    Spends pool (pool.next size generate action) := by
  cases action with
  | worker => exact spends_workerStep hclosed
  | call taker caller =>
      simp only [next]
      split
      · exact .still rfl rfl (mayTake_call taker caller) rfl rfl
      · exact .still rfl rfl (Nat.le_refl _) rfl rfl
  | taker taker => exact spends_takerStep hlocked hclosed taker
  | close => exact .still hclosed.symm rfl (Nat.le_refl _) rfl rfl

theorem Spends.trans {moved final : CertPool Cert} (hfirst : Spends pool moved)
    (hsecond : Spends moved final) : Spends pool final where
  closed := hsecond.closed.trans hfirst.closed
  taken := Nat.le_trans hsecond.taken hfirst.taken
  produced := Nat.le_trans hsecond.produced hfirst.produced

/-- Nobody is left who would make room in the channel. -/
structure Stuck (size : Nat) (cert : Cert) (pool : CertPool Cert) : Prop where
  locked : Locked pool
  closed : pool.closed = true
  mayTake : pool.mayTake = 0
  worker : pool.worker = .sending cert
  full : pool.channel.length = size

theorem Stuck.workerStep {cert : Cert} (hstuck : Stuck size cert pool) :
    pool.workerStep size generate = pool := by
  have hfull : ¬ pool.channel.length < size := Nat.not_lt.mpr (Nat.le_of_eq hstuck.full.symm)
  simp [CertPool.workerStep, hstuck.worker, hfull]

/-- A call past the flag would count in `mayTake`. -/
theorem Stuck.takerStep {cert : Cert} (hstuck : Stuck size cert pool) (taker : Nat) :
    (pool.takerStep generate taker).worker = pool.worker ∧
      (pool.takerStep generate taker).channel = pool.channel ∧
        (pool.takerStep generate taker).taken = pool.taken := by
  have hmissed (caller : Caller) : (pool.missed taker caller).worker = pool.worker ∧
      (pool.missed taker caller).channel = pool.channel ∧
        (pool.missed taker caller).taken = pool.taken := by
    cases caller <;> exact ⟨rfl, rfl, rfl⟩
  unfold CertPool.takerStep
  split
  next => exact ⟨rfl, rfl, rfl⟩
  next => exact ⟨rfl, rfl, rfl⟩
  next => split <;> exact ⟨rfl, rfl, rfl⟩
  next caller _ =>
    split
    · exact hmissed caller
    · exact ⟨rfl, rfl, rfl⟩
  next caller hat =>
    have hmay := mayTake_of_tryRecv hstuck.locked hat
    rw [hstuck.mayTake] at hmay
    cases hmay
  next caller _ => cases caller <;> exact ⟨rfl, rfl, rfl⟩

theorem Stuck.next {cert : Cert} (hstuck : Stuck size cert pool) (action : Action) :
    Stuck size cert (pool.next size generate action) := by
  have hspends := @spends_next _ size generate _ hstuck.locked hstuck.closed action
  have hkept : (pool.next size generate action).worker = pool.worker ∧
      (pool.next size generate action).channel = pool.channel ∧
        (pool.next size generate action).taken = pool.taken := by
    cases action with
    | worker =>
        simp only [CertPool.next, hstuck.workerStep]
        exact ⟨trivial, trivial, trivial⟩
    | call taker caller =>
        simp only [CertPool.next]
        split <;> exact ⟨rfl, rfl, rfl⟩
    | taker taker => exact hstuck.takerStep taker
    | close => exact ⟨rfl, rfl, rfl⟩
  obtain ⟨hworker, hchannel, htaken⟩ := hkept
  have hmayTake := hspends.taken
  rw [htaken, hstuck.mayTake] at hmayTake
  refine ⟨locked_next pool action hstuck.locked, hspends.closed.trans hstuck.closed, ?_, ?_, ?_⟩
  · omega
  · rw [hworker, hstuck.worker]
  · rw [hchannel, hstuck.full]

/-- Once the pool is closed, at most one certificate more leaves its channel and the
worker makes at most one more, whatever the takers generate for themselves; a worker
that a full channel holds up by then is held up for ever. -/
theorem closing_bounded (size : Nat) (generate : Nat → Option Cert) (before rest : List Action) :
    let closed := after (CertPool.next size generate) (new size) (before ++ [.close])
    let final := after (CertPool.next size generate) closed rest
    final.taken.length ≤ closed.taken.length + 1 ∧
      final.produced.length ≤ closed.produced.length + 1 ∧
        (closed.mayTake = 0 → ∀ cert, closed.worker = .sending cert →
          closed.channel.length = size → final.worker = .sending cert) := by
  intro closed final
  have hlocked : Locked closed := by
    have hall : Along (CertPool.next size generate) (fun _ _ => True)
        (new size : CertPool Cert) (before ++ [.close]) := along_true
    exact hall.invariant (fun pool action hpool _ => locked_next pool action hpool)
      (locked_new size)
  have hflag : closed.closed = true := by simp [closed, CertPool.next]
  have hall : Along (CertPool.next size generate) (fun _ _ => True) closed rest := along_true
  have hstep (now : CertPool Cert) (action : Action)
      (hnow : Locked now ∧ now.closed = true ∧ Spends closed now) (_ : True) :
      Locked (now.next size generate action) ∧
        (now.next size generate action).closed = true ∧
          Spends closed (now.next size generate action) := by
    obtain ⟨hnow, hnowClosed, hspends⟩ := hnow
    have hstep := @spends_next _ size generate _ hnow hnowClosed action
    exact ⟨locked_next now action hnow, hstep.closed.trans hnowClosed,
      hspends.trans hstep⟩
  have hspent : Locked final ∧ final.closed = true ∧ Spends closed final := hall.invariant hstep
    ⟨hlocked, hflag, .still rfl rfl (Nat.le_refl _) rfl rfl⟩
  obtain ⟨_, _, _, htaken, hproduced⟩ := hspent
  have hmayTake := closed.mayTake_le
  have hmayMake := closed.mayMake_le
  refine ⟨by omega, by omega, fun hnone cert hworker hfull => ?_⟩
  have hstuck : Stuck size cert closed := ⟨hlocked, hflag, hnone, hworker, hfull⟩
  have hend : Stuck size cert final :=
    hall.invariant (fun pool action hpool _ => Stuck.next hpool action) hstuck
  exact hend.worker

end Closing

end CertPool

end RustTgCalls.Wrtc
