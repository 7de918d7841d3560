import RustTgCalls.Io.ShellReader

namespace RustTgCalls.Io

open Transition

/-! The exit of the child as `wait_for_exit` and `set_on_exit` come to know of
it. -/

/-- A waiting call has counted the notifications issued before it subscribed. -/
inductive WaiterAt where
  | idle
  | called
  | subscribe
  | waiting (seen : Nat)
  | released
  deriving DecidableEq, Repr

/-- `onExit` holds a callback by its place among those registered, `callback` what
the reap task has cloned of it, and `marked` the tasks that have set `exited` and
have still to notify or to return. -/
structure ExitNotice where
  reader : ShellReader
  onExit : Option Nat
  registered : Nat
  callback : Option (Option Nat)
  invoked : List (Nat × Option RustTgCallsError)
  marked : Task → Bool
  notified : Nat
  waiters : Nat → WaiterAt

namespace ExitNotice

inductive Action where
  | reader (action : ShellReader.Action)
  | setOnExit
  | waitForExit (id : Nat)
  | waiter (id : Nat)
  deriving DecidableEq, Repr

def new : ExitNotice where
  reader := .new false
  onExit := none
  registered := 0
  callback := none
  invoked := []
  marked := fun _ => false
  notified := 0
  waiters := fun _ => .idle

/-- The end of the reap task and of `close`: `exited` is set, then all that have
subscribed are notified. -/
def mark (notice : ExitNotice) (task : Task) (finish : ShellReader → ShellReader) :
    ExitNotice :=
  if notice.marked task then
    { notice with notified := notice.notified + 1, reader := finish notice.reader }
  else
    { notice with
      reader := { notice.reader with exited := true }
      marked := Function.update notice.marked task true }

/-- The reap task clones the callback and then calls it. -/
def reapStep (notice : ExitNotice) : ExitNotice :=
  match notice.reader.reapAt with
  | .callback err =>
      match notice.callback with
      | none => { notice with callback := some notice.onExit }
      | some callback =>
          { notice with
            invoked := notice.invoked ++ callback.toList.map fun id => (id, err)
            reader :=
              { notice.reader with hasOnExit := callback.isSome }.reapStep }
  | .markExited => notice.mark .reap ShellReader.reapStep
  | _ => { notice with reader := notice.reader.reapStep }

def closerStep (notice : ExitNotice) (id : Nat) : ExitNotice :=
  match notice.reader.closers id with
  | .markExited => notice.mark (.closer id) fun reader => reader.closerStep id
  | _ => { notice with reader := notice.reader.closerStep id }

def moveTo (notice : ExitNotice) (id : Nat) (waiterAt : WaiterAt) : ExitNotice :=
  { notice with waiters := Function.update notice.waiters id waiterAt }

def waiterStep (notice : ExitNotice) (id : Nat) : ExitNotice :=
  match notice.waiters id with
  | .idle | .released => notice
  | .called =>
      if notice.reader.exited then notice.moveTo id .released
      else notice.moveTo id .subscribe
  | .subscribe => notice.moveTo id (.waiting notice.notified)
  | .waiting seen =>
      if seen < notice.notified then notice.moveTo id .released else notice

def next (notice : ExitNotice) : Action → ExitNotice
  | .reader action =>
      match action with
      | .reap => notice.reapStep
      | .closer id => notice.closerStep id
      | _ => { notice with reader := notice.reader.next action }
  | .setOnExit =>
      { notice with
        onExit := some notice.registered
        registered := notice.registered + 1 }
  | .waitForExit id =>
      if notice.waiters id = .idle then notice.moveTo id .called else notice
  | .waiter id => notice.waiterStep id

/-! The laws of the two notifications. -/

/-- No waiter is blocked behind the notification. -/
def Released (notice : ExitNotice) : Prop :=
  notice.reader.exited = true → 0 < notice.notified →
    ∀ id seen, notice.waiters id = .waiting seen → seen < notice.notified

/-- What a callback has been called with. -/
def callsOf (notice : ExitNotice) (id : Nat) : List (Option RustTgCallsError) :=
  (notice.invoked.filter fun call => call.1 = id).map Prod.snd

/-- The child has exited, and no task that was started can go on. -/
structure AtRest (notice : ExitNotice) : Prop where
  exited : notice.reader.process ≠ .running
  reap : notice.next (.reader .reap) = notice
  closer : ∀ id, notice.next (.reader (.closer id)) = notice

/-- A callback is called at most once, with the recorded error, and once
everything has come to rest it has been. -/
structure Delivered (notice : ExitNotice) : Prop where
  once : ∀ id, notice.callsOf id = [] ∨
    notice.callsOf id = [notice.reader.exitError]
  called : notice.AtRest → ∀ id, id < notice.registered →
    notice.callsOf id = [notice.reader.exitError]

/-! The steps that keep them. -/

/-- A call subscribes before the notification. -/
def Subscribes (notice : ExitNotice) : Action → Prop
  | .waiter id => notice.waiters id = .subscribe → notice.notified = 0
  | _ => True

/-- The reap task is still to come to the child. -/
def ReapAhead (notice : ExitNotice) : Prop :=
  notice.reader.reapAt = .lock ∨ notice.reader.reapAt = .queued

/-- What the reap task will make of a callback. -/
inductive Ears where
  | listening
  | cloned (callback : Option Nat)
  | deaf
  deriving DecidableEq, Repr

def ears (notice : ExitNotice) : Ears :=
  match notice.reader.reapAt with
  | .lock | .queued => if notice.reader.child then .listening else .deaf
  | .waiting | .storeError _ => .listening
  | .callback _ =>
      match notice.callback with
      | none => .listening
      | some callback => .cloned callback
  | .markExited | .returned => .deaf

/-- A callback is registered in an empty slot that the reap task is still to read,
and no `close` takes the child before the reap task while one is registered. -/
def Heard (notice : ExitNotice) : Action → Prop
  | .setOnExit => notice.onExit = none ∧ notice.ears = .listening
  | .reader (.closer id) =>
      notice.reader.closers id = .queued →
        notice.reader.mutex.holder = some (.closer id) →
        notice.reader.child = true → notice.ReapAhead → notice.onExit = none
  | _ => True

instance (notice : ExitNotice) : DecidablePred (Subscribes notice)
  | .waiter _ => inferInstanceAs (Decidable (_ → _))
  | .reader _ | .setOnExit | .waitForExit _ => .isTrue trivial

instance (notice : ExitNotice) : Decidable notice.ReapAhead :=
  inferInstanceAs (Decidable (_ ∨ _))

instance (notice : ExitNotice) : DecidablePred (Heard notice)
  | .setOnExit => inferInstanceAs (Decidable (_ ∧ _))
  | .reader (.closer _) => inferInstanceAs (Decidable (_ → _ → _ → _ → _))
  | .reader .reap | .reader (.call _) | .reader .die | .reader (.exit _)
  | .waitForExit _ | .waiter _ => .isTrue trivial

/-! What a step of the reap task and of `close` can do. -/

/-- The mutex as the reap task finds it when it comes to it or is woken. -/
def Comes (reader : ShellReader) (mutex : FairMutex Task) : Prop :=
  reader.reapAt = .lock ∧ mutex = reader.mutex.request .reap ∨
    reader.reapAt = .queued ∧ mutex = reader.mutex

inductive ReapTurn (reader : ShellReader) : ShellReader → Prop
  | wait : ReapTurn reader reader
  | queue (hat : reader.reapAt = .lock) :
      ReapTurn reader
        { reader with mutex := reader.mutex.request .reap, reapAt := .queued }
  | take (mutex : FairMutex Task) (hcomes : Comes reader mutex)
      (hholder : mutex.holder = some .reap) (hchild : reader.child = true) :
      ReapTurn reader { reader with mutex, reapAt := .waiting }
  | leave (mutex : FairMutex Task) (hcomes : Comes reader mutex)
      (hholder : mutex.holder = some .reap) (hchild : reader.child = false) :
      ReapTurn reader { reader with mutex := mutex.release, reapAt := .returned }
  | reaped (result : WaitResult) (hat : reader.reapAt = .waiting)
      (hprocess : reader.process = .exited result) :
      ReapTurn reader
        { reader with
          mutex := reader.mutex.release
          reapAt := .storeError (ShellReader.exitErrorOf result) }
  | store (err : Option RustTgCallsError) (hat : reader.reapAt = .storeError err) :
      ReapTurn reader { reader with exitError := err, reapAt := .callback err }
  | call (err : Option RustTgCallsError) (hat : reader.reapAt = .callback err)
      (reported : List (Option RustTgCallsError)) :
      ReapTurn reader { reader with reported, reapAt := .markExited }
  | mark (hat : reader.reapAt = .markExited) :
      ReapTurn reader { reader with exited := true, reapAt := .returned }

theorem reapTurn_inspect {reader : ShellReader} {mutex : FairMutex Task}
    (hcomes : Comes reader mutex) (hholder : mutex.holder = some .reap) :
    ReapTurn reader { reader with mutex }.inspect := by
  unfold ShellReader.inspect
  split
  next hchild => exact .take mutex hcomes hholder hchild
  next hchild => exact .leave mutex hcomes hholder (by simpa using hchild)

theorem reapTurn_reapStep (reader : ShellReader) :
    ReapTurn reader reader.reapStep := by
  unfold ShellReader.reapStep
  split
  next hat =>
    dsimp only
    split
    next hholder => exact reapTurn_inspect (.inl ⟨hat, rfl⟩) hholder
    next => exact .queue hat
  next hat =>
    split
    next hholder => exact reapTurn_inspect (.inr ⟨hat, rfl⟩) hholder
    next => exact .wait
  next hat =>
    split
    next => exact .wait
    next result hprocess => exact .reaped result hat hprocess
  next err hat => exact .store err hat
  next err hat => exact .call err hat _
  next hat => exact .mark hat
  next => exact .wait

inductive CloserTurn (reader : ShellReader) (id : Nat) : ShellReader → Prop
  | wait : CloserTurn reader id reader
  | early (hat : reader.closers id = .called) (hclosed : reader.closed = true) :
      CloserTurn reader id (reader.moveTo id .returned)
  | swap (hat : reader.closers id = .called) (hclosed : reader.closed = false) :
      CloserTurn reader id ({ reader with closed := true }.moveTo id .lock)
  | queue (hat : reader.closers id = .lock) :
      CloserTurn reader id
        ({ reader with mutex := reader.mutex.request (.closer id) }.moveTo id
          .queued)
  | take (hat : reader.closers id = .queued)
      (hholder : reader.mutex.holder = some (.closer id))
      (hchild : reader.child = true) :
      CloserTurn reader id
        ({ reader with child := false, killed := true }.moveTo id .killing)
  | skip (hat : reader.closers id = .queued)
      (hholder : reader.mutex.holder = some (.closer id))
      (hchild : reader.child = false) :
      CloserTurn reader id (reader.moveTo id .markExited)
  | killed (result : WaitResult) (hat : reader.closers id = .killing)
      (hprocess : reader.process = .exited result) :
      CloserTurn reader id (reader.moveTo id .markExited)
  | mark (hat : reader.closers id = .markExited) :
      CloserTurn reader id
        ({ reader with exited := true, mutex := reader.mutex.release }.moveTo id
          .returned)

theorem closerTurn_closerStep (reader : ShellReader) (id : Nat) :
    CloserTurn reader id (reader.closerStep id) := by
  unfold ShellReader.closerStep
  split
  next => exact .wait
  next hat =>
    split
    next hclosed => exact .early hat hclosed
    next hopen => exact .swap hat (by simpa using hopen)
  next hat => exact .queue hat
  next hat =>
    split
    next hholder =>
      split
      next hchild => exact .take hat hholder hchild
      next hchild => exact .skip hat hholder (by simpa using hchild)
    next => exact .wait
  next hat =>
    split
    next => exact .wait
    next result hprocess => exact .killed result hat hprocess
  next hat => exact .mark hat
  next => exact .wait

/-! No wakeup is lost. -/

/-- The waiters are touched by their own steps only, and whoever notifies has set
`exited`. -/
structure Subscribed (notice : ExitNotice) : Prop where
  exited : 0 < notice.notified → notice.reader.exited = true
  marked : ∀ task, notice.marked task = true → notice.reader.exited = true
  early : ∀ id seen, notice.waiters id = .waiting seen → seen = 0

theorem subscribed_new : Subscribed new where
  exited := by simp [new]
  marked := by simp [new]
  early := by simp [new]

theorem ReapTurn.exited {reader after : ShellReader} (hturn : ReapTurn reader after)
    (hexited : reader.exited = true) : after.exited = true := by
  cases hturn <;> first | exact hexited | rfl

theorem CloserTurn.exited {reader after : ShellReader} {id : Nat}
    (hturn : CloserTurn reader id after) (hexited : reader.exited = true) :
    after.exited = true := by
  cases hturn <;> first | exact hexited | rfl

theorem exited_reapStep {reader : ShellReader} (hexited : reader.exited = true) :
    reader.reapStep.exited = true :=
  (reapTurn_reapStep reader).exited hexited

theorem exited_closerStep {reader : ShellReader} (id : Nat)
    (hexited : reader.exited = true) : (reader.closerStep id).exited = true :=
  (closerTurn_closerStep reader id).exited hexited

theorem exited_next {reader : ShellReader} (action : ShellReader.Action)
    (hexited : reader.exited = true) : (reader.next action).exited = true := by
  cases action with
  | reap => exact exited_reapStep hexited
  | closer id => exact exited_closerStep id hexited
  | call id | die | exit result =>
      simp only [ShellReader.next]
      split <;> exact hexited

/-- A step of the reader keeps what is known to the waiters. -/
theorem Subscribed.reader {notice : ExitNotice} (hsubscribed : Subscribed notice)
    {reader : ShellReader}
    (hexited : notice.reader.exited = true → reader.exited = true) :
    Subscribed { notice with reader } :=
  ⟨fun hnotified => hexited (hsubscribed.exited hnotified),
    fun task hmarked => hexited (hsubscribed.marked task hmarked),
    hsubscribed.early⟩

theorem Subscribed.mark {notice : ExitNotice} (hsubscribed : Subscribed notice)
    (task : Task) {finish : ShellReader → ShellReader}
    (hfinish : ∀ reader, reader.exited = true → (finish reader).exited = true) :
    Subscribed (notice.mark task finish) := by
  unfold ExitNotice.mark
  split
  next hmarked =>
    have hexited := hfinish _ (hsubscribed.marked task hmarked)
    exact ⟨fun _ => hexited, fun _ _ => hexited, hsubscribed.early⟩
  next => exact ⟨fun _ => rfl, fun _ _ => rfl, hsubscribed.early⟩

theorem Subscribed.moveTo {notice : ExitNotice} (hsubscribed : Subscribed notice)
    (id : Nat) {waiterAt : WaiterAt}
    (hearly : ∀ seen, waiterAt = .waiting seen → seen = 0) :
    Subscribed (notice.moveTo id waiterAt) := by
  refine ⟨hsubscribed.exited, hsubscribed.marked, ?_⟩
  intro other seen hwaiting
  by_cases hother : other = id
  · exact hearly seen (by simpa [ExitNotice.moveTo, hother] using hwaiting)
  · exact hsubscribed.early other seen
      (by simpa [ExitNotice.moveTo, hother] using hwaiting)

theorem Subscribed.reapStep {notice : ExitNotice}
    (hsubscribed : Subscribed notice) : Subscribed notice.reapStep := by
  unfold ExitNotice.reapStep
  split
  · split
    · exact ⟨hsubscribed.exited, hsubscribed.marked, hsubscribed.early⟩
    · exact ⟨fun hnotified => exited_reapStep (hsubscribed.exited hnotified),
        fun task hmarked => exited_reapStep (hsubscribed.marked task hmarked),
        hsubscribed.early⟩
  · exact hsubscribed.mark .reap fun _ => exited_reapStep
  · exact hsubscribed.reader exited_reapStep

theorem Subscribed.waiterStep {notice : ExitNotice}
    (hsubscribed : Subscribed notice) (id : Nat)
    (hbefore : notice.waiters id = .subscribe → notice.notified = 0) :
    Subscribed (notice.waiterStep id) := by
  unfold ExitNotice.waiterStep
  split
  · exact hsubscribed
  · exact hsubscribed
  · split <;> exact hsubscribed.moveTo id (by simp)
  next hat =>
    exact hsubscribed.moveTo id (by simp [hbefore hat])
  · split
    · exact hsubscribed.moveTo id (by simp)
    · exact hsubscribed

theorem Subscribed.next {notice : ExitNotice} (hsubscribed : Subscribed notice)
    (action : Action) (hcondition : notice.Subscribes action) :
    Subscribed (notice.next action) := by
  cases action with
  | reader action =>
      cases action with
      | reap => exact hsubscribed.reapStep
      | closer id =>
          simp only [ExitNotice.next, ExitNotice.closerStep]
          split
          · exact hsubscribed.mark _ fun _ => exited_closerStep id
          · exact hsubscribed.reader (exited_closerStep id)
      | call _ | die | exit _ => exact hsubscribed.reader (exited_next _)
  | setOnExit => exact ⟨hsubscribed.exited, hsubscribed.marked, hsubscribed.early⟩
  | waitForExit id =>
      simp only [ExitNotice.next]
      split
      · exact hsubscribed.moveTo id (by simp)
      · exact hsubscribed
  | waiter id => exact hsubscribed.waiterStep id hcondition

theorem Subscribed.released {notice : ExitNotice} (hsubscribed : Subscribed notice) :
    notice.Released := by
  intro _ hnotified id seen hwaiting
  rw [hsubscribed.early id seen hwaiting]
  exact hnotified

/-- A call that subscribes behind the notification is blocked. -/
theorem subscribes_of_released {notice : ExitNotice} (action : Action)
    (hsubscribed : Subscribed notice) (hreleased : (notice.next action).Released) :
    notice.Subscribes action := by
  cases action with
  | reader _ | setOnExit | waitForExit _ => trivial
  | waiter id =>
      intro hat
      by_contra hnotified
      have hpositive : 0 < notice.notified := Nat.pos_of_ne_zero hnotified
      have hstep : notice.next (.waiter id) =
          notice.moveTo id (.waiting notice.notified) := by
        simp [ExitNotice.next, ExitNotice.waiterStep, hat]
      rw [hstep] at hreleased
      have hless := hreleased (hsubscribed.exited hpositive) hpositive id
        notice.notified (by simp [ExitNotice.moveTo])
      exact Nat.lt_irrefl _ hless

theorem always_released_iff (actions : List Action) :
    Always next Released new actions ↔ Along next Subscribes new actions :=
  always_iff_along (fun _ => Subscribed.released)
    (fun _ action hsubscribed => hsubscribed.next action)
    (fun _ action => subscribes_of_released action) subscribed_new

/-! Who holds the mutex of the child. -/

def InMutex : CloserAt → Prop
  | .queued | .killing | .markExited => True
  | _ => False

structure Guarded (reader : ShellReader) : Prop where
  nodup : reader.mutex.tasks.Nodup
  reap : reader.reapAt = .waiting → reader.mutex.holder = some .reap
  queued : reader.reapAt = .queued → Task.reap ∈ reader.mutex.tasks
  came : Task.reap ∈ reader.mutex.tasks →
    reader.reapAt = .queued ∨ reader.reapAt = .waiting
  closer : ∀ id, reader.closers id = .killing ∨ reader.closers id = .markExited →
    reader.mutex.holder = some (.closer id)
  inside : ∀ id, Task.closer id ∈ reader.mutex.tasks → InMutex (reader.closers id)

theorem guarded_new (hasOnExit : Bool) : Guarded (ShellReader.new hasOnExit) where
  nodup := by simp [ShellReader.new, FairMutex.tasks]
  reap := by simp [ShellReader.new]
  queued := by simp [ShellReader.new]
  came := by simp [ShellReader.new, FairMutex.tasks]
  closer := by simp [ShellReader.new]
  inside := by simp [ShellReader.new, FairMutex.tasks]

/-- What is known of the calls of `close` with another mutex. -/
structure Closers (reader : ShellReader) (mutex : FairMutex Task) : Prop where
  nodup : mutex.tasks.Nodup
  closer : ∀ id, reader.closers id = .killing ∨ reader.closers id = .markExited →
    mutex.holder = some (.closer id)
  inside : ∀ id, Task.closer id ∈ mutex.tasks → InMutex (reader.closers id)

theorem Guarded.comes {reader : ShellReader} (hguarded : Guarded reader)
    {mutex : FairMutex Task} (hcomes : Comes reader mutex) :
    Closers reader mutex := by
  rcases hcomes with ⟨hat, rfl⟩ | ⟨_, rfl⟩
  · have hout : Task.reap ∉ reader.mutex.tasks := by
      intro hmem
      rcases hguarded.came hmem with hcame | hcame <;> simp [hat] at hcame
    refine ⟨FairMutex.nodup_request hguarded.nodup hout,
      fun id hat => FairMutex.holder_request (hguarded.closer id hat), ?_⟩
    intro id hmem
    exact hguarded.inside id (by simpa using hmem)
  · exact ⟨hguarded.nodup, hguarded.closer, hguarded.inside⟩

/-- The reap task gives the mutex back; no `close` is past it. -/
theorem Closers.release {reader : ShellReader} {mutex : FairMutex Task}
    (hclosers : Closers reader mutex) (hholder : mutex.holder = some .reap) :
    Closers reader mutex.release ∧ Task.reap ∉ mutex.release.tasks := by
  refine ⟨⟨FairMutex.nodup_release hclosers.nodup, ?_, ?_⟩,
    FairMutex.not_mem_release hclosers.nodup hholder⟩
  · intro id hat
    have hother := hclosers.closer id hat
    simp [hholder] at hother
  · intro id hmem
    exact hclosers.inside id (FairMutex.mem_of_mem_release hmem)

theorem Guarded.reapTurn {reader after : ShellReader} (hguarded : Guarded reader)
    (hturn : ReapTurn reader after) : Guarded after := by
  cases hturn with
  | wait => exact hguarded
  | queue hat =>
      obtain ⟨hnodup, hcloser, hinside⟩ := hguarded.comes (.inl ⟨hat, rfl⟩)
      exact ⟨hnodup, by simp, by simp, by simp, hcloser, hinside⟩
  | take mutex hcomes hholder _ =>
      obtain ⟨hnodup, hcloser, hinside⟩ := hguarded.comes hcomes
      exact ⟨hnodup, fun _ => hholder, by simp, by simp, hcloser, hinside⟩
  | leave mutex hcomes hholder _ =>
      obtain ⟨⟨hnodup, hcloser, hinside⟩, hout⟩ :=
        (hguarded.comes hcomes).release hholder
      exact ⟨hnodup, by simp, by simp, fun hmem => absurd hmem hout, hcloser, hinside⟩
  | reaped result hat _ =>
      have hclosers : Closers reader reader.mutex :=
        ⟨hguarded.nodup, hguarded.closer, hguarded.inside⟩
      obtain ⟨⟨hnodup, hcloser, hinside⟩, hout⟩ :=
        hclosers.release (hguarded.reap hat)
      exact ⟨hnodup, by simp, by simp, fun hmem => absurd hmem hout, hcloser, hinside⟩
  | store err hat | call err hat reported | mark hat =>
      have hout : Task.reap ∉ reader.mutex.tasks := by
        intro hmem
        rcases hguarded.came hmem with hcame | hcame <;> simp [hat] at hcame
      exact ⟨hguarded.nodup, by simp, by simp, fun hmem => absurd hmem hout,
        hguarded.closer, hguarded.inside⟩

/-- A `close` moves on to a stage with the mutex as it is. -/
theorem Guarded.moveTo {reader : ShellReader} (hguarded : Guarded reader)
    {id : Nat} {closerAt : CloserAt}
    (hholds : closerAt = .killing ∨ closerAt = .markExited →
      reader.mutex.holder = some (.closer id))
    (hinside : Task.closer id ∈ reader.mutex.tasks → InMutex closerAt) :
    Guarded (reader.moveTo id closerAt) := by
  refine ⟨hguarded.nodup, hguarded.reap, hguarded.queued, hguarded.came, ?_, ?_⟩
  · intro other hat
    by_cases hother : other = id
    · subst hother
      exact hholds (by simpa [ShellReader.moveTo] using hat)
    · exact hguarded.closer other (by simpa [ShellReader.moveTo, hother] using hat)
  · intro other hmem
    by_cases hother : other = id
    · subst hother
      simpa [ShellReader.moveTo] using hinside hmem
    · simpa [ShellReader.moveTo, hother] using hguarded.inside other hmem

/-- Fields that the mutex knows nothing of. -/
theorem Guarded.set {reader : ShellReader} (hguarded : Guarded reader)
    (child killed closed exited : Bool) :
    Guarded { reader with child, killed, closed, exited } :=
  ⟨hguarded.nodup, hguarded.reap, hguarded.queued, hguarded.came, hguarded.closer,
    hguarded.inside⟩

theorem Guarded.request {reader : ShellReader} (hguarded : Guarded reader)
    {id : Nat} (hat : reader.closers id = .lock) :
    Guarded
      ({ reader with mutex := reader.mutex.request (.closer id) }.moveTo id
        .queued) := by
  have hout : Task.closer id ∉ reader.mutex.tasks := by
    intro hmem
    simpa [hat, InMutex] using hguarded.inside id hmem
  refine ⟨FairMutex.nodup_request hguarded.nodup hout,
    fun hwaiting => FairMutex.holder_request (hguarded.reap hwaiting), ?_, ?_, ?_, ?_⟩
  · intro hqueued
    simpa [ShellReader.moveTo] using hguarded.queued hqueued
  · intro hmem
    exact hguarded.came (by simpa [ShellReader.moveTo] using hmem)
  · intro other hother
    have hdistinct : other ≠ id := by
      rintro rfl
      simp [ShellReader.moveTo] at hother
    exact FairMutex.holder_request
      (hguarded.closer other (by simpa [ShellReader.moveTo, hdistinct] using hother))
  · intro other hmem
    by_cases hdistinct : other = id
    · simp [ShellReader.moveTo, hdistinct, InMutex]
    · have hbefore : Task.closer other ∈ reader.mutex.tasks := by
        simpa [ShellReader.moveTo, hdistinct] using hmem
      simpa [ShellReader.moveTo, hdistinct] using hguarded.inside other hbefore

theorem Guarded.release {reader : ShellReader} (hguarded : Guarded reader)
    {id : Nat} (hat : reader.closers id = .markExited) :
    Guarded
      ({ reader with exited := true, mutex := reader.mutex.release }.moveTo id
        .returned) := by
  have hholder := hguarded.closer id (.inr hat)
  refine ⟨FairMutex.nodup_release hguarded.nodup, ?_, ?_, ?_, ?_, ?_⟩
  · intro hwaiting
    have hreap := hguarded.reap hwaiting
    simp [hholder] at hreap
  · intro hqueued
    exact FairMutex.mem_release hholder (by simp) (hguarded.queued hqueued)
  · intro hmem
    exact hguarded.came (FairMutex.mem_of_mem_release hmem)
  · intro other hother
    have hdistinct : other ≠ id := by
      rintro rfl
      simp [ShellReader.moveTo] at hother
    have hpast := hguarded.closer other
      (by simpa [ShellReader.moveTo, hdistinct] using hother)
    rw [hholder] at hpast
    cases hpast
    exact absurd rfl hdistinct
  · intro other hmem
    have hdistinct : other ≠ id := by
      rintro rfl
      exact FairMutex.not_mem_release hguarded.nodup hholder hmem
    simpa [ShellReader.moveTo, hdistinct] using
      hguarded.inside other (FairMutex.mem_of_mem_release hmem)

theorem Guarded.closerTurn {reader after : ShellReader} {id : Nat}
    (hguarded : Guarded reader) (hturn : CloserTurn reader id after) :
    Guarded after := by
  have houtside (hat : ¬ InMutex (reader.closers id)) :
      Task.closer id ∉ reader.mutex.tasks :=
    fun hmem => hat (hguarded.inside id hmem)
  cases hturn with
  | wait => exact hguarded
  | early hat _ =>
      have hout := houtside (by simp [hat, InMutex])
      exact hguarded.moveTo (by simp) fun hmem => absurd hmem hout
  | swap hat _ =>
      have hout := houtside (by simp [hat, InMutex])
      exact (hguarded.set _ _ true _).moveTo (by simp) fun hmem => absurd hmem hout
  | queue hat => exact hguarded.request hat
  | take hat hholder _ =>
      exact (hguarded.set false true _ _).moveTo (fun _ => hholder) fun _ => trivial
  | skip hat hholder _ => exact hguarded.moveTo (fun _ => hholder) fun _ => trivial
  | killed result hat _ =>
      exact hguarded.moveTo (fun _ => hguarded.closer id (.inl hat)) fun _ => trivial
  | mark hat => exact hguarded.release hat

theorem Guarded.mark {notice : ExitNotice} (hguarded : Guarded notice.reader)
    (task : Task) {finish : ShellReader → ShellReader}
    (hfinish : Guarded (finish notice.reader)) :
    Guarded (notice.mark task finish).reader := by
  unfold ExitNotice.mark
  split
  · exact hfinish
  · exact hguarded.set _ _ _ true

theorem Guarded.next {notice : ExitNotice} (hguarded : Guarded notice.reader)
    (action : Action) : Guarded (notice.next action).reader := by
  cases action with
  | reader action =>
      cases action with
      | reap =>
          have hturn := hguarded.reapTurn (reapTurn_reapStep notice.reader)
          simp only [ExitNotice.next, ExitNotice.reapStep]
          split
          · split
            · exact hguarded
            · next callback _ =>
                have hset : Guarded
                    { notice.reader with hasOnExit := callback.isSome } :=
                  ⟨hguarded.nodup, hguarded.reap, hguarded.queued, hguarded.came,
                    hguarded.closer, hguarded.inside⟩
                exact hset.reapTurn (reapTurn_reapStep _)
          · exact hguarded.mark .reap hturn
          · exact hturn
      | closer id =>
          have hturn := hguarded.closerTurn (closerTurn_closerStep notice.reader id)
          simp only [ExitNotice.next, ExitNotice.closerStep]
          split
          · exact hguarded.mark (.closer id) hturn
          · exact hturn
      | call id =>
          simp only [ExitNotice.next, ShellReader.next]
          split
          next hidle =>
            refine hguarded.moveTo (by simp) fun hmem => ?_
            simpa [hidle, InMutex] using hguarded.inside id hmem
          next => exact hguarded
      | die | exit _ =>
          simp only [ExitNotice.next, ShellReader.next]
          split <;> exact ⟨hguarded.nodup, hguarded.reap, hguarded.queued,
            hguarded.came, hguarded.closer, hguarded.inside⟩
  | setOnExit => exact hguarded
  | waitForExit id =>
      simp only [ExitNotice.next]
      split <;> exact hguarded
  | waiter id =>
      simp only [ExitNotice.next, ExitNotice.waiterStep]
      split <;> (try split) <;> exact hguarded

/-! Once everything has come to rest, the reap task has returned. -/

theorem inspect_moves {reader : ShellReader} {stage : ReapAt}
    (hstage : stage = .lock ∨ stage = .queued) : reader.inspect.reapAt ≠ stage := by
  unfold ShellReader.inspect
  rcases hstage with rfl | rfl <;> split <;> simp

theorem mark_moves {notice : ExitNotice} {task : Task}
    {finish : ShellReader → ShellReader}
    (hrest : notice.mark task finish = notice) : False := by
  unfold ExitNotice.mark at hrest
  split at hrest
  next =>
    have hnotified := congrArg ExitNotice.notified hrest
    simp at hnotified
  next hmarked =>
    have hmark := congrArg (fun notice => notice.marked task) hrest
    simp [hmarked] at hmark

/-- A `close` that has the mutex can go on. -/
theorem closer_moves {notice : ExitNotice} (hrest : notice.AtRest) {id : Nat}
    (hholder : notice.reader.mutex.holder = some (.closer id))
    (hinside : InMutex (notice.reader.closers id)) : False := by
  have hstep := hrest.closer id
  simp only [ExitNotice.next, ExitNotice.closerStep] at hstep
  have hcloser {reader : ShellReader}
      (hsame : { notice with reader } = notice) :
      reader.closers id = notice.reader.closers id :=
    congrArg (fun notice : ExitNotice => notice.reader.closers id) hsame
  cases hat : notice.reader.closers id with
  | idle | called | lock | returned => simp [hat, InMutex] at hinside
  | queued =>
      rw [hat] at hstep
      have hsame := hcloser hstep
      simp only [ShellReader.closerStep, hat, hholder, if_true] at hsame
      split at hsame <;> simp [ShellReader.moveTo] at hsame
  | killing =>
      rw [hat] at hstep
      have hsame := hcloser hstep
      cases hprocess : notice.reader.process with
      | running => exact hrest.exited hprocess
      | exited result =>
          simp [ShellReader.closerStep, hat, hprocess, ShellReader.moveTo] at hsame
  | markExited =>
      rw [hat] at hstep
      exact mark_moves hstep

theorem AtRest.returned {notice : ExitNotice} (hguarded : Guarded notice.reader)
    (hrest : notice.AtRest) : notice.reader.reapAt = .returned := by
  have hstep := hrest.reap
  simp only [ExitNotice.next, ExitNotice.reapStep] at hstep
  have hreap {reader : ShellReader} (hsame : { notice with reader } = notice) :
      reader.reapAt = notice.reader.reapAt :=
    congrArg (fun notice : ExitNotice => notice.reader.reapAt) hsame
  cases hat : notice.reader.reapAt with
  | returned => rfl
  | lock =>
      rw [hat] at hstep
      have hsame := hreap hstep
      simp only [ShellReader.reapStep, hat] at hsame
      split at hsame
      · exact absurd hsame (inspect_moves (.inl rfl))
      · cases hsame
  | queued =>
      obtain ⟨holder, hholder⟩ := FairMutex.holder_of_mem (hguarded.queued hat)
      cases holder with
      | reap =>
          rw [hat] at hstep
          have hsame := hreap hstep
          simp only [ShellReader.reapStep, hat, hholder, if_true] at hsame
          exact absurd hsame (inspect_moves (.inr rfl))
      | closer id =>
          exact (closer_moves hrest hholder
            (hguarded.inside id (FairMutex.mem_of_holder hholder))).elim
  | waiting =>
      rw [hat] at hstep
      have hsame := hreap hstep
      cases hprocess : notice.reader.process with
      | running => exact absurd hprocess hrest.exited
      | exited result => simp [ShellReader.reapStep, hat, hprocess] at hsame
  | storeError err =>
      rw [hat] at hstep
      have hsame := hreap hstep
      simp [ShellReader.reapStep, hat] at hsame
  | callback err =>
      rw [hat] at hstep
      cases hcallback : notice.callback with
      | none =>
          simp only [hcallback] at hstep
          have hsame := congrArg ExitNotice.callback hstep
          simp [hcallback] at hsame
      | some callback =>
          simp only [hcallback] at hstep
          have hsame := congrArg (fun notice => notice.reader.reapAt) hstep
          simp [ShellReader.reapStep, hat] at hsame
  | markExited =>
      rw [hat] at hstep
      exact (mark_moves hstep).elim

/-! What a step does to the callbacks. -/

structure View where
  slot : Option Nat
  registered : Nat
  ears : Ears
  invoked : List (Nat × Option RustTgCallsError)
  exitError : Option RustTgCallsError

def view (notice : ExitNotice) : View where
  slot := notice.onExit
  registered := notice.registered
  ears := notice.ears
  invoked := notice.invoked
  exitError := notice.reader.exitError

inductive Turn (notice : ExitNotice) (action : Action) : View → Prop
  | quiet (hheard : notice.Heard action) : Turn notice action notice.view
  | register (haction : action = .setOnExit) :
      Turn notice action
        { notice.view with
          slot := some notice.registered
          registered := notice.registered + 1 }
  | deafen (hears : notice.ears = .listening)
      (hheard : notice.Heard action ↔ notice.onExit = none) :
      Turn notice action { notice.view with ears := .deaf }
  | record (err : Option RustTgCallsError) (hears : notice.ears = .listening)
      (hheard : notice.Heard action) :
      Turn notice action { notice.view with exitError := err }
  | clone (hears : notice.ears = .listening) (hheard : notice.Heard action) :
      Turn notice action { notice.view with ears := .cloned notice.onExit }
  | call (callback : Option Nat) (hears : notice.ears = .cloned callback)
      (hheard : notice.Heard action) :
      Turn notice action
        { notice.view with
          ears := .deaf
          invoked := notice.invoked ++ callback.toList.map fun id =>
            (id, notice.reader.exitError) }

/-- The reap task clones the callback once, with the error recorded. -/
structure Sound (notice : ExitNotice) : Prop where
  uncloned : notice.reader.reapAt = .lock ∨ notice.reader.reapAt = .queued ∨
    notice.reader.reapAt = .waiting ∨
    (∃ err, notice.reader.reapAt = .storeError err) → notice.callback = none
  recorded : ∀ err, notice.reader.reapAt = .callback err →
    notice.reader.exitError = err

theorem sound_new : Sound new where
  uncloned := fun _ => rfl
  recorded := by simp [new, ShellReader.new]

/-- A step that leaves the reap task and what it reads alone. -/
theorem turn_aside {notice after : ExitNotice} (hsound : Sound notice)
    {action : Action} (hheard : notice.Heard action)
    (hreapAt : after.reader.reapAt = notice.reader.reapAt)
    (hchild : notice.ReapAhead → after.reader.child = notice.reader.child)
    (herror : after.reader.exitError = notice.reader.exitError)
    (honExit : after.onExit = notice.onExit)
    (hregistered : after.registered = notice.registered)
    (hcallback : after.callback = notice.callback)
    (hinvoked : after.invoked = notice.invoked) :
    Turn notice action after.view ∧ Sound after := by
  have hears : after.ears = notice.ears := by
    simp only [ears, hreapAt, hcallback]
    split <;> first
      | rfl
      | rw [hchild (.inl ‹_›)]
      | rw [hchild (.inr ‹_›)]
  refine ⟨?_, ?_, ?_⟩
  · have hview : after.view = notice.view := by
      simp [view, hears, herror, honExit, hregistered, hinvoked]
    rw [hview]
    exact .quiet hheard
  · rw [hreapAt, hcallback]
    exact hsound.uncloned
  · rw [hreapAt, herror]
    exact hsound.recorded

/-- The reap task goes on to a stage where it hears what it heard before. -/
theorem turn_reader {notice : ExitNotice} {action : Action} {reader : ShellReader}
    (hheard : notice.Heard action)
    (hears : ({ notice with reader } : ExitNotice).ears = notice.ears)
    (herror : reader.exitError = notice.reader.exitError) :
    Turn notice action ({ notice with reader } : ExitNotice).view := by
  have hview : ({ notice with reader } : ExitNotice).view = notice.view := by
    simp [view, hears, herror]
  rw [hview]
  exact .quiet hheard

theorem ears_ahead {notice : ExitNotice} (hahead : notice.ReapAhead) :
    notice.ears = if notice.reader.child then .listening else .deaf := by
  rcases hahead with hat | hat <;> simp [ears, hat]

theorem ears_comes {notice : ExitNotice} {mutex : FairMutex Task}
    (hcomes : Comes notice.reader mutex) :
    notice.ears = if notice.reader.child then .listening else .deaf :=
  ears_ahead (hcomes.imp And.left And.left)

/-- Up to the error, the reap task hears all along or not at all. -/
theorem turn_reap {notice : ExitNotice} {after : ShellReader}
    (hsound : Sound notice) (hturn : ReapTurn notice.reader after)
    (hcallback : ∀ err, notice.reader.reapAt ≠ .callback err) :
    Turn notice (.reader .reap) ({ notice with reader := after } : ExitNotice).view ∧
      Sound { notice with reader := after } := by
  cases hturn with
  | wait => exact ⟨.quiet trivial, hsound⟩
  | queue hat =>
      refine ⟨turn_reader trivial ?_ rfl,
        fun _ => hsound.uncloned (.inl hat), by simp⟩
      simp [ears, hat]
  | take mutex hcomes _ hchild =>
      have hbefore : notice.callback = none :=
        hsound.uncloned <| hcomes.elim (fun hat => .inl hat.1)
          fun hat => .inr (.inl hat.1)
      refine ⟨turn_reader trivial ?_ rfl, fun _ => hbefore, by simp⟩
      rw [ears_comes hcomes, if_pos hchild]
      simp [ears]
  | leave mutex hcomes _ hchild =>
      refine ⟨turn_reader trivial ?_ rfl, by simp, by simp⟩
      rw [ears_comes hcomes, hchild]
      simp [ears]
  | reaped result hat _ =>
      refine ⟨turn_reader trivial ?_ rfl,
        fun _ => hsound.uncloned (.inr (.inr (.inl hat))), by simp⟩
      simp [ears, hat]
  | store err hat =>
      have hbefore := hsound.uncloned (.inr (.inr (.inr ⟨err, hat⟩)))
      have hears : notice.ears = .listening := by simp [ears, hat]
      refine ⟨?_, by simp, by simp⟩
      have hrecord : Turn notice (.reader .reap) _ := .record err hears trivial
      have hview : ({ notice with
          reader := { notice.reader with
            exitError := err
            reapAt := .callback err } } : ExitNotice).view =
          { notice.view with exitError := err } := by
        simp [view, ears, hbefore, hat]
      rwa [hview]
  | call err hat _ => exact absurd hat (hcallback err)
  | mark hat =>
      refine ⟨turn_reader trivial ?_ rfl, by simp, by simp⟩
      simp [ears, hat]

theorem turn_mark {notice : ExitNotice} (hsound : Sound notice) (task : Task)
    {action : Action} (hheard : notice.Heard action)
    {finish : ShellReader → ShellReader}
    (hfinish : Turn notice action
        ({ notice with reader := finish notice.reader } : ExitNotice).view ∧
      Sound { notice with reader := finish notice.reader }) :
    Turn notice action (notice.mark task finish).view ∧
      Sound (notice.mark task finish) := by
  unfold ExitNotice.mark
  split
  · exact ⟨hfinish.1, hfinish.2.uncloned, hfinish.2.recorded⟩
  · exact turn_aside hsound hheard rfl (fun _ => rfl) rfl rfl rfl rfl rfl

theorem turn_reapStep {notice : ExitNotice} (hsound : Sound notice) :
    Turn notice (.reader .reap) notice.reapStep.view ∧ Sound notice.reapStep := by
  have hturn := reapTurn_reapStep notice.reader
  unfold ExitNotice.reapStep
  split
  next err hat =>
    split
    next hnone =>
      have hears : notice.ears = .listening := by simp [ears, hat, hnone]
      refine ⟨?_, by simp [hat], hsound.recorded⟩
      have hclone : Turn notice (.reader .reap) _ := .clone hears trivial
      have hview : ({ notice with callback := some notice.onExit } : ExitNotice).view =
          { notice.view with ears := .cloned notice.onExit } := by
        simp [view, ears, hat]
      rwa [hview]
    next callback hsome =>
      have hears : notice.ears = .cloned callback := by simp [ears, hat, hsome]
      have hcall : Turn notice (.reader .reap) _ := .call callback hears trivial
      rw [hsound.recorded err hat] at hcall
      simp only [ShellReader.reapStep, hat]
      refine ⟨?_, by simp, by simp⟩
      simpa [view, ears] using hcall
  next hat =>
    have hheard : notice.Heard (.reader .reap) := trivial
    exact turn_mark hsound .reap hheard (turn_reap hsound hturn (by simp [hat]))
  next hother _ => exact turn_reap hsound hturn fun err hat => hother err hat

/-- A `close` takes the child that the reap task has not come to. -/
def TakesFirst (notice : ExitNotice) (id : Nat) : Prop :=
  notice.reader.closers id = .queued ∧
    notice.reader.mutex.holder = some (.closer id) ∧
    notice.reader.child = true ∧ notice.ReapAhead

theorem heard_closer_iff {notice : ExitNotice} {id : Nat} :
    notice.Heard (.reader (.closer id)) ↔
      (notice.TakesFirst id → notice.onExit = none) := by
  constructor
  · rintro hheard ⟨hat, hholder, hchild, hahead⟩
    exact hheard hat hholder hchild hahead
  · intro hheard hat hholder hchild hahead
    exact hheard ⟨hat, hholder, hchild, hahead⟩

theorem turn_closer {notice : ExitNotice} {after : ShellReader} {id : Nat}
    (hsound : Sound notice) (hturn : CloserTurn notice.reader id after)
    (hlater : ¬ notice.TakesFirst id) :
    Turn notice (.reader (.closer id))
        ({ notice with reader := after } : ExitNotice).view ∧
      Sound { notice with reader := after } := by
  have hheard : notice.Heard (.reader (.closer id)) :=
    heard_closer_iff.mpr fun htakes => absurd htakes hlater
  cases hturn with
  | take hat hholder hchild =>
      have hbehind : ¬ notice.ReapAhead := fun hahead =>
        hlater ⟨hat, hholder, hchild, hahead⟩
      exact turn_aside hsound hheard rfl (fun hahead => absurd hahead hbehind) rfl
        rfl rfl rfl rfl
  | wait | early _ _ | swap _ _ | queue _ | skip _ _ _ | killed _ _ _ | mark _ =>
      exact turn_aside hsound hheard rfl (fun _ => rfl) rfl rfl rfl rfl rfl

theorem turn_takesFirst {notice : ExitNotice} {id : Nat} (hsound : Sound notice)
    (htakes : notice.TakesFirst id) :
    Turn notice (.reader (.closer id)) (notice.closerStep id).view ∧
      Sound (notice.closerStep id) := by
  obtain ⟨hat, hholder, hchild, hahead⟩ := htakes
  have hears : notice.ears = .listening := by rw [ears_ahead hahead, if_pos hchild]
  have hheard : notice.Heard (.reader (.closer id)) ↔ notice.onExit = none := by
    rw [heard_closer_iff]
    exact ⟨fun hheard => hheard ⟨hat, hholder, hchild, hahead⟩, fun hnone _ => hnone⟩
  have hstep : notice.closerStep id =
      { notice with
        reader := { notice.reader with child := false, killed := true }.moveTo id
          .killing } := by
    simp [ExitNotice.closerStep, ShellReader.closerStep, hat, hholder, hchild]
  rw [hstep]
  refine ⟨?_, hsound.uncloned, hsound.recorded⟩
  have hdeafen := Turn.deafen hears hheard
  have hview : ({ notice with
      reader := { notice.reader with child := false, killed := true }.moveTo id
        .killing } : ExitNotice).view = { notice.view with ears := .deaf } := by
    rcases hahead with hreap | hreap <;>
      simp [view, ears, ShellReader.moveTo, hreap]
  rwa [hview]

theorem turn_next {notice : ExitNotice} (hsound : Sound notice) (action : Action) :
    Turn notice action (notice.next action).view ∧ Sound (notice.next action) := by
  cases action with
  | reader action =>
      cases action with
      | reap => exact turn_reapStep hsound
      | closer id =>
          by_cases htakes : notice.TakesFirst id
          · exact turn_takesFirst hsound htakes
          · have hclosed := turn_closer hsound
              (closerTurn_closerStep notice.reader id) htakes
            have hheard : notice.Heard (.reader (.closer id)) :=
              heard_closer_iff.mpr fun htakesFirst => absurd htakesFirst htakes
            simp only [ExitNotice.next, ExitNotice.closerStep]
            split
            · exact turn_mark hsound (.closer id) hheard hclosed
            · exact hclosed
      | call id | die | exit _ =>
          simp only [ExitNotice.next, ShellReader.next]
          split <;>
            exact turn_aside hsound trivial rfl (fun _ => rfl) rfl rfl rfl rfl rfl
  | setOnExit => exact ⟨.register rfl, hsound.uncloned, hsound.recorded⟩
  | waitForExit id =>
      simp only [ExitNotice.next]
      split <;>
        exact turn_aside hsound trivial rfl (fun _ => rfl) rfl rfl rfl rfl rfl
  | waiter id =>
      simp only [ExitNotice.next, ExitNotice.waiterStep]
      split <;> (try split) <;>
        exact turn_aside hsound trivial rfl (fun _ => rfl) rfl rfl rfl rfl rfl

/-! Callbacks that are heard. -/

structure Hearing (view : View) : Prop where
  slot : view.slot = none ∧ view.registered = 0 ∨
    view.slot = some 0 ∧ view.registered = 1
  listening : view.ears = .listening → view.invoked = []
  cloned : ∀ callback, view.ears = .cloned callback →
    callback = view.slot ∧ view.invoked = []
  deaf : view.ears = .deaf →
    view.invoked = view.slot.toList.map fun id => (id, view.exitError)

theorem hearing_new : Hearing new.view := by
  refine ⟨.inl ⟨rfl, rfl⟩, fun _ => rfl, ?_, fun _ => rfl⟩
  intro callback hcloned
  cases hcloned

theorem Hearing.turn {notice : ExitNotice} {action : Action} {after : View}
    (hhearing : Hearing notice.view) (hheard : notice.Heard action)
    (hturn : Turn notice action after) : Hearing after := by
  obtain ⟨hslot, hlistening, hcloned, hdeaf⟩ := hhearing
  cases hturn with
  | quiet _ => exact ⟨hslot, hlistening, hcloned, hdeaf⟩
  | register haction =>
      subst haction
      obtain ⟨hnone, hears⟩ := hheard
      have hzero : notice.registered = 0 := by
        rcases hslot with ⟨_, hzero⟩ | ⟨hsome, _⟩
        · exact hzero
        · simp [view, hnone] at hsome
      refine ⟨.inr ⟨by simp [hzero], by simp [hzero]⟩, hlistening, ?_, ?_⟩
      · intro callback hafter
        simp [view, hears] at hafter
      · intro hafter
        simp [view, hears] at hafter
  | deafen hears hiff =>
      have hnone := hiff.mp hheard
      refine ⟨hslot, by simp, by simp, ?_⟩
      intro _
      simpa [view, hnone] using hlistening hears
  | record err hears _ =>
      refine ⟨hslot, hlistening, hcloned, ?_⟩
      intro hafter
      simp [view, hears] at hafter
  | clone hears _ =>
      refine ⟨hslot, by simp, ?_, by simp⟩
      rintro callback hafter
      cases hafter
      exact ⟨rfl, hlistening hears⟩
  | call callback hears _ =>
      obtain ⟨hsame, hinvoked⟩ := hcloned callback hears
      refine ⟨hslot, by simp, by simp, ?_⟩
      intro _
      have hempty : notice.invoked = [] := hinvoked
      simp only [hempty, hsame, List.nil_append]
      rfl

/-- A callback heard has been called once or is still to be. -/
theorem Hearing.delivered {notice : ExitNotice} (hhearing : Hearing notice.view)
    (hguarded : Guarded notice.reader) : Delivered notice := by
  have hinvoked : notice.invoked = [] ∨
      notice.invoked = notice.onExit.toList.map fun id =>
        (id, notice.reader.exitError) := by
    cases hears : notice.ears with
    | listening => exact .inl (hhearing.listening hears)
    | cloned callback => exact .inl (hhearing.cloned callback hears).2
    | deaf => exact .inr (hhearing.deaf hears)
  refine ⟨?_, ?_⟩
  · intro id
    rcases hinvoked with hnone | hcalled
    · exact .inl (by simp [callsOf, hnone])
    · rcases hhearing.slot with ⟨hslot, _⟩ | ⟨hslot, _⟩
      · have hslot : notice.onExit = none := hslot
        exact .inl (by simp [callsOf, hcalled, hslot])
      · have hslot : notice.onExit = some 0 := hslot
        by_cases hid : id = 0
        · exact .inr (by simp [callsOf, hcalled, hslot, hid])
        · exact .inl (by simp [callsOf, hcalled, hslot, Ne.symm hid])
  · intro hrest id hid
    have hreturned := hrest.returned hguarded
    have hears : notice.ears = .deaf := by simp [ears, hreturned]
    rcases hhearing.slot with ⟨_, hzero⟩ | ⟨hslot, hone⟩
    · have hzero : notice.registered = 0 := hzero
      omega
    · have hone : notice.registered = 1 := hone
      have hslot : notice.onExit = some 0 := hslot
      have hcalled : notice.invoked = notice.onExit.toList.map fun id =>
        (id, notice.reader.exitError) := hhearing.deaf hears
      obtain rfl : id = 0 := by omega
      simp [callsOf, hcalled, hslot]

/-! A callback that is not heard stays unheard. -/

structure Owed (view : View) : Prop where
  slot : ∀ id, view.slot = some id → id < view.registered
  listening : view.ears = .listening → view.invoked = []
  cloned : ∀ callback, view.ears = .cloned callback →
    view.invoked = [] ∧ ∀ id, callback = some id → id < view.registered
  invoked : ∀ call ∈ view.invoked, call.1 < view.registered

/-- The reap task will not call it any more. -/
def Unheard (id : Nat) : Ears → Option Nat → Prop
  | .listening, slot => slot ≠ some id
  | .cloned callback, _ => callback ≠ some id
  | .deaf, _ => True

structure Lost (view : View) (id : Nat) : Prop where
  registered : id < view.registered
  uncalled : ∀ call ∈ view.invoked, call.1 ≠ id
  unheard : Unheard id view.ears view.slot

theorem owed_new : Owed new.view := by
  refine ⟨?_, fun _ => rfl, ?_, ?_⟩
  · intro id hslot
    cases hslot
  · intro callback hcloned
    cases hcloned
  · intro call hmem
    cases hmem

theorem Owed.turn {notice : ExitNotice} {action : Action} {after : View}
    (howed : Owed notice.view) (hturn : Turn notice action after) : Owed after := by
  obtain ⟨hslot, hlistening, hcloned, hinvoked⟩ := howed
  cases hturn with
  | quiet _ | record _ _ _ => exact ⟨hslot, hlistening, hcloned, hinvoked⟩
  | register _ =>
      refine ⟨?_, hlistening, ?_, ?_⟩
      · rintro id hnew
        cases hnew
        exact Nat.lt_succ_self _
      · intro callback hears
        obtain ⟨hnone, hbound⟩ := hcloned callback hears
        exact ⟨hnone, fun id hid => Nat.lt_succ_of_lt (hbound id hid)⟩
      · intro call hmem
        exact Nat.lt_succ_of_lt (hinvoked call hmem)
  | deafen _ _ => exact ⟨hslot, by simp, by simp, hinvoked⟩
  | clone hears _ =>
      refine ⟨hslot, by simp, ?_, hinvoked⟩
      rintro callback hafter
      cases hafter
      exact ⟨hlistening hears, hslot⟩
  | call callback hears _ =>
      obtain ⟨hnone, hbound⟩ := hcloned callback hears
      have hempty : notice.invoked = [] := hnone
      refine ⟨hslot, by simp, by simp, ?_⟩
      intro call hmem
      simp only [hempty, List.nil_append, List.mem_map, Option.mem_toList] at hmem
      obtain ⟨id, hid, rfl⟩ := hmem
      exact hbound id hid

theorem Lost.turn {notice : ExitNotice} {action : Action} {after : View} {id : Nat}
    (hlost : Lost notice.view id)
    (hturn : Turn notice action after) : Lost after id := by
  obtain ⟨hregistered, huncalled, hunheard⟩ := hlost
  cases hturn with
  | quiet _ | record _ _ _ => exact ⟨hregistered, huncalled, hunheard⟩
  | register _ =>
      refine ⟨Nat.lt_succ_of_lt hregistered, huncalled, ?_⟩
      cases hears : notice.ears with
      | listening =>
          have hnew : notice.registered ≠ id := Nat.ne_of_gt hregistered
          simpa [view, hears, Unheard] using hnew
      | cloned callback =>
          simpa [view, hears, Unheard] using hunheard
      | deaf => simp [view, hears, Unheard]
  | deafen _ _ => exact ⟨hregistered, huncalled, trivial⟩
  | clone hears _ =>
      refine ⟨hregistered, huncalled, ?_⟩
      simpa [view, hears, Unheard] using hunheard
  | call callback hears _ =>
      have hother : callback ≠ some id := by
        simpa [view, hears, Unheard] using hunheard
      refine ⟨hregistered, ?_, trivial⟩
      intro call hmem
      rcases List.mem_append.mp hmem with hbefore | hnow
      · exact huncalled call hbefore
      · obtain ⟨found, hfound, rfl⟩ := List.mem_map.mp hnow
        rintro rfl
        exact hother (Option.mem_toList.mp hfound)

theorem lost_of_not_heard {notice : ExitNotice} {action : Action} {after : View}
    (howed : Owed notice.view) (hunheard : ¬ notice.Heard action)
    (hturn : Turn notice action after) : ∃ id, Lost after id := by
  have huncalled {id : Nat} (hid : notice.registered ≤ id)
      (call : Nat × Option RustTgCallsError) (hmem : call ∈ notice.invoked) :
      call.1 ≠ id :=
    Nat.ne_of_lt (Nat.lt_of_lt_of_le (howed.invoked call hmem) hid)
  cases hturn with
  | quiet hheard | record _ _ hheard | clone _ hheard | call _ _ hheard =>
      exact absurd hheard hunheard
  | register haction =>
      subst haction
      cases hears : notice.ears with
      | listening =>
          -- the callback in the slot is replaced
          cases hslot : notice.onExit with
          | none => exact absurd ⟨hslot, hears⟩ hunheard
          | some previous =>
              have hbound : previous < notice.registered :=
                howed.slot previous hslot
              have hnone : notice.invoked = [] := howed.listening hears
              refine ⟨previous, Nat.lt_succ_of_lt hbound, by simp [view, hnone], ?_⟩
              simpa [view, hears, Unheard] using Nat.ne_of_gt hbound
      | cloned callback =>
          refine ⟨notice.registered, Nat.lt_succ_self _, huncalled (Nat.le_refl _), ?_⟩
          have hbound := (howed.cloned callback hears).2
          suffices callback ≠ some notice.registered by
            simpa [view, hears, Unheard] using this
          intro hsame
          exact Nat.lt_irrefl _ (hbound _ hsame)
      | deaf =>
          exact ⟨notice.registered, Nat.lt_succ_self _, huncalled (Nat.le_refl _),
            by simp [view, hears, Unheard]⟩
  | deafen hears hiff =>
      cases hslot : notice.onExit with
      | none => exact absurd (hiff.mpr hslot) hunheard
      | some previous =>
          have hnone : notice.invoked = [] := howed.listening hears
          exact ⟨previous, howed.slot previous hslot, by simp [view, hnone], trivial⟩

theorem not_delivered_of_lost {notice : ExitNotice} {id : Nat}
    (hlost : Lost notice.view id) (hrest : notice.AtRest) : ¬ Delivered notice := by
  intro hdelivered
  have hcalled := hdelivered.called hrest id hlost.registered
  have hnone : notice.callsOf id = [] := by
    have huncalled : ∀ call ∈ notice.invoked, call.1 ≠ id := hlost.uncalled
    simpa [callsOf] using huncalled
  rw [hnone] at hcalled
  cases hcalled

/-- No waiter is left behind exactly where each subscribes before the
notification, and the callbacks are delivered where each is heard: only there, in
a run that comes to rest. -/
theorem exit_notified_iff (actions : List Action) :
    (Always next Released new actions ↔ Along next Subscribes new actions) ∧
      (Along next Heard new actions → Always next Delivered new actions) ∧
      ((after next new actions).AtRest → Always next Delivered new actions →
        Along next Heard new actions) := by
  refine ⟨always_released_iff actions, ?_, ?_⟩
  · intro hheard
    have hhearing : Always next (fun notice =>
        (Sound notice ∧ Guarded notice.reader) ∧ Hearing notice.view) new actions := by
      apply hheard.always
      · rintro notice action ⟨⟨hsound, hguarded⟩, hhearing⟩ hheard
        obtain ⟨hturn, hnext⟩ := turn_next hsound action
        exact ⟨⟨hnext, hguarded.next action⟩, hhearing.turn hheard hturn⟩
      · exact ⟨⟨sound_new, guarded_new false⟩, hearing_new⟩
    exact hhearing.mono fun notice hnotice => hnotice.2.delivered hnotice.1.2
  · intro hrest hdelivered
    have hkeep (notice : ExitNotice) (action : Action)
        (hnotice : Sound notice ∧ Owed notice.view) :
        Sound (notice.next action) ∧ Owed (notice.next action).view := by
      obtain ⟨hturn, hnext⟩ := turn_next hnotice.1 action
      exact ⟨hnext, hnotice.2.turn hturn⟩
    have hloses (notice : ExitNotice) (action : Action)
        (hnotice : Sound notice ∧ Owed notice.view)
        (hunheard : ¬ notice.Heard action) :
        ∃ id, Lost (notice.next action).view id :=
      lost_of_not_heard hnotice.2 hunheard (turn_next hnotice.1 action).1
    have hlasts (notice : ExitNotice) (action : Action)
        (hnotice : Sound notice ∧ Owed notice.view)
        (hlost : ∃ id, Lost notice.view id) :
        ∃ id, Lost (notice.next action).view id :=
      hlost.imp fun id hlost =>
        hlost.turn (turn_next hnotice.1 action).1
    have hend : ¬ ∃ id, Lost (after next new actions).view id := by
      rintro ⟨id, hlost⟩
      exact not_delivered_of_lost hlost hrest hdelivered.after
    exact along_of_undamaged_of hkeep hloses hlasts ⟨sound_new, owed_new⟩ hend

/-- The exit is awaited and reported, and the call that waits subscribes in
time. -/
def reapedInTime : List Action :=
  [.setOnExit, .waitForExit 0, .waiter 0, .waiter 0, .reader (.exit .success)] ++
    List.replicate 8 (.reader .reap) ++ [.waiter 0]

theorem exit_notified_inTime :
    Always next Released new reapedInTime ∧
      Always next Delivered new reapedInTime := by
  obtain ⟨hreleased, hdelivered, _⟩ := exit_notified_iff reapedInTime
  exact ⟨hreleased.mpr (by decide), hdelivered (by decide)⟩

/-- The call has found `exited` unset, and subscribes once the notification has
been issued. -/
theorem waiter_left_behind :
    ¬ Always next Released new
      ([.waitForExit 0, .waiter 0, .reader (.exit .success)] ++
        List.replicate 7 (.reader .reap) ++ [.waiter 0]) := by
  intro halways
  have hless := halways.after (by decide) (by decide) 0 1 (by decide)
  exact absurd hless (by decide)

end ExitNotice

end RustTgCalls.Io
