import Mathlib.Data.List.AList
import RustTgCalls.Library.Watch
import RustTgCalls.Wrtc.Monitor

namespace RustTgCalls.Wrtc

open Transition

/-! The factory's monitor: its task, the stacks registered with it and the calls
that start and stop it, in any interleaving. -/

def keepaliveTickInterval : Nat := 2000

def monitorPollInterval : Nat := 1000

/-- In ticks. -/
def keepaliveEvery : Nat := keepaliveTickInterval / monitorPollInterval

/-- Where the task stands.  Inside a pass over the entries, `due` are the keys that
the iterator has still to come to, `yielded` those it has come to, and `loaded` is
the entry it has given and the task has not ticked yet. -/
inductive MonitorTask where
  | unspawned
  | select (seen : Nat)
  | visiting (seen : Nat) (doKeepalive : Bool) (due yielded : List Nat) (loaded : Option Nat)
  | ended
  deriving DecidableEq, Repr

/-- One `tick` of an entry: in which pass, what it read and what it spawned. -/
structure Visit where
  pass : Nat
  tick : Monitor.Tick
  spawned : Option Spawned

/-- Stacks are keyed by their address; an entry is known by the registration that
made it.  `visits`, `born` (the passes begun when the entry was made) and `left` (the
passes begun when the map gave it up) are history. -/
structure FactoryMonitor where
  started : Bool
  stopped : Bool
  cancel : Watch Bool
  task : MonitorTask
  tickCount : Nat
  entries : AList (fun _ : Nat => Nat)
  registered : Nat
  entry : Nat → PcMonitorEntry
  visits : Nat → List Visit
  born : Nat → Nat
  left : Nat → Option Nat

namespace MonitorTask

def due : MonitorTask → List Nat
  | .visiting _ _ due _ _ => due
  | _ => []

def yielded : MonitorTask → List Nat
  | .visiting _ _ _ yielded _ => yielded
  | _ => []

def loaded : MonitorTask → Option Nat
  | .visiting _ _ _ _ loaded => loaded
  | _ => none

def passing : MonitorTask → Bool
  | .visiting _ _ _ _ _ => true
  | _ => false

/-- The version that the task's receiver has seen. -/
def seen : MonitorTask → Option Nat
  | .select seen | .visiting seen _ _ _ _ => some seen
  | _ => none

/-- The iterator need not come to a key that is gone. -/
def excuse (stack : Nat) : MonitorTask → MonitorTask
  | .visiting seen doKeepalive due yielded loaded =>
      .visiting seen doKeepalive (due.filter (· ≠ stack)) yielded loaded
  | task => task

end MonitorTask

namespace FactoryMonitor

inductive Action where
  | start
  | stop
  | drop
  | register (stack : Nat)
  | unregister (stack : Nat)
  | tick
  | yield (stack : Nat)
  | visit (state : ConnState) (videoSsrc : UInt32) (now : Int) (now_pos : 0 < now)
  | endPass
  | changed

def new : FactoryMonitor where
  started := false
  stopped := false
  cancel := (Watch.channel false).dropReceiver
  task := .unspawned
  tickCount := 0
  entries := ∅
  registered := 0
  entry := fun _ => .new
  visits := fun _ => []
  born := fun _ => 0
  left := fun _ => none

/-- The entry of this key leaves the map. -/
def giveUp (monitor : FactoryMonitor) (stack : Nat) : FactoryMonitor :=
  match monitor.entries.lookup stack with
  | some entry =>
      { monitor with left := Function.update monitor.left entry (some monitor.tickCount) }
  | none => monitor

def start (monitor : FactoryMonitor) : FactoryMonitor :=
  if monitor.started then monitor
  else
    { monitor with
      started := true
      cancel := monitor.cancel.subscribe.1
      task := .select monitor.cancel.subscribe.2 }

def stop (monitor : FactoryMonitor) : FactoryMonitor :=
  if monitor.stopped then monitor
  else { monitor with stopped := true, cancel := monitor.cancel.send true }

def register (monitor : FactoryMonitor) (stack : Nat) : FactoryMonitor :=
  { monitor.giveUp stack with
    entries := monitor.entries.insert stack monitor.registered
    registered := monitor.registered + 1
    born := Function.update monitor.born monitor.registered monitor.tickCount }

def unregister (monitor : FactoryMonitor) (stack : Nat) : FactoryMonitor :=
  { monitor.giveUp stack with
    entries := monitor.entries.erase stack
    task := monitor.task.excuse stack }

/-- The task's branch of its ticker. -/
def tick (monitor : FactoryMonitor) : FactoryMonitor :=
  match monitor.task with
  | .select seen =>
      let tickCount := monitor.tickCount + 1
      { monitor with
        tickCount
        task := .visiting seen (tickCount % keepaliveEvery == 0) monitor.entries.keys [] none }
  | _ => monitor

/-- The iterator comes to a key at most once. -/
def yield (monitor : FactoryMonitor) (stack : Nat) : FactoryMonitor :=
  match monitor.task, monitor.entries.lookup stack with
  | .visiting seen doKeepalive due yielded none, some entry =>
      if stack ∈ yielded then monitor
      else
        { monitor with
          task := .visiting seen doKeepalive (due.filter (· ≠ stack)) (stack :: yielded)
            (some entry) }
  | _, _ => monitor

def visit (monitor : FactoryMonitor) (state : ConnState) (videoSsrc : UInt32) (now : Int)
    (now_pos : 0 < now) : FactoryMonitor :=
  match monitor.task with
  | .visiting seen doKeepalive due yielded (some entry) =>
      let (ticked, spawned) := (monitor.entry entry).tick state videoSsrc doKeepalive now
      let visit : Visit :=
        ⟨monitor.tickCount, ⟨state, videoSsrc, doKeepalive, now, now_pos⟩, spawned⟩
      { monitor with
        task := .visiting seen doKeepalive due yielded none
        entry := Function.update monitor.entry entry ticked
        visits := Function.update monitor.visits entry (monitor.visits entry ++ [visit]) }
  | _ => monitor

/-- The iterator ends once it has come to all that have stayed in the map. -/
def endPass (monitor : FactoryMonitor) : FactoryMonitor :=
  match monitor.task with
  | .visiting seen _ [] _ none => { monitor with task := .select seen }
  | _ => monitor

/-- The task's branch of the cancellation. -/
def changed (monitor : FactoryMonitor) : FactoryMonitor :=
  match monitor.task with
  | .select seen =>
      match monitor.cancel.changed seen with
      | some seen =>
          if monitor.cancel.value then
            { monitor with task := .ended, cancel := monitor.cancel.dropReceiver }
          else { monitor with task := .select seen }
      | none => monitor
  | _ => monitor

/-- Nobody calls a monitor that has been dropped; its task goes on. -/
def call (monitor : FactoryMonitor) (called : FactoryMonitor) : FactoryMonitor :=
  if monitor.cancel.senderDropped then monitor else called

def next (monitor : FactoryMonitor) : Action → FactoryMonitor
  | .start => monitor.call monitor.start
  | .stop => monitor.call monitor.stop
  | .drop => { monitor with cancel := monitor.cancel.dropSender }
  | .register stack => monitor.call (monitor.register stack)
  | .unregister stack => monitor.call (monitor.unregister stack)
  | .tick => monitor.tick
  | .yield stack => monitor.yield stack
  | .visit state videoSsrc now now_pos => monitor.visit state videoSsrc now now_pos
  | .endPass => monitor.endPass
  | .changed => monitor.changed

/-! The calls and the task. -/

structure Steady (monitor : FactoryMonitor) : Prop where
  unstarted : monitor.started = false →
    monitor.task = .unspawned ∧ monitor.cancel.receivers = 0 ∧ monitor.cancel.value = false
  spawned : monitor.started = true → monitor.task ≠ .unspawned
  running : ∀ seen, monitor.task.seen = some seen → seen = 0 ∧ monitor.cancel.receivers = 1
  version : monitor.cancel.version = if monitor.cancel.value then 1 else 0
  stopped : monitor.cancel.value = true → monitor.stopped = true
  ended : monitor.task = .ended → monitor.cancel.value = true

theorem steady_new : Steady new where
  unstarted := fun _ => ⟨rfl, rfl, rfl⟩
  spawned := fun hstarted => by cases hstarted
  running := fun _ hseen => by cases hseen
  version := rfl
  stopped := fun hvalue => by cases hvalue
  ended := fun hended => by cases hended

section Steady

variable {monitor moved : FactoryMonitor}

/-- A step of the task that stays in the pass or between passes. -/
theorem Steady.congr (hsteady : Steady monitor) (hstarted : moved.started = monitor.started)
    (hstopped : moved.stopped = monitor.stopped) (hcancel : moved.cancel = monitor.cancel)
    (htask : moved.task = monitor.task ∨
      ∃ seen, moved.task.seen = some seen ∧ monitor.task.seen = some seen) :
    Steady moved := by
  obtain ⟨hunstarted, hspawned, hrunning, hversion, hvalue, hended⟩ := hsteady
  obtain htask | ⟨seen, hmoved, hseen⟩ := htask
  · constructor <;> simpa only [hstarted, hstopped, hcancel, htask]
  · have hunspawned : monitor.task ≠ .unspawned := by
      intro htask
      rw [htask] at hseen
      cases hseen
    refine ⟨fun h => ?_, fun _ htask => ?_, fun other hother => ?_, ?_, ?_, fun htask => ?_⟩
    · exact absurd (hunstarted (hstarted ▸ h)).1 hunspawned
    · rw [htask] at hmoved
      cases hmoved
    · rw [hmoved] at hother
      cases hother
      rw [hcancel]
      exact hrunning seen hseen
    · rw [hcancel]
      exact hversion
    · rw [hcancel, hstopped]
      exact hvalue
    · rw [htask] at hmoved
      cases hmoved

theorem Steady.start (hsteady : Steady monitor) : Steady monitor.start := by
  unfold FactoryMonitor.start
  split
  next => exact hsteady
  next hstarted =>
    obtain ⟨_, hreceivers, hvalue⟩ := hsteady.unstarted (Bool.eq_false_iff.mpr hstarted)
    have hversion := hsteady.version
    rw [hvalue] at hversion
    constructor
    case unstarted => exact fun h => by cases h
    case spawned => exact fun _ h => by cases h
    case running =>
      intro seen hseen
      cases hseen
      simp [Watch.subscribe, hreceivers, hversion]
    case version => simp [Watch.subscribe, hvalue, hversion]
    case stopped => simp [Watch.subscribe, hvalue]
    case ended => exact fun h => by cases h

theorem Steady.stop (hsteady : Steady monitor) : Steady monitor.stop := by
  unfold FactoryMonitor.stop
  split
  next => exact hsteady
  next hstopped =>
    have hvalue : monitor.cancel.value = false :=
      Bool.eq_false_iff.mpr fun hvalue => hstopped (hsteady.stopped hvalue)
    have hversion := hsteady.version
    rw [hvalue] at hversion
    obtain ⟨hunstarted, hspawned, hrunning, _, _, hended⟩ := hsteady
    refine ⟨fun hstarted => ?_, hspawned, fun seen hseen => ?_, ?_, fun _ => rfl,
      fun htask => ?_⟩
    · obtain ⟨htask, hreceivers, hvalue⟩ := hunstarted hstarted
      refine ⟨htask, ?_, ?_⟩ <;> simp [hreceivers, hvalue]
    · obtain ⟨hzero, hreceivers⟩ := hrunning seen hseen
      exact ⟨hzero, by simp [Watch.send, hreceivers]⟩
    · unfold Watch.send
      split <;> simp [hvalue, hversion]
    · rw [hended htask] at hvalue
      cases hvalue

theorem Steady.changed (hsteady : Steady monitor) : Steady monitor.changed := by
  unfold FactoryMonitor.changed
  split
  next seen htask =>
    obtain ⟨hzero, hreceivers⟩ := hsteady.running seen (by rw [htask]; rfl)
    have hversion := hsteady.version
    split
    next now hnow =>
      split
      next hvalue =>
        constructor
        case unstarted =>
          intro hstarted
          have hunspawned := (hsteady.unstarted hstarted).1
          rw [htask] at hunspawned
          cases hunspawned
        case spawned => exact fun _ h => by cases h
        case running => exact fun _ h => by cases h
        case version => exact hversion
        case stopped => exact hsteady.stopped
        case ended => exact fun _ => hvalue
      next hvalue =>
        rw [if_neg hvalue, ← hzero] at hversion
        obtain ⟨hnow, _⟩ := Watch.changed_upToDate hversion hnow
        subst hnow
        exact hsteady.congr rfl rfl rfl (.inr ⟨now, rfl, by rw [htask]; rfl⟩)
    next => exact hsteady
  next => exact hsteady

theorem giveUp_frame (monitor : FactoryMonitor) (stack : Nat) :
    monitor.giveUp stack = { monitor with left := (monitor.giveUp stack).left } := by
  unfold giveUp
  split <;> rfl

theorem excuse_seen (task : MonitorTask) (stack : Nat) :
    task.excuse stack = task ∨
      ∃ seen, (task.excuse stack).seen = some seen ∧ task.seen = some seen := by
  cases task with
  | visiting seen => exact .inr ⟨seen, rfl, rfl⟩
  | _ => exact .inl rfl

theorem Steady.next (hsteady : Steady monitor) (action : Action) :
    Steady (monitor.next action) := by
  have hcall (called : FactoryMonitor) (hcalled : Steady called) :
      Steady (monitor.call called) := by
    unfold FactoryMonitor.call
    split
    · exact hsteady
    · exact hcalled
  cases action with
  | start => exact hcall _ hsteady.start
  | stop => exact hcall _ hsteady.stop
  | drop => exact ⟨hsteady.1, hsteady.2, hsteady.3, hsteady.4, hsteady.5, hsteady.6⟩
  | register stack =>
      apply hcall
      rw [FactoryMonitor.register, giveUp_frame]
      exact hsteady.congr rfl rfl rfl (.inl rfl)
  | unregister stack =>
      apply hcall
      rw [FactoryMonitor.unregister, giveUp_frame]
      exact hsteady.congr rfl rfl rfl (excuse_seen monitor.task stack)
  | tick =>
      simp only [FactoryMonitor.next, FactoryMonitor.tick]
      split
      next seen htask => exact hsteady.congr rfl rfl rfl (.inr ⟨seen, rfl, by rw [htask]; rfl⟩)
      next => exact hsteady
  | yield stack =>
      simp only [FactoryMonitor.next, FactoryMonitor.yield]
      split
      next seen _ _ _ _ htask _ =>
        split
        · exact hsteady
        · exact hsteady.congr rfl rfl rfl (.inr ⟨seen, rfl, by rw [htask]; rfl⟩)
      next => exact hsteady
  | visit state videoSsrc now now_pos =>
      simp only [FactoryMonitor.next, FactoryMonitor.visit]
      split
      next seen _ _ _ _ htask =>
        exact hsteady.congr rfl rfl rfl (.inr ⟨seen, rfl, by rw [htask]; rfl⟩)
      next => exact hsteady
  | endPass =>
      simp only [FactoryMonitor.next, FactoryMonitor.endPass]
      split
      next seen _ _ htask => exact hsteady.congr rfl rfl rfl (.inr ⟨seen, rfl, by rw [htask]; rfl⟩)
      next => exact hsteady
  | changed => exact hsteady.changed

end Steady

/-! Which entries the map and the pass hold. -/

structure Mapped (monitor : FactoryMonitor) : Prop where
  known : ∀ stack entry, monitor.entries.lookup stack = some entry → entry < monitor.registered
  unique : ∀ stack other entry, monitor.entries.lookup stack = some entry →
    monitor.entries.lookup other = some entry → stack = other
  kept : ∀ stack entry, monitor.entries.lookup stack = some entry → monitor.left entry = none
  due : ∀ stack ∈ monitor.task.due, stack ∈ monitor.entries
  ahead : ∀ stack ∈ monitor.task.due, stack ∉ monitor.task.yielded
  loaded : ∀ entry, monitor.task.loaded = some entry → entry < monitor.registered ∧
    (monitor.left entry = none ∨ monitor.left entry = some monitor.tickCount) ∧
      ∀ stack, monitor.entries.lookup stack = some entry → stack ∈ monitor.task.yielded
  unleft : ∀ entry, monitor.registered ≤ entry → monitor.left entry = none

theorem mapped_new : Mapped new where
  known := fun _ _ hlookup => by cases hlookup
  unique := fun _ _ _ hlookup => by cases hlookup
  kept := fun _ _ hlookup => by cases hlookup
  due := fun _ hdue => by cases hdue
  ahead := fun _ hdue => by cases hdue
  loaded := fun _ hloaded => by cases hloaded
  unleft := fun _ _ => rfl

theorem lookup_insert (entries : AList fun _ : Nat => Nat) (stack other entry : Nat) :
    (entries.insert stack entry).lookup other =
      if other = stack then some entry else entries.lookup other := by
  split
  next hsame => rw [hsame, AList.lookup_insert]
  next hother => rw [AList.lookup_insert_ne hother]

theorem lookup_erase (entries : AList fun _ : Nat => Nat) (stack other : Nat) :
    (entries.erase stack).lookup other =
      if other = stack then none else entries.lookup other := by
  split
  next hsame => rw [hsame, AList.lookup_erase]
  next hother => rw [AList.lookup_erase_ne hother]

theorem left_giveUp (monitor : FactoryMonitor) (stack entry : Nat) :
    (monitor.giveUp stack).left entry =
      if monitor.entries.lookup stack = some entry then some monitor.tickCount
      else monitor.left entry := by
  unfold giveUp
  split
  next given hlookup =>
    by_cases hsame : entry = given
    · simp [hsame, hlookup]
    · simp [hsame, hlookup, eq_comm]
  next hnone => simp [hnone]

section Mapped

variable {monitor moved : FactoryMonitor}

/-- Only the task moves. -/
theorem Mapped.task (hmapped : Mapped monitor) (hentries : moved.entries = monitor.entries)
    (hregistered : moved.registered = monitor.registered) (hleft : moved.left = monitor.left)
    (hdue : ∀ stack ∈ moved.task.due, stack ∈ monitor.entries ∧ stack ∉ moved.task.yielded)
    (hloaded : ∀ entry, moved.task.loaded = some entry → entry < monitor.registered ∧
      (monitor.left entry = none ∨ monitor.left entry = some moved.tickCount) ∧
        ∀ stack, monitor.entries.lookup stack = some entry → stack ∈ moved.task.yielded) :
    Mapped moved := by
  obtain ⟨hknown, hunique, hkept, _, _, _, hunleft⟩ := hmapped
  constructor
  case known => rwa [hentries, hregistered]
  case unique => rwa [hentries]
  case kept => rwa [hentries, hleft]
  case due => exact fun stack hmem => hentries ▸ (hdue stack hmem).1
  case ahead => exact fun stack hmem => (hdue stack hmem).2
  case loaded => rwa [hentries, hregistered, hleft]
  case unleft => rwa [hregistered, hleft]

theorem Mapped.register (hmapped : Mapped monitor) (stack : Nat) :
    Mapped (monitor.register stack) := by
  obtain ⟨hknown, hunique, hkept, hdue, hahead, hloaded, hunleft⟩ := hmapped
  rw [FactoryMonitor.register, giveUp_frame]
  constructor
  case known =>
    intro other entry hlookup
    rw [lookup_insert] at hlookup
    split at hlookup
    · cases hlookup
      exact Nat.lt_succ_self _
    · exact Nat.lt_succ_of_lt (hknown other entry hlookup)
  case unique =>
    intro first second entry hfirst hsecond
    rw [lookup_insert] at hfirst hsecond
    grind
  case kept =>
    intro other entry hlookup
    rw [lookup_insert] at hlookup
    rw [left_giveUp]
    grind
  case due =>
    intro each heach
    exact (AList.mem_insert _).mpr (.inr (hdue each heach))
  case ahead => exact hahead
  case loaded =>
    intro entry hat
    obtain ⟨hlt, hleft, hyielded⟩ := hloaded entry hat
    refine ⟨Nat.lt_succ_of_lt hlt, ?_, fun other hlookup => ?_⟩
    · rw [left_giveUp]
      split
      · exact .inr rfl
      · exact hleft
    · rw [lookup_insert] at hlookup
      split at hlookup
      · cases hlookup
        exact absurd hlt (Nat.lt_irrefl _)
      · exact hyielded other hlookup
  case unleft =>
    intro entry hentry
    have hbefore : monitor.registered ≤ entry := Nat.le_of_succ_le hentry
    rw [left_giveUp, if_neg, hunleft entry hbefore]
    intro hlookup
    exact absurd (hknown stack entry hlookup) (Nat.not_lt.mpr hbefore)

theorem Mapped.unregister (hmapped : Mapped monitor) (stack : Nat) :
    Mapped (monitor.unregister stack) := by
  obtain ⟨hknown, hunique, hkept, hdue, hahead, hloaded, hunleft⟩ := hmapped
  have hexcused (task : MonitorTask) : (task.excuse stack).due = task.due.filter (· ≠ stack) ∧
      (task.excuse stack).yielded = task.yielded ∧
        (task.excuse stack).loaded = task.loaded := by
    cases task <;> exact ⟨rfl, rfl, rfl⟩
  obtain ⟨hexcusedDue, hexcusedYielded, hexcusedLoaded⟩ := hexcused monitor.task
  have hstays (other entry : Nat)
      (hlookup : (monitor.entries.erase stack).lookup other = some entry) :
      other ≠ stack ∧ monitor.entries.lookup other = some entry := by
    rw [lookup_erase] at hlookup
    split at hlookup
    next => cases hlookup
    next hother => exact ⟨hother, hlookup⟩
  rw [FactoryMonitor.unregister, giveUp_frame]
  constructor
  case known => exact fun other entry hlookup => hknown other entry (hstays other entry hlookup).2
  case unique =>
    exact fun first second entry hfirst hsecond =>
      hunique first second entry (hstays first entry hfirst).2 (hstays second entry hsecond).2
  case kept =>
    intro other entry hlookup
    obtain ⟨hother, hlookup⟩ := hstays other entry hlookup
    rw [left_giveUp, if_neg, hkept other entry hlookup]
    exact fun hstack => hother (hunique other stack entry hlookup hstack)
  case due =>
    intro each heach
    rw [hexcusedDue, List.mem_filter] at heach
    exact AList.mem_erase.mpr ⟨by simpa using heach.2, hdue each heach.1⟩
  case ahead =>
    intro each heach
    rw [hexcusedDue, List.mem_filter] at heach
    rw [hexcusedYielded]
    exact hahead each heach.1
  case loaded =>
    intro entry hat
    rw [hexcusedLoaded] at hat
    obtain ⟨hlt, hleft, hyielded⟩ := hloaded entry hat
    refine ⟨hlt, ?_, fun other hlookup => ?_⟩
    · rw [left_giveUp]
      split
      · exact .inr rfl
      · exact hleft
    · rw [hexcusedYielded]
      exact hyielded other (hstays other entry hlookup).2
  case unleft =>
    intro entry hentry
    rw [left_giveUp, if_neg, hunleft entry hentry]
    exact fun hlookup => absurd (hknown stack entry hlookup) (Nat.not_lt.mpr hentry)

theorem Mapped.yield (hmapped : Mapped monitor) (stack : Nat) : Mapped (monitor.yield stack) := by
  unfold FactoryMonitor.yield
  split
  next seen doKeepalive due yielded entry htask hlookup =>
    split
    next => exact hmapped
    next hnew =>
      refine hmapped.task rfl rfl rfl (fun each heach => ?_) fun other hother => ?_
      · obtain ⟨hdue, hne⟩ : each ∈ due ∧ each ≠ stack := by
          simpa [MonitorTask.due] using heach
        have hahead := hmapped.ahead each (by rw [htask]; exact hdue)
        rw [htask] at hahead
        refine ⟨hmapped.due each (by rw [htask]; exact hdue), ?_⟩
        simpa [MonitorTask.yielded, hne] using hahead
      · cases hother
        refine ⟨hmapped.known stack entry hlookup, .inl (hmapped.kept stack entry hlookup), ?_⟩
        intro other hother
        rw [hmapped.unique other stack entry hother hlookup]
        exact List.mem_cons_self
  next => exact hmapped

theorem Mapped.next (hmapped : Mapped monitor) (action : Action) :
    Mapped (monitor.next action) := by
  have hcall (called : FactoryMonitor) (hcalled : Mapped called) :
      Mapped (monitor.call called) := by
    unfold FactoryMonitor.call
    split
    · exact hmapped
    · exact hcalled
  have hsame (called : FactoryMonitor) (hentries : called.entries = monitor.entries)
      (hregistered : called.registered = monitor.registered) (hleft : called.left = monitor.left)
      (hdue : called.task.due = []) (hloaded : called.task.loaded = none) : Mapped called := by
    refine hmapped.task hentries hregistered hleft (fun _ hmem => ?_) fun _ hmem => ?_
    · rw [hdue] at hmem
      cases hmem
    · rw [hloaded] at hmem
      cases hmem
  cases action with
  | start =>
      apply hcall
      unfold FactoryMonitor.start
      split
      · exact hmapped
      · exact hsame _ rfl rfl rfl rfl rfl
  | stop =>
      apply hcall
      unfold FactoryMonitor.stop
      split
      · exact hmapped
      · exact ⟨hmapped.1, hmapped.2, hmapped.3, hmapped.4, hmapped.5, hmapped.6, hmapped.7⟩
  | drop => exact ⟨hmapped.1, hmapped.2, hmapped.3, hmapped.4, hmapped.5, hmapped.6, hmapped.7⟩
  | register stack => exact hcall _ (hmapped.register stack)
  | unregister stack => exact hcall _ (hmapped.unregister stack)
  | tick =>
      simp only [FactoryMonitor.next, FactoryMonitor.tick]
      split
      next =>
        refine hmapped.task rfl rfl rfl (fun stack hmem => ⟨?_, List.not_mem_nil⟩)
          fun _ hloaded => by cases hloaded
        exact AList.mem_keys.mpr hmem
      next => exact hmapped
  | yield stack => exact hmapped.yield stack
  | visit state videoSsrc now now_pos =>
      simp only [FactoryMonitor.next, FactoryMonitor.visit]
      split
      next due yielded entry htask =>
        refine hmapped.task rfl rfl rfl (fun stack hmem => ?_) fun _ hloaded => by cases hloaded
        have hdue : stack ∈ monitor.task.due := by rw [htask]; exact hmem
        have hahead := hmapped.ahead stack hdue
        rw [htask] at hahead
        exact ⟨hmapped.due stack hdue, hahead⟩
      next => exact hmapped
  | endPass =>
      simp only [FactoryMonitor.next, FactoryMonitor.endPass]
      split
      · exact hsame _ rfl rfl rfl rfl rfl
      · exact hmapped
  | changed =>
      simp only [FactoryMonitor.next, FactoryMonitor.changed]
      split
      · split
        · split <;> exact hsame _ rfl rfl rfl rfl rfl
        · exact hmapped
      · exact hmapped

end Mapped

/-! How often an entry is ticked. -/

/-- This pass has still to tick the entry. -/
def Ahead (monitor : FactoryMonitor) (entry : Nat) : Prop :=
  monitor.task.loaded = some entry ∨
    ∃ stack ∈ monitor.task.due, monitor.entries.lookup stack = some entry

/-- The passes before this one have ticked the entry, each once, from the pass in
which it was registered or from the next one. -/
def Counted (monitor : FactoryMonitor) (entry upto : Nat) : Prop :=
  ∃ first, monitor.born entry ≤ first ∧ first ≤ monitor.born entry + 1 ∧ first ≤ upto ∧
    (monitor.visits entry).map Visit.pass = List.range' first (upto - first)

structure Counting (monitor : FactoryMonitor) : Prop where
  begun : ∀ entry, monitor.born entry ≤ monitor.tickCount
  counted : ∀ entry, ∃ upto ≤ monitor.tickCount + 1, Counted monitor entry upto
  ahead : ∀ entry, Ahead monitor entry → Counted monitor entry monitor.tickCount
  settled : ∀ stack entry, monitor.entries.lookup stack = some entry →
    ¬ Ahead monitor entry → Counted monitor entry (monitor.tickCount + 1)
  late : ∀ stack entry, monitor.entries.lookup stack = some entry → ¬ Ahead monitor entry →
    monitor.task.passing = true → stack ∉ monitor.task.yielded →
      monitor.visits entry = [] ∧ monitor.born entry = monitor.tickCount
  unvisited : ∀ entry, monitor.registered ≤ entry → monitor.visits entry = []
  gone : ∀ entry last, monitor.left entry = some last →
    ∀ visit ∈ monitor.visits entry, visit.pass ≤ last

section Counting

variable {monitor moved : FactoryMonitor}

theorem Counted.congr {entry upto : Nat} (hcounted : Counted monitor entry upto)
    (hborn : moved.born entry = monitor.born entry)
    (hvisits : moved.visits entry = monitor.visits entry) : Counted moved entry upto := by
  unfold Counted
  rwa [hborn, hvisits]

theorem Counted.pass_lt {entry upto : Nat} (hcounted : Counted monitor entry upto) :
    ∀ visit ∈ monitor.visits entry, visit.pass < upto := by
  obtain ⟨first, _, _, hfirst, hpasses⟩ := hcounted
  intro visit hvisit
  have hmem : visit.pass ∈ List.range' first (upto - first) := by
    rw [← hpasses]
    exact List.mem_map_of_mem hvisit
  rw [List.mem_range'_1] at hmem
  omega

theorem Counting.pass_le (hcounting : Counting monitor) (entry : Nat) :
    ∀ visit ∈ monitor.visits entry, visit.pass ≤ monitor.tickCount := by
  obtain ⟨upto, hupto, hcounted⟩ := hcounting.counted entry
  intro visit hvisit
  have hlt := hcounted.pass_lt visit hvisit
  omega

theorem counting_new : Counting new := by
  have hcounted (entry : Nat) : Counted new entry 0 :=
    ⟨0, Nat.le_refl _, Nat.zero_le _, Nat.le_refl _, rfl⟩
  constructor
  case begun => exact fun _ => Nat.le_refl _
  case counted => exact fun entry => ⟨0, Nat.zero_le _, hcounted entry⟩
  case ahead => exact fun entry _ => hcounted entry
  case settled => exact fun _ _ hlookup => by cases hlookup
  case late => exact fun _ _ hlookup => by cases hlookup
  case unvisited => exact fun _ _ => rfl
  case gone => exact fun _ _ hleft => by cases hleft

/-- The task is between two passes, and stays there or ends. -/
theorem Counting.between (hcounting : Counting monitor) (hnone : ∀ entry, ¬ Ahead monitor entry)
    (hentries : moved.entries = monitor.entries)
    (hregistered : moved.registered = monitor.registered)
    (hvisits : moved.visits = monitor.visits) (hborn : moved.born = monitor.born)
    (hleft : moved.left = monitor.left) (htickCount : moved.tickCount = monitor.tickCount)
    (hpassing : moved.task.passing = false) : Counting moved := by
  obtain ⟨hbegun, hcounted, _, hsettled, _, hunvisited, hgone⟩ := hcounting
  have hsame (entry upto : Nat) (hbefore : Counted monitor entry upto) :
      Counted moved entry upto := hbefore.congr (by rw [hborn]) (by rw [hvisits])
  have hstill (entry : Nat) : ¬ Ahead moved entry := by
    rintro (hloaded | ⟨stack, hdue, _⟩)
    · cases htask : moved.task <;> simp_all [MonitorTask.loaded, MonitorTask.passing]
    · cases htask : moved.task <;> simp_all [MonitorTask.due, MonitorTask.passing]
  constructor
  case begun => rwa [hborn, htickCount]
  case counted =>
    intro entry
    obtain ⟨upto, hupto, hbefore⟩ := hcounted entry
    exact ⟨upto, by rwa [htickCount], hsame entry upto hbefore⟩
  case ahead => exact fun entry hahead => absurd hahead (hstill entry)
  case settled =>
    intro stack entry hlookup _
    rw [hentries] at hlookup
    rw [htickCount]
    exact hsame entry _ (hsettled stack entry hlookup (hnone entry))
  case late =>
    intro _ _ _ _ hpasses
    rw [hpassing] at hpasses
    cases hpasses
  case unvisited => rwa [hregistered, hvisits]
  case gone => rwa [hleft, hvisits]

theorem excuse_due (task : MonitorTask) (stack : Nat) :
    (task.excuse stack).due = task.due.filter (· ≠ stack) := by
  cases task <;> rfl

theorem Counting.register (hcounting : Counting monitor) (hmapped : Mapped monitor)
    (stack : Nat) : Counting (monitor.register stack) := by
  have hpasses := hcounting.pass_le
  obtain ⟨hbegun, hcounted, hahead, hsettled, hlate, hunvisited, hgone⟩ := hcounting
  have hborn (entry : Nat) : (monitor.register stack).born entry =
      if entry = monitor.registered then monitor.tickCount else monitor.born entry := by
    rw [FactoryMonitor.register]
    exact Function.update_apply _ _ _ _
  have hvisits : (monitor.register stack).visits = monitor.visits := by
    rw [FactoryMonitor.register, giveUp_frame]
  have hlookup (other : Nat) : (monitor.register stack).entries.lookup other =
      if other = stack then some monitor.registered else monitor.entries.lookup other :=
    lookup_insert _ _ _ _
  have htask : (monitor.register stack).task = monitor.task := by
    rw [FactoryMonitor.register, giveUp_frame]
  have htickCount : (monitor.register stack).tickCount = monitor.tickCount := by
    rw [FactoryMonitor.register, giveUp_frame]
  have hleft (entry : Nat) : (monitor.register stack).left entry =
      if monitor.entries.lookup stack = some entry then some monitor.tickCount
      else monitor.left entry := by
    rw [← left_giveUp, FactoryMonitor.register]
  have hnew (upto : Nat) (hlow : monitor.tickCount ≤ upto) (hhigh : upto ≤ monitor.tickCount + 1) :
      Counted (monitor.register stack) monitor.registered upto := by
    refine ⟨upto, ?_, ?_, Nat.le_refl _, ?_⟩
    · simpa [hborn] using hlow
    · simpa [hborn] using hhigh
    · simp [hvisits, hunvisited]
  have hold {entry upto : Nat} (hne : entry ≠ monitor.registered)
      (hbefore : Counted monitor entry upto) : Counted (monitor.register stack) entry upto :=
    hbefore.congr (by rw [hborn, if_neg hne]) (by rw [hvisits])
  have hstays {entry : Nat} (hne : entry ≠ monitor.registered)
      (hnow : Ahead (monitor.register stack) entry) : Ahead monitor entry := by
    obtain hloaded | ⟨other, hdue, hother⟩ := hnow
    · exact .inl (htask ▸ hloaded)
    · rw [hlookup] at hother
      split at hother
      · exact absurd (Option.some.inj hother).symm hne
      · exact .inr ⟨other, htask ▸ hdue, hother⟩
  have hkeeps {other entry : Nat} (hother : other ≠ stack)
      (hat : monitor.entries.lookup other = some entry) (hbefore : Ahead monitor entry) :
      Ahead (monitor.register stack) entry := by
    obtain hloaded | ⟨each, hdue, heach⟩ := hbefore
    · exact .inl (htask ▸ hloaded)
    · have hsame := hmapped.unique each other entry heach hat
      refine .inr ⟨each, htask ▸ hdue, ?_⟩
      rw [hlookup, if_neg (hsame ▸ hother)]
      exact heach
  constructor
  case begun =>
    intro entry
    rw [hborn, htickCount]
    split
    · exact Nat.le_refl _
    · exact hbegun entry
  case counted =>
    intro entry
    rw [htickCount]
    by_cases hne : entry = monitor.registered
    · exact ⟨monitor.tickCount, Nat.le_succ _, hne ▸ hnew _ (Nat.le_refl _) (Nat.le_succ _)⟩
    · obtain ⟨upto, hupto, hbefore⟩ := hcounted entry
      exact ⟨upto, hupto, hold hne hbefore⟩
  case ahead =>
    intro entry hnow
    rw [htickCount]
    by_cases hne : entry = monitor.registered
    · exact hne ▸ hnew _ (Nat.le_refl _) (Nat.le_succ _)
    · exact hold hne (hahead entry (hstays hne hnow))
  case settled =>
    intro other entry hat hnow
    rw [htickCount]
    rw [hlookup] at hat
    split at hat
    · cases hat
      exact hnew _ (Nat.le_succ _) (Nat.le_refl _)
    next hother =>
      have hne := Nat.ne_of_lt (hmapped.known other entry hat)
      exact hold hne (hsettled other entry hat fun hbefore => hnow (hkeeps hother hat hbefore))
  case late =>
    intro other entry hat hnow hpassing hyielded
    rw [htask] at hpassing hyielded
    rw [hvisits, hborn, htickCount]
    rw [hlookup] at hat
    split at hat
    · cases hat
      exact ⟨hunvisited _ (Nat.le_refl _), if_pos rfl⟩
    next hother =>
      rw [if_neg (Nat.ne_of_lt (hmapped.known other entry hat))]
      exact hlate other entry hat (fun hbefore => hnow (hkeeps hother hat hbefore)) hpassing
        hyielded
  case unvisited =>
    intro entry hentry
    rw [hvisits]
    exact hunvisited entry (Nat.le_of_succ_le hentry)
  case gone =>
    intro entry last hlast
    rw [hvisits]
    rw [hleft] at hlast
    split at hlast
    · cases hlast
      exact hpasses entry
    · exact hgone entry last hlast

theorem Counting.unregister (hcounting : Counting monitor) (hmapped : Mapped monitor)
    (stack : Nat) : Counting (monitor.unregister stack) := by
  have hpasses := hcounting.pass_le
  obtain ⟨hbegun, hcounted, hahead, hsettled, hlate, hunvisited, hgone⟩ := hcounting
  have hlookup (other : Nat) : (monitor.unregister stack).entries.lookup other =
      if other = stack then none else monitor.entries.lookup other := lookup_erase _ _ _
  have hsame {entry upto : Nat} (hbefore : Counted monitor entry upto) :
      Counted (monitor.unregister stack) entry upto := by
    rw [FactoryMonitor.unregister, giveUp_frame]
    exact hbefore.congr rfl rfl
  have hleft (entry : Nat) : (monitor.unregister stack).left entry =
      if monitor.entries.lookup stack = some entry then some monitor.tickCount
      else monitor.left entry := by
    rw [← left_giveUp, FactoryMonitor.unregister]
  have hdue (other : Nat) : other ∈ (monitor.unregister stack).task.due ↔
      other ∈ monitor.task.due ∧ other ≠ stack := by
    rw [FactoryMonitor.unregister, excuse_due, List.mem_filter]
    simp
  have hstage : (monitor.unregister stack).task.loaded = monitor.task.loaded ∧
      (monitor.unregister stack).task.yielded = monitor.task.yielded ∧
        (monitor.unregister stack).task.passing = monitor.task.passing := by
    rw [FactoryMonitor.unregister]
    cases monitor.task <;> exact ⟨rfl, rfl, rfl⟩
  obtain ⟨hloaded, hyielded, hpassing⟩ := hstage
  have hstays {entry : Nat} (hnow : Ahead (monitor.unregister stack) entry) :
      Ahead monitor entry := by
    obtain hat | ⟨other, hother, hentry⟩ := hnow
    · exact .inl (hloaded ▸ hat)
    · obtain ⟨hother, hne⟩ := (hdue other).mp hother
      rw [hlookup, if_neg hne] at hentry
      exact .inr ⟨other, hother, hentry⟩
  have hkeeps {other entry : Nat} (hother : other ≠ stack)
      (hat : monitor.entries.lookup other = some entry) (hbefore : Ahead monitor entry) :
      Ahead (monitor.unregister stack) entry := by
    obtain hat' | ⟨each, heach, hentry⟩ := hbefore
    · exact .inl (hloaded ▸ hat')
    · have hne : each ≠ stack := hmapped.unique each other entry hentry hat ▸ hother
      exact .inr ⟨each, (hdue each).mpr ⟨heach, hne⟩, by rw [hlookup, if_neg hne, hentry]⟩
  have hfound {other entry : Nat}
      (hat : (monitor.unregister stack).entries.lookup other = some entry) :
      other ≠ stack ∧ monitor.entries.lookup other = some entry := by
    rw [hlookup] at hat
    split at hat
    next => cases hat
    next hne => exact ⟨hne, hat⟩
  have htickCount : (monitor.unregister stack).tickCount = monitor.tickCount := by
    rw [FactoryMonitor.unregister, giveUp_frame]
  have hvisits : (monitor.unregister stack).visits = monitor.visits := by
    rw [FactoryMonitor.unregister, giveUp_frame]
  have hborn : (monitor.unregister stack).born = monitor.born := by
    rw [FactoryMonitor.unregister, giveUp_frame]
  have hregistered : (monitor.unregister stack).registered = monitor.registered := by
    rw [FactoryMonitor.unregister, giveUp_frame]
  constructor
  case begun => rwa [hborn, htickCount]
  case counted =>
    intro entry
    obtain ⟨upto, hupto, hbefore⟩ := hcounted entry
    exact ⟨upto, by rwa [htickCount], hsame hbefore⟩
  case ahead =>
    intro entry hnow
    rw [htickCount]
    exact hsame (hahead entry (hstays hnow))
  case settled =>
    intro other entry hat hnow
    obtain ⟨hother, hat⟩ := hfound hat
    rw [htickCount]
    exact hsame (hsettled other entry hat fun hbefore => hnow (hkeeps hother hat hbefore))
  case late =>
    intro other entry hat hnow hpasses hnew
    obtain ⟨hother, hat⟩ := hfound hat
    rw [hvisits, hborn, htickCount]
    exact hlate other entry hat (fun hbefore => hnow (hkeeps hother hat hbefore))
      (hpassing ▸ hpasses) (hyielded ▸ hnew)
  case unvisited => rwa [hregistered, hvisits]
  case gone =>
    intro entry last hlast
    rw [hvisits]
    rw [hleft] at hlast
    split at hlast
    · cases hlast
      exact hpasses entry
    · exact hgone entry last hlast

theorem not_ahead_select {seen entry : Nat} (htask : monitor.task = .select seen) :
    ¬ Ahead monitor entry := by
  rintro (hloaded | ⟨stack, hdue, _⟩)
  · rw [htask] at hloaded
    cases hloaded
  · rw [htask] at hdue
    cases hdue

/-- A pass begins with all entries ahead. -/
theorem Counting.tick (hcounting : Counting monitor) : Counting monitor.tick := by
  unfold FactoryMonitor.tick
  split
  next seen htask =>
    obtain ⟨hbegun, hcounted, _, hsettled, _, hunvisited, hgone⟩ := hcounting
    have hnone (entry : Nat) : ¬ Ahead monitor entry := not_ahead_select htask
    have hall (stack entry : Nat) (hat : monitor.entries.lookup stack = some entry) :
        stack ∈ monitor.entries.keys := by
      rw [← AList.mem_keys, ← AList.lookup_isSome, hat]
      rfl
    constructor
    case begun => exact fun entry => Nat.le_succ_of_le (hbegun entry)
    case counted =>
      intro entry
      obtain ⟨upto, hupto, hbefore⟩ := hcounted entry
      exact ⟨upto, Nat.le_succ_of_le hupto, hbefore.congr rfl rfl⟩
    case ahead =>
      rintro entry (hloaded | ⟨stack, _, hat⟩)
      · cases hloaded
      · exact (hsettled stack entry hat (hnone entry)).congr rfl rfl
    case settled =>
      exact fun stack entry hat hnow => absurd (.inr ⟨stack, hall stack entry hat, hat⟩) hnow
    case late =>
      exact fun stack entry hat hnow => absurd (.inr ⟨stack, hall stack entry hat, hat⟩) hnow
    case unvisited => exact hunvisited
    case gone => exact hgone
  next => exact hcounting

/-- An entry that the iterator comes to without owing it was registered in this
pass. -/
theorem Counting.yield (hcounting : Counting monitor) (stack : Nat) :
    Counting (monitor.yield stack) := by
  unfold FactoryMonitor.yield
  split
  next seen doKeepalive due yielded entry htask hlookup =>
    split
    next => exact hcounting
    next hnew =>
      obtain ⟨hbegun, hcounted, hahead, hsettled, hlate, hunvisited, hgone⟩ := hcounting
      have hkeeps {other : Nat} (hne : other ≠ entry) (hbefore : Ahead monitor other) :
          ∃ each ∈ due.filter (· ≠ stack), monitor.entries.lookup each = some other := by
        obtain hloaded | ⟨each, hdue, heach⟩ := hbefore
        · rw [htask] at hloaded
          cases hloaded
        · rw [htask] at hdue
          refine ⟨each, List.mem_filter.mpr ⟨hdue, ?_⟩, heach⟩
          have hstack : each ≠ stack := by
            rintro rfl
            exact hne (Option.some.inj (heach.symm.trans hlookup))
          simpa using hstack
      constructor
      case begun => exact hbegun
      case counted =>
        intro other
        obtain ⟨upto, hupto, hbefore⟩ := hcounted other
        exact ⟨upto, hupto, hbefore.congr rfl rfl⟩
      case ahead =>
        rintro other (hloaded | ⟨each, hdue, heach⟩)
        · cases hloaded
          by_cases hbefore : Ahead monitor entry
          · exact (hahead entry hbefore).congr rfl rfl
          · obtain ⟨hvisits, hborn⟩ := hlate stack entry hlookup hbefore (by rw [htask]; rfl)
              (by rw [htask]; exact hnew)
            refine ⟨monitor.tickCount, Nat.le_of_eq hborn, ?_, Nat.le_refl _, ?_⟩
            · exact Nat.le_succ_of_le (Nat.le_of_eq hborn.symm)
            · simp [hvisits]
        · have hbefore : Ahead monitor other := by
            refine .inr ⟨each, ?_, heach⟩
            rw [htask]
            exact (List.mem_filter.mp hdue).1
          exact (hahead other hbefore).congr rfl rfl
      case settled =>
        intro each other hat hnow
        have hne : other ≠ entry := fun hsame => hnow (.inl (congrArg some hsame.symm))
        exact (hsettled each other hat fun hbefore => hnow (.inr (hkeeps hne hbefore))).congr
          rfl rfl
      case late =>
        intro each other hat hnow _ hyielded
        have hne : other ≠ entry := fun hsame => hnow (.inl (congrArg some hsame.symm))
        refine hlate each other hat (fun hbefore => hnow (.inr (hkeeps hne hbefore)))
          (by rw [htask]; rfl) ?_
        rw [htask]
        exact fun hmem => hyielded (List.mem_cons_of_mem _ hmem)
      case unvisited => exact hunvisited
      case gone => exact hgone
  next => exact hcounting

theorem Counting.visit (hcounting : Counting monitor) (hmapped : Mapped monitor)
    (state : ConnState) (videoSsrc : UInt32) (now : Int) (now_pos : 0 < now) :
    Counting (monitor.visit state videoSsrc now now_pos) := by
  have hpasses := hcounting.pass_le
  unfold FactoryMonitor.visit
  split
  next seen doKeepalive due yielded entry htask =>
    obtain ⟨hbegun, hcounted, hahead, hsettled, hlate, hunvisited, hgone⟩ := hcounting
    have hloaded : monitor.task.loaded = some entry := by rw [htask]; rfl
    obtain ⟨hknown, hleft, hyielded⟩ := hmapped.loaded entry hloaded
    have hentry (stack : Nat) (hdue : stack ∈ due) :
        monitor.entries.lookup stack ≠ some entry := by
      intro hat
      exact hmapped.ahead stack (by rw [htask]; exact hdue) (hyielded stack hat)
    have hkeeps {other : Nat} (hne : other ≠ entry) (hbefore : Ahead monitor other) :
        ∃ each ∈ due, monitor.entries.lookup each = some other := by
      obtain hother | ⟨each, hdue, heach⟩ := hbefore
      · rw [hloaded] at hother
        exact absurd (Option.some.inj hother).symm hne
      · rw [htask] at hdue
        exact ⟨each, hdue, heach⟩
    generalize hticked : (monitor.entry entry).tick state videoSsrc doKeepalive now = ticked
    obtain ⟨ticked, spawned⟩ := ticked
    let made : Visit :=
      ⟨monitor.tickCount, ⟨state, videoSsrc, doKeepalive, now, now_pos⟩, spawned⟩
    let after : FactoryMonitor :=
      { monitor with
        task := .visiting seen doKeepalive due yielded none
        entry := Function.update monitor.entry entry ticked
        visits := Function.update monitor.visits entry (monitor.visits entry ++ [made]) }
    change Counting after
    have hsame {other upto : Nat} (hne : other ≠ entry) (hbefore : Counted monitor other upto) :
        Counted after other upto :=
      hbefore.congr rfl (Function.update_of_ne hne _ _)
    have hvisited : Counted after entry (monitor.tickCount + 1) := by
      obtain ⟨first, hlow, hhigh, hfirst, hcount⟩ := hahead entry (.inl hloaded)
      refine ⟨first, hlow, hhigh, Nat.le_succ_of_le hfirst, ?_⟩
      simp only [after, Function.update_self, List.map_append, List.map_cons, List.map_nil, hcount]
      rw [Nat.succ_sub hfirst, List.range'_1_concat, Nat.add_sub_cancel' hfirst]
    constructor
    case begun => exact hbegun
    case counted =>
      intro other
      by_cases hne : other = entry
      · exact ⟨monitor.tickCount + 1, Nat.le_refl _, hne ▸ hvisited⟩
      · obtain ⟨upto, hupto, hbefore⟩ := hcounted other
        exact ⟨upto, hupto, hsame hne hbefore⟩
    case ahead =>
      rintro other (hother | ⟨stack, hdue, hat⟩)
      · cases hother
      · have hne : other ≠ entry := fun hsame => hentry stack hdue (hsame ▸ hat)
        refine hsame hne (hahead other (.inr ⟨stack, ?_, hat⟩))
        rw [htask]
        exact hdue
    case settled =>
      intro stack other hat hnow
      by_cases hne : other = entry
      · exact hne ▸ hvisited
      · exact hsame hne (hsettled stack other hat fun hbefore => hnow (.inr (hkeeps hne hbefore)))
    case late =>
      intro stack other hat hnow _ hnew
      have hne : other ≠ entry := by
        rintro rfl
        have hmem := hyielded stack hat
        rw [htask] at hmem
        exact hnew hmem
      obtain ⟨hvisits, hborn⟩ := hlate stack other hat
        (fun hbefore => hnow (.inr (hkeeps hne hbefore))) (by rw [htask]; rfl)
        (by rw [htask]; exact hnew)
      exact ⟨(Function.update_of_ne hne _ _).trans hvisits, hborn⟩
    case unvisited =>
      intro other hother
      have hne : other ≠ entry := by
        rintro rfl
        exact absurd hknown (Nat.not_lt.mpr hother)
      exact (Function.update_of_ne hne _ _).trans (hunvisited other hother)
    case gone =>
      intro other last hlast
      by_cases hne : other = entry
      · subst hne
        obtain hnone | hnow := hleft
        · cases hnone.symm.trans hlast
        · cases hnow.symm.trans hlast
          intro each heach
          simp only [after, Function.update_self, List.mem_append, List.mem_singleton] at heach
          obtain heach | rfl := heach
          · exact hpasses other each heach
          · exact Nat.le_refl _
      · have hvisits : after.visits other = monitor.visits other := Function.update_of_ne hne _ _
        rw [hvisits]
        exact hgone other last hlast
  next => exact hcounting

theorem Counting.next (hcounting : Counting monitor) (hmapped : Mapped monitor)
    (hsteady : Steady monitor) (action : Action) : Counting (monitor.next action) := by
  have hcall (called : FactoryMonitor) (hcalled : Counting called) :
      Counting (monitor.call called) := by
    unfold FactoryMonitor.call
    split
    · exact hcounting
    · exact hcalled
  have hsame (called : FactoryMonitor) (hcalled : called = { monitor with
      stopped := called.stopped
      cancel := called.cancel }) : Counting called := by
    rw [hcalled]
    exact ⟨hcounting.1, hcounting.2, hcounting.3, hcounting.4, hcounting.5, hcounting.6,
      hcounting.7⟩
  cases action with
  | start =>
      apply hcall
      unfold FactoryMonitor.start
      split
      next => exact hcounting
      next hstarted =>
        have htask := (hsteady.unstarted (Bool.eq_false_iff.mpr hstarted)).1
        refine hcounting.between (fun entry => ?_) rfl rfl rfl rfl rfl rfl rfl
        rintro (hloaded | ⟨stack, hdue, _⟩)
        · rw [htask] at hloaded
          cases hloaded
        · rw [htask] at hdue
          cases hdue
  | stop =>
      apply hcall
      unfold FactoryMonitor.stop
      split
      · exact hcounting
      · exact hsame _ rfl
  | drop => exact hsame _ rfl
  | register stack => exact hcall _ (hcounting.register hmapped stack)
  | unregister stack => exact hcall _ (hcounting.unregister hmapped stack)
  | tick => exact hcounting.tick
  | yield stack => exact hcounting.yield stack
  | visit state videoSsrc now now_pos => exact hcounting.visit hmapped state videoSsrc now now_pos
  | endPass =>
      simp only [FactoryMonitor.next, FactoryMonitor.endPass]
      split
      next htask =>
        refine hcounting.between (fun entry => ?_) rfl rfl rfl rfl rfl rfl rfl
        rintro (hloaded | ⟨stack, hdue, _⟩)
        · rw [htask] at hloaded
          cases hloaded
        · rw [htask] at hdue
          cases hdue
      next => exact hcounting
  | changed =>
      simp only [FactoryMonitor.next, FactoryMonitor.changed]
      split
      next htask =>
        have hnone (entry : Nat) : ¬ Ahead monitor entry := not_ahead_select htask
        split
        · split <;> exact hcounting.between hnone rfl rfl rfl rfl rfl rfl rfl
        · exact hcounting
      next => exact hcounting

end Counting

/-! What a visit does. -/

structure Recorded (monitor : FactoryMonitor) : Prop where
  ran : ∀ entry, monitor.entry entry = Monitor.ran ((monitor.visits entry).map Visit.tick)
  spawned : ∀ entry before visit behind, monitor.visits entry = before ++ visit :: behind →
    visit.spawned = (Monitor.ticked (Monitor.ran (before.map Visit.tick)) visit.tick).2
  keepalive : ∀ entry, ∀ visit ∈ monitor.visits entry,
    visit.tick.doKeepalive = (visit.pass % keepaliveEvery == 0)
  passing : ∀ seen doKeepalive due yielded loaded,
    monitor.task = .visiting seen doKeepalive due yielded loaded →
      doKeepalive = (monitor.tickCount % keepaliveEvery == 0)

theorem recorded_new : Recorded new where
  ran := fun _ => rfl
  spawned := fun _ before _ _ hvisits => by cases before <;> cases hvisits
  keepalive := fun _ _ hvisit => by cases hvisit
  passing := fun _ _ _ _ _ htask => by cases htask

section Recorded

variable {monitor moved : FactoryMonitor}

theorem Recorded.congr (hrecorded : Recorded monitor) (hentry : moved.entry = monitor.entry)
    (hvisits : moved.visits = monitor.visits)
    (hpassing : ∀ seen doKeepalive due yielded loaded,
      moved.task = .visiting seen doKeepalive due yielded loaded →
        doKeepalive = (moved.tickCount % keepaliveEvery == 0)) : Recorded moved := by
  obtain ⟨hran, hspawned, hkeepalive, _⟩ := hrecorded
  exact ⟨by rwa [hentry, hvisits], by rwa [hvisits], by rwa [hvisits], hpassing⟩

/-- The last visit of an entry is the new one or an old one. -/
theorem append_visit_cases {visits before behind : List Visit} {made visit : Visit}
    (hsplit : visits ++ [made] = before ++ visit :: behind) :
    before = visits ∧ visit = made ∨ ∃ rest, visits = before ++ visit :: rest := by
  induction behind using List.reverseRecOn with
  | nil =>
      obtain ⟨hbefore, hvisit⟩ := List.append_inj' hsplit rfl
      exact .inl ⟨hbefore.symm, (List.cons.inj hvisit).1.symm⟩
  | append_singleton rest last _ =>
      rw [← List.cons_append, ← List.append_assoc] at hsplit
      exact .inr ⟨rest, (List.append_inj' hsplit rfl).1⟩

theorem Recorded.visit (hrecorded : Recorded monitor) (state : ConnState) (videoSsrc : UInt32)
    (now : Int) (now_pos : 0 < now) :
    Recorded (monitor.visit state videoSsrc now now_pos) := by
  unfold FactoryMonitor.visit
  split
  next seen doKeepalive due yielded entry htask =>
    obtain ⟨hran, hspawned, hkeepalive, hpassing⟩ := hrecorded
    have hflag := hpassing seen doKeepalive due yielded (some entry) htask
    let tick : Monitor.Tick := ⟨state, videoSsrc, doKeepalive, now, now_pos⟩
    have hticked : (monitor.entry entry).tick state videoSsrc doKeepalive now =
        Monitor.ticked (Monitor.ran ((monitor.visits entry).map Visit.tick)) tick := by
      rw [hran]
      rfl
    rw [hticked]
    constructor
    case ran =>
      intro other
      by_cases hsame : other = entry
      · subst hsame
        simp [Monitor.ran_concat, tick]
      · simpa [hsame] using hran other
    case spawned =>
      intro other before visit behind hsplit
      by_cases hsame : other = entry
      · subst hsame
        simp only [Function.update_self] at hsplit
        obtain ⟨rfl, rfl⟩ | ⟨rest, hrest⟩ := append_visit_cases hsplit
        · rfl
        · exact hspawned other before visit rest hrest
      · simp only [Function.update_of_ne hsame] at hsplit
        exact hspawned other before visit behind hsplit
    case keepalive =>
      intro other visit hvisit
      by_cases hsame : other = entry
      · subst hsame
        simp only [Function.update_self, List.mem_append, List.mem_singleton] at hvisit
        obtain hvisit | rfl := hvisit
        · exact hkeepalive other visit hvisit
        · exact hflag
      · simp only [Function.update_of_ne hsame] at hvisit
        exact hkeepalive other visit hvisit
    case passing =>
      intro _ _ _ _ _ hstage
      cases hstage
      exact hflag
  next => exact hrecorded

theorem Recorded.next (hrecorded : Recorded monitor) (action : Action) :
    Recorded (monitor.next action) := by
  have hcall (called : FactoryMonitor) (hcalled : Recorded called) :
      Recorded (monitor.call called) := by
    unfold FactoryMonitor.call
    split
    · exact hrecorded
    · exact hcalled
  have hidle (called : FactoryMonitor) (hentry : called.entry = monitor.entry)
      (hvisits : called.visits = monitor.visits) (hpassing : called.task.passing = false) :
      Recorded called := by
    refine hrecorded.congr hentry hvisits fun _ _ _ _ _ htask => ?_
    rw [htask] at hpassing
    cases hpassing
  have hpassing := hrecorded.passing
  cases action with
  | start =>
      apply hcall
      unfold FactoryMonitor.start
      split
      · exact hrecorded
      · exact hidle _ rfl rfl rfl
  | stop =>
      apply hcall
      unfold FactoryMonitor.stop
      split
      · exact hrecorded
      · exact hrecorded.congr rfl rfl hpassing
  | drop => exact hrecorded.congr rfl rfl hpassing
  | register stack =>
      apply hcall
      rw [FactoryMonitor.register, giveUp_frame]
      exact hrecorded.congr rfl rfl hpassing
  | unregister stack =>
      apply hcall
      rw [FactoryMonitor.unregister, giveUp_frame]
      refine hrecorded.congr rfl rfl fun seen doKeepalive due yielded loaded htask => ?_
      cases hbefore : monitor.task with
      | visiting =>
          simp only [hbefore, MonitorTask.excuse, MonitorTask.visiting.injEq] at htask
          obtain ⟨_, rfl, _, _, _⟩ := htask
          exact hpassing _ _ _ _ _ hbefore
      | _ => simp [hbefore, MonitorTask.excuse] at htask
  | tick =>
      simp only [FactoryMonitor.next, FactoryMonitor.tick]
      split
      · refine hrecorded.congr rfl rfl fun _ _ _ _ _ htask => ?_
        cases htask
        rfl
      · exact hrecorded
  | yield stack =>
      simp only [FactoryMonitor.next, FactoryMonitor.yield]
      split
      next hat _ =>
        split
        · exact hrecorded
        · refine hrecorded.congr rfl rfl fun _ _ _ _ _ htask => ?_
          cases htask
          exact hpassing _ _ _ _ _ hat
      next => exact hrecorded
  | visit state videoSsrc now now_pos => exact hrecorded.visit state videoSsrc now now_pos
  | endPass =>
      simp only [FactoryMonitor.next, FactoryMonitor.endPass]
      split
      · exact hidle _ rfl rfl rfl
      · exact hrecorded
  | changed =>
      simp only [FactoryMonitor.next, FactoryMonitor.changed]
      split
      · split
        · split <;> exact hidle _ rfl rfl rfl
        · exact hrecorded
      · exact hrecorded

end Recorded

/-- What the passes have done, at any time: every entry has been ticked once in each of
the passes from its registration until it left the map, a tick has closed the stack
exactly where the entry's ticks so far make it overdue, and has spawned a keepalive
exactly on connected video in every second pass. -/
structure Surveyed (monitor : FactoryMonitor) : Prop where
  consecutive : ∀ entry, ∃ first, monitor.born entry ≤ first ∧ first ≤ monitor.born entry + 1 ∧
    (monitor.visits entry).map Visit.pass = List.range' first (monitor.visits entry).length
  current : ∀ stack entry, monitor.entries.lookup stack = some entry →
    monitor.task.passing = false →
      ∃ first, monitor.born entry ≤ first ∧ first ≤ monitor.born entry + 1 ∧
        (monitor.visits entry).map Visit.pass =
          List.range' first (monitor.tickCount + 1 - first)
  gone : ∀ entry last, monitor.left entry = some last →
    ∀ visit ∈ monitor.visits entry, visit.pass ≤ last
  closes : ∀ entry before visit behind, monitor.visits entry = before ++ visit :: behind →
    (visit.spawned = some .close ↔
      Monitor.NeverConnected (before.map Visit.tick ++ [visit.tick]) ∧
        iceCheckingTimeout <
          (visit.tick.now -
            Monitor.firstReading (before.map Visit.tick) visit.tick).natAbs)
  keepalives : ∀ entry, ∀ visit ∈ monitor.visits entry,
    (visit.spawned = some .keepalive ↔ visit.tick.state = .connected ∧
      visit.tick.videoSsrc ≠ 0 ∧ visit.pass % 2 = 0)

/-- A keepalive is a matter of the tick alone. -/
theorem ticked_keepalive (entry : PcMonitorEntry) (tick : Monitor.Tick) :
    (Monitor.ticked entry tick).2 = some .keepalive ↔
      tick.state = .connected ∧ tick.videoSsrc ≠ 0 ∧ tick.doKeepalive = true := by
  unfold Monitor.ticked PcMonitorEntry.tick
  split
  next hstate =>
    simp only [hstate, false_and, iff_false]
    split
    · simp
    · split
      · simp
      · split <;> simp
  next hstate =>
    have hstate : tick.state = .connected := not_not.mp hstate
    simp [hstate, and_comm]

theorem surveyed_always (actions : List Action) : Always next Surveyed new actions := by
  have hall : Along next (fun _ _ => True) new actions := along_true
  have hinvariant := hall.always
    (fun monitor action
      (hnow : Steady monitor ∧ Mapped monitor ∧ Counting monitor ∧ Recorded monitor) _ =>
      ⟨hnow.1.next action, hnow.2.1.next action, hnow.2.2.1.next hnow.2.1 hnow.1 action,
        hnow.2.2.2.next action⟩)
    ⟨steady_new, mapped_new, counting_new, recorded_new⟩
  apply hinvariant.mono
  rintro monitor ⟨_, _, hcounting, hrecorded⟩
  constructor
  case consecutive =>
    intro entry
    obtain ⟨upto, _, first, hlow, hhigh, _, hpasses⟩ := hcounting.counted entry
    refine ⟨first, hlow, hhigh, ?_⟩
    have hlength := congrArg List.length hpasses
    rw [List.length_map, List.length_range'] at hlength
    rw [hpasses, hlength]
  case current =>
    intro stack entry hat hidle
    have hnone : ¬ Ahead monitor entry := by
      cases htask : monitor.task with
      | visiting =>
          rw [htask] at hidle
          cases hidle
      | _ => simp [Ahead, htask, MonitorTask.loaded, MonitorTask.due]
    obtain ⟨first, hlow, hhigh, _, hpasses⟩ := hcounting.settled stack entry hat hnone
    exact ⟨first, hlow, hhigh, hpasses⟩
  case gone => exact hcounting.gone
  case closes =>
    intro entry before visit behind hsplit
    rw [hrecorded.spawned entry before visit behind hsplit, Monitor.ticked_close]
  case keepalives =>
    intro entry visit hvisit
    obtain ⟨before, behind, hsplit⟩ := List.append_of_mem hvisit
    rw [hrecorded.spawned entry before visit behind hsplit, ticked_keepalive,
      hrecorded.keepalive entry visit hvisit]
    simp [keepaliveEvery, keepaliveTickInterval, monitorPollInterval]

end FactoryMonitor

end RustTgCalls.Wrtc
