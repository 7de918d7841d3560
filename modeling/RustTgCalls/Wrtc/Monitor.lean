import Mathlib.Data.List.Induction
import RustTgCalls.Library.Transition
import RustTgCalls.Wrtc.Keepalive

namespace RustTgCalls.Wrtc

open Transition

/-! What the monitor closes, over the ticks of one entry. -/

namespace Monitor

/-- One tick with what it reads. -/
structure Tick where
  state : ConnState
  videoSsrc : UInt32
  doKeepalive : Bool
  now : Int
  now_pos : 0 < now

def ticked (entry : PcMonitorEntry) (tick : Tick) : PcMonitorEntry × Option Spawned :=
  entry.tick tick.state tick.videoSsrc tick.doKeepalive tick.now

/-- The entry after these ticks. -/
def ran (ticks : List Tick) : PcMonitorEntry :=
  after (fun entry tick => (ticked entry tick).1) .new ticks

def NeverConnected (ticks : List Tick) : Prop :=
  ∀ tick ∈ ticks, tick.state ≠ .connected

/-- The reading the time of a tick is counted from. -/
def firstReading (ticks : List Tick) (tick : Tick) : Int :=
  ((ticks ++ [tick]).head (by simp)).now

/-- The entry has been in setup for longer than the timeout. -/
def Stuck (ticks : List Tick) (tick : Tick) : Prop :=
  NeverConnected (ticks ++ [tick]) ∧
    firstReading ticks tick + iceCheckingTimeout < tick.now

/-- Every tick closes the stack if and only if the entry is stuck. -/
def ClosesStuck (ticks : List Tick) : Prop :=
  ∀ before tick behind, ticks = before ++ tick :: behind →
    ((ticked (ran before) tick).2 = some .close ↔ Stuck before tick)

/-- While the entry has not seen a connection, the clock is never set back to
more than the timeout before the first tick. -/
def NotSetBack (ticks : List Tick) : Prop :=
  ∀ before tick behind, ticks = before ++ tick :: behind →
    NeverConnected (before ++ [tick]) →
      firstReading before tick ≤ tick.now + iceCheckingTimeout

theorem firstReading_nil (tick : Tick) : firstReading [] tick = tick.now := rfl

theorem firstReading_cons (first : Tick) (ticks : List Tick) (tick : Tick) :
    firstReading (first :: ticks) tick = first.now := rfl

theorem neverConnected_concat :
    NeverConnected (ticks ++ [tick]) ↔
      NeverConnected ticks ∧ tick.state ≠ .connected := by
  simp [NeverConnected, or_imp, forall_and]

@[simp] theorem ran_concat (ticks : List Tick) (tick : Tick) :
    ran (ticks ++ [tick]) = (ticked (ran ticks) tick).1 := by
  simp [ran]

/-- An entry remembers a connection for good. -/
theorem everConnected_ran (ticks : List Tick) :
    (ran ticks).everConnected = false ↔ NeverConnected ticks := by
  induction ticks using List.reverseRecOn with
  | nil => simp [ran, PcMonitorEntry.new, NeverConnected]
  | append_singleton ticks tick ih =>
      rw [ran_concat, neverConnected_concat, ← ih, ticked, PcMonitorEntry.tick]
      by_cases hstate : tick.state = .connected
      · simp [hstate]
      · grind

/-- Until it has seen a connection it counts from its first tick. -/
theorem checkingNs_ran {first : Tick} {ticks : List Tick}
    (hnever : NeverConnected (first :: ticks)) :
    (ran (first :: ticks)).checkingNs = first.now := by
  induction ticks using List.reverseRecOn with
  | nil =>
      have hstate := hnever first (by simp)
      simp [ran, PcMonitorEntry.new, ticked, PcMonitorEntry.tick, hstate]
  | append_singleton ticks tick ih =>
      rw [← List.cons_append, neverConnected_concat] at hnever
      obtain ⟨hbefore, hstate⟩ := hnever
      have hchecking := ih hbefore
      have hpos := first.now_pos
      rw [← List.cons_append, ran_concat, ticked, PcMonitorEntry.tick]
      grind

/-- What a tick closes, by the readings of the first tick and its own. -/
theorem ticked_close (before : List Tick) (tick : Tick) :
    (ticked (ran before) tick).2 = some .close ↔
      NeverConnected (before ++ [tick]) ∧
        iceCheckingTimeout < (tick.now - firstReading before tick).natAbs := by
  rw [neverConnected_concat, ← everConnected_ran, ticked, PcMonitorEntry.tick]
  cases before with
  | nil =>
      simp [ran, PcMonitorEntry.new, firstReading_nil]
      grind
  | cons first before =>
      have hpos := first.now_pos
      have hchecking := @checkingNs_ran first before
      rw [firstReading_cons]
      have hnever := everConnected_ran (first :: before)
      grind

/-- The stuck entries are closed, and no other, exactly in the runs whose clock
is not set back too far. -/
theorem closesStuck_iff (ticks : List Tick) : ClosesStuck ticks ↔ NotSetBack ticks := by
  constructor
  · intro hcloses before tick behind hsplit hnever
    have hexact := hcloses before tick behind hsplit
    rw [ticked_close] at hexact
    by_contra hback
    have hstuck := hexact.mp ⟨hnever, by omega⟩
    have hlate := hstuck.2
    omega
  · intro hback before tick behind hsplit
    have hforward := hback before tick behind hsplit
    rw [ticked_close]
    constructor
    · rintro ⟨hnever, hlate⟩
      have hfirst := hforward hnever
      exact ⟨hnever, by omega⟩
    · rintro ⟨hnever, hlate⟩
      exact ⟨hnever, by omega⟩

/-- Two ticks in setup, the clock set back by a minute between them. -/
def setBack : List Tick :=
  [⟨.connecting, 0, false, 100000000000, by decide⟩,
    ⟨.connecting, 0, false, 40000000000, by decide⟩]

theorem setBack_closes : ¬ ClosesStuck setBack := by
  intro hcloses
  have hexact := hcloses [⟨.connecting, 0, false, 100000000000, by decide⟩]
    ⟨.connecting, 0, false, 40000000000, by decide⟩ [] rfl
  have hstuck := hexact.mp (by decide)
  exact absurd hstuck.2 (by decide)

end Monitor

end RustTgCalls.Wrtc
