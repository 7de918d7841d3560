import RustTgCalls.Media.Deadlines

namespace RustTgCalls.Media.Paced

open Deadline Transition

/-! The time of a pacing task: what has passed since its last start is what it has
played, what it gave up by moving its deadline, and what it lags behind or sleeps
ahead of the clock. -/

variable {Reader : Type}

/-- The durations that the deadline has moved by. -/
def position (paced : Paced Reader) : Duration := total (paced.slots.take paced.paid)

/-- The frame that was passed on last. -/
def frame (paced : Paced Reader) : Duration :=
  (paced.slots.getLast?.map Slot.length).getD 0

def ahead (paced : Paced Reader) : Duration := paced.nextDeadline - paced.clock

def behind (paced : Paced Reader) : Duration := paced.clock - paced.nextDeadline

/-- By how much a step moves the deadline beyond the duration of its frame. -/
def slipOf (paced : Paced Reader) : Action → Duration
  | .playing (.pacing _) =>
      match paced.playing.leg.pacingAt with
      | .account sample =>
          rebased paced.clock (paced.nextDeadline + sample.duration) -
            (paced.nextDeadline + sample.duration)
      | _ => 0
  | _ => 0

end RustTgCalls.Media.Paced

namespace RustTgCalls.Media

open Deadline Transition

/-- A pacing task with the clock and the position of its last start, and what it gave
up since. -/
structure Metered (Reader : Type) where
  paced : Paced Reader
  anchor : Instant
  base : Duration
  slip : Duration

namespace Metered

open Paced

variable {Reader : Type}

def new (reader : Reader) (syncBarrier onEnd : Bool) (clock : Instant) : Metered Reader where
  paced := .new reader syncBarrier onEnd clock
  anchor := clock
  base := 0
  slip := 0

def next (nextSample : Reader → Except RustTgCallsError Sample × Reader)
    (metered : Metered Reader) (action : Paced.Action) : Metered Reader :=
  let moved := metered.paced.next nextSample action
  if metered.paced.begins action then
    { paced := moved
      anchor := metered.paced.clock
      base := metered.paced.position
      slip := 0 }
  else { metered with paced := moved, slip := metered.slip + metered.paced.slipOf action }

/-- What has passed since the start is played, given up or late, or slept ahead of. -/
structure Conserves (metered : Metered Reader) : Prop where
  holding : Holding metered.paced
  deadline : started metered.paced.playing.leg = true →
    metered.paced.nextDeadline + metered.base =
      metered.anchor + metered.paced.position + metered.slip
  ahead : asleep metered.paced.playing.leg = true →
    metered.paced.nextDeadline ≤ metered.paced.clock + metered.paced.frame

variable {metered : Metered Reader}

theorem started_of_pacingLeg {playing : Playing Reader} (input : PacingInput)
    (hplace : ∀ sample, playing.leg.pacingAt ≠ .released sample)
    (hstarted : started (playing.pacingLeg input) = true) : started playing.leg = true := by
  unfold Playing.pacingLeg Leg.pacingStep at hstarted
  cases hat : playing.leg.pacingAt with
  | released sample => exact absurd hat (hplace sample)
  | barrierWait sample => simp [hat, started] at hstarted
  | notified => simp [hat, started] at hstarted
  | firstRecv =>
      simp only [hat] at hstarted
      split at hstarted
      next hrecv => simpa [started, hat, (Leg.recv_some hrecv).2.1] using hstarted
      next => exact hstarted
  | take =>
      simp only [hat] at hstarted
      split at hstarted <;> simpa [started, hat] using hstarted
  | ifFirst sample =>
      cases hfirst : playing.leg.firstSample with
      | false => simp [started, hat, hfirst]
      | true => cases hbarrier : playing.syncBarrier <;>
          simp [hat, hfirst, hbarrier, started] at hstarted
  | sendRtp sample =>
      simp only [hat] at hstarted
      split at hstarted <;> simpa [started, hat] using hstarted
  | whileRunning | whilePaused | pausedRunning | ifRunning =>
      simp only [hat] at hstarted
      split at hstarted <;> simpa [started, hat] using hstarted
  | join slept received =>
      simp only [hat] at hstarted
      obtain ⟨hnew | ⟨slept', received', hnew⟩, hsame, _⟩ :=
        Leg.atJoin_joinStep playing.leg slept received input hat <;>
          simpa [started, hat, hnew, hsame] using hstarted
  | account sample | finish | ended => simpa [hat, started] using hstarted

theorem awake_joinStep {leg : Leg Reader} {received : Bool} (input : PacingInput)
    (hat : leg.pacingAt = .join true received) :
    asleep (leg.joinStep true received input) = false := by
  have hjoined (other : Leg Reader) (first : Bool) :
      asleep (other.joined true first) = false := by
    cases first <;> simp [Leg.joined, asleep]
  have hstays : asleep leg = false := by simp [asleep, hat]
  unfold Leg.joinStep
  split
  · exact hjoined leg received
  · exact hstays
  · split
    · exact hjoined _ true
    · exact hstays

/-- The task comes to sleep only from a frame that it has accounted for. -/
theorem asleep_of_pacingLeg {playing : Playing Reader} (input : PacingInput)
    (hplace : ∀ sample, playing.leg.pacingAt ≠ .account sample)
    (hasleep : asleep (playing.pacingLeg input) = true) : asleep playing.leg = true := by
  unfold Playing.pacingLeg Leg.pacingStep at hasleep
  cases hat : playing.leg.pacingAt with
  | account sample => exact absurd hat (hplace sample)
  | join slept received =>
      cases slept with
      | false => simp [asleep, hat]
      | true =>
          simp only [hat] at hasleep
          rw [awake_joinStep input hat] at hasleep
          cases hasleep
  | ifFirst sample =>
      cases hfirst : playing.leg.firstSample with
      | false => simp [hat, hfirst, asleep] at hasleep
      | true => cases hbarrier : playing.syncBarrier <;>
          simp [hat, hfirst, hbarrier, asleep] at hasleep
  | firstRecv | take | sendRtp sample | whileRunning | whilePaused | pausedRunning
  | ifRunning =>
      simp only [hat] at hasleep
      split at hasleep <;> simp [asleep, hat] at hasleep
  | barrierWait sample | released sample | notified | finish | ended =>
      simp [hat, asleep] at hasleep

section Steps

variable (nextSample : Reader → Except RustTgCallsError Sample × Reader)

/-- A step that moves neither the deadline nor the frames. -/
theorem Conserves.still (hconserves : Conserves metered) {playing : Playing Reader}
    (hholding : Holding { metered.paced with playing })
    (hstarted : started playing.leg = true → started metered.paced.playing.leg = true)
    (hasleep : asleep playing.leg = true → asleep metered.paced.playing.leg = true) :
    Conserves { metered with paced := { metered.paced with playing } } where
  holding := hholding
  deadline := fun hafter => hconserves.deadline (hstarted hafter)
  ahead := fun hafter => hconserves.ahead (hasleep hafter)

theorem begun_released (hholding : Holding metered.paced) {sample : Sample}
    (hat : metered.paced.playing.leg.pacingAt = .released sample) (input : PacingInput) :
    Conserves (metered.next nextSample (.playing (.pacing input))) := by
  have hmoved := holding_next nextSample metered.paced (.playing (.pacing input)) hholding
  have hnext : metered.next nextSample (.playing (.pacing input)) =
      { paced := metered.paced.next nextSample (.playing (.pacing input))
        anchor := metered.paced.clock
        base := metered.paced.position
        slip := 0 } := by
    simp [next, begins, hat]
  rw [hnext]
  refine ⟨hmoved, fun _ => ?_, fun hasleep => ?_⟩
  · simp [Paced.next, pace, hat, position]
  · simp [Paced.next, pace, hat, Playing.pacing, Playing.pacingLeg, Leg.pacingStep,
      asleep] at hasleep

/-- A frame is passed on. -/
theorem Conserves.sendRtp (hconserves : Conserves metered) {sample : Sample}
    (hat : metered.paced.playing.leg.pacingAt = .sendRtp sample) (input : PacingInput) :
    Conserves (metered.next nextSample (.playing (.pacing input))) := by
  obtain ⟨hholding, hdeadline, _⟩ := hconserves
  have hmoved := holding_next nextSample metered.paced (.playing (.pacing input)) hholding
  have hnext : metered.next nextSample (.playing (.pacing input)) =
      { metered with paced := metered.paced.next nextSample (.playing (.pacing input)) } := by
    simp [next, begins, slipOf, hat]
  have hplace (other : Sample) : metered.paced.playing.leg.pacingAt ≠ .account other := by
    simp [hat]
  have hposition : (metered.paced.next nextSample (.playing (.pacing input))).position =
      metered.paced.position := by
    cases hholding.stage with
    | settled _ hpaid =>
        simp only [Paced.next, pace, hat, position]
        rw [List.take_append_of_le_length (Nat.le_of_eq hpaid)]
    | sending other _ _ hother => exact absurd hother (hplace other)
    | ended halive => simp [Leg.alive, hat] at halive
  rw [hnext]
  refine ⟨hmoved, fun hstarted => ?_, fun hasleep => ?_⟩
  · have hafter : started (metered.paced.playing.pacingLeg input) = true := by
      simpa [Paced.next, pace, hat, Playing.pacing] using hstarted
    have hbefore := started_of_pacingLeg input (by simp [hat]) hafter
    rw [hposition]
    simpa [Paced.next, pace, hat] using hdeadline hbefore
  · have hafter : asleep (metered.paced.playing.pacingLeg input) = true := by
      simpa [Paced.next, pace, hat, Playing.pacing] using hasleep
    have hbefore := asleep_of_pacingLeg input hplace hafter
    simp [asleep, hat] at hbefore

theorem le_rebased_lag {clock deadline : Instant} {duration : Duration}
    (hdue : deadline ≤ clock) : rebased clock (deadline + duration) ≤ clock + duration := by
  unfold rebased
  split
  · exact Nat.le_add_right clock duration
  · exact Nat.add_le_add_right hdue duration

theorem moved_on {deadline base anchor position slip duration moved : Nat}
    (hdeadline : deadline + base = anchor + position + slip)
    (hmoved : deadline + duration ≤ moved) :
    moved + base =
      anchor + (position + duration) + (slip + (moved - (deadline + duration))) := by
  omega

/-- The deadline moves by the frame, and by what it is late beyond the slack. -/
theorem Conserves.account (hconserves : Conserves metered) {sample : Sample}
    (hat : metered.paced.playing.leg.pacingAt = .account sample) (input : PacingInput) :
    Conserves (metered.next nextSample (.playing (.pacing input))) := by
  obtain ⟨hholding, hdeadline, _⟩ := hconserves
  have hmoved := holding_next nextSample metered.paced (.playing (.pacing input)) hholding
  have hslip : metered.paced.slipOf (.playing (.pacing input)) =
      rebased metered.paced.clock (metered.paced.nextDeadline + sample.duration) -
        (metered.paced.nextDeadline + sample.duration) := by
    simp [slipOf, hat]
  have hnext : metered.next nextSample (.playing (.pacing input)) =
      { metered with
        paced := metered.paced.next nextSample (.playing (.pacing input))
        slip := metered.slip + metered.paced.slipOf (.playing (.pacing input)) } := by
    simp [next, begins, hat]
  cases hholding.stage with
  | settled hnot => exact absurd hat (hnot sample)
  | ended halive => simp [Leg.alive, hat] at halive
  | sending other before start hother hslots hpaid _ hdue =>
      obtain rfl : sample = other := by
        rw [hat] at hother
        exact PacingAt.account.inj hother
      have hposition : (metered.paced.next nextSample (.playing (.pacing input))).position =
          metered.paced.position + sample.duration := by
        simp only [Paced.next, pace, hat, position, hslots, hpaid]
        rw [List.take_of_length_le (by simp), List.take_left, total_append, total_singleton]
      have hframe : (metered.paced.next nextSample (.playing (.pacing input))).frame =
          sample.duration := by
        simp [Paced.next, pace, hat, Paced.frame, hslots]
      have hmove : (metered.paced.next nextSample (.playing (.pacing input))).nextDeadline =
          rebased metered.paced.clock (metered.paced.nextDeadline + sample.duration) := by
        simp [Paced.next, pace, hat]
      have hclock : (metered.paced.next nextSample (.playing (.pacing input))).clock =
          metered.paced.clock := by
        simp [Paced.next, pace, hat]
      rw [hnext]
      refine ⟨hmoved, fun hstarted => ?_, fun _ => ?_⟩
      · have hafter : started (metered.paced.playing.pacingLeg input) = true := by
          simpa [Paced.next, pace, hat, Playing.pacing] using hstarted
        have hbefore := hdeadline (started_of_pacingLeg input (by simp [hat]) hafter)
        simp only [hposition, hmove, hslip]
        exact moved_on hbefore (rebased_ge _ _)
      · simp only [hframe, hmove, hclock]
        exact le_rebased_lag hdue

theorem Conserves.pacing (hconserves : Conserves metered) (input : PacingInput) :
    Conserves (metered.next nextSample (.playing (.pacing input))) := by
  have hmoved := holding_next nextSample metered.paced (.playing (.pacing input))
    hconserves.holding
  cases hat : metered.paced.playing.leg.pacingAt with
  | released sample => exact begun_released nextSample hconserves.holding hat input
  | sendRtp sample => exact hconserves.sendRtp nextSample hat input
  | account sample => exact hconserves.account nextSample hat input
  | _ =>
      have hnext : metered.next nextSample (.playing (.pacing input)) =
          { metered with
            paced := metered.paced.next nextSample (.playing (.pacing input)) } := by
        simp [next, begins, slipOf, hat]
      rw [hnext]
      cases hearly : metered.paced.tooEarly input with
      | true =>
          have hsame : metered.paced.next nextSample (.playing (.pacing input)) =
              metered.paced := by
            simp [Paced.next, pace, hat, hearly]
          rw [hsame]
          exact hconserves
      | false =>
          have hstep : metered.paced.next nextSample (.playing (.pacing input)) =
              { metered.paced with playing := metered.paced.playing.pacing input } := by
            simp [Paced.next, pace, hat, hearly]
          rw [hstep] at hmoved ⊢
          exact hconserves.still hmoved (started_of_pacingLeg input (by simp [hat]))
            (asleep_of_pacingLeg input (by simp [hat]))

theorem conserves_next (metered : Metered Reader) (action : Paced.Action)
    (hconserves : Conserves metered) : Conserves (metered.next nextSample action) := by
  have hmoved := holding_next nextSample metered.paced action hconserves.holding
  have hplain (playing : Playing Reader)
      (hstep : metered.next nextSample action =
        { metered with paced := { metered.paced with playing } })
      (hholding : Holding { metered.paced with playing })
      (hplace : playing.leg.pacingAt = metered.paced.playing.leg.pacingAt)
      (hfirst : playing.leg.firstSample = metered.paced.playing.leg.firstSample) :
      Conserves (metered.next nextSample action) := by
    rw [hstep]
    refine hconserves.still hholding ?_ ?_
    · rw [started_congr hplace hfirst]
      exact id
    · simp only [asleep, hplace]
      exact id
  cases action with
  | elapse duration =>
      have hnext : metered.next nextSample (.elapse duration) =
          { metered with
            paced := { metered.paced with clock := metered.paced.clock + duration } } := rfl
      rw [hnext]
      refine ⟨hmoved, hconserves.deadline, fun hasleep => ?_⟩
      calc metered.paced.nextDeadline
          ≤ metered.paced.clock + metered.paced.frame := hconserves.ahead hasleep
        _ ≤ metered.paced.clock + duration + metered.paced.frame :=
          Nat.add_le_add_right (Nat.le_add_right _ _) _
  | playing action =>
      cases action with
      | pacing input => exact hconserves.pacing nextSample input
      | reader stalled =>
          have hsame := Leg.samePacing_readerStep nextSample metered.paced.playing.leg stalled
          exact hplain _ rfl hmoved hsame.pacingAt hsame.firstSample
      | report =>
          have hleg := leg_report metered.paced.playing
          exact hplain _ rfl hmoved (congrArg Leg.pacingAt hleg)
            (congrArg Leg.firstSample hleg)
      | release =>
          cases hat : metered.paced.playing.leg.pacingAt with
          | barrierWait sample =>
              refine hconserves.still hmoved ?_ ?_
              · simp [Playing.next, Leg.release, hat, started]
              · simp [Playing.next, Leg.release, hat, asleep]
          | _ =>
              have hsame : metered.paced.playing.leg.release = metered.paced.playing.leg := by
                simp only [Leg.release, hat]
              exact hplain _ rfl hmoved (congrArg Leg.pacingAt hsame)
                (congrArg Leg.firstSample hsame)
      | pause | resume | clearOnEnd | stopRunning => exact hplain _ rfl hmoved rfl rfl

end Steps

theorem conserves_new (reader : Reader) (syncBarrier onEnd : Bool) (clock : Instant) :
    Conserves (new reader syncBarrier onEnd clock) where
  holding := holding_new reader syncBarrier onEnd clock
  deadline := fun hstarted => by simp [new, Paced.new, Playing.new, Leg.new, started] at hstarted
  ahead := fun hasleep => by simp [new, Paced.new, Playing.new, Leg.new, asleep] at hasleep

/-- Started, and neither paused since nor ended. -/
def UnderWay (metered : Metered Reader) : Prop :=
  started metered.paced.playing.leg = true ∧ metered.paced.playing.leg.alive = true

instance : DecidablePred (@UnderWay Reader) := fun _ =>
  inferInstanceAs (Decidable (_ ∧ _))

/-- What the position of the task lags behind the clock by. -/
def heldUp (metered : Metered Reader) : Duration :=
  metered.anchor + metered.slip + metered.paced.behind

theorem spent_of {clock deadline base anchor position slip : Nat}
    (hdeadline : deadline + base = anchor + position + slip) :
    clock + (deadline - clock) + base = position + (anchor + slip + (clock - deadline)) := by
  omega

theorem Conserves.spent (hconserves : Conserves metered) (hway : UnderWay metered) :
    metered.paced.clock + metered.paced.ahead + metered.base =
      metered.paced.position + metered.heldUp :=
  spent_of (hconserves.deadline hway.1)

theorem Conserves.ahead_le (hconserves : Conserves metered) (hway : UnderWay metered) :
    metered.paced.ahead ≤ metered.paced.frame := by
  have hdue (hle : metered.paced.nextDeadline ≤ metered.paced.clock) :
      metered.paced.ahead ≤ metered.paced.frame := by
    rw [Paced.ahead, Nat.sub_eq_zero_of_le hle]
    exact Nat.zero_le _
  cases hasleep : asleep metered.paced.playing.leg with
  | true => exact Nat.sub_le_iff_le_add'.mpr (hconserves.ahead hasleep)
  | false =>
      cases hconserves.holding.stage with
      | settled _ _ _ hawake => exact hdue (hawake hasleep)
      | sending _ _ _ _ _ _ _ hle => exact hdue hle
      | ended hended =>
          have halive := hway.2
          rw [hended] at halive
          cases halive

end Metered

end RustTgCalls.Media

namespace RustTgCalls.Instances

open Media Transition

/-! Both legs of a source under one clock, with the barrier of their pacing tasks. -/

structure LipSync (Reader : Type) where
  legs : StreamType → Metered Reader

namespace LipSync

inductive Action where
  | elapse (duration : Duration)
  | leg (kind : StreamType) (action : Playing.Action)

variable {Reader : Type}

def new (readers : StreamType → Reader) (onEnd : Bool) (clock : Instant) : LipSync Reader where
  legs := fun kind => .new (readers kind) true onEnd clock

variable (nextSample : Reader → Except RustTgCallsError Sample × Reader)

def play (sync : LipSync Reader) (kind : StreamType) (action : Playing.Action) :
    LipSync Reader where
  legs := Function.update sync.legs kind ((sync.legs kind).next nextSample (.playing action))

/-- The barrier lets both legs go once both wait at it. -/
def meet (sync : LipSync Reader) : LipSync Reader :=
  if (sync.legs .audio).paced.playing.leg.waits &&
      (sync.legs .video).paced.playing.leg.waits then
    (sync.play nextSample .audio .release).play nextSample .video .release
  else sync

def next (sync : LipSync Reader) : Action → LipSync Reader
  | .elapse duration => ⟨fun kind => (sync.legs kind).next nextSample (.elapse duration)⟩
  | .leg kind (.pacing input) => (sync.play nextSample kind (.pacing input)).meet nextSample
  | .leg _ .release => sync
  | .leg kind action => sync.play nextSample kind action

/-- Both legs are under way from one start, and neither has ever been late. -/
structure Punctual (sync : LipSync Reader) : Prop where
  underWay : ∀ kind, (sync.legs kind).UnderWay
  punctual : ∀ kind, (sync.legs kind).slip = 0 ∧ (sync.legs kind).paced.behind = 0
  anchor : (sync.legs .audio).anchor = (sync.legs .video).anchor
  base : (sync.legs .audio).base = (sync.legs .video).base

/-- While both legs are under way, neither is ahead of the other by more than the frame
that it has passed on last and what else holds the other up: a later start, the
slack it has given up, and its present delay.  Without those the legs are a frame
apart at most, however long they play. -/
structure InStep (sync : LipSync Reader) : Prop where
  clock : (sync.legs .audio).paced.clock = (sync.legs .video).paced.clock
  spent : ∀ kind, (sync.legs kind).UnderWay →
    (sync.legs kind).paced.clock + (sync.legs kind).paced.ahead + (sync.legs kind).base =
      (sync.legs kind).paced.position + (sync.legs kind).heldUp
  drift : ∀ one other, (sync.legs one).UnderWay → (sync.legs other).UnderWay →
    (sync.legs one).paced.position + (sync.legs one).heldUp + (sync.legs other).base ≤
      (sync.legs other).paced.position + (sync.legs other).heldUp + (sync.legs one).base +
        (sync.legs one).paced.frame
  together : Punctual sync → ∀ one other, (sync.legs one).paced.position ≤
    (sync.legs other).paced.position + (sync.legs one).paced.frame

section Run

variable {nextSample} {sync : LipSync Reader}

structure Conserved (sync : LipSync Reader) : Prop where
  clock : (sync.legs .audio).paced.clock = (sync.legs .video).paced.clock
  legs : ∀ kind, (sync.legs kind).Conserves

theorem clock_metered (metered : Metered Reader) (action : Playing.Action) :
    (metered.next nextSample (.playing action)).paced.clock = metered.paced.clock := by
  have hclock : (metered.paced.next nextSample (.playing action)).clock =
      metered.paced.clock := by
    cases action with
    | pacing input =>
        simp only [Paced.next, Paced.pace]
        cases metered.paced.playing.leg.pacingAt with
        | released sample | sendRtp sample | account sample => rfl
        | _ => dsimp only; split <;> rfl
    | _ => rfl
  unfold Metered.next
  dsimp only
  split <;> exact hclock

theorem Conserved.play (hconserved : Conserved sync) (kind : StreamType)
    (action : Playing.Action) : Conserved (sync.play nextSample kind action) := by
  have hlegs (which : StreamType) :
      ((sync.play nextSample kind action).legs which).paced.clock =
        (sync.legs which).paced.clock := by
    by_cases hsame : which = kind
    · subst hsame
      simp [LipSync.play, clock_metered]
    · simp [LipSync.play, hsame]
  refine ⟨?_, fun which => ?_⟩
  · rw [hlegs, hlegs]
    exact hconserved.clock
  · by_cases hsame : which = kind
    · subst hsame
      simpa [LipSync.play] using
        Metered.conserves_next nextSample _ (.playing action) (hconserved.legs which)
    · simpa [LipSync.play, hsame] using hconserved.legs which

theorem conserved_next (sync : LipSync Reader) (action : Action)
    (hconserved : Conserved sync) : Conserved (sync.next nextSample action) := by
  cases action with
  | elapse duration =>
      refine ⟨?_, fun kind => ?_⟩
      · exact congrArg (· + duration) hconserved.clock
      · exact Metered.conserves_next nextSample _ (.elapse duration) (hconserved.legs kind)
  | leg kind action =>
      cases action with
      | pacing input =>
          have hplayed := @Conserved.play _ nextSample _ hconserved kind (.pacing input)
          simp only [next, meet]
          split
          · exact (hplayed.play .audio .release).play .video .release
          · exact hplayed
      | release => exact hconserved
      | _ => exact hconserved.play kind _

theorem drift_of {clock ahead base position held ahead' base' position' held' frame : Nat}
    (hspent : clock + ahead + base = position + held)
    (hspent' : clock + ahead' + base' = position' + held') (hahead : ahead ≤ frame) :
    position + held + base' ≤ position' + held' + base + frame := by
  omega

theorem Conserved.drift (hconserved : Conserved sync) {one other : StreamType}
    (hone : (sync.legs one).UnderWay) (hother : (sync.legs other).UnderWay) :
    (sync.legs one).paced.position + (sync.legs one).heldUp + (sync.legs other).base ≤
      (sync.legs other).paced.position + (sync.legs other).heldUp + (sync.legs one).base +
        (sync.legs one).paced.frame := by
  have hclock : (sync.legs one).paced.clock = (sync.legs other).paced.clock := by
    cases one <;> cases other <;> simp [hconserved.clock]
  have hspent := (hconserved.legs one).spent hone
  rw [hclock] at hspent
  exact drift_of hspent ((hconserved.legs other).spent hother)
    ((hconserved.legs one).ahead_le hone)

theorem Conserved.together (hconserved : Conserved sync) (hpunctual : Punctual sync)
    (one other : StreamType) :
    (sync.legs one).paced.position ≤
      (sync.legs other).paced.position + (sync.legs one).paced.frame := by
  obtain ⟨hway, hlate, hanchor, hbase⟩ := hpunctual
  have hdrift := hconserved.drift (hway one) (hway other)
  have hheld : (sync.legs one).heldUp = (sync.legs other).heldUp := by
    cases one <;> cases other <;> simp [Metered.heldUp, hlate, hanchor]
  have hsame : (sync.legs one).base = (sync.legs other).base := by
    cases one <;> cases other <;> simp [hbase]
  rw [hheld, hsame, Nat.add_right_comm _ _ (sync.legs one).paced.frame] at hdrift
  rw [Nat.add_right_comm _ (sync.legs other).heldUp (sync.legs one).paced.frame] at hdrift
  exact Nat.le_of_add_le_add_right (Nat.le_of_add_le_add_right hdrift)

theorem Conserved.inStep (hconserved : Conserved sync) : InStep sync where
  clock := hconserved.clock
  spent := fun kind hway => (hconserved.legs kind).spent hway
  drift := fun _ _ hone hother => hconserved.drift hone hother
  together := hconserved.together

/-- However the tasks, the owner's calls and the clock interleave. -/
theorem inStep_always (nextSample : Reader → Except RustTgCallsError Sample × Reader)
    (readers : StreamType → Reader) (onEnd : Bool) (clock : Instant) (actions : List Action) :
    Always (next nextSample) InStep (new readers onEnd clock) actions := by
  have hall : Along (next nextSample) (fun _ _ => True) (new readers onEnd clock) actions :=
    along_true
  have hstart : Conserved (new readers onEnd clock) :=
    ⟨rfl, fun kind => Metered.conserves_new (readers kind) true onEnd clock⟩
  have halways := hall.always (fun now action hnow _ => conserved_next now action hnow) hstart
  exact halways.mono fun now hnow => hnow.inStep

/-- Both legs have read a frame, met at the barrier and passed it on, the video leg
5 ms later. -/
def firstFrames : LipSync Nat :=
  let leg (kind : StreamType) (count : Nat) (action : Playing.Action) : List Action :=
    List.replicate count (.leg kind action)
  after (next Paced.frameReader) (new (fun _ => 2) true 0) <|
    leg .audio 12 (.reader false) ++ leg .video 12 (.reader false) ++
      leg .audio 6 (.pacing .proceed) ++ leg .video 6 (.pacing .proceed) ++
      leg .audio 3 (.pacing .proceed) ++ [.elapse (Duration.fromMillis 5)] ++
      leg .video 3 (.pacing .proceed)

example :
    (firstFrames.legs .audio).UnderWay ∧ (firstFrames.legs .video).UnderWay ∧
      (firstFrames.legs .audio).heldUp + Duration.fromMillis 5 =
        (firstFrames.legs .video).heldUp := by
  decide +kernel

end Run

end LipSync

end RustTgCalls.Instances
