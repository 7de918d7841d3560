import RustTgCalls.Library.Deadline
import RustTgCalls.Media.Playing
import Mathlib

namespace RustTgCalls.Media

open Deadline Transition

/-! The pacing task under a clock: when frames are sent, and the deadline that
holds the next one back. -/

/-- `slots` lists when each frame was passed to `send_rtp_bytes`, with its
duration, and `paid` counts those whose duration the deadline has moved by. -/
structure Paced (Reader : Type) where
  playing : Playing Reader
  clock : Instant
  nextDeadline : Instant
  slots : List (Slot Instant)
  paid : Nat

namespace Paced

variable {Reader : Type}

def new (reader : Reader) (syncBarrier onEnd : Bool) (clock : Instant) :
    Paced Reader where
  playing := .new reader syncBarrier onEnd
  clock
  nextDeadline := clock
  slots := []
  paid := 0

inductive Action where
  | elapse (duration : Duration)
  | playing (action : Playing.Action)

def slack : Duration := Duration.fromMillis 100

def late (clock deadline : Instant) : Bool :=
  decide (deadline ≤ clock) && decide (slack < clock - deadline)

/-- The deadline behind a frame, as `sleep_fut` leaves it. -/
def rebased (clock deadline : Instant) : Instant :=
  if late clock deadline then clock else deadline

/-- A sleep ends no earlier than its deadline. -/
def tooEarly (paced : Paced Reader) (input : PacingInput) : Bool :=
  match paced.playing.leg.pacingAt, input with
  | .join false _, .slept => decide (paced.clock < paced.nextDeadline)
  | _, _ => false

def pace (paced : Paced Reader) (input : PacingInput) : Paced Reader :=
  let stepped := { paced with playing := paced.playing.pacing input }
  match paced.playing.leg.pacingAt with
  | .released _ => { stepped with nextDeadline := paced.clock }
  | .sendRtp sample =>
      { stepped with slots := paced.slots ++ [⟨paced.clock, sample.duration⟩] }
  | .account sample =>
      { stepped with
        nextDeadline := rebased paced.clock (paced.nextDeadline + sample.duration)
        paid := paced.paid + 1 }
  | _ => if paced.tooEarly input then paced else stepped

def next (nextSample : Reader → Except RustTgCallsError Sample × Reader)
    (paced : Paced Reader) : Action → Paced Reader
  | .elapse duration => { paced with clock := paced.clock + duration }
  | .playing (.pacing input) => paced.pace input
  | .playing action =>
      { paced with playing := paced.playing.next nextSample action }

/-! Every frame waits for the deadline, and the deadline covers what was sent. -/

/-- The task sleeps, or has yet to find out whether it has to. -/
def asleep (leg : Leg Reader) : Bool :=
  match leg.pacingAt with
  | .join false _ => true
  | _ => false

inductive Stage (paced : Paced Reader) : Prop
  | settled
      (hplace : ∀ sample, paced.playing.leg.pacingAt ≠ .account sample)
      (hpaid : paced.paid = paced.slots.length)
      (hcovers : Covers slack paced.nextDeadline paced.slots)
      (hdue : asleep paced.playing.leg = false →
        paced.nextDeadline ≤ paced.clock)
  | sending (sample : Sample) (before : List (Slot Instant)) (start : Instant)
      (hplace : paced.playing.leg.pacingAt = .account sample)
      (hslots : paced.slots = before ++ [⟨start, sample.duration⟩])
      (hpaid : paced.paid = before.length)
      (hcovers : Covers slack paced.nextDeadline before)
      (hdue : paced.nextDeadline ≤ paced.clock)
      (hstart : start ≤ paced.clock)
  | ended (hplace : paced.playing.leg.alive = false)

/-- A frame that is passed on is no longer the first. -/
def Begun (leg : Leg Reader) : Prop :=
  match leg.pacingAt with
  | .sendRtp _ | .account _ => leg.firstSample = false
  | _ => True

structure Holding (paced : Paced Reader) : Prop where
  unmuted : paced.playing.leg.muted = false
  begun : Begun paced.playing.leg
  spaced : Spaced slack paced.slots
  durations : paced.slots.map Slot.length = paced.playing.sent.map Sample.duration
  stage : Stage paced

/-- A place from which the task neither passes a frame on nor accounts for
one. -/
def idle (leg : Leg Reader) : Bool :=
  match leg.pacingAt with
  | .released _ | .sendRtp _ | .account _ => false
  | _ => true

theorem pacingLeg_ne_account {playing : Playing Reader} {input : PacingInput}
    (hidle : idle playing.leg = true) (sample : Sample) :
    (playing.pacingLeg input).pacingAt ≠ .account sample := by
  unfold Playing.pacingLeg Leg.pacingStep
  cases hat : playing.leg.pacingAt with
  | firstRecv => dsimp only; split <;> simp [hat]
  | take => dsimp only; split <;> simp
  | ifFirst other =>
      dsimp only
      split
      · cases playing.syncBarrier <;> simp
      · simp
  | whileRunning | whilePaused | pausedRunning | ifRunning =>
      dsimp only
      split <;> simp
  | join slept received =>
      rcases (Leg.atJoin_joinStep playing.leg slept received input hat).pacingAt with
        hnew | ⟨slept', received', hnew⟩ <;> simp [hnew]
  | released other | sendRtp other | account other => simp [idle, hat] at hidle
  | _ => simp [hat]

theorem asleep_joinStep {leg : Leg Reader} {received : Bool}
    {input : PacingInput} (hat : leg.pacingAt = .join false received)
    (hinput : input ≠ .slept) :
    asleep (leg.joinStep false received input) = true := by
  unfold Leg.joinStep
  split
  · exact absurd rfl hinput
  · simp [asleep, hat]
  · split
    · rfl
    · simp [asleep, hat]

/-- Only the end of its sleep wakes the task. -/
theorem awake_pacingLeg {playing : Playing Reader} {input : PacingInput}
    (hasleep : asleep playing.leg = true)
    (hawake : asleep (playing.pacingLeg input) = false) : input = .slept := by
  by_contra hinput
  cases hat : playing.leg.pacingAt with
  | join slept received =>
      cases slept with
      | true => simp [asleep, hat] at hasleep
      | false =>
          have hstep : playing.pacingLeg input =
              playing.leg.joinStep false received input := by
            simp [Playing.pacingLeg, Leg.pacingStep, hat]
          rw [hstep, asleep_joinStep hat hinput] at hawake
          cases hawake
  | _ => simp [asleep, hat] at hasleep

theorem muted_pacing (playing : Playing Reader) (input : PacingInput) :
    (playing.pacing input).leg.muted = playing.leg.muted :=
  (Playing.sameReader_pacingLeg playing input).muted

theorem muted_readerStep
    (nextSample : Reader → Except RustTgCallsError Sample × Reader)
    (leg : Leg Reader) (stalled : Bool) :
    (leg.readerStep nextSample stalled).muted = leg.muted := by
  unfold Leg.readerStep
  split
  case h_6 => split <;> rfl
  case h_7 =>
    unfold Leg.send
    split
    · rfl
    · split <;> rfl
  all_goals rfl

theorem leg_report (playing : Playing Reader) :
    playing.report.leg = playing.leg := by
  unfold Playing.report
  split <;> rfl

theorem begun_pacingLeg {playing : Playing Reader}
    (hbegun : Begun playing.leg) (input : PacingInput) :
    Begun (playing.pacingLeg input) := by
  unfold Playing.pacingLeg Leg.pacingStep
  cases hat : playing.leg.pacingAt with
  | firstRecv => dsimp only; split <;> simp [Begun, hat]
  | take => dsimp only; split <;> simp [Begun]
  | ifFirst sample =>
      dsimp only
      split
      next => cases playing.syncBarrier <;> simp [Begun]
      next hfirst => simpa [Begun] using hfirst
  | released sample => rfl
  | sendRtp sample =>
      simp only [Begun, hat] at hbegun
      dsimp only
      split <;> simp [Begun, hbegun]
  | whileRunning | whilePaused | pausedRunning | ifRunning =>
      dsimp only
      split <;> simp [Begun]
  | join slept received =>
      obtain ⟨hnew | ⟨slept', received', hnew⟩, _, _⟩ :=
        Leg.atJoin_joinStep playing.leg slept received input hat <;>
          simp [Begun, hnew]
  | barrierWait _ | notified | account _ | finish | ended => simp [Begun, hat]

theorem sent_pacing {playing : Playing Reader} {input : PacingInput}
    (hplace : ∀ sample, playing.leg.pacingAt ≠ .sendRtp sample) :
    (playing.pacing input).sent = playing.sent := by
  have hpassing : Playing.passing playing.leg = none := by
    unfold Playing.passing
    split
    next sample hat => exact absurd hat (hplace sample)
    next => rfl
  simp [Playing.pacing, hpassing]

/-! One step of the pacing task. -/

theorem rebased_ge (clock deadline : Instant) :
    deadline ≤ rebased clock deadline := by
  unfold rebased
  split
  · rename_i hlate
    simp only [late, Bool.and_eq_true, decide_eq_true_eq] at hlate
    exact hlate.1
  · exact Nat.le_refl _

theorem rebased_lag (clock deadline : Instant) :
    clock ≤ rebased clock deadline + slack := by
  unfold rebased
  split
  · exact Nat.le_add_right _ _
  · rename_i hlate
    simp only [late, Bool.and_eq_true, decide_eq_true_eq, not_and, not_lt] at hlate
    rcases Nat.le_total deadline clock with hdue | hahead
    · exact Nat.sub_le_iff_le_add'.mp (hlate hdue)
    · exact Nat.le_trans hahead (Nat.le_add_right _ _)

theorem ended_pacingLeg {playing : Playing Reader}
    (halive : playing.leg.alive = false) (input : PacingInput) :
    (playing.pacingLeg input).alive = false := by
  cases hat : playing.leg.pacingAt with
  | finish | ended =>
      simp [Playing.pacingLeg, Leg.pacingStep, hat, Leg.alive]
  | _ => simp [Leg.alive, hat] at halive

variable {paced : Paced Reader}

/-- Of a step that passes no frame on, only the stage is left to be shown. -/
theorem Holding.of_stage (hholding : Holding paced)
    (hplace : ∀ sample, paced.playing.leg.pacingAt ≠ .sendRtp sample)
    (input : PacingInput) {nextDeadline : Instant} {paid : Nat}
    (hstage : Stage
      { paced with playing := paced.playing.pacing input, nextDeadline, paid }) :
    Holding { paced with playing := paced.playing.pacing input, nextDeadline, paid } := by
  obtain ⟨hunmuted, hbegun, hspaced, hdurations, _⟩ := hholding
  have hsent := @sent_pacing _ paced.playing input hplace
  refine ⟨(muted_pacing _ _).trans hunmuted, begun_pacingLeg hbegun input, hspaced, ?_, hstage⟩
  rw [hsent]
  exact hdurations

theorem Holding.idle_step (hholding : Holding paced) {input : PacingInput}
    (hidle : idle paced.playing.leg = true)
    (hearly : paced.tooEarly input = false) :
    Holding { paced with playing := paced.playing.pacing input } := by
  have hplace (sample : Sample) : paced.playing.leg.pacingAt ≠ .sendRtp sample := by
    intro hat
    simp [idle, hat] at hidle
  apply hholding.of_stage hplace input
  cases hholding.stage with
  | settled _ hpaid hcovers hdue =>
      refine .settled (pacingLeg_ne_account hidle) hpaid hcovers ?_
      intro hawake
      cases hasleep : asleep paced.playing.leg with
      | false => exact hdue hasleep
      | true =>
          obtain rfl := awake_pacingLeg hasleep hawake
          cases hat : paced.playing.leg.pacingAt with
          | join slept received =>
              cases slept with
              | true => simp [asleep, hat] at hasleep
              | false => simpa [tooEarly, hat] using hearly
          | _ => simp [asleep, hat] at hasleep
  | sending sample _ _ hat => simp [idle, hat] at hidle
  | ended halive => exact .ended (ended_pacingLeg halive input)

/-- The clock moves on while the task does what it does. -/
theorem Holding.elapse (hholding : Holding paced) (duration : Duration) :
    Holding { paced with clock := paced.clock + duration } := by
  obtain ⟨hunmuted, hbegun, hspaced, hdurations, hstage⟩ := hholding
  refine ⟨hunmuted, hbegun, hspaced, hdurations, ?_⟩
  cases hstage with
  | settled hplace hpaid hcovers hdue =>
      exact .settled hplace hpaid hcovers fun hawake =>
        Nat.le_add_right_of_le (hdue hawake)
  | sending sample before start hplace hslots hpaid hcovers hdue hstart =>
      exact .sending sample before start hplace hslots hpaid hcovers
        (Nat.le_add_right_of_le hdue) (Nat.le_add_right_of_le hstart)
  | ended halive => exact .ended halive

/-- What the other task and the owner do leaves the pacing task where it is, or
lets it through the barrier. -/
theorem Holding.congr (hholding : Holding paced) {playing : Playing Reader}
    (hmuted : playing.leg.muted = paced.playing.leg.muted)
    (hfirst : playing.leg.firstSample = paced.playing.leg.firstSample)
    (hsent : playing.sent = paced.playing.sent)
    (hplace : playing.leg.pacingAt = paced.playing.leg.pacingAt ∨
      ∃ sample, paced.playing.leg.pacingAt = .barrierWait sample ∧
        playing.leg.pacingAt = .released sample) :
    Holding { paced with playing } := by
  obtain ⟨hunmuted, hbegun, hspaced, hdurations, hstage⟩ := hholding
  have hstill : Begun playing.leg := by
    rcases hplace with hsame | ⟨sample, _, hreleased⟩
    · simpa only [Begun, hsame, hfirst] using hbegun
    · simp [Begun, hreleased]
  refine ⟨hmuted.trans hunmuted, hstill, hspaced,
    hdurations.trans (by rw [hsent]), ?_⟩
  rcases hplace with hsame | ⟨sample, hwaits, hreleased⟩
  · have hasleep : asleep playing.leg = asleep paced.playing.leg := by
      simp only [asleep, hsame]
    have halive : playing.leg.alive = paced.playing.leg.alive := by
      simp only [Leg.alive, hsame]
    cases hstage with
    | settled hplace hpaid hcovers hdue =>
        refine .settled (hsame ▸ hplace) hpaid hcovers ?_
        exact fun hawake => hdue (hasleep ▸ hawake)
    | sending sample before start hplace hslots hpaid hcovers hdue hstart =>
        exact .sending sample before start (hsame.trans hplace) hslots hpaid
          hcovers hdue hstart
    | ended hended => exact .ended (halive.trans hended)
  · cases hstage with
    | settled _ hpaid hcovers hdue =>
        refine .settled (by simp [hreleased]) hpaid hcovers ?_
        exact fun _ => hdue (by simp [asleep, hwaits])
    | sending other _ _ hplace => simp [hwaits] at hplace
    | ended halive => simp [Leg.alive, hwaits] at halive

theorem Holding.released (hholding : Holding paced) {sample : Sample}
    (hat : paced.playing.leg.pacingAt = .released sample)
    (input : PacingInput) : Holding (paced.pace input) := by
  have hpace : paced.pace input =
      { paced with
        playing := paced.playing.pacing input
        nextDeadline := paced.clock } := by
    simp [pace, hat]
  have hplace : (paced.playing.pacing input).leg.pacingAt = .sendRtp sample := by
    simp [Playing.pacing, Playing.pacingLeg, Leg.pacingStep, hat]
  rw [hpace]
  apply hholding.of_stage (by simp [hat]) input
  cases hholding.stage with
  | settled _ hpaid hcovers hdue =>
      have hdue := hdue (by simp [asleep, hat])
      exact .settled (by simp [hplace]) hpaid (hcovers.mono hdue) fun _ =>
        Nat.le_refl _
  | sending other _ _ hplace => simp [hat] at hplace
  | ended halive => simp [Leg.alive, hat] at halive

/-- A frame passed on, by a send that succeeds or fails. -/
theorem Holding.sendRtp (hholding : Holding paced) {sample : Sample}
    (hat : paced.playing.leg.pacingAt = .sendRtp sample)
    (input : PacingInput) : Holding (paced.pace input) := by
  obtain ⟨hunmuted, hbegun, hspaced, hdurations, hstage⟩ := hholding
  have hpace : paced.pace input =
      { paced with
        playing := paced.playing.pacing input
        slots := paced.slots ++ [⟨paced.clock, sample.duration⟩] } := by
    simp [pace, hat]
  have hsent : (paced.playing.pacing input).sent =
      paced.playing.sent ++ [sample] := by
    simp [Playing.pacing, Playing.passing, hat, hunmuted]
  cases hstage with
  | settled _ hpaid hcovers hdue =>
      have hdue := hdue (by simp [asleep, hat])
      rw [hpace]
      refine ⟨(muted_pacing _ _).trans hunmuted, begun_pacingLeg hbegun input,
        hspaced.push hcovers hdue, ?_, ?_⟩
      · simp [hsent, hdurations]
      · cases input with
        | sendFails error =>
            apply Stage.ended
            simp [Playing.pacing, Playing.pacingLeg, Leg.pacingStep, hat,
              hunmuted, Leg.alive]
        | proceed | slept =>
            refine .sending sample paced.slots paced.clock ?_ rfl hpaid hcovers
              hdue (Nat.le_refl _)
            simp [Playing.pacing, Playing.pacingLeg, Leg.pacingStep, hat]
  | sending other _ _ hplace => simp [hat] at hplace
  | ended halive => simp [Leg.alive, hat] at halive

theorem Holding.account (hholding : Holding paced) {sample : Sample}
    (hat : paced.playing.leg.pacingAt = .account sample)
    (input : PacingInput) : Holding (paced.pace input) := by
  have hpace : paced.pace input =
      { paced with
        playing := paced.playing.pacing input
        nextDeadline :=
          rebased paced.clock (paced.nextDeadline + sample.duration)
        paid := paced.paid + 1 } := by
    simp [pace, hat]
  have hplace : (paced.playing.pacing input).leg.pacingAt = .join false false := by
    simp [Playing.pacing, Playing.pacingLeg, Leg.pacingStep, hat]
  rw [hpace]
  apply hholding.of_stage (by simp [hat]) input
  cases hholding.stage with
  | settled hnot => exact absurd hat (hnot sample)
  | sending other before start hother hslots hpaid hcovers _ hstart =>
      obtain rfl : sample = other := by
        rw [hat] at hother
        exact PacingAt.account.inj hother
      refine .settled (by simp [hplace]) (by simp [hslots, hpaid]) ?_
        (by simp [asleep, hplace])
      rw [hslots]
      exact hcovers.push (rebased_ge _ _)
        (Nat.le_trans hstart (rebased_lag _ _))
  | ended halive => simp [Leg.alive, hat] at halive

theorem holding_pace (hholding : Holding paced) (input : PacingInput) :
    Holding (paced.pace input) := by
  cases hat : paced.playing.leg.pacingAt with
  | released sample => exact hholding.released hat input
  | sendRtp sample => exact hholding.sendRtp hat input
  | account sample => exact hholding.account hat input
  | _ =>
      cases hearly : paced.tooEarly input with
      | true => simpa [pace, hat, hearly] using hholding
      | false =>
          have hstep := hholding.idle_step (by simp [idle, hat]) hearly
          simpa [pace, hat, hearly] using hstep

theorem holding_next
    (nextSample : Reader → Except RustTgCallsError Sample × Reader)
    (paced : Paced Reader) (action : Action) (hholding : Holding paced) :
    Holding (paced.next nextSample action) := by
  cases action with
  | elapse duration => exact hholding.elapse duration
  | playing action =>
      cases action with
      | pacing input => exact holding_pace hholding input
      | reader stalled =>
          have hsame := Leg.samePacing_readerStep nextSample paced.playing.leg stalled
          exact hholding.congr (muted_readerStep nextSample _ stalled)
            hsame.firstSample rfl (.inl hsame.pacingAt)
      | release =>
          cases hat : paced.playing.leg.pacingAt with
          | barrierWait sample =>
              refine hholding.congr ?_ ?_ rfl (.inr ⟨sample, hat, ?_⟩) <;>
                simp [Playing.next, Leg.release, hat]
          | _ =>
              refine hholding.congr ?_ ?_ rfl (.inl ?_) <;>
                simp [Playing.next, Leg.release, hat]
      | report =>
          have hleg := leg_report paced.playing
          have hsent : paced.playing.report.sent = paced.playing.sent := by
            unfold Playing.report
            split <;> rfl
          exact hholding.congr (congrArg Leg.muted hleg)
            (congrArg Leg.firstSample hleg) hsent
            (.inl (congrArg Leg.pacingAt hleg))
      | pause | resume | clearOnEnd | stopRunning =>
          exact hholding.congr rfl rfl rfl (.inl rfl)

theorem holding_new (reader : Reader) (syncBarrier onEnd : Bool)
    (clock : Instant) : Holding (new reader syncBarrier onEnd clock) where
  unmuted := rfl
  begun := trivial
  spaced := spaced_nil
  durations := rfl
  stage := .settled (by simp [new, Playing.new, Leg.new]) rfl covers_nil
    fun _ => Nat.le_refl _

/-! Between two resets the deadline moves by the durations sent and nothing
else. -/

/-- The deadline falls too far behind the clock and is moved to it. -/
def fallsBehind (paced : Paced Reader) : Action → Bool
  | .playing (.pacing _) =>
      match paced.playing.leg.pacingAt with
      | .account sample =>
          late paced.clock (paced.nextDeadline + sample.duration)
      | _ => false
  | _ => false

/-- The task has found itself paused. -/
def noticesPause (paced : Paced Reader) : Action → Bool
  | .playing (.pacing _) =>
      match paced.playing.leg.pacingAt with
      | .notified => true
      | _ => false
  | _ => false

/-- The deadline of a first sample is the present. -/
def begins (paced : Paced Reader) : Action → Bool
  | .playing (.pacing _) =>
      match paced.playing.leg.pacingAt with
      | .released _ => true
      | _ => false
  | _ => false

def Unbroken (paced : Paced Reader) (action : Action) : Prop :=
  paced.noticesPause action = false ∧ paced.fallsBehind action = false

instance (paced : Paced Reader) : DecidablePred (Unbroken paced) := fun _ =>
  inferInstanceAs (Decidable (_ ∧ _))

/-- The next frame will be sent without another start. -/
def started (leg : Leg Reader) : Bool :=
  match leg.pacingAt with
  | .barrierWait _ | .released _ => false
  | _ => !leg.firstSample

theorem started_congr {old new : Leg Reader}
    (hplace : new.pacingAt = old.pacingAt)
    (hfirst : new.firstSample = old.firstSample) : started new = started old := by
  simp only [started, hplace, hfirst]

theorem started_pacingLeg {playing : Playing Reader} (input : PacingInput)
    (hstarted : started playing.leg = true)
    (hpause : playing.leg.pacingAt ≠ .notified) :
    started (playing.pacingLeg input) = true := by
  have hfirst : playing.leg.firstSample = false := by
    unfold started at hstarted
    split at hstarted
    · cases hstarted
    · cases hstarted
    · simpa using hstarted
  unfold Playing.pacingLeg Leg.pacingStep
  cases hat : playing.leg.pacingAt with
  | notified => exact absurd hat hpause
  | barrierWait sample | released sample => simp [started, hat] at hstarted
  | firstRecv =>
      dsimp only
      split
      next hrecv => simp [started, (Leg.recv_some hrecv).2.1, hfirst]
      next => exact hstarted
  | take => dsimp only; split <;> simp [started, hfirst]
  | ifFirst sample => simp [started, hfirst]
  | sendRtp sample => dsimp only; split <;> simp [started, hfirst]
  | whileRunning | whilePaused | pausedRunning | ifRunning =>
      dsimp only
      split <;> simp [started, hfirst]
  | join slept received =>
      obtain ⟨hnew | ⟨slept', received', hnew⟩, hsame, _⟩ :=
        Leg.atJoin_joinStep playing.leg slept received input hat <;>
          simp [started, hnew, hsame, hfirst]
  | account sample | finish => simp [started, hfirst]
  | ended => exact hstarted

/-- The frames sent since a start, and the deadline they have led to. -/
structure Steady (start : Instant) (since : Nat) (paced : Paced Reader) :
    Prop where
  started : started paced.playing.leg = true
  counted : since ≤ paced.paid
  deadline : paced.nextDeadline =
    start + total ((paced.slots.take paced.paid).drop since)

variable {start : Instant} {since : Nat}

theorem Steady.congr (hsteady : Steady start since paced)
    {playing : Playing Reader} (hstarted : Paced.started playing.leg = true) :
    Steady start since { paced with playing } :=
  ⟨hstarted, hsteady.counted, hsteady.deadline⟩

theorem Steady.sendRtp (hsteady : Steady start since paced)
    (hholding : Holding paced) {sample : Sample}
    (hat : paced.playing.leg.pacingAt = .sendRtp sample)
    {playing : Playing Reader} (hstarted : Paced.started playing.leg = true) :
    Steady start since
      { paced with
        playing
        slots := paced.slots ++ [⟨paced.clock, sample.duration⟩] } := by
  refine ⟨hstarted, hsteady.counted, ?_⟩
  cases hholding.stage with
  | settled _ hpaid =>
      rw [List.take_append_of_le_length (Nat.le_of_eq hpaid)]
      exact hsteady.deadline
  | sending other _ _ hplace => simp [hat] at hplace
  | ended halive => simp [Leg.alive, hat] at halive

theorem Steady.account (hsteady : Steady start since paced)
    (hholding : Holding paced) {sample : Sample}
    (hat : paced.playing.leg.pacingAt = .account sample)
    (hontime : late paced.clock (paced.nextDeadline + sample.duration) = false)
    {playing : Playing Reader} (hstarted : Paced.started playing.leg = true) :
    Steady start since
      { paced with
        playing
        nextDeadline :=
          rebased paced.clock (paced.nextDeadline + sample.duration)
        paid := paced.paid + 1 } := by
  refine ⟨hstarted, Nat.le_succ_of_le hsteady.counted, ?_⟩
  cases hholding.stage with
  | settled hnot => exact absurd hat (hnot sample)
  | sending other before begun hother hslots hpaid =>
      obtain rfl : sample = other := by
        rw [hat] at hother
        exact PacingAt.account.inj hother
      have hsince : since ≤ before.length := hpaid ▸ hsteady.counted
      have hdeadline := hsteady.deadline
      rw [hslots, hpaid, List.take_left] at hdeadline
      have hall : (paced.slots.take (paced.paid + 1)).drop since =
          before.drop since ++ [⟨begun, sample.duration⟩] := by
        rw [hslots, hpaid, List.take_of_length_le (by simp),
          List.drop_append_of_le_length hsince]
      calc rebased paced.clock (paced.nextDeadline + sample.duration)
          = paced.nextDeadline + sample.duration := by simp [rebased, hontime]
        _ = start + total (before.drop since) + sample.duration := by
            rw [hdeadline]
        _ = start + total ((paced.slots.take (paced.paid + 1)).drop since) := by
            rw [hall, total_append, total_singleton]
            exact Nat.add_assoc _ _ _
  | ended halive => simp [Leg.alive, hat] at halive

theorem steady_next
    (nextSample : Reader → Except RustTgCallsError Sample × Reader)
    (paced : Paced Reader) (action : Action) (hsteady : Steady start since paced)
    (hholding : Holding paced) (hunbroken : Unbroken paced action) :
    Steady start since (paced.next nextSample action) := by
  cases action with
  | elapse duration =>
      exact ⟨hsteady.started, hsteady.counted, hsteady.deadline⟩
  | playing action =>
      cases action with
      | pacing input =>
          obtain ⟨hpause, hontime⟩ := hunbroken
          have hstarted : started (paced.playing.pacing input).leg = true := by
            apply started_pacingLeg input hsteady.started
            intro hat
            simp [noticesPause, hat] at hpause
          change Steady start since (paced.pace input)
          cases hat : paced.playing.leg.pacingAt with
          | released sample =>
              have hbegun := hsteady.started
              simp [started, hat] at hbegun
          | sendRtp sample =>
              simpa [pace, hat] using hsteady.sendRtp hholding hat hstarted
          | account sample =>
              simp only [fallsBehind, hat] at hontime
              simpa [pace, hat] using
                hsteady.account hholding hat hontime hstarted
          | _ =>
              cases hearly : paced.tooEarly input with
              | true => simpa [pace, hat, hearly] using hsteady
              | false => simpa [pace, hat, hearly] using hsteady.congr hstarted
      | reader stalled =>
          have hsame := Leg.samePacing_readerStep nextSample paced.playing.leg stalled
          exact hsteady.congr
            ((started_congr hsame.pacingAt hsame.firstSample).trans hsteady.started)
      | release =>
          apply hsteady.congr
          have hbegun := hsteady.started
          cases hat : paced.playing.leg.pacingAt with
          | barrierWait sample => simp [started, hat] at hbegun
          | _ => simpa [Playing.next, Leg.release, hat] using hbegun
      | report =>
          apply hsteady.congr
          exact (congrArg started (leg_report _)).trans hsteady.started
      | pause | resume | clearOnEnd | stopRunning =>
          apply hsteady.congr
          exact (started_congr rfl rfl).trans hsteady.started

theorem steady_begins
    (nextSample : Reader → Except RustTgCallsError Sample × Reader)
    {action : Action} (hbegins : paced.begins action = true) :
    Steady paced.clock (paced.next nextSample action).paid
      (paced.next nextSample action) := by
  cases action with
  | elapse duration => cases hbegins
  | playing action =>
      cases action with
      | pacing input =>
          cases hat : paced.playing.leg.pacingAt with
          | released sample =>
              have hnext : paced.next nextSample (.playing (.pacing input)) =
                  { paced with
                    playing := paced.playing.pacing input
                    nextDeadline := paced.clock } := by
                simp [next, pace, hat]
              rw [hnext]
              refine ⟨?_, Nat.le_refl _, ?_⟩
              · simp [Playing.pacing, Playing.pacingLeg, Leg.pacingStep, hat,
                  started]
              · simp [List.drop_eq_nil_of_le]
          | _ => simp [begins, hat] at hbegins
      | _ => cases hbegins

theorem steady_fallsBehind
    (nextSample : Reader → Except RustTgCallsError Sample × Reader)
    {action : Action} (hholding : Holding paced)
    (hbehind : paced.fallsBehind action = true) :
    Steady paced.clock (paced.next nextSample action).paid
      (paced.next nextSample action) := by
  cases action with
  | elapse duration => cases hbehind
  | playing action =>
      cases action with
      | pacing input =>
          cases hat : paced.playing.leg.pacingAt with
          | account sample =>
              simp only [fallsBehind, hat] at hbehind
              have hbegun := hholding.begun
              simp only [Begun, hat] at hbegun
              have hnext : paced.next nextSample (.playing (.pacing input)) =
                  { paced with
                    playing := paced.playing.pacing input
                    nextDeadline := paced.clock
                    paid := paced.paid + 1 } := by
                simp [next, pace, hat, rebased, hbehind]
              rw [hnext]
              refine ⟨?_, Nat.le_refl _, ?_⟩
              · simp [Playing.pacing, Playing.pacingLeg, Leg.pacingStep, hat,
                  started, hbegun]
              · simp [List.drop_eq_nil_of_le]
          | _ => simp [fallsBehind, hat] at hbehind
      | _ => cases hbehind

/-- The step with which a stretch starts. -/
def restarts (paced : Paced Reader) (action : Action) : Bool :=
  paced.begins action || paced.fallsBehind action

/-- Frames are sent no closer than their durations but for the slack, and behind
a start the deadline is the start and the exact sum of the durations, as long as
no pause and no lateness resets it. -/
theorem pacing_bound
    (nextSample : Reader → Except RustTgCallsError Sample × Reader)
    (reader : Reader) (syncBarrier onEnd : Bool) (clock : Instant)
    (actions : List Action) :
    let run := after (next nextSample) (new reader syncBarrier onEnd clock)
    (run actions).slots.map Slot.length =
        (run actions).playing.sent.map Sample.duration ∧
      Spaced slack (run actions).slots ∧
      ∀ first action stretch, actions = first ++ action :: stretch →
        (run first).restarts action = true →
        Along (next nextSample) Unbroken (run (first ++ [action])) stretch →
        (run actions).nextDeadline = (run first).clock +
          total (((run actions).slots.take (run actions).paid).drop
            (run (first ++ [action])).paid) := by
  intro run
  have hholding (actions : List Action) : Holding (run actions) := by
    have hall : Along (next nextSample) (fun _ _ => True)
        (new reader syncBarrier onEnd clock) actions := along_true
    exact hall.invariant
      (fun state action hstate _ => holding_next nextSample state action hstate)
      (holding_new reader syncBarrier onEnd clock)
  refine ⟨(hholding actions).durations, (hholding actions).spaced, ?_⟩
  rintro first action stretch rfl hrestarts hunbroken
  have hstep : run (first ++ [action]) = (run first).next nextSample action := by
    simp [run]
  have hstarted : Steady (run first).clock (run (first ++ [action])).paid
      (run (first ++ [action])) := by
    rw [hstep]
    simp only [restarts, Bool.or_eq_true] at hrestarts
    rcases hrestarts with hbegins | hbehind
    · exact steady_begins nextSample hbegins
    · exact steady_fallsBehind nextSample (hholding first) hbehind
  have hkeep (now : Paced Reader) (action' : Action)
      (hnow : Steady (run first).clock (run (first ++ [action])).paid now ∧
        Holding now) (haction : Unbroken now action') :
      Steady (run first).clock (run (first ++ [action])).paid
          (now.next nextSample action') ∧
        Holding (now.next nextSample action') :=
    ⟨steady_next nextSample now action' hnow.1 hnow.2 haction,
      holding_next nextSample now action' hnow.2⟩
  have hfinal : run (first ++ action :: stretch) =
      after (next nextSample) (run (first ++ [action])) stretch := by
    simp [run]
  rw [hfinal]
  exact (hunbroken.invariant hkeep ⟨hstarted, hholding _⟩).1.deadline

/-- A reader of frames that last 20 ms each. -/
def frameReader : Nat → Except RustTgCallsError Sample × Nat
  | 0 => (.error .file, 0)
  | left + 1 => (.ok ⟨[1], Duration.fromMillis 20⟩, left)

def pacingSteps (count : Nat) : List Action :=
  List.replicate count (.playing (.pacing .proceed))

/-- Two frames are read, and the task comes to the first after 5 ms. -/
def firstFrame : List Action :=
  List.replicate 12 (.playing (.reader false)) ++ pacingSteps 6 ++
    [.elapse (Duration.fromMillis 5)]

/-- The first frame is passed on 30 ms late, and the second right behind it. -/
def secondFrame : List Action :=
  [.elapse (Duration.fromMillis 30)] ++ pacingSteps 3 ++
    [.playing (.pacing .slept)] ++ pacingSteps 7

theorem pacing_bound_twoFrames :
    (after (next frameReader) (new 2 false true 0)
        (firstFrame ++ .playing (.pacing .proceed) :: secondFrame)).nextDeadline =
      Duration.fromMillis 45 :=
  ((pacing_bound frameReader 2 false true 0
      (firstFrame ++ .playing (.pacing .proceed) :: secondFrame)).2.2
    firstFrame (.playing (.pacing .proceed)) secondFrame rfl (by decide)
    (by decide)).trans (by decide)

end Paced

end RustTgCalls.Media
