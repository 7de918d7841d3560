import RustTgCalls.Media.StreamerTasks

namespace RustTgCalls.Media.Leg

/-! What a pacing task is bound to do at the barrier. -/

variable {Reader : Type}

def alive (leg : Leg Reader) : Bool :=
  match leg.pacingAt with
  | .finish | .ended => false
  | _ => true

/-- The next frame will be sent only after an arrival at the barrier. -/
def rearmed (leg : Leg Reader) : Bool :=
  match leg.pacingAt with
  | .pausedRunning | .notified => true
  | .released _ | .sendRtp _ | .account _ | .finish | .ended => false
  | _ => leg.firstSample

def holdsSample (leg : Leg Reader) : Bool :=
  match leg.nextSampleRes with
  | some (.ok _) => true
  | _ => false

/-- Past the pause loop on the way to the barrier, or blocked there. -/
def committed (leg : Leg Reader) : Bool :=
  match leg.pacingAt with
  | .ifRunning | .take => leg.firstSample && leg.holdsSample
  | .ifFirst _ => leg.firstSample
  | .barrierWait _ => true
  | _ => false

def waits (leg : Leg Reader) : Bool :=
  match leg.pacingAt with
  | .barrierWait _ => true
  | _ => false

/-- The pause loop is left with `first_sample` set and a sample in hand. -/
def leavesPause (leg : Leg Reader) : Bool :=
  match leg.pacingAt with
  | .whilePaused => !leg.paused && leg.firstSample && leg.holdsSample
  | _ => false

def breaks (leg : Leg Reader) (input : PacingInput) : Bool :=
  match leg.pacingAt, input with
  | .whileRunning, _ | .ifRunning, _ => !leg.running
  | .take, _ => !leg.holdsSample
  | .sendRtp _, .sendFails _ => !leg.muted
  | _, _ => false

structure SamePacing (old new : Leg Reader) : Prop where
  pacingAt : new.pacingAt = old.pacingAt
  firstSample : new.firstSample = old.firstSample
  nextSampleRes : new.nextSampleRes = old.nextSampleRes
  running : new.running = old.running

namespace SamePacing

variable {old new : Leg Reader}

theorem alive (hsame : SamePacing old new) : new.alive = old.alive := by
  simp [Leg.alive, hsame.pacingAt]

theorem rearmed (hsame : SamePacing old new) : new.rearmed = old.rearmed := by
  simp [Leg.rearmed, hsame.pacingAt, hsame.firstSample]

theorem committed (hsame : SamePacing old new) :
    new.committed = old.committed := by
  simp [Leg.committed, holdsSample, hsame.pacingAt, hsame.firstSample,
    hsame.nextSampleRes]

theorem waits (hsame : SamePacing old new) : new.waits = old.waits := by
  simp [Leg.waits, hsame.pacingAt]

end SamePacing

theorem samePacing_readerStep
    (nextSample : Reader → Except RustTgCallsError Sample × Reader)
    (leg : Leg Reader) (stalled : Bool) :
    SamePacing leg (leg.readerStep nextSample stalled) := by
  unfold readerStep
  split
  case h_6 => split <;> constructor <;> rfl
  case h_7 =>
    unfold send
    split
    · constructor <;> rfl
    · split <;> constructor <;> rfl
  all_goals constructor <;> rfl

theorem recv_some {leg left : Leg Reader}
    (hrecv : leg.recv = some (res, left)) :
    left.pacingAt = leg.pacingAt ∧ left.firstSample = leg.firstSample ∧
      left.running = leg.running := by
  unfold recv at hrecv
  split at hrecv <;> cases hrecv <;> exact ⟨rfl, rfl, rfl⟩

theorem alive_of_rearmed {leg : Leg Reader} (hrearmed : leg.rearmed = true) :
    leg.alive = true := by
  unfold rearmed at hrearmed
  unfold alive
  split <;> simp_all

/-- A turn at the join stays there or goes back to the top of the loop. -/
structure AtJoin (old new : Leg Reader) : Prop where
  pacingAt : new.pacingAt = .whileRunning ∨
    ∃ slept received, new.pacingAt = .join slept received
  firstSample : new.firstSample = old.firstSample
  running : new.running = old.running

theorem atJoin_joined (leg : Leg Reader) (slept received : Bool) :
    AtJoin leg (leg.joined slept received) := by
  unfold joined
  split
  · exact ⟨.inl rfl, rfl, rfl⟩
  · exact ⟨.inr ⟨slept, received, rfl⟩, rfl, rfl⟩

theorem atJoin_joinStep (leg : Leg Reader) (slept received : Bool)
    (input : PacingInput) (hat : leg.pacingAt = .join slept received) :
    AtJoin leg (leg.joinStep slept received input) := by
  have hstay : AtJoin leg leg := ⟨.inr ⟨slept, received, hat⟩, rfl, rfl⟩
  unfold joinStep
  split
  · exact atJoin_joined leg true received
  · exact hstay
  · split
    next res left hrecv =>
      obtain ⟨_, hfirst, hrunning⟩ := recv_some hrecv
      have hjoined := atJoin_joined { left with nextSampleRes := res } slept true
      exact ⟨hjoined.pacingAt, hjoined.firstSample.trans hfirst,
        hjoined.running.trans hrunning⟩
    next => exact hstay

theorem running_pacingStep (leg : Leg Reader) (input : PacingInput) :
    (leg.pacingStep input).running = leg.running := by
  unfold pacingStep
  split
  case h_1 =>
    split
    next hrecv => exact (recv_some hrecv).2.2
    next => rfl
  case h_7 => split <;> rfl
  case h_8 => split <;> rfl
  case h_11 => split <;> rfl
  case h_13 slept received hjoin =>
    exact (atJoin_joinStep leg slept received input hjoin).running
  all_goals rfl

theorem rearmed_pacingStep {leg : Leg Reader} {input : PacingInput}
    (hrunning : leg.running = true) (hrearmed : leg.rearmed = true)
    (hbreaks : leg.breaks input = false) :
    (leg.pacingStep input).rearmed = true := by
  unfold pacingStep
  cases hat : leg.pacingAt with
  | firstRecv =>
      have hfirst : leg.firstSample = true := by simpa [rearmed, hat] using hrearmed
      dsimp only
      split
      next hrecv => simpa [rearmed] using (recv_some hrecv).2.1.trans hfirst
      next => exact hrearmed
  | whileRunning => simpa [rearmed, hat, hrunning] using hrearmed
  | whilePaused =>
      have hfirst : leg.firstSample = true := by simpa [rearmed, hat] using hrearmed
      cases hpaused : leg.paused <;> simp [rearmed, hfirst]
  | pausedRunning => simp [rearmed, hrunning]
  | notified => simp [rearmed]
  | ifRunning => simpa [rearmed, hat, hrunning] using hrearmed
  | take =>
      have hfirst : leg.firstSample = true := by simpa [rearmed, hat] using hrearmed
      have hholds : leg.holdsSample = true := by simpa [breaks, hat] using hbreaks
      unfold holdsSample at hholds
      split at hholds
      next hres => simp [hres, rearmed, hfirst]
      next => simp at hholds
  | ifFirst sample =>
      have hfirst : leg.firstSample = true := by simpa [rearmed, hat] using hrearmed
      simpa [hfirst] using hrearmed
  | barrierWait sample => exact hrearmed
  | released sample => simp [rearmed, hat] at hrearmed
  | sendRtp sample => simp [rearmed, hat] at hrearmed
  | account sample => simp [rearmed, hat] at hrearmed
  | join slept received =>
      have hfirst : leg.firstSample = true := by simpa [rearmed, hat] using hrearmed
      obtain ⟨hjoin, hfirst', _⟩ := atJoin_joinStep leg slept received input hat
      rcases hjoin with hjoin | ⟨asleep, held, hjoin⟩ <;>
        simpa [rearmed, hjoin] using hfirst'.trans hfirst
  | finish => simp [rearmed, hat] at hrearmed
  | ended => simp [rearmed, hat] at hrearmed

theorem committed_pacingStep {leg : Leg Reader} {input : PacingInput}
    (hrunning : leg.running = true)
    (hcommitted : (leg.pacingStep input).committed = true) :
    leg.committed = true ∨ leg.leavesPause = true := by
  unfold pacingStep at hcommitted
  cases hat : leg.pacingAt with
  | firstRecv =>
      simp only [hat] at hcommitted
      split at hcommitted
      · simp [committed] at hcommitted
      · exact .inl hcommitted
  | whilePaused =>
      right
      cases hpaused : leg.paused with
      | true => simp [hat, hpaused, committed] at hcommitted
      | false =>
          simpa [hat, hpaused, committed, leavesPause, holdsSample]
            using hcommitted
  | ifRunning => 
      left
      simpa [hat, hrunning, committed, holdsSample] using hcommitted
  | take =>
      left
      cases hres : leg.nextSampleRes with
      | none => simp [hat, hres, committed] at hcommitted
      | some result =>
          cases result with
          | error error => simp [hat, hres, committed] at hcommitted
          | ok sample =>
              simpa [hat, hres, committed, holdsSample] using hcommitted
  | ifFirst sample =>
      left
      simp only [hat] at hcommitted
      split at hcommitted
      · exact hcommitted
      · simp [committed] at hcommitted
  | barrierWait sample => simp [committed, hat]
  | sendRtp sample =>
      simp only [hat] at hcommitted
      split at hcommitted <;> simp [committed] at hcommitted
  | join slept received =>
      simp only [hat] at hcommitted
      obtain ⟨hjoin | ⟨asleep, held, hjoin⟩, _, _⟩ :=
        atJoin_joinStep leg slept received input hat <;>
        simp [committed, hjoin] at hcommitted
  | ended =>
      simp [hat, committed] at hcommitted
  | whileRunning | pausedRunning | notified | released sample
  | account sample | finish =>
      simp [hat, hrunning, committed] at hcommitted

theorem waits_pacingStep (leg : Leg Reader) (input : PacingInput) :
    (leg.pacingStep input).waits = leg.waits := by
  unfold pacingStep
  cases hat : leg.pacingAt with
  | firstRecv =>
      dsimp only
      split
      · simp [waits, hat]
      · rfl
  | take => dsimp only; split <;> simp [waits, hat]
  | ifFirst sample => dsimp only; split <;> simp [waits, hat]
  | sendRtp sample => dsimp only; split <;> simp [waits, hat]
  | join slept received =>
      obtain ⟨hjoin | ⟨asleep, held, hjoin⟩, _, _⟩ :=
        atJoin_joinStep leg slept received input hat <;>
        simp [waits, hat, hjoin]
  | whileRunning => cases leg.running <;> simp [waits, hat]
  | whilePaused => cases leg.paused <;> simp [waits, hat]
  | pausedRunning => cases leg.running <;> simp [waits, hat]
  | ifRunning => cases leg.running <;> simp [waits, hat]
  | notified | barrierWait sample | released sample | account sample
  | finish | ended => simp [waits, hat]

@[simp] theorem waits_barrierWait (leg : Leg Reader) (sample : Sample) :
    { leg with pacingAt := .barrierWait sample }.waits = true := rfl

@[simp] theorem waits_released (leg : Leg Reader) (sample : Sample) :
    { leg with pacingAt := .released sample }.waits = false := rfl

@[simp] theorem waits_release (leg : Leg Reader) : leg.release.waits = false := by
  cases hat : leg.pacingAt <;> simp [release, waits, hat]

theorem committed_release {leg : Leg Reader} (hwaits : leg.waits = true) :
    leg.release.committed = false := by
  cases hat : leg.pacingAt <;> simp_all [release, waits, committed]

@[simp] theorem running_release (leg : Leg Reader) :
    leg.release.running = leg.running := by
  cases hat : leg.pacingAt <;> simp [release, hat]

theorem committed_of_waits {leg : Leg Reader} (hwaits : leg.waits = true) :
    leg.committed = true := by
  cases hat : leg.pacingAt <;> simp_all [waits, committed]

end RustTgCalls.Media.Leg
