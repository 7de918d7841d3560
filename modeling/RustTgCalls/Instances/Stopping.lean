import RustTgCalls.Instances.Completion
import RustTgCalls.Library.Erasure

namespace RustTgCalls.Media.Playing

open Transition

/-! A streamer that has been told to stop: how many steps its tasks have left. -/

variable {Reader : Type} {playing : Playing Reader}
  (nextSample : Reader → Except RustTgCallsError Sample × Reader)

/-- The steps of the tasks themselves; the rest is the owner's and the barrier's. -/
def isTask : Action → Bool
  | .reader _ | .pacing _ | .report => true
  | _ => false

def readerLeft : ReaderAt → Nat
  | .notified => 4
  | .whilePaused | .nextSample => 3
  | .pausedRunning | .send _ => 2
  | .whileRunning | .ifRunning => 1
  | .ended => 0

def pacingLeft : PacingAt → Nat
  | .take => 11
  | .ifFirst _ => 10
  | .barrierWait _ => 9
  | .released _ => 8
  | .sendRtp _ => 7
  | .account _ => 6
  | .join slept received => 5 - (slept.toNat + received.toNat)
  | .notified => 5
  | .whilePaused => 4
  | .firstRecv | .pausedRunning => 3
  | .whileRunning | .ifRunning => 2
  | .finish => 1
  | .ended => 0

def reportLeft : ReportAt → Nat
  | .take => 2
  | .call _ => 1
  | .returned => 0

def stepsLeft (playing : Playing Reader) : Nat :=
  readerLeft playing.leg.readerAt + pacingLeft playing.leg.pacingAt +
    reportLeft playing.reportAt

theorem stepsLeft_le (playing : Playing Reader) : playing.stepsLeft ≤ 17 := by
  have hreader : readerLeft playing.leg.readerAt ≤ 4 := by
    cases playing.leg.readerAt <;> simp [readerLeft]
  have hpacing : pacingLeft playing.leg.pacingAt ≤ 11 := by
    cases playing.leg.pacingAt <;> simp [pacingLeft]
    omega
  have hreport : reportLeft playing.reportAt ≤ 2 := by
    cases playing.reportAt <;> simp [reportLeft]
  unfold stepsLeft
  omega

/-- The frame that may still go out. -/
def owedAt : PacingAt → Nat
  | .take | .ifFirst _ | .barrierWait _ | .released _ | .sendRtp _ => 1
  | _ => 0

def owed (playing : Playing Reader) : Nat := owedAt playing.leg.pacingAt

theorem owed_le (playing : Playing Reader) : playing.owed ≤ 1 := by
  unfold owed owedAt
  split <;> simp

/-- The pacing task waits at the barrier, or will although it is told to stop. -/
def bound (playing : Playing Reader) : Bool :=
  match playing.leg.pacingAt with
  | .take => playing.syncBarrier && playing.leg.firstSample && playing.leg.holdsSample
  | .ifFirst _ => playing.syncBarrier && playing.leg.firstSample
  | .barrierWait _ => true
  | _ => false

/-! Each task. -/

theorem readerStep_left {leg : Leg Reader} (hstopped : leg.running = false)
    (stalled : Bool) :
    leg.readerStep nextSample stalled = leg ∨
      readerLeft (leg.readerStep nextSample stalled).readerAt < readerLeft leg.readerAt := by
  cases hat : leg.readerAt with
  | send res =>
      simp only [Leg.readerStep, hat, Leg.send]
      split
      · exact .inr (by simp [readerLeft])
      · split
        · cases res <;> exact .inr (by simp [readerLeft])
        · exact .inl rfl
  | nextSample =>
      right
      cases stalled <;> simp [Leg.readerStep, hat, readerLeft]
  | whilePaused =>
      right
      cases hpaused : leg.paused <;> simp [Leg.readerStep, hat, hpaused, readerLeft]
  | ended => exact .inl (by simp [Leg.readerStep, hat])
  | _ =>
      right
      simp [Leg.readerStep, hat, hstopped, readerLeft]

theorem joined_left (leg : Leg Reader) {slept received : Bool} :
    pacingLeft (leg.joined slept received).pacingAt ≤
      5 - (slept.toNat + received.toNat) := by
  cases slept <;> cases received <;> simp [Leg.joined, pacingLeft]

theorem joinStep_left {leg : Leg Reader} {slept received : Bool} (input : PacingInput)
    (hat : leg.pacingAt = .join slept received) :
    leg.joinStep slept received input = leg ∨
      pacingLeft (leg.joinStep slept received input).pacingAt <
        pacingLeft (.join slept received) := by
  unfold Leg.joinStep
  split
  next =>
    cases slept with
    | false =>
        right
        apply Nat.lt_of_le_of_lt (joined_left leg)
        cases received <;> simp [pacingLeft]
    | true =>
        cases received with
        | false =>
            left
            rw [show leg.joined true false = { leg with pacingAt := .join true false } from rfl,
              ← hat]
        | true => exact .inr (by simp [Leg.joined, pacingLeft])
  next => exact .inl rfl
  next =>
    split
    next res left _ =>
      right
      apply Nat.lt_of_le_of_lt (joined_left _)
      cases slept <;> simp [pacingLeft]
    next => exact .inl rfl

theorem pacingLeg_left (hstopped : playing.leg.running = false) (input : PacingInput) :
    playing.pacingLeg input = playing.leg ∨
      pacingLeft (playing.pacingLeg input).pacingAt < pacingLeft playing.leg.pacingAt := by
  cases hat : playing.leg.pacingAt with
  | firstRecv =>
      simp only [pacingLeg, Leg.pacingStep, hat]
      split
      · exact .inr (by simp [pacingLeft])
      · exact .inl rfl
  | whilePaused =>
      right
      cases hpaused : playing.leg.paused <;>
        simp [pacingLeg, Leg.pacingStep, hat, hpaused, pacingLeft]
  | take =>
      right
      simp only [pacingLeg, Leg.pacingStep, hat]
      split <;> simp [pacingLeft]
  | ifFirst sample =>
      right
      cases hfirst : playing.leg.firstSample <;> cases hbarrier : playing.syncBarrier <;>
        simp [pacingLeg, Leg.pacingStep, hat, hfirst, hbarrier, pacingLeft]
  | sendRtp sample =>
      right
      simp only [pacingLeg, Leg.pacingStep, hat]
      split <;> simp [pacingLeft]
  | join slept received =>
      simp only [pacingLeg, hat]
      rw [Leg.pacingStep, hat]
      exact joinStep_left input hat
  | barrierWait sample | ended => exact .inl (by simp [pacingLeg, Leg.pacingStep, hat])
  | released sample | account sample | notified | finish =>
      right
      simp [pacingLeg, Leg.pacingStep, hat, pacingLeft]
  | whileRunning | pausedRunning | ifRunning =>
      right
      simp [pacingLeg, Leg.pacingStep, hat, hstopped, pacingLeft]

/-! The streamer as a whole. -/

theorem passing_of_still {input : PacingInput}
    (hstill : playing.pacingLeg input = playing.leg) : passing playing.leg = none := by
  cases hat : playing.leg.pacingAt with
  | sendRtp sample =>
      have hmoved : pacingLeft (playing.pacingLeg input).pacingAt <
          pacingLeft playing.leg.pacingAt := by
        simp only [pacingLeg, Leg.pacingStep, hat]
        split <;> simp [pacingLeft]
      rw [hstill] at hmoved
      exact absurd hmoved (Nat.lt_irrefl _)
  | _ => simp [passing, hat]

theorem pacing_eq {input : PacingInput} (hstill : playing.pacingLeg input = playing.leg) :
    playing.pacing input = playing := by
  have hsince : playing.sincePause.map (· + 0) = playing.sincePause := by
    cases playing.sincePause <;> rfl
  simp only [pacing, hstill, passing_of_still hstill, Option.toList_none, List.append_nil,
    List.length_nil, hsince]

/-- A step of a task does nothing, or there is one less to come. -/
theorem task_left (hstopped : playing.leg.running = false) {action : Action}
    (htask : isTask action = true) :
    playing.next nextSample action = playing ∨
      (playing.next nextSample action).stepsLeft < playing.stepsLeft := by
  cases action with
  | reader stalled =>
      obtain hstill | hless :=
        readerStep_left nextSample hstopped stalled
      · exact .inl (by rw [next, hstill])
      · right
        have hpacing := (Leg.samePacing_readerStep nextSample playing.leg stalled).pacingAt
        simp only [stepsLeft, next, hpacing]
        omega
  | pacing input =>
      obtain hstill | hless := pacingLeg_left hstopped input
      · exact .inl (pacing_eq hstill)
      · right
        have hreader := (sameReader_pacingLeg playing input).readerAt
        simp only [stepsLeft, next, pacing, hreader]
        omega
  | report =>
      simp only [next, report]
      split
      next hended htake =>
        right
        simp [stepsLeft, htake, reportLeft]
      next hended hcall =>
        right
        simp [stepsLeft, hcall, reportLeft]
      next => exact .inl rfl
  | _ => cases htask

/-- The owner's calls neither start the tasks again nor add to what they do. -/
theorem owner_left (playing : Playing Reader) {action : Action}
    (htask : isTask action = false) (hrelease : action ≠ .release) :
    (playing.next nextSample action).stepsLeft = playing.stepsLeft := by
  cases action with
  | release => exact absurd rfl hrelease
  | reader stalled | pacing input | report => cases htask
  | _ => rfl

theorem stopped_next (hstopped : playing.leg.running = false) (action : Action) :
    (playing.next nextSample action).leg.running = false := by
  cases action with
  | clearOnEnd => exact hstopped
  | stopRunning => rfl
  | reader stalled => exact (running_next (.reader stalled) trivial).trans hstopped
  | pacing input => exact (running_next (.pacing input) trivial).trans hstopped
  | release => exact (running_next .release trivial).trans hstopped
  | report => exact (running_next .report trivial).trans hstopped
  | pause | resume => exact hstopped

theorem owed_pacingLeg (hstopped : playing.leg.running = false) (input : PacingInput) :
    (passing playing.leg).toList.length + owedAt (playing.pacingLeg input).pacingAt ≤
      owedAt playing.leg.pacingAt := by
  cases hat : playing.leg.pacingAt with
  | sendRtp sample =>
      have hpassed : (passing playing.leg).toList.length ≤ 1 := by
        cases passing playing.leg <;> simp
      have hafter : owedAt (playing.pacingLeg input).pacingAt = 0 := by
        simp only [pacingLeg, Leg.pacingStep, hat]
        cases playing.leg.muted <;> cases input <;> rfl
      rw [hafter]
      exact hpassed
  | firstRecv =>
      simp only [pacingLeg, Leg.pacingStep, passing, hat]
      split <;> simp [owedAt, hat]
  | whilePaused =>
      cases hpaused : playing.leg.paused <;>
        simp [pacingLeg, Leg.pacingStep, passing, hat, hpaused, owedAt]
  | take =>
      simp only [pacingLeg, Leg.pacingStep, passing, hat]
      split <;> simp [owedAt]
  | ifFirst sample =>
      cases hfirst : playing.leg.firstSample <;> cases hbarrier : playing.syncBarrier <;>
        simp [pacingLeg, Leg.pacingStep, passing, hat, hfirst, hbarrier, owedAt]
  | join slept received =>
      have hafter : owedAt (playing.pacingLeg input).pacingAt = 0 := by
        have hleg : playing.pacingLeg input = playing.leg.joinStep slept received input := by
          simp only [pacingLeg, Leg.pacingStep, hat]
        obtain hat' | ⟨asleep, held, hat'⟩ :=
          (Leg.atJoin_joinStep playing.leg slept received input hat).pacingAt <;>
          rw [hleg, hat'] <;> rfl
      simp [passing, hat, hafter]
  | _ => simp [pacingLeg, Leg.pacingStep, passing, hat, hstopped, owedAt]

theorem owed_next (hstopped : playing.leg.running = false) (action : Action) :
    (playing.next nextSample action).sent.length +
        (playing.next nextSample action).owed ≤ playing.sent.length + playing.owed := by
  cases action with
  | pacing input =>
      have howed := owed_pacingLeg hstopped input
      have hsent : (playing.pacing input).sent.length =
          playing.sent.length + (passing playing.leg).toList.length := by
        simp [pacing]
      have hafter : (playing.pacing input).owed = owedAt (playing.pacingLeg input).pacingAt :=
        rfl
      rw [next, hsent, hafter, owed]
      omega
  | reader stalled =>
      have hsame := (Leg.samePacing_readerStep nextSample playing.leg stalled).pacingAt
      simp [next, owed, hsame]
  | release =>
      cases hat : playing.leg.pacingAt <;> simp [next, owed, Leg.release, hat, owedAt]
  | report =>
      obtain ⟨hleg, hsent, _⟩ := playing.report_frame
      simp [next, owed, hleg, hsent]
  | _ => exact Nat.le_refl _

theorem bound_pacing (hstopped : playing.leg.running = false) (input : PacingInput) :
    (playing.pacing input).bound = playing.bound := by
  cases hat : playing.leg.pacingAt with
  | firstRecv =>
      cases hrecv : playing.leg.recv <;>
        simp [pacing, bound, pacingLeg, Leg.pacingStep, hat, hrecv]
  | whilePaused =>
      cases hpaused : playing.leg.paused <;>
        simp [pacing, bound, pacingLeg, Leg.pacingStep, hat, hpaused]
  | take =>
      cases hres : playing.leg.nextSampleRes with
      | none => simp [pacing, bound, pacingLeg, Leg.pacingStep, hat, hres, Leg.holdsSample]
      | some res =>
          cases res <;> simp [pacing, bound, pacingLeg, Leg.pacingStep, hat, hres,
            Leg.holdsSample]
  | ifFirst sample =>
      cases hfirst : playing.leg.firstSample <;> cases hbarrier : playing.syncBarrier <;>
        simp [pacing, bound, pacingLeg, Leg.pacingStep, hat, hfirst, hbarrier]
  | sendRtp sample =>
      simp only [pacing, bound, pacingLeg, Leg.pacingStep, hat]
      cases playing.leg.muted <;> cases input <;> rfl
  | join slept received =>
      have hleg : playing.pacingLeg input = playing.leg.joinStep slept received input := by
        simp only [pacingLeg, Leg.pacingStep, hat]
      obtain hat' | ⟨asleep, held, hat'⟩ :=
        (Leg.atJoin_joinStep playing.leg slept received input hat).pacingAt <;>
        simp only [pacing, bound, hleg, hat', hat]
  | _ => simp [pacing, bound, pacingLeg, Leg.pacingStep, hat, hstopped]

theorem bound_next (hstopped : playing.leg.running = false) {action : Action}
    (hrelease : action ≠ .release) :
    (playing.next nextSample action).bound = playing.bound := by
  cases action with
  | pacing input => exact bound_pacing hstopped input
  | reader stalled =>
      have hsame := Leg.samePacing_readerStep nextSample playing.leg stalled
      simp only [next, bound, Leg.holdsSample, hsame.pacingAt, hsame.firstSample,
        hsame.nextSampleRes]
  | release => exact absurd rfl hrelease
  | report =>
      simp only [next, report]
      split <;> rfl
  | _ => rfl

/-! Where nothing moves any more. -/

/-- Both tasks have returned and the end has been reported. -/
structure Settled (playing : Playing Reader) : Prop where
  reader : playing.leg.readerAt = .ended
  pacing : playing.leg.pacingAt = .ended
  report : playing.reportAt = .returned

variable {nextSample}

def readerEnded (playing : Playing Reader) : Bool :=
  match playing.leg.readerAt with
  | .ended => true
  | _ => false

theorem readerEnded_iff : playing.readerEnded = true ↔ playing.leg.readerAt = .ended := by
  unfold readerEnded
  split <;> simp_all

def settled (playing : Playing Reader) : Bool :=
  match playing.leg.readerAt, playing.leg.pacingAt, playing.reportAt with
  | .ended, .ended, .returned => true
  | _, _, _ => false

instance : DecidablePred (@Settled Reader) := fun playing =>
  decidable_of_iff (playing.settled = true) <| by
    constructor
    · intro hsettled
      unfold settled at hsettled
      split at hsettled
      next hreader hpacing hreport => exact ⟨hreader, hpacing, hreport⟩
      next => cases hsettled
    · intro hsettled
      simp [settled, hsettled.reader, hsettled.pacing, hsettled.report]

/-- No step of a task does anything. -/
def Still (nextSample : Reader → Except RustTgCallsError Sample × Reader)
    (playing : Playing Reader) : Prop :=
  ∀ action, isTask action = true → playing.next nextSample action = playing

theorem reader_of_still (hstopped : playing.leg.running = false)
    (hstill : Still nextSample playing) :
    playing.leg.readerAt = .ended ∨
      Leg.channelCapacity ≤ playing.leg.channel.length ∧ playing.leg.pacingAt ≠ .ended := by
  have hsame : playing.leg.readerStep nextSample false = playing.leg :=
    congrArg Playing.leg (hstill (.reader false) rfl)
  have hat := congrArg Leg.readerAt hsame
  cases hreader : playing.leg.readerAt with
  | ended => exact .inl rfl
  | send res =>
      right
      simp only [Leg.readerStep, hreader, Leg.send] at hat
      split at hat
      next => cases hat
      next hpacing =>
        split at hat
        next => cases res <;> cases hat
        next hfull => exact ⟨Nat.le_of_not_lt hfull, hpacing⟩
  | whilePaused =>
      cases hpaused : playing.leg.paused <;>
        simp [Leg.readerStep, hreader, hpaused] at hat
  | nextSample => simp [Leg.readerStep, hreader] at hat
  | _ => simp [Leg.readerStep, hreader, hstopped] at hat

theorem channel_of_recv {leg : Leg Reader} (hrecv : leg.recv = none) :
    leg.channel = [] ∧ leg.readerAt ≠ .ended := by
  unfold Leg.recv at hrecv
  split at hrecv
  next => cases hrecv
  next => cases hrecv
  next hchannel hended => exact ⟨hchannel, hended⟩

theorem pacing_of_still (hstopped : playing.leg.running = false)
    (hstill : Still nextSample playing) :
    playing.leg.pacingAt = .ended ∨ playing.leg.waits = true := by
  have hsame (input : PacingInput) : playing.pacingLeg input = playing.leg :=
    congrArg Playing.leg (hstill (.pacing input) rfl)
  have hproceed := congrArg Leg.pacingAt (hsame .proceed)
  have hslept := congrArg Leg.pacingAt (hsame .slept)
  have hnothing : playing.leg.recv ≠ none := by
    intro hrecv
    obtain ⟨hempty, hreading⟩ := channel_of_recv hrecv
    obtain hended | ⟨hfull, _⟩ := reader_of_still hstopped hstill
    · exact hreading hended
    · simp [hempty, Leg.channelCapacity] at hfull
  obtain ⟨⟨res, left⟩, hrecv⟩ := Option.ne_none_iff_exists'.mp hnothing
  cases hat : playing.leg.pacingAt with
  | ended => exact .inl rfl
  | barrierWait sample => exact .inr (by simp [Leg.waits, hat])
  | firstRecv => simp [pacingLeg, Leg.pacingStep, hat, hrecv] at hproceed
  | whilePaused =>
      cases hpaused : playing.leg.paused <;>
        simp [pacingLeg, Leg.pacingStep, hat, hpaused] at hproceed
  | take =>
      cases hres : playing.leg.nextSampleRes with
      | none => simp [pacingLeg, Leg.pacingStep, hat, hres] at hproceed
      | some res => cases res <;> simp [pacingLeg, Leg.pacingStep, hat, hres] at hproceed
  | ifFirst sample =>
      cases hfirst : playing.leg.firstSample <;> cases hbarrier : playing.syncBarrier <;>
        simp [pacingLeg, Leg.pacingStep, hat, hfirst, hbarrier] at hproceed
  | sendRtp sample =>
      cases hmuted : playing.leg.muted <;>
        simp [pacingLeg, Leg.pacingStep, hat, hmuted] at hproceed
  | join slept received =>
      cases slept <;> cases received <;>
        simp [pacingLeg, Leg.pacingStep, hat, Leg.joinStep, Leg.joined, hrecv]
          at hproceed hslept
  | _ => simp [pacingLeg, Leg.pacingStep, hat, hstopped] at hproceed

/-- A stopped streamer that does not move has come to its end, or waits at the
barrier. -/
theorem settled_or_waits (hstopped : playing.leg.running = false)
    (hstill : Still nextSample playing) : playing.Settled ∨ playing.leg.waits = true := by
  obtain hended | hwaits := pacing_of_still hstopped hstill
  · left
    obtain hreader | ⟨_, hpacing⟩ := reader_of_still hstopped hstill
    · refine ⟨hreader, hended, ?_⟩
      have hsame : playing.report = playing := hstill .report rfl
      have hat := congrArg Playing.reportAt hsame
      cases hreport : playing.reportAt with
      | returned => rfl
      | _ => simp [report, hended, hreport] at hat
    · exact absurd hended hpacing
  · exact .inr hwaits

/-- At its end, and at the barrier with its reader gone, a streamer does not move. -/
theorem still_of_ended (hreader : playing.readerEnded = true)
    (hat : playing.Settled ∨ playing.leg.waits = true) : Still nextSample playing := by
  have hleg : ∀ input, playing.pacingLeg input = playing.leg := by
    intro input
    obtain hsettled | hwaits := hat
    · simp [pacingLeg, Leg.pacingStep, hsettled.pacing]
    · cases hthere : playing.leg.pacingAt with
      | barrierWait sample => simp [pacingLeg, Leg.pacingStep, hthere]
      | _ => simp [Leg.waits, hthere] at hwaits
  intro action htask
  cases action with
  | reader stalled =>
      have hsame : playing.leg.readerStep nextSample stalled = playing.leg := by
        simp [Leg.readerStep, readerEnded_iff.mp hreader]
      rw [next, hsame]
  | pacing input => exact pacing_eq (hleg input)
  | report =>
      obtain hsettled | hwaits := hat
      · simp [next, report, hsettled.pacing, hsettled.report]
      · cases hthere : playing.leg.pacingAt with
        | barrierWait sample => simp [next, report, hthere]
        | _ => simp [Leg.waits, hthere] at hwaits
  | _ => cases htask

theorem bound_of_waits (hwaits : playing.leg.waits = true) : playing.bound = true := by
  cases hat : playing.leg.pacingAt with
  | barrierWait sample => simp [bound, hat]
  | _ => simp [Leg.waits, hat] at hwaits

theorem Settled.not_bound (hsettled : playing.Settled) : playing.bound = false := by
  simp [bound, hsettled.pacing]

end RustTgCalls.Media.Playing

namespace RustTgCalls.Instances

open Transition Media Wrtc

/-! The two streamers of a source, told to stop. -/

structure Pair (Reader : Type) where
  legs : StreamType → Playing Reader

namespace Pair

variable {Reader : Type}

abbrev Action := StreamType × Playing.Action

def play (nextSample : Reader → Except RustTgCallsError Sample × Reader)
    (pair : Pair Reader) (kind : StreamType) (action : Playing.Action) : Pair Reader where
  legs := Function.update pair.legs kind ((pair.legs kind).next nextSample action)

/-- The barrier lets both legs go once both wait at it. -/
def meet (nextSample : Reader → Except RustTgCallsError Sample × Reader)
    (pair : Pair Reader) : Pair Reader :=
  if (pair.legs .audio).leg.waits && (pair.legs .video).leg.waits then
    (pair.play nextSample .audio .release).play nextSample .video .release
  else pair

def next (nextSample : Reader → Except RustTgCallsError Sample × Reader)
    (pair : Pair Reader) : Action → Pair Reader
  | (kind, .pacing input) => (pair.play nextSample kind (.pacing input)).meet nextSample
  | (_, .release) => pair
  | (kind, action) => pair.play nextSample kind action

/-- `Streamer::stop` has cleared the flag of both. -/
def Stopped (pair : Pair Reader) : Prop :=
  ∀ kind, (pair.legs kind).leg.running = false

/-- Each leg has the barrier before it, or neither has. -/
def Matched (pair : Pair Reader) : Prop :=
  (pair.legs .audio).bound = (pair.legs .video).bound

def isTask (action : Action) : Bool := Playing.isTask action.2

variable (nextSample : Reader → Except RustTgCallsError Sample × Reader)
  {pair : Pair Reader}

/-- No step of a task does anything. -/
def Quiescent (nextSample : Reader → Except RustTgCallsError Sample × Reader)
    (pair : Pair Reader) : Prop :=
  ∀ action, isTask action = true → pair.next nextSample action = pair

def stepsLeft (pair : Pair Reader) : Nat :=
  (pair.legs .audio).stepsLeft + (pair.legs .video).stepsLeft

theorem legs_play (kind which : StreamType) (action : Playing.Action) :
    (pair.play nextSample kind action).legs which =
      if which = kind then (pair.legs which).next nextSample action
      else pair.legs which := by
  by_cases hwhich : which = kind
  · subst hwhich
    simp [play]
  · simp [play, hwhich]

/-- What the steps of each leg keep, and the release of both, the pair keeps. -/
theorem next_keeps {property : StreamType → Playing Reader → Prop}
    (hplay : ∀ kind playing action, property kind playing →
      property kind (playing.next nextSample action))
    (hpair : ∀ kind, property kind (pair.legs kind)) (action : Action) (kind : StreamType) :
    property kind ((pair.next nextSample action).legs kind) := by
  have hplayed (pair : Pair Reader) (hpair : ∀ kind, property kind (pair.legs kind))
      (which : StreamType) (action : Playing.Action) (kind : StreamType) :
      property kind ((pair.play nextSample which action).legs kind) := by
    rw [legs_play]
    split
    · exact hplay kind _ action (hpair kind)
    · exact hpair kind
  obtain ⟨which, action⟩ := action
  cases action with
  | pacing input =>
      simp only [next, meet]
      split
      · exact hplayed _ (hplayed _ (hplayed pair hpair which _) .audio .release) .video .release
          kind
      · exact hplayed pair hpair which _ kind
  | release => exact hpair kind
  | _ => exact hplayed pair hpair which _ kind

theorem stopped_next (pair : Pair Reader) (action : Action) (hstopped : pair.Stopped) :
    (pair.next nextSample action).Stopped :=
  @next_keeps _ _ _ (fun _ playing => playing.leg.running = false)
    (fun _ _ action hstopped => Playing.stopped_next nextSample hstopped action) hstopped action

/-! The steps that are left. -/

theorem play_eq {kind : StreamType} {action : Playing.Action}
    (hsame : (pair.legs kind).next nextSample action = pair.legs kind) :
    pair.play nextSample kind action = pair := by
  rw [play, hsame, Function.update_eq_self]

theorem stepsLeft_play (pair : Pair Reader) (kind : StreamType) (action : Playing.Action) :
    (pair.play nextSample kind action).stepsLeft + (pair.legs kind).stepsLeft =
      pair.stepsLeft + ((pair.legs kind).next nextSample action).stepsLeft := by
  cases kind <;> simp [stepsLeft, legs_play] <;> omega

theorem stepsLeft_release {playing : Playing Reader} (hwaits : playing.leg.waits = true) :
    (playing.next nextSample .release).stepsLeft < playing.stepsLeft := by
  cases hat : playing.leg.pacingAt with
  | barrierWait sample =>
      simp [Playing.next, Playing.stepsLeft, Leg.release, hat, Playing.pacingLeft]
  | _ => simp [Leg.waits, hat] at hwaits

theorem meet_left (pair : Pair Reader) :
    pair.meet nextSample = pair ∨ (pair.meet nextSample).stepsLeft < pair.stepsLeft := by
  unfold meet
  split
  next hboth =>
    simp only [Bool.and_eq_true] at hboth
    right
    have haudio := stepsLeft_play nextSample pair .audio .release
    have hvideo := stepsLeft_play nextSample (pair.play nextSample .audio .release)
      .video .release
    have hother : (pair.play nextSample .audio .release).legs .video = pair.legs .video := by
      simp [legs_play]
    rw [hother] at hvideo
    have hless := stepsLeft_release nextSample hboth.1
    have hless' := stepsLeft_release nextSample hboth.2
    omega
  next => exact .inl rfl

theorem play_left (hstopped : pair.Stopped) (kind : StreamType) {action : Playing.Action}
    (htask : Playing.isTask action = true) :
    pair.play nextSample kind action = pair ∨
      (pair.play nextSample kind action).stepsLeft < pair.stepsLeft := by
  obtain hsame | hless := Playing.task_left nextSample (hstopped kind) htask
  · exact .inl (play_eq nextSample hsame)
  · right
    have hplay := stepsLeft_play nextSample pair kind action
    omega

/-- A step of a task does nothing, or there is one less to come. -/
theorem task_left (hstopped : pair.Stopped) {action : Action} (htask : isTask action = true) :
    pair.next nextSample action = pair ∨
      (pair.next nextSample action).stepsLeft < pair.stepsLeft := by
  obtain ⟨kind, action⟩ := action
  have hplay := play_left nextSample hstopped kind htask
  cases action with
  | pacing input =>
      simp only [next]
      obtain hsame | hless := hplay
      · rw [hsame]
        exact meet_left nextSample pair
      · right
        obtain hmeet | hmeet := meet_left nextSample
          (pair.play nextSample kind (.pacing input))
        · rwa [hmeet]
        · exact Nat.lt_trans hmeet hless
  | reader stalled | report => exact hplay
  | _ => cases htask

theorem owner_left {action : Action} (htask : isTask action = false) :
    (pair.next nextSample action).stepsLeft = pair.stepsLeft := by
  obtain ⟨kind, action⟩ := action
  have hplay (hrelease : action ≠ .release) :
      (pair.play nextSample kind action).stepsLeft = pair.stepsLeft := by
    have hsteps := stepsLeft_play nextSample pair kind action
    have howner : Playing.isTask action = false := htask
    have hsame := Playing.owner_left nextSample (pair.legs kind) howner hrelease
    omega
  cases action with
  | release => rfl
  | reader stalled | pacing input | report => cases htask
  | _ => exact hplay (by simp)

/-! The barrier. -/

theorem meet_matched (pair : Pair Reader) :
    (pair.meet nextSample).Matched ↔ pair.Matched := by
  unfold meet
  split
  next hboth =>
    simp only [Bool.and_eq_true] at hboth
    have hreleased {playing : Playing Reader} (hwaits : playing.leg.waits = true) :
        (playing.next nextSample .release).bound = false := by
      cases hat : playing.leg.pacingAt with
      | barrierWait sample => simp [Playing.next, Playing.bound, Leg.release, hat]
      | _ => simp [Leg.waits, hat] at hwaits
    simp [Matched, legs_play, hreleased hboth.1, hreleased hboth.2,
      Playing.bound_of_waits hboth.1, Playing.bound_of_waits hboth.2]
  next => exact Iff.rfl

theorem matched_next (hstopped : pair.Stopped) (action : Action) :
    (pair.next nextSample action).Matched ↔ pair.Matched := by
  obtain ⟨kind, action⟩ := action
  have hplay (hrelease : action ≠ .release) :
      (pair.play nextSample kind action).Matched ↔ pair.Matched := by
    have hbound := Playing.bound_next nextSample (hstopped kind) hrelease
    cases kind <;> simp [Matched, legs_play, hbound]
  cases action with
  | pacing input =>
      simp only [next]
      rw [meet_matched nextSample]
      exact hplay (by simp)
  | release => exact Iff.rfl
  | _ => exact hplay (by simp)

variable {nextSample}

theorem still_of_quiescent (hstopped : pair.Stopped)
    (hquiescent : pair.Quiescent nextSample) (kind : StreamType) :
    Playing.Still nextSample (pair.legs kind) := by
  intro action htask
  obtain hsame | hless := Playing.task_left nextSample (hstopped kind) htask
  · exact hsame
  · exfalso
    have hplayed : (pair.play nextSample kind action).stepsLeft < pair.stepsLeft := by
      have hsteps := stepsLeft_play nextSample pair kind action
      omega
    have hnext := hquiescent (kind, action) htask
    cases action with
    | pacing input =>
        simp only [next] at hnext
        obtain hmeet | hmeet := meet_left nextSample
          (pair.play nextSample kind (.pacing input))
        · rw [hmeet.symm.trans hnext] at hplayed
          exact Nat.lt_irrefl _ hplayed
        · rw [hnext] at hmeet
          omega
    | reader stalled | report =>
        simp only [next] at hnext
        rw [hnext] at hplayed
        exact Nat.lt_irrefl _ hplayed
    | _ => cases htask

theorem apart_of_quiescent (hstopped : pair.Stopped)
    (hquiescent : pair.Quiescent nextSample) :
    ¬ ((pair.legs .audio).leg.waits = true ∧ (pair.legs .video).leg.waits = true) := by
  intro hboth
  have hstill := still_of_quiescent hstopped hquiescent .audio (.pacing .proceed) rfl
  have hnext := hquiescent (.audio, .pacing .proceed) rfl
  have hplayed : pair.play nextSample .audio (.pacing .proceed) = pair :=
    play_eq nextSample hstill
  simp only [next, hplayed] at hnext
  have hwaits := congrArg (fun pair : Pair Reader => (pair.legs .audio).leg.waits) hnext
  simp only [meet, hboth.1, hboth.2, Bool.and_self, if_true, legs_play] at hwaits
  simp [Playing.next] at hwaits

theorem quiescent_of_still (hstill : ∀ kind, Playing.Still nextSample (pair.legs kind))
    (happart : ((pair.legs .audio).leg.waits && (pair.legs .video).leg.waits) = false) :
    pair.Quiescent nextSample := by
  rintro ⟨kind, action⟩ htask
  have hplay : pair.play nextSample kind action = pair :=
    play_eq nextSample (hstill kind action htask)
  cases action with
  | pacing input =>
      simp only [next, hplay]
      exact if_neg (Bool.eq_false_iff.mp happart)
  | reader stalled | report => exact hplay
  | _ => cases htask

/-- Where nothing moves any more, both legs have come to their end exactly if the
barrier was before both of them or before neither. -/
theorem settled_iff (hstopped : pair.Stopped) (hquiescent : pair.Quiescent nextSample) :
    (∀ kind, (pair.legs kind).Settled) ↔ pair.Matched := by
  constructor
  · intro hsettled
    rw [Matched, (hsettled .audio).not_bound, (hsettled .video).not_bound]
  · intro hmatched
    have hends (kind : StreamType) := Playing.settled_or_waits (hstopped kind)
      (still_of_quiescent hstopped hquiescent kind)
    have happart := apart_of_quiescent hstopped hquiescent
    have hlone {one other : StreamType} (hbound : (pair.legs one).bound =
        (pair.legs other).bound) (hwaits : (pair.legs one).leg.waits = true) :
        (pair.legs other).leg.waits = true := by
      obtain hsettled | hother := hends other
      · rw [Playing.bound_of_waits hwaits, hsettled.not_bound] at hbound
        cases hbound
      · exact hother
    intro kind
    obtain hsettled | hwaits := hends kind
    · exact hsettled
    · exfalso
      cases kind with
      | audio => exact happart ⟨hwaits, hlone hmatched hwaits⟩
      | video => exact happart ⟨hlone hmatched.symm hwaits, hwaits⟩

variable (nextSample)

theorem matched_after (hstopped : pair.Stopped) (actions : List Action) :
    (after (next nextSample) pair actions).Stopped ∧
      ((after (next nextSample) pair actions).Matched ↔ pair.Matched) := by
  induction actions generalizing pair with
  | nil => exact ⟨hstopped, Iff.rfl⟩
  | cons action rest ih =>
      obtain ⟨hlast, hmatched⟩ := ih (stopped_next nextSample pair action hstopped)
      exact ⟨hlast, hmatched.trans (matched_next nextSample hstopped action)⟩

/-- A stopped leg passes on at most the frame it has in hand. -/
theorem sent_after (hstopped : pair.Stopped) (actions : List Action) (kind : StreamType) :
    ((after (next nextSample) pair actions).legs kind).sent.length ≤
      (pair.legs kind).sent.length + 1 := by
  let owing (kind : StreamType) (playing : Playing Reader) : Prop :=
    playing.leg.running = false ∧ playing.sent.length + playing.owed ≤
      (pair.legs kind).sent.length + (pair.legs kind).owed
  have hplay (kind : StreamType) (playing : Playing Reader) (action : Playing.Action)
      (howing : owing kind playing) : owing kind (playing.next nextSample action) :=
    ⟨Playing.stopped_next nextSample howing.1 action,
      Nat.le_trans (Playing.owed_next nextSample howing.1 action) howing.2⟩
  have hall : Along (next nextSample) (fun _ _ => True) pair actions := along_true
  have hlast : ∀ kind, owing kind ((after (next nextSample) pair actions).legs kind) :=
    @Along.invariant _ _ _ _ _ _ (fun now : Pair Reader => ∀ kind, owing kind (now.legs kind))
      (fun now action hnow _ => next_keeps nextSample hplay hnow action)
      (fun kind => ⟨hstopped kind, Nat.le_refl _⟩) hall
  have hthis := (hlast kind).2
  have howed := (pair.legs kind).owed_le
  omega

end Pair

namespace Broadcast

variable {Payloader : Type _} {broadcast : Broadcast Payloader}
  (payloader : Payloader → Nat → Bytes → List Bytes × Payloader)

def pair (broadcast : Broadcast Payloader) : Pair ReaderKind where
  legs := broadcast.legs

/-- The legs do not wait for each other. -/
def Apart (broadcast : Broadcast Payloader) : Prop :=
  ((broadcast.legs .audio).leg.waits && (broadcast.legs .video).leg.waits) = false

/-- What a pair of legs sees of an action: nothing while the call is in flight. -/
def pairActions (broadcast : Broadcast Payloader) : Action → List Pair.Action
  | .leg kind (.pacing input) =>
      match broadcast.flight.calls kind with
      | .idle => [(kind, .pacing input)]
      | _ => []
  | .leg kind action => [(kind, action)]
  | _ => []

theorem pair_meet : broadcast.meet.pair = broadcast.pair.meet ReaderKind.nextSample := by
  unfold meet Pair.meet
  split
  · rw [if_pos (by assumption)]
    rfl
  · rw [if_neg (by assumption)]

theorem apart_meet (broadcast : Broadcast Payloader) : Apart broadcast.meet := by
  unfold meet
  split
  · simp [Apart, Playing.next]
  next hnot => exact Bool.eq_false_iff.mpr hnot

theorem apart_play (happart : Apart broadcast) (kind : StreamType) {action : Playing.Action}
    (hpacing : ∀ input, action ≠ .pacing input) (hrelease : action ≠ .release) :
    Apart (broadcast.play kind action) := by
  have hwaits (playing : Playing ReaderKind) :
      (playing.next ReaderKind.nextSample action).leg.waits = playing.leg.waits := by
    cases action with
    | reader stalled =>
        exact (Leg.samePacing_readerStep ReaderKind.nextSample playing.leg stalled).waits
    | report => simp only [Playing.next, playing.report_frame.1]
    | pacing input => exact absurd rfl (hpacing input)
    | release => exact absurd rfl hrelease
    | _ => rfl
  cases kind <;> simpa [Apart, hwaits] using happart

/-- The legs of a broadcast are a pair of legs, whose pacing the calls in flight hold
up. -/
theorem pair_next (happart : Apart broadcast) (action : Action) :
    Apart (broadcast.next payloader action) ∧
      (broadcast.next payloader action).pair =
        after (Pair.next ReaderKind.nextSample) broadcast.pair
          (broadcast.pairActions action) := by
  cases action with
  | call kind readings taken | rtcpTimer ntp => exact ⟨happart, rfl⟩
  | leg kind action =>
      cases action with
      | pacing input =>
          refine ⟨apart_meet _, ?_⟩
          simp only [next, pair_meet, pairActions, pace]
          cases hcall : broadcast.flight.calls kind with
          | sending stage =>
              cases stage with
              | idle => cases hsample : Playing.passing (broadcast.legs kind).leg <;> rfl
              | _ => exact if_neg (Bool.eq_false_iff.mp happart)
          | _ => exact if_neg (Bool.eq_false_iff.mp happart)
      | release => exact ⟨happart, rfl⟩
      | _ => exact ⟨apart_play happart kind (by simp) (by simp), rfl⟩

theorem apart_new (start : RtpSender Payloader) (bytes : StreamType → Bytes) (onEnd : Bool) :
    Apart (new start bytes onEnd) := rfl

theorem apart_after (happart : Apart broadcast) (actions : List Action) :
    Apart (after (next payloader) broadcast actions) := by
  have hall : Along (next payloader) (fun _ _ => True) broadcast actions := along_true
  exact hall.invariant (fun now action hnow _ => (pair_next payloader hnow action).1) happart

/-- The legs of a run are a run of the pair. -/
theorem pair_after (happart : Apart broadcast) (actions : List Action) :
    (after (next payloader) broadcast actions).pair =
      after (Pair.next ReaderKind.nextSample) broadcast.pair
        (image (next payloader) pairActions broadcast actions) := by
  have hall : Along (next payloader) (fun _ _ => True) broadcast actions := along_true
  exact project_after (fun now action hnow _ => (pair_next payloader hnow action).1)
    (fun now action hnow _ => (pair_next payloader hnow action).2) happart hall

def isTask : Action → Bool
  | .leg _ action => Playing.isTask action
  | _ => false

/-- An action that moves one of the tasks, where it is one of a task. -/
def Moves (now : Broadcast Payloader) (action : Action) : Prop :=
  isTask action = true → (now.next payloader action).pair ≠ now.pair

theorem pairActions_cases (broadcast : Broadcast Payloader) (action : Action) :
    broadcast.pairActions action = [] ∨
      ∃ step, broadcast.pairActions action = [step] ∧ Pair.isTask step = isTask action := by
  cases action with
  | call kind readings | rtcpTimer ntp => exact .inl rfl
  | leg kind action =>
      cases action with
      | pacing input =>
          simp only [pairActions]
          split
          · exact .inr ⟨_, rfl, rfl⟩
          · exact .inl rfl
      | _ => exact .inr ⟨_, rfl, rfl⟩

theorem moves_few (happart : Apart broadcast) (hstopped : broadcast.pair.Stopped)
    {actions : List Action} (hmoves : Along (next payloader) (Moves payloader) broadcast actions) :
    (actions.filter isTask).length ≤ 34 := by
  have hkeep (now : Broadcast Payloader) (action : Action)
      (hnow : Apart now ∧ now.pair.Stopped) :
      Apart (now.next payloader action) ∧ (now.next payloader action).pair.Stopped := by
    obtain ⟨hapart, hpair⟩ := pair_next payloader hnow.1 action
    rw [hpair]
    exact ⟨hapart, (Pair.matched_after ReaderKind.nextSample hnow.2 _).1⟩
  have hlower (now : Broadcast Payloader) (action : Action)
      (hnow : Apart now ∧ now.pair.Stopped) (hmove : Moves payloader now action)
      (htask : isTask action = true) :
      (now.next payloader action).pair.stepsLeft < now.pair.stepsLeft := by
    have hmoved := hmove htask
    rw [(pair_next payloader hnow.1 action).2] at hmoved ⊢
    obtain hnone | ⟨step, hstep, hkind⟩ := now.pairActions_cases action
    · rw [hnone] at hmoved
      exact absurd rfl hmoved
    · rw [hstep] at hmoved ⊢
      obtain hsame | hless := Pair.task_left ReaderKind.nextSample hnow.2 (hkind.trans htask)
      · exact absurd hsame hmoved
      · exact hless
  have hother (now : Broadcast Payloader) (action : Action)
      (hnow : Apart now ∧ now.pair.Stopped) (htask : isTask action = false) :
      (now.next payloader action).pair.stepsLeft ≤ now.pair.stepsLeft := by
    rw [(pair_next payloader hnow.1 action).2]
    obtain hnone | ⟨step, hstep, hkind⟩ := now.pairActions_cases action
    · rw [hnone]
      exact Nat.le_refl _
    · rw [hstep]
      exact Nat.le_of_eq (Pair.owner_left ReaderKind.nextSample (hkind.trans htask))
  have hcount := @count_add_le _ _ _ (fun now => Apart now ∧ now.pair.Stopped) _ isTask
    (fun now => now.pair.stepsLeft) hkeep hlower hother _ ⟨happart, hstopped⟩ _ hmoves
  have haudio := (broadcast.legs .audio).stepsLeft_le
  have hvideo := (broadcast.legs .video).stepsLeft_le
  have hleft : broadcast.pair.stepsLeft =
      (broadcast.legs .audio).stepsLeft + (broadcast.legs .video).stepsLeft := rfl
  omega

/-- What a stop of both legs comes to, in every order of what follows: each passes on
one more frame at the most, the tasks have at most 34 steps left that do anything, and
where none has, both legs have ended exactly if the barrier was before both or before
neither. -/
theorem stop_settles (start : RtpSender Payloader) (bytes : StreamType → Bytes) (onEnd : Bool)
    (before actions : List Action)
    (hstopped : (after (next payloader) (new start bytes onEnd) before).pair.Stopped) :
    let stopped := after (next payloader) (new start bytes onEnd) before
    let last := after (next payloader) stopped actions
    (∀ kind, (last.legs kind).sent.length ≤ (stopped.legs kind).sent.length + 1) ∧
      (Along (next payloader) (Moves payloader) stopped actions →
        (actions.filter isTask).length ≤ 34) ∧
      (last.pair.Quiescent ReaderKind.nextSample →
        ((∀ kind, (last.legs kind).Settled) ↔ stopped.pair.Matched)) := by
  intro stopped last
  have happart : Apart stopped := apart_after payloader (apart_new start bytes onEnd) before
  have hlast := pair_after payloader happart actions
  refine ⟨fun kind => ?_, moves_few payloader happart hstopped, fun hquiescent => ?_⟩
  · have hsent := Pair.sent_after ReaderKind.nextSample hstopped
      (image (next payloader) pairActions stopped actions) kind
    rwa [← hlast] at hsent
  · obtain ⟨hkept, hmatched⟩ := Pair.matched_after ReaderKind.nextSample hstopped
      (image (next payloader) pairActions stopped actions)
    rw [← hlast] at hkept hmatched
    exact (Pair.settled_iff hkept hquiescent).trans hmatched

/-- The audio leg has come to its end and the video leg waits for it. -/
theorem quiescent_of_stranded
    (hreader : ∀ kind, (broadcast.legs kind).readerEnded = true)
    (haudio : (broadcast.legs .audio).Settled)
    (hvideo : (broadcast.legs .video).leg.waits = true) :
    broadcast.pair.Quiescent ReaderKind.nextSample := by
  apply Pair.quiescent_of_still
  · intro kind
    cases kind with
    | audio => exact Playing.still_of_ended (hreader .audio) (.inl haudio)
    | video => exact Playing.still_of_ended (hreader .video) (.inr hvideo)
  · have hgone : (broadcast.legs .audio).leg.waits = false := by
      simp [Leg.waits, haudio.pacing]
    simp [pair, hgone]

/-- The video leg waits at the barrier when both legs are stopped. -/
def stoppedAtBarrier : List Action :=
  List.replicate 5 (.leg .video (.reader false)) ++
    List.replicate 6 (.leg .video (.pacing .proceed)) ++
    [.leg .audio .stopRunning, .leg .video .stopRunning]

/-- The audio leg comes to its end, the video leg's reader too. -/
def audioEnds : List Action :=
  [.leg .audio (.reader false)] ++ List.replicate 5 (.leg .audio (.pacing .proceed)) ++
    [.leg .audio .report, .leg .audio .report] ++
    List.replicate 2 (.leg .video (.reader false))

def caughtAtBarrier : Broadcast UInt16 :=
  after (next vp8Payloader) (new clipSender clip true) stoppedAtBarrier

/-- The video leg is never let go. -/
theorem stop_strands :
    ¬ ∀ kind, ((after (next vp8Payloader) caughtAtBarrier audioEnds).legs kind).Settled := by
  intro hsettled
  have hstopped : caughtAtBarrier.pair.Stopped := fun kind => by cases kind <;> rfl
  have hunmatched : ¬ caughtAtBarrier.pair.Matched := by
    unfold Pair.Matched
    decide
  have hreader (kind : StreamType) :
      ((after (next vp8Payloader) caughtAtBarrier audioEnds).legs kind).readerEnded = true := by
    cases kind <;> decide +kernel
  have hquiescent : (after (next vp8Payloader) caughtAtBarrier audioEnds).pair.Quiescent
      ReaderKind.nextSample :=
    quiescent_of_stranded hreader (by decide +kernel) (by decide +kernel)
  have hall := stop_settles vp8Payloader clipSender clip true stoppedAtBarrier
      audioEnds hstopped
  rw [show after (next vp8Payloader) (new clipSender clip true)
    stoppedAtBarrier = caughtAtBarrier from rfl] at hall
  exact hunmatched ((hall.2.2 hquiescent).mp hsettled)

end Broadcast

end RustTgCalls.Instances
