import RustTgCalls.Library.Fairness
import RustTgCalls.Instances.Broadcast

namespace RustTgCalls.Instances

open Transition Media Wrtc

/-! An undisturbed broadcast comes to its end. -/

namespace Broadcast

variable {Payloader : Type _}

/-- Whose turn a step is. -/
inductive Turn where
  | reader (kind : StreamType)
  | proceed (kind : StreamType)
  | wake (kind : StreamType)
  | report (kind : StreamType)
  | call (kind : StreamType)
  deriving DecidableEq, Repr

/-- A call goes on whatever the clocks read. -/
def turnOf : Action → Option Turn
  | .leg kind (.reader false) => some (.reader kind)
  | .leg kind (.pacing .proceed) => some (.proceed kind)
  | .leg kind (.pacing .slept) => some (.wake kind)
  | .leg kind .report => some (.report kind)
  | .call kind _ _ => some (.call kind)
  | _ => none

/-- Undisturbed and never paused, with a socket that takes every packet. -/
structure Smooth (broadcast : Broadcast Payloader) (action : Action) : Prop where
  undisturbed : Undisturbed broadcast action
  carried : Carried broadcast action
  unpaused : ∀ kind, action ≠ .leg kind .pause

def Completed (broadcast : Broadcast Payloader) : Prop :=
  ∀ kind, (broadcast.legs kind).reportAt = .returned ∧
    broadcast.flight.calls kind = .idle

/-! The calls in flight. -/

/-- How far reports are from being out. -/
def reportRank : EmitAt → Nat
  | .sendTo due _ => due.length
  | .address _ => 3
  | .loads due _ => due.length + 4
  | .epoch => ReportField.all.length + 5

def stageRank : SendStage → Nat × Nat
  | .idle => (0, 0)
  | .returned => (0, 1)
  | .transmit packets => (1, 3 * packets.length)
  | .encrypt _ _ _ => (2, 0)
  | .address _ _ _ => (3, 0)
  | .packetize _ _ _ => (4, 0)
  | .stamp _ => (5, 0)
  | .senderReports _ _ => (7, 0)
  | .mediaEpoch _ => (8, 0)
  | .testClosed _ => (9, 0)

/-- How far a call is from its return, and the steps within its reports or with the
packets that it has still to send and to count. -/
def callRank : CallAt → Nat × Nat
  | .sending stage => stageRank stage
  | .reporting _ report => (6, reportRank report)
  | .countPacket _ rest => (1, 3 * rest.length + 2)
  | .countOctets _ rest => (1, 3 * rest.length + 1)

def StageLess : Nat × Nat → Nat × Nat → Prop := Prod.Lex (· < ·) (· < ·)

theorem stageLess_of_lt {first second : Nat × Nat} (hlt : first.1 < second.1) :
    StageLess first second :=
  Prod.lex_def.mpr (.inl hlt)

theorem stageLess_of_eq {first second : Nat × Nat} (hsame : first.1 = second.1)
    (hlt : first.2 < second.2) : StageLess first second :=
  Prod.lex_def.mpr (.inr ⟨hsame, hlt⟩)

theorem turn_lowers (payloader : Payloader → Nat → Bytes → List Bytes × Payloader)
    (sender : RtpSender Payloader) (readings : Readings) {stage : SendStage}
    (hwhole : InFlight.Whole stage) (hflight : stage ≠ .idle) :
    StageLess (stageRank (InFlight.settled (Channel.turn payloader sender readings stage).2))
      (stageRank stage) := by
  cases stage with
  | idle => exact absurd rfl hflight
  | testClosed args =>
      apply stageLess_of_lt
      simp only [Channel.turn]
      split <;> simp [InFlight.settled, stageRank]
  | mediaEpoch args =>
      apply stageLess_of_lt
      simp only [Channel.turn]
      split <;> simp [InFlight.settled, stageRank]
  | senderReports args justStarted =>
      apply stageLess_of_lt
      simp [Channel.turn, InFlight.settled, stageRank]
  | stamp args =>
      apply stageLess_of_lt
      simp only [Channel.turn]
      split <;> simp [InFlight.settled, stageRank]
  | packetize payload ts ntp =>
      apply stageLess_of_lt
      simp only [Channel.turn]
      split <;> simp [InFlight.settled, stageRank]
  | address chunks ts ntp =>
      apply stageLess_of_lt
      simp only [Channel.turn]
      split <;> simp [InFlight.settled, stageRank]
  | encrypt chunks ts ntp =>
      apply stageLess_of_lt
      simp only [Channel.turn]
      split <;> simp [InFlight.settled, stageRank]
  | transmit packets =>
      obtain rfl : packets = [] := hwhole
      exact stageLess_of_lt (by simp [Channel.turn, InFlight.settled, stageRank])
  | returned =>
      exact stageLess_of_eq rfl (by simp [Channel.turn, InFlight.settled, stageRank])

theorem report_lowers (sender : RtpSender Payloader) (counted : StreamType → Nat)
    (ntp : UInt64) (worker : Bool) {report after : EmitAt}
    (hnext : report.next sender counted ntp worker = some after) :
    reportRank after < reportRank report := by
  cases report with
  | epoch =>
      simp only [EmitAt.next, Option.ite_none_right_eq_some, Option.some.injEq] at hnext
      obtain ⟨_, rfl⟩ := hnext
      exact Nat.lt_succ_self _
  | loads due draft =>
      cases due with
      | nil =>
          simp only [EmitAt.next, Option.ite_none_right_eq_some, Option.some.injEq] at hnext
          obtain ⟨_, rfl⟩ := hnext
          cases worker <;> simp [reportRank]
      | cons load due =>
          obtain rfl := Option.some.inj hnext
          simp [reportRank]
  | address draft =>
      simp only [EmitAt.next, Option.ite_none_right_eq_some, Option.some.injEq] at hnext
      obtain ⟨_, rfl⟩ := hnext
      simp [reportRank]
  | sendTo due draft =>
      cases due with
      | nil => cases hnext
      | cons track due =>
          obtain rfl := Option.some.inj hnext
          simp [reportRank]

/-- A call in flight comes nearer to its return in each of its steps. -/
theorem step_lowers {payloader : Payloader → Nat → Bytes → List Bytes × Payloader}
    {flight moved : InFlight Payloader} {kind : StreamType} {readings : Readings} {taken : Bool}
    (hstepped : InFlight.Stepped payloader flight kind readings taken moved)
    (hflight : flight.calls kind ≠ .idle) :
    StageLess (callRank (moved.calls kind)) (callRank (flight.calls kind)) := by
  cases hstepped with
  | turn hcall hwhole =>
      rw [hcall] at hflight ⊢
      have hlowers := turn_lowers payloader flight.sender readings hwhole
        fun hidle => hflight (hidle ▸ rfl)
      simpa [InFlight.goOn, callRank] using hlowers
  | begin hcall =>
      rw [hcall]
      exact stageLess_of_lt (by simp [InFlight.goOn, callRank, stageRank])
  | @report args report hcall =>
      rw [hcall]
      simp only [InFlight.goOn, Function.update_self]
      cases hnext : report.next flight.sender flight.counted readings.reportNtp false with
      | none => exact stageLess_of_lt (by simp [InFlight.resumed, callRank, stageRank])
      | some after =>
          exact stageLess_of_eq rfl
            (report_lowers flight.sender flight.counted readings.reportNtp false hnext)
  | handOver hcall =>
      rw [hcall]
      refine stageLess_of_eq (by simp [InFlight.goOn, callRank, stageRank]) ?_
      simp [InFlight.goOn, callRank, stageRank]
      omega
  | countPacket hcall =>
      rw [hcall]
      exact stageLess_of_eq (by simp [InFlight.goOn, callRank])
        (by simp [InFlight.goOn, callRank])
  | countOctets hcall =>
      rw [hcall]
      exact stageLess_of_eq (by simp [InFlight.goOn, callRank, stageRank])
        (by simp [InFlight.goOn, callRank, stageRank])

/-! The barrier, in a run that is never paused. -/

/-- The barrier has let the leg go. -/
def passed (leg : Leg ReaderKind) : Bool :=
  match leg.pacingAt with
  | .released _ => true
  | _ => !leg.firstSample

/-- On its way to the barrier a leg sends nothing. -/
structure Armed (playing : Playing ReaderKind) : Prop where
  syncBarrier : playing.syncBarrier = true
  unpaused : playing.leg.paused = false
  running : playing.leg.pacingAt ≠ .pausedRunning ∧ playing.leg.pacingAt ≠ .notified
  before : passed playing.leg = false → playing.sent = [] ∧
    ∀ sample, playing.leg.pacingAt ≠ .sendRtp sample
  waiting : playing.leg.waits = true → passed playing.leg = false

theorem armed_new (reader : ReaderKind) (onEnd : Bool) : Armed (.new reader true onEnd) where
  syncBarrier := rfl
  unpaused := rfl
  running := ⟨by simp [Playing.new, Leg.new], by simp [Playing.new, Leg.new]⟩
  before := fun _ => ⟨rfl, by simp [Playing.new, Leg.new]⟩
  waiting := fun hwaits => by simp [Playing.new, Leg.new, Leg.waits] at hwaits

section Armed

variable {playing moved : Playing ReaderKind}

theorem Armed.congr (harmed : Armed playing) (hbarrier : moved.syncBarrier = playing.syncBarrier)
    (hpaused : moved.leg.paused = playing.leg.paused)
    (hat : moved.leg.pacingAt = playing.leg.pacingAt)
    (hfirst : moved.leg.firstSample = playing.leg.firstSample)
    (hsent : moved.sent = playing.sent) : Armed moved := by
  obtain ⟨hsync, hunpaused, hrunning, hbefore, hwaiting⟩ := harmed
  have hpassed : passed moved.leg = passed playing.leg := by simp [passed, hat, hfirst]
  have hwaits : moved.leg.waits = playing.leg.waits := by simp [Leg.waits, hat]
  exact ⟨by rwa [hbarrier], by rwa [hpaused], by rwa [hat], by rwa [hpassed, hsent, hat],
    by rwa [hwaits, hpassed]⟩

/-- Neither at the barrier, nor behind it with a sample, nor in the pause loop. -/
def plain : PacingAt → Bool
  | .released _ | .pausedRunning | .notified | .sendRtp _ | .barrierWait _ => false
  | _ => true

/-- Where a step of the pacing task may lead. -/
structure Leads (leg moved : Leg ReaderKind) : Prop where
  firstSample : moved.firstSample = leg.firstSample
  place : plain moved.pacingAt = true ∨
    (∃ sample, moved.pacingAt = .barrierWait sample ∧ leg.firstSample = true) ∨
      ∃ sample, moved.pacingAt = .sendRtp sample ∧ leg.firstSample = false

theorem passed_eq {leg : Leg ReaderKind} (hreleased : ∀ sample, leg.pacingAt ≠ .released sample) :
    passed leg = !leg.firstSample := by
  unfold passed
  split
  next sample hat => exact absurd hat (hreleased sample)
  next => rfl

theorem firstSample_joinStep (leg : Leg ReaderKind) (slept received : Bool)
    (input : PacingInput) (hat : leg.pacingAt = .join slept received) :
    (leg.joinStep slept received input).firstSample = leg.firstSample ∧
      ((leg.joinStep slept received input).pacingAt = .whileRunning ∨
        ∃ asleep awaited, (leg.joinStep slept received input).pacingAt =
          .join asleep awaited) := by
  have hjoined (other : Leg ReaderKind) (first second : Bool)
      (hfirst : other.firstSample = leg.firstSample) :
      (other.joined first second).firstSample = leg.firstSample ∧
        ((other.joined first second).pacingAt = .whileRunning ∨
          ∃ asleep awaited, (other.joined first second).pacingAt = .join asleep awaited) := by
    unfold Leg.joined
    split
    · exact ⟨hfirst, .inl rfl⟩
    · exact ⟨hfirst, .inr ⟨first, second, rfl⟩⟩
  unfold Leg.joinStep
  split
  next => exact hjoined leg true received rfl
  next => exact ⟨rfl, .inr ⟨slept, _, hat⟩⟩
  next =>
    split
    next hrecv => exact hjoined _ slept true (Leg.recv_some hrecv).2.1
    next => exact ⟨rfl, .inr ⟨slept, _, hat⟩⟩

theorem leads_pacingLeg (harmed : Armed playing) (input : PacingInput)
    (hreleased : ∀ sample, playing.leg.pacingAt ≠ .released sample) :
    Leads playing.leg (playing.pacingLeg input) := by
  have hunpaused := harmed.unpaused
  cases hat : playing.leg.pacingAt with
  | released sample => exact absurd hat (hreleased sample)
  | pausedRunning => exact absurd hat harmed.running.1
  | notified => exact absurd hat harmed.running.2
  | barrierWait sample =>
      have hfirst : playing.leg.firstSample = true := by
        have hbefore := harmed.waiting (by simp [Leg.waits, hat])
        rw [passed_eq hreleased] at hbefore
        simpa using hbefore
      have hstays : playing.pacingLeg input = playing.leg := by
        simp [Playing.pacingLeg, Leg.pacingStep, hat]
      rw [hstays]
      exact ⟨rfl, .inr (.inl ⟨sample, hat, hfirst⟩)⟩
  | ifFirst sample =>
      cases hfirst : playing.leg.firstSample with
      | true =>
          have hafter : playing.pacingLeg input =
              { playing.leg with pacingAt := .barrierWait sample } := by
            simp [Playing.pacingLeg, hat, hfirst, harmed.syncBarrier]
          rw [hafter]
          exact ⟨rfl, .inr (.inl ⟨sample, rfl, hfirst⟩)⟩
      | false =>
          have hafter : playing.pacingLeg input =
              { playing.leg with pacingAt := .sendRtp sample } := by
            simp [Playing.pacingLeg, Leg.pacingStep, hat, hfirst]
          rw [hafter]
          exact ⟨rfl, .inr (.inr ⟨sample, rfl, hfirst⟩)⟩
  | join slept received =>
      have hafter : playing.pacingLeg input = playing.leg.joinStep slept received input := by
        simp [Playing.pacingLeg, Leg.pacingStep, hat]
      obtain ⟨hfirst, hplace⟩ := firstSample_joinStep playing.leg slept received input hat
      rw [hafter]
      refine ⟨hfirst, .inl ?_⟩
      obtain hplace | ⟨asleep, awaited, hplace⟩ := hplace <;> rw [hplace] <;> rfl
  | firstRecv =>
      simp only [Playing.pacingLeg, Leg.pacingStep, hat]
      split
      next hrecv => exact ⟨(Leg.recv_some hrecv).2.1, .inl rfl⟩
      next => exact ⟨rfl, .inl (by rw [hat]; rfl)⟩
  | take =>
      simp only [Playing.pacingLeg, Leg.pacingStep, hat]
      split <;> exact ⟨rfl, .inl rfl⟩
  | sendRtp sample =>
      simp only [Playing.pacingLeg, Leg.pacingStep, hat]
      split <;> exact ⟨rfl, .inl rfl⟩
  | whilePaused =>
      have hafter : playing.pacingLeg input = { playing.leg with pacingAt := .ifRunning } := by
        simp [Playing.pacingLeg, Leg.pacingStep, hat, hunpaused]
      rw [hafter]
      exact ⟨rfl, .inl rfl⟩
  | whileRunning | ifRunning =>
      cases hrunning : playing.leg.running <;>
        exact ⟨by simp [Playing.pacingLeg, Leg.pacingStep, hat],
          .inl (by simp [Playing.pacingLeg, Leg.pacingStep, hat, hrunning, plain])⟩
  | account sample | finish | ended =>
      exact ⟨by simp [Playing.pacingLeg, Leg.pacingStep, hat],
        .inl (by simp [Playing.pacingLeg, Leg.pacingStep, hat, plain])⟩

theorem Armed.pacing (harmed : Armed playing) (input : PacingInput) :
    Armed (playing.pacing input) ∧ passed (playing.pacing input).leg = passed playing.leg := by
  have hpaused : (playing.pacing input).leg.paused = playing.leg.paused :=
    (playing.sameReader_pacingLeg input).paused
  by_cases hreleased : ∃ sample, playing.leg.pacingAt = .released sample
  · obtain ⟨sample, hat⟩ := hreleased
    have hafter : (playing.pacing input).leg =
        { playing.leg with firstSample := false, pacingAt := .sendRtp sample } := by
      simp [Playing.pacing, Playing.pacingLeg, Leg.pacingStep, hat]
    have hpassed : passed (playing.pacing input).leg = true := by simp [hafter, passed]
    refine ⟨⟨harmed.syncBarrier, hpaused.trans harmed.unpaused, ?_, ?_, ?_⟩, ?_⟩
    · simp [hafter]
    · simp [hpassed]
    · simp [hafter, Leg.waits]
    · rw [hpassed, passed, hat]
  · have hreleased (sample : Sample) : playing.leg.pacingAt ≠ .released sample :=
      fun hat => hreleased ⟨sample, hat⟩
    obtain ⟨hfirst, hplace⟩ := leads_pacingLeg harmed input hreleased
    have hsame : passed (playing.pacing input).leg = passed playing.leg := by
      have hreleased' (sample : Sample) :
          (playing.pacing input).leg.pacingAt ≠ .released sample := by
        intro hat
        have hat : (playing.pacingLeg input).pacingAt = .released sample := hat
        rw [hat] at hplace
        simp [plain] at hplace
      rw [passed_eq hreleased, passed_eq hreleased']
      exact congrArg (!·) hfirst
    have hbefore (hbefore : passed playing.leg = false) : (playing.pacing input).sent = [] := by
      obtain ⟨hsent, hnot⟩ := harmed.before hbefore
      have hnothing : Playing.passing playing.leg = none := by
        unfold Playing.passing
        split
        next sample hat => exact absurd hat (hnot sample)
        next => rfl
      simp [Playing.pacing, hnothing, hsent]
    refine ⟨⟨harmed.syncBarrier, hpaused.trans harmed.unpaused, ⟨fun hat => ?_, fun hat => ?_⟩,
      fun hnow => ?_, fun hwaits => ?_⟩, hsame⟩
    · have hat : (playing.pacingLeg input).pacingAt = .pausedRunning := hat
      rw [hat] at hplace
      simp [plain] at hplace
    · have hat : (playing.pacingLeg input).pacingAt = .notified := hat
      rw [hat] at hplace
      simp [plain] at hplace
    · rw [hsame] at hnow
      refine ⟨hbefore hnow, fun sample hat => ?_⟩
      have hat : (playing.pacingLeg input).pacingAt = .sendRtp sample := hat
      rw [passed_eq hreleased] at hnow
      rw [hat] at hplace
      simp_all [plain]
    · rw [hsame, passed_eq hreleased]
      have hwaits : (playing.pacingLeg input).waits = true := hwaits
      unfold Leg.waits at hwaits
      split at hwaits
      next sample hat =>
        rw [hat] at hplace
        simp_all [plain]
      next => cases hwaits

theorem Armed.release (harmed : Armed playing) :
    Armed (playing.next ReaderKind.nextSample .release) ∧
      passed (playing.next ReaderKind.nextSample .release).leg =
        (passed playing.leg || playing.leg.waits) ∧
      (playing.next ReaderKind.nextSample .release).leg.waits = false := by
  simp only [Playing.next, Leg.release]
  split
  next sample hat =>
    refine ⟨⟨harmed.syncBarrier, harmed.unpaused, by simp, ?_, ?_⟩, ?_, ?_⟩
    · simp [passed]
    · simp [Leg.waits]
    · simp [passed, Leg.waits, hat]
    · simp [Leg.waits]
  next hat =>
    have hwaits : playing.leg.waits = false := by
      unfold Leg.waits
      split
      next sample hwaits => exact absurd hwaits (hat sample)
      next => rfl
    exact ⟨harmed, by simp [hwaits], hwaits⟩

/-- Every other step but a pause leaves the place of the pacing task alone. -/
theorem Armed.aside (harmed : Armed playing) {action : Playing.Action}
    (hpacing : ∀ input, action ≠ .pacing input) (hrelease : action ≠ .release)
    (hpause : action ≠ .pause) :
    Armed (playing.next ReaderKind.nextSample action) ∧
      (playing.next ReaderKind.nextSample action).leg.pacingAt = playing.leg.pacingAt ∧
        (playing.next ReaderKind.nextSample action).leg.firstSample =
          playing.leg.firstSample := by
  cases action with
  | pacing input => exact absurd rfl (hpacing input)
  | release => exact absurd rfl hrelease
  | pause => exact absurd rfl hpause
  | reader stalled =>
      have hsame := Leg.samePacing_readerStep ReaderKind.nextSample playing.leg stalled
      have hpaused := (Leg.paused_readerStep ReaderKind.nextSample playing.leg stalled).1
      exact ⟨harmed.congr rfl hpaused hsame.pacingAt hsame.firstSample rfl, hsame.pacingAt,
        hsame.firstSample⟩
  | report =>
      obtain ⟨hleg, hsent, _⟩ := playing.report_frame
      have hbarrier : playing.report.syncBarrier = playing.syncBarrier := by
        unfold Playing.report
        split <;> rfl
      exact ⟨harmed.congr hbarrier (congrArg Leg.paused hleg) (congrArg Leg.pacingAt hleg)
        (congrArg Leg.firstSample hleg) hsent, congrArg Leg.pacingAt hleg,
        congrArg Leg.firstSample hleg⟩
  | resume => exact ⟨harmed.congr rfl harmed.unpaused.symm rfl rfl rfl, rfl, rfl⟩
  | clearOnEnd => exact ⟨harmed.congr rfl rfl rfl rfl rfl, rfl, rfl⟩
  | stopRunning => exact ⟨harmed.congr rfl rfl rfl rfl rfl, rfl, rfl⟩

end Armed

/-! Both legs go together. -/

structure Together (broadcast : Broadcast Payloader) : Prop where
  armed : ∀ kind, Armed (broadcast.legs kind)
  passed : passed (broadcast.legs .audio).leg = passed (broadcast.legs .video).leg
  apart : ((broadcast.legs .audio).leg.waits && (broadcast.legs .video).leg.waits) = false

section Together

variable {broadcast : Broadcast Payloader}

theorem together_new (sender : RtpSender Payloader) (bytes : StreamType → Bytes)
    (onEnd : Bool) : Together (new sender bytes onEnd) where
  armed := fun _ => armed_new _ onEnd
  passed := rfl
  apart := rfl

theorem meet_apart (hapart :
      ((broadcast.legs .audio).leg.waits && (broadcast.legs .video).leg.waits) = false) :
    broadcast.meet = broadcast := by
  rw [meet, hapart]
  rfl

@[simp] theorem legs_play (kind other : StreamType) (action : Playing.Action) :
    (broadcast.play kind action).legs other =
      if other = kind then (broadcast.legs kind).next ReaderKind.nextSample action
      else broadcast.legs other := by
  exact Function.update_apply _ _ _ _

@[simp] theorem flight_play (kind : StreamType) (action : Playing.Action) :
    (broadcast.play kind action).flight = broadcast.flight := rfl

/-- Legs that are armed and have passed the barrier together leave it together. -/
theorem together_meet (harmed : ∀ kind, Armed (broadcast.legs kind))
    (hpassed : Broadcast.passed (broadcast.legs .audio).leg =
      Broadcast.passed (broadcast.legs .video).leg) : Together broadcast.meet := by
  unfold meet
  split
  next hboth =>
    obtain ⟨haudio, hvideo⟩ := Bool.and_eq_true_iff.mp hboth
    have hreleased (kind : StreamType) := (harmed kind).release
    constructor
    case armed =>
      intro kind
      cases kind with
      | audio => simpa using (hreleased .audio).1
      | video => simpa using (hreleased .video).1
    case passed =>
      have hfirst := (hreleased .audio).2.1
      have hsecond := (hreleased .video).2.1
      simp [hfirst, hsecond, haudio, hvideo]
    case apart =>
      have hfirst := (hreleased .audio).2.2
      simp [hfirst]
  next hapart => exact ⟨harmed, hpassed, Bool.eq_false_iff.mpr hapart⟩

theorem legs_pace (kind other : StreamType) (input : PacingInput) :
    (broadcast.pace kind input).legs other =
      if other = kind ∧ broadcast.flight.calls kind = .idle then
        (broadcast.legs kind).pacing input
      else broadcast.legs other := by
  unfold pace
  split
  next hidle =>
    have hplayed : (broadcast.play kind (.pacing input)).legs other =
        if other = kind then (broadcast.legs kind).pacing input
        else broadcast.legs other := legs_play kind other _
    simp only [hidle, and_true]
    split <;> exact hplayed
  next hbusy => rw [if_neg fun hand => hbusy hand.2]

theorem Together.aside (htogether : Together broadcast) (kind : StreamType)
    {action : Playing.Action} (hpacing : ∀ input, action ≠ .pacing input)
    (hrelease : action ≠ .release) (hpause : action ≠ .pause) :
    Together (broadcast.play kind action) := by
  have hplayed := (htogether.armed kind).aside hpacing hrelease hpause
  have hkept (other : StreamType) : Armed ((broadcast.play kind action).legs other) ∧
      Broadcast.passed ((broadcast.play kind action).legs other).leg =
        Broadcast.passed (broadcast.legs other).leg ∧
      ((broadcast.play kind action).legs other).leg.waits =
        (broadcast.legs other).leg.waits := by
    rw [legs_play]
    split
    next hsame =>
      obtain ⟨harmed, hat, hfirst⟩ := hplayed
      subst hsame
      exact ⟨harmed, by simp [Broadcast.passed, hat, hfirst], by simp [Leg.waits, hat]⟩
    next => exact ⟨htogether.armed other, rfl, rfl⟩
  constructor
  case armed => exact fun other => (hkept other).1
  case passed => rw [(hkept .audio).2.1, (hkept .video).2.1, htogether.passed]
  case apart => rw [(hkept .audio).2.2, (hkept .video).2.2, htogether.apart]

theorem together_next {payloader : Payloader → Nat → Bytes → List Bytes × Payloader}
    (broadcast : Broadcast Payloader) (action : Action) (htogether : Together broadcast)
    (hsmooth : Smooth broadcast action) : Together (broadcast.next payloader action) := by
  cases action with
  | leg kind action =>
      have hunpaused := hsmooth.unpaused kind
      cases action with
      | pacing input =>
          have hkept (other : StreamType) : Armed ((broadcast.pace kind input).legs other) ∧
              Broadcast.passed ((broadcast.pace kind input).legs other).leg =
                Broadcast.passed (broadcast.legs other).leg := by
            rw [legs_pace]
            split
            next hsame =>
              obtain ⟨rfl, _⟩ := hsame
              exact (htogether.armed other).pacing input
            next => exact ⟨htogether.armed other, rfl⟩
          apply together_meet
          · exact fun other => (hkept other).1
          · rw [(hkept .audio).2, (hkept .video).2, htogether.passed]
      | release => exact htogether
      | pause => exact absurd rfl hunpaused
      | reader stalled => exact htogether.aside kind (by simp) (by simp) (by simp)
      | report => exact htogether.aside kind (by simp) (by simp) (by simp)
      | resume => exact htogether.aside kind (by simp) (by simp) (by simp)
      | clearOnEnd => exact htogether.aside kind (by simp) (by simp) (by simp)
      | stopRunning => exact htogether.aside kind (by simp) (by simp) (by simp)
  | call kind readings taken => exact ⟨htogether.1, htogether.2, htogether.3⟩
  | rtcpTimer ntp => exact ⟨htogether.1, htogether.2, htogether.3⟩

end Together

/-! What is left to do. -/

section Work

variable {samples : StreamType → List Sample} {broadcast moved : Broadcast Payloader}
  {payloader : Payloader → Nat → Bytes → List Bytes × Payloader}

def workOf (samples : StreamType → List Sample) (broadcast : Broadcast Payloader) : Nat :=
  Playing.work (samples .audio) (broadcast.legs .audio) +
    Playing.work (samples .video) (broadcast.legs .video)

/-- The work of the legs, then the calls in flight. -/
def remaining (samples : StreamType → List Sample) (broadcast : Broadcast Payloader) :
    Nat × ((Nat × Nat) × (Nat × Nat)) :=
  (workOf samples broadcast,
    (callRank (broadcast.flight.calls .audio), callRank (broadcast.flight.calls .video)))

def Less : Nat × ((Nat × Nat) × (Nat × Nat)) → Nat × ((Nat × Nat) × (Nat × Nat)) → Prop :=
  Prod.Lex (· < ·) (Prod.Lex StageLess StageLess)

theorem less_wellFounded : WellFounded Less := by
  have hstage : WellFounded StageLess := WellFounded.prod_lex Nat.lt_wfRel.wf Nat.lt_wfRel.wf
  exact WellFounded.prod_lex Nat.lt_wfRel.wf (WellFounded.prod_lex hstage hstage)

theorem less_of_workOf (hless : workOf samples moved < workOf samples broadcast) :
    Less (remaining samples moved) (remaining samples broadcast) :=
  Prod.lex_def.mpr (.inl hless)

theorem workOf_lt (kind : StreamType)
    (hless : Playing.work (samples kind) (moved.legs kind) <
      Playing.work (samples kind) (broadcast.legs kind))
    (hother : ∀ other, other ≠ kind → moved.legs other = broadcast.legs other) :
    workOf samples moved < workOf samples broadcast := by
  cases kind with
  | audio =>
      have hvideo := hother .video (by decide)
      rw [workOf, workOf, hvideo]
      omega
  | video =>
      have haudio := hother .audio (by decide)
      rw [workOf, workOf, haudio]
      omega

theorem workOf_meet : workOf samples broadcast.meet ≤ workOf samples broadcast := by
  unfold meet
  split
  next hboth =>
    have hreleased (kind : StreamType) (hwaits : (broadcast.legs kind).leg.waits = true) :
        Playing.work (samples kind)
            ((broadcast.legs kind).next ReaderKind.nextSample .release) <
          Playing.work (samples kind) (broadcast.legs kind) := by
      unfold Leg.waits at hwaits
      split at hwaits
      next sample hat => exact Playing.release_advances hat
      next => cases hwaits
    obtain ⟨haudio, hvideo⟩ := Bool.and_eq_true_iff.mp hboth
    have hfirst := hreleased .audio haudio
    have hsecond := hreleased .video hvideo
    simp only [workOf, legs_play]
    simp only [reduceCtorEq, if_false, if_true]
    omega
  next => exact Nat.le_refl _

/-- Only the sender may have moved. -/
structure SameTasks (broadcast moved : Broadcast Payloader) : Prop where
  legs : moved.legs = broadcast.legs
  calls : moved.flight.calls = broadcast.flight.calls

theorem SameTasks.remaining (hsame : SameTasks broadcast moved) :
    remaining samples moved = remaining samples broadcast := by
  simp only [Broadcast.remaining, workOf, hsame.legs, hsame.calls]

theorem sameTasks_play {kind : StreamType} {action : Playing.Action}
    (hstays : (broadcast.legs kind).next ReaderKind.nextSample action = broadcast.legs kind) :
    SameTasks broadcast (broadcast.play kind action) where
  legs := by
    funext other
    rw [legs_play, hstays]
    split
    next hother => rw [hother]
    next => rfl
  calls := rfl

theorem call_less (kind : StreamType) (readings : Readings) (taken : Bool)
    (hflight : broadcast.flight.calls kind ≠ .idle) :
    Less (remaining samples (broadcast.next payloader (.call kind readings taken)))
      (remaining samples broadcast) := by
  have hstepped := InFlight.stepped_step payloader broadcast.flight kind readings taken
  have hlowers := step_lowers hstepped hflight
  refine Prod.lex_def.mpr (.inr ⟨rfl, Prod.lex_def.mpr ?_⟩)
  cases kind with
  | audio => exact .inl hlowers
  | video =>
      have haudio : (broadcast.flight.step payloader .video readings taken).calls .audio =
          broadcast.flight.calls .audio :=
        hstepped.calls (by decide)
      refine .inr ⟨?_, hlowers⟩
      simp only [remaining, next, haudio]

theorem pace_less {kind : StreamType} {input : PacingInput}
    (hidle : broadcast.flight.calls kind = .idle)
    (hless : Playing.work (samples kind) ((broadcast.legs kind).pacing input) <
      Playing.work (samples kind) (broadcast.legs kind)) :
    Less (remaining samples (broadcast.next payloader (.leg kind (.pacing input))))
      (remaining samples broadcast) := by
  apply less_of_workOf
  have hpaced : workOf samples (broadcast.pace kind input) < workOf samples broadcast := by
    refine workOf_lt kind ?_ fun other hother => ?_
    · rw [legs_pace, if_pos ⟨rfl, hidle⟩]
      exact hless
    · rw [legs_pace, if_neg fun hsame => hother hsame.1]
  exact Nat.lt_of_le_of_lt workOf_meet hpaced

theorem play_less {kind : StreamType} {action : Playing.Action}
    (hless : Playing.work (samples kind)
        ((broadcast.legs kind).next ReaderKind.nextSample action) <
      Playing.work (samples kind) (broadcast.legs kind)) :
    Less (remaining samples (broadcast.play kind action)) (remaining samples broadcast) := by
  apply less_of_workOf
  refine workOf_lt kind ?_ fun other hother => ?_
  · rw [legs_play, if_pos rfl]
    exact hless
  · rw [legs_play, if_neg hother]

theorem leg_advances (hrunning : Running samples broadcast) (htogether : Together broadcast)
    {kind : StreamType} {action : Playing.Action}
    (hundisturbed : Playing.Undisturbed (broadcast.legs kind) action) (hpause : action ≠ .pause) :
    Playing.Advances (samples kind) (broadcast.legs kind)
      ((broadcast.legs kind).next ReaderKind.nextSample action) := by
  have harmed := htogether.armed kind
  refine (hrunning kind).advances hundisturbed harmed.unpaused ?_
  cases action with
  | pacing input => exact (harmed.pacing input).1.unpaused
  | release => exact harmed.release.1.unpaused
  | pause => exact absurd rfl hpause
  | reader stalled => exact (harmed.aside (by simp) (by simp) (by simp)).1.unpaused
  | report => exact (harmed.aside (by simp) (by simp) (by simp)).1.unpaused
  | resume => exact (harmed.aside (by simp) (by simp) (by simp)).1.unpaused
  | clearOnEnd => exact (harmed.aside (by simp) (by simp) (by simp)).1.unpaused
  | stopRunning => exact (harmed.aside (by simp) (by simp) (by simp)).1.unpaused

/-- A pacing task that stays where it is has passed nothing on. -/
theorem sameTasks_pace (htogether : Together broadcast) {kind : StreamType}
    {input : PacingInput} (hidle : broadcast.flight.calls kind = .idle)
    (hstays : (broadcast.legs kind).pacing input = broadcast.legs kind) :
    SameTasks broadcast (broadcast.pace kind input).meet := by
  have hnothing : Playing.passing (broadcast.legs kind).leg = none := by
    have hsent := congrArg Playing.sent hstays
    simpa [Playing.pacing] using hsent
  have hpace : broadcast.pace kind input = broadcast.play kind (.pacing input) := by
    simp [pace, hidle, hnothing]
  have hsame : SameTasks broadcast (broadcast.play kind (.pacing input)) :=
    sameTasks_play hstays
  rw [hpace, meet_apart (by rw [hsame.legs]; exact htogether.apart)]
  exact hsame

theorem pace_busy {kind : StreamType} (input : PacingInput)
    (hbusy : broadcast.flight.calls kind ≠ .idle) : broadcast.pace kind input = broadcast := by
  unfold pace
  split
  next hidle => exact absurd hidle hbusy
  next => rfl

theorem sameTasks_call {kind : StreamType} (readings : Readings) (taken : Bool)
    (hidle : broadcast.flight.calls kind = .idle) :
    SameTasks broadcast (broadcast.next payloader (.call kind readings taken)) where
  legs := rfl
  calls := by
    have hstays : Function.update broadcast.flight.calls kind .idle = broadcast.flight.calls := by
      rw [← hidle, Function.update_eq_self]
    simp [next, InFlight.step, hidle, InFlight.goOn, Channel.turn, InFlight.settled, hstays]

/-- A smooth step does work, or leaves all tasks where they are. -/
theorem smooth_step (hrunning : Running samples broadcast) (htogether : Together broadcast)
    {action : Action} (hsmooth : Smooth broadcast action) :
    Less (remaining samples (broadcast.next payloader action)) (remaining samples broadcast) ∨
      SameTasks broadcast (broadcast.next payloader action) := by
  have hplays (kind : StreamType) (action : Playing.Action)
      (hundisturbed : Playing.Undisturbed (broadcast.legs kind) action)
      (hpause : action ≠ .pause) :
      Less (remaining samples (broadcast.play kind action)) (remaining samples broadcast) ∨
        SameTasks broadcast (broadcast.play kind action) := by
    obtain hstays | hless := leg_advances hrunning htogether hundisturbed hpause
    · exact .inr (sameTasks_play hstays)
    · exact .inl (play_less hless)
  cases action with
  | leg kind action =>
      have hundisturbed : Playing.Undisturbed (broadcast.legs kind) action := hsmooth.undisturbed
      have hpause : action ≠ .pause := fun hsame => hsmooth.unpaused kind (hsame ▸ rfl)
      cases action with
      | pacing input =>
          by_cases hidle : broadcast.flight.calls kind = .idle
          · obtain hstays | hless := leg_advances hrunning htogether hundisturbed hpause
            · exact .inr (sameTasks_pace htogether hidle hstays)
            · exact .inl (pace_less hidle hless)
          · refine .inr ?_
            simp only [next, pace_busy input hidle, meet_apart htogether.apart]
            exact ⟨rfl, rfl⟩
      | release => exact .inr ⟨rfl, rfl⟩
      | pause => exact absurd rfl hpause
      | reader stalled => exact hplays kind _ hundisturbed hpause
      | report => exact hplays kind _ hundisturbed hpause
      | resume => exact hplays kind _ hundisturbed hpause
      | clearOnEnd => exact hplays kind _ hundisturbed hpause
      | stopRunning => exact hplays kind _ hundisturbed hpause
  | call kind readings taken =>
      by_cases hidle : broadcast.flight.calls kind = .idle
      · exact .inr (sameTasks_call readings taken hidle)
      · exact .inl (call_less kind readings taken hidle)
  | rtcpTimer ntp => exact .inr ⟨rfl, InFlight.calls_rtcpTimer broadcast.flight ntp⟩

/-- A turn of a leg that does work, the barrier apart. -/
def Helps (samples : StreamType → List Sample) (legs : StreamType → Playing ReaderKind)
    (turn : Turn) : Prop :=
  ∃ kind action, turnOf (.leg kind action) = some turn ∧
    Playing.work (samples kind) ((legs kind).next ReaderKind.nextSample action) <
      Playing.work (samples kind) (legs kind)

open Classical in
/-- Calls in flight go on first. -/
noncomputable def helpful (samples : StreamType → List Sample)
    (legs : StreamType → Playing ReaderKind) (calls : StreamType → CallAt) : Option Turn :=
  if calls .audio ≠ .idle then some (.call .audio)
  else if calls .video ≠ .idle then some (.call .video)
  else if helps : ∃ turn, Helps samples legs turn then some helps.choose
  else some (.call .audio)

theorem isSome_helpful (legs : StreamType → Playing ReaderKind)
    (calls : StreamType → CallAt) : (helpful samples legs calls).isSome = true := by
  unfold helpful
  split
  · rfl
  · split
    · rfl
    · split <;> rfl

theorem turnOf_leg {kind : StreamType} {action : Playing.Action} {turn : Turn}
    (hturn : turnOf (.leg kind action) = some turn) {other : Action}
    (hother : turnOf other = some turn) : other = .leg kind action := by
  unfold turnOf at hturn hother
  split at hturn <;> cases hturn <;> split at hother <;> simp_all

theorem ne_other (kind : StreamType) : ∃ other : StreamType, other ≠ kind ∧
    ∀ each, each = kind ∨ each = other := by
  cases kind with
  | audio => exact ⟨.video, by decide, fun each => by cases each <;> simp⟩
  | video => exact ⟨.audio, by decide, fun each => by cases each <;> simp⟩

theorem Together.not_both (htogether : Together broadcast) {kind other : StreamType}
    (hother : other ≠ kind) (hwaits : (broadcast.legs kind).leg.waits = true) :
    (broadcast.legs other).leg.waits = false := by
  have hapart := htogether.apart
  cases kind <;> cases other <;> simp_all

theorem Together.passed_eq (htogether : Together broadcast) (kind other : StreamType) :
    Broadcast.passed (broadcast.legs kind).leg = Broadcast.passed (broadcast.legs other).leg := by
  have hpassed := htogether.passed
  cases kind <;> cases other <;> simp [hpassed]

/-- A leg that is not done and does not wait at the barrier: where one waits, the other
has a sample still to bring there. -/
theorem exists_moving (hrunning : Running samples broadcast) (htogether : Together broadcast)
    (hsome : ∀ kind, samples kind ≠ [])
    (hdone : ∃ kind, (broadcast.legs kind).reportAt ≠ .returned) :
    ∃ kind, (broadcast.legs kind).reportAt ≠ .returned ∧
      (broadcast.legs kind).leg.waits = false := by
  obtain ⟨kind, hreport⟩ := hdone
  cases hwaits : (broadcast.legs kind).leg.waits with
  | false => exact ⟨kind, hreport, hwaits⟩
  | true =>
      obtain ⟨other, hother, _⟩ := ne_other kind
      refine ⟨other, fun hreturned => ?_, htogether.not_both hother hwaits⟩
      have hbefore : Broadcast.passed (broadcast.legs other).leg = false := by
        rw [htogether.passed_eq other kind]
        exact (htogether.armed kind).waiting hwaits
      have hnone := ((htogether.armed other).before hbefore).1
      have hall := (hrunning other).whole (.inr (by simp [hreturned]))
      exact hsome other (hall.symm.trans hnone)

/-- Short of the end, with no call in flight, one of the legs has a turn that helps. -/
theorem exists_helps (hrunning : Running samples broadcast) (htogether : Together broadcast)
    (hsome : ∀ kind, samples kind ≠ [])
    (hdone : ∃ kind, (broadcast.legs kind).reportAt ≠ .returned) :
    ∃ turn, Helps samples broadcast.legs turn := by
  obtain ⟨kind, hreport, hwaits⟩ := exists_moving hrunning htogether hsome hdone
  have hunpaused := (htogether.armed kind).unpaused
  obtain ⟨action, hturn, hless⟩ := Playing.turn_works (hrunning kind).delivered hunpaused
    ((hrunning kind).notPausing hunpaused) hreport
  cases action with
  | reader stalled =>
      cases stalled with
      | false => exact ⟨.reader kind, kind, _, rfl, hless⟩
      | true => cases hturn
  | pacing input =>
      cases input with
      | proceed => exact ⟨.proceed kind, kind, _, rfl, hless⟩
      | slept => exact ⟨.wake kind, kind, _, rfl, hless⟩
      | sendFails error => exact hturn.elim
  | report => exact ⟨.report kind, kind, _, rfl, hless⟩
  | release =>
      have hstays : (broadcast.legs kind).next ReaderKind.nextSample .release =
          broadcast.legs kind := by
        unfold Leg.waits at hwaits
        cases hat : (broadcast.legs kind).leg.pacingAt with
        | barrierWait sample => simp [hat] at hwaits
        | _ => simp only [Playing.next, Leg.release, hat]
      rw [hstays] at hless
      exact absurd hless (Nat.lt_irrefl _)
  | pause => exact hturn.elim
  | resume => exact hturn.elim
  | clearOnEnd => exact hturn.elim
  | stopRunning => exact hturn.elim

/-- The turn that helps does work. -/
theorem helpful_less (hrunning : Running samples broadcast) (htogether : Together broadcast)
    (hsome : ∀ kind, samples kind ≠ []) (hgoal : ¬ Completed broadcast) {action : Action}
    (hturn : turnOf action =
      helpful samples broadcast.legs broadcast.flight.calls) :
    Less (remaining samples (broadcast.next payloader action))
      (remaining samples broadcast) := by
  have hcalls (kind : StreamType) (hbusy : broadcast.flight.calls kind ≠ .idle)
      (hcall : turnOf action = some (.call kind)) :
      Less (remaining samples (broadcast.next payloader action))
        (remaining samples broadcast) := by
    cases action with
    | call other readings taken =>
        cases hcall
        exact call_less kind readings taken hbusy
    | leg other action =>
        unfold turnOf at hcall
        split at hcall <;> simp_all
    | rtcpTimer ntp => cases hcall
  unfold helpful at hturn
  split at hturn
  next haudio => exact hcalls .audio haudio hturn
  next haudio =>
    split at hturn
    next hvideo => exact hcalls .video hvideo hturn
    next hvideo =>
      have hidle (kind : StreamType) : broadcast.flight.calls kind = .idle := by
        cases kind with
        | audio => exact not_not.mp haudio
        | video => exact not_not.mp hvideo
      have hdone : ∃ kind, (broadcast.legs kind).reportAt ≠ .returned := by
        by_contra hall
        refine hgoal fun kind => ⟨?_, hidle kind⟩
        exact not_not.mp fun hnot => hall ⟨kind, hnot⟩
      have hexists := exists_helps hrunning htogether hsome hdone
      rw [dif_pos hexists] at hturn
      obtain ⟨kind, each, heach, hless⟩ := hexists.choose_spec
      obtain rfl := turnOf_leg heach hturn
      cases each with
      | pacing input => exact pace_less (hidle kind) hless
      | reader stalled => exact play_less hless
      | report => exact play_less hless
      | _ => cases heach

end Work

/-- In every fair schedule that nobody pauses, stops, stalls or refuses and whose packets
`send_to` takes, both streamers report their end and a receiver has all that is in the
containers, whatever the interleaving, as long as neither container is empty. -/
theorem broadcast_completes
    (payloader : Payloader → Nat → Bytes → List Bytes × Payloader)
    (depayload : List Bytes → Bytes) (hdepayloads : Depayloads payloader depayload)
    (start : RtpSender Payloader) (hfresh : RtpSender.Fresh start)
    (bytes : StreamType → Bytes) (samples : StreamType → List Sample)
    (hformed : ∀ kind, WellFormed (containerOf kind) (bytes kind) (samples kind))
    (hsome : ∀ kind, samples kind ≠ []) (onEnd : Bool) (schedule : Nat → Action)
    (hsmooth : ∀ n, Smooth (trace (next payloader) (new start bytes onEnd) schedule n)
      (schedule n))
    (hfair : FairBy turnOf (fun turn => turn.isSome = true) schedule) :
    ∃ n, ∀ kind,
      let final := trace (next payloader) (new start bytes onEnd) schedule n
      (final.legs kind).reportAt = .returned ∧
        received depayload kind final.flight = contents kind (samples kind) := by
  let run := trace (next payloader) (new start bytes onEnd) schedule
  have hfed (n : Nat) : Fed payloader start samples (run n) :=
    @trace_invariant _ _ _ _ (fun _ _ => True) _ _
      (fun now action hnow _ => fed_next now action hnow) (fed_new hfresh hformed onEnd)
      (fun _ => trivial) n
  have hrunning (n : Nat) : Running samples (run n) :=
    trace_invariant running_next
      (fun kind => Playing.running_new (hformed kind).yields true onEnd)
      (fun n => (hsmooth n).undisturbed) n
  have harrived (n : Nat) : Arrived (run n) :=
    trace_invariant arrived_next (fun kind => by simp [new, InFlight.new, hfresh.unsent])
      (fun n => (hsmooth n).carried) n
  have htogether (n : Nat) : Together (run n) :=
    trace_invariant together_next (together_new start bytes onEnd) hsmooth n
  have hkeep (m : Nat) (_ : 0 ≤ m) (_ : ¬ Completed (run m)) :
      Completed (run (m + 1)) ∨ Less (remaining samples (run (m + 1))) (remaining samples (run m)) ∨
        remaining samples (run (m + 1)) = remaining samples (run m) ∧
          helpful samples (run (m + 1)).legs (run (m + 1)).flight.calls =
            helpful samples (run m).legs (run m).flight.calls := by
    obtain hless | hsame := smooth_step (hrunning m) (htogether m) (hsmooth m)
    · exact .inr (.inl hless)
    · refine .inr (.inr ⟨hsame.remaining, ?_⟩)
      rw [← hsame.legs, ← hsame.calls]
      rfl
  have hhelps (m : Nat) (_ : 0 ≤ m) (hgoal : ¬ Completed (run m))
      (hturn : turnOf (schedule m) =
        helpful samples (run m).legs (run m).flight.calls) :
      Completed (run (m + 1)) ∨
        Less (remaining samples (run (m + 1))) (remaining samples (run m)) :=
    .inr (helpful_less (hrunning m) (htogether m) hsome hgoal hturn)
  obtain ⟨n, _, hcompleted⟩ := @FairBy.eventually_of_helpful _ _ _ _ _ turnOf _ Less
    (remaining samples) (fun now => helpful samples now.legs now.flight.calls) Completed _ _
    hfair less_wellFounded 0 (fun now => isSome_helpful now.legs now.flight.calls) hkeep hhelps
  refine ⟨n, fun kind => ?_⟩
  have hreturned : ((run n).legs kind).reportAt = .returned := (hcompleted kind).1
  have hidle : (run n).flight.calls kind = .idle := (hcompleted kind).2
  refine ⟨hreturned, ?_⟩
  have hwhole := (hrunning n kind).whole (.inr (by simp [hreturned]))
  have hwire := ((hfed n).kept.onWire kind).settled hidle
  have hgiven : (run n).flight.given kind = samples kind := ((hfed n).given kind).trans hwhole
  rw [hgiven] at hwire
  have hreceived : received depayload kind (run n).flight = contents kind (samples kind) := by
    rw [received, harrived n kind, decoded_eq hdepayloads hwire]
  exact hreceived

/-- The turns one after the other, again and again. -/
def turns (n : Nat) : Action :=
  let kind : StreamType := if n % 2 = 0 then .audio else .video
  match n / 2 % 5 with
  | 0 => .leg kind (.reader false)
  | 1 => .leg kind (.pacing .proceed)
  | 2 => .leg kind (.pacing .slept)
  | 3 => .leg kind .report
  | _ => .call kind ⟨0, 0, 0, 0⟩ true

theorem turns_add (n offset : Nat) : turns (10 * n + offset) = turns offset := by
  have hkind : (10 * n + offset) % 2 = offset % 2 := by omega
  have hturn : (10 * n + offset) / 2 % 5 = offset / 2 % 5 := by omega
  simp only [turns, hkind, hturn]

theorem fair_turns : FairBy turnOf (fun turn => turn.isSome = true) turns := by
  intro turn hturn n
  have hlater (offset : Nat) (hoffset : turnOf (turns offset) = turn) :
      ∃ later, n ≤ later ∧ turnOf (turns later) = turn :=
    ⟨10 * n + offset, by omega, by rw [turns_add, hoffset]⟩
  cases turn with
  | none => cases hturn
  | some turn =>
      cases turn with
      | reader kind =>
          cases kind with
          | audio => exact hlater 0 rfl
          | video => exact hlater 1 rfl
      | proceed kind =>
          cases kind with
          | audio => exact hlater 2 rfl
          | video => exact hlater 3 rfl
      | wake kind =>
          cases kind with
          | audio => exact hlater 4 rfl
          | video => exact hlater 5 rfl
      | report kind =>
          cases kind with
          | audio => exact hlater 6 rfl
          | video => exact hlater 7 rfl
      | call kind =>
          cases kind with
          | audio => exact hlater 8 rfl
          | video => exact hlater 9 rfl

theorem smooth_turns (broadcast : Broadcast Payloader) (n : Nat) :
    Smooth broadcast (turns n) := by
  unfold turns
  dsimp only
  split <;>
    exact ⟨by simp [Undisturbed, Playing.Undisturbed, Playing.Kept], by simp [Carried], by simp⟩

theorem clip_completes :
    ∃ n, ∀ kind,
      let final := trace (next vp8Payloader) (new clipSender clip true) turns n
      (final.legs kind).reportAt = .returned ∧
        received withoutDescriptors kind final.flight = contents kind (clipSamples kind) :=
  broadcast_completes vp8Payloader withoutDescriptors depayloads_vp8 clipSender
    fresh_clipSender clip clipSamples wellFormed_clip
    (fun kind => by cases kind <;> decide) true turns (fun n => smooth_turns _ n) fair_turns

end Broadcast

end RustTgCalls.Instances
