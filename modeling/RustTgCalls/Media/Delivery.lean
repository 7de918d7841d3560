import RustTgCalls.Library.Fairness
import RustTgCalls.Media.Playing

namespace RustTgCalls.Media.Playing

open Pull Transition

/-! The end of a streamer that nobody stops. -/

variable {Reader : Type} {playing : Playing Reader}
  {nextSample : Reader → Except RustTgCallsError Sample × Reader}
  {error : RustTgCallsError} {samples : List Sample}
  {results : List (Except RustTgCallsError Sample)}

/-- A slot is filled when its result is awaited no more. -/
def Received (leg : Leg Reader) : Prop :=
  leg.loaded = true → leg.nextSampleRes ≠ none

/-- While the channel may still bring something, its end is not received. -/
theorem recv_ne_end (hflowing : Flowing nextSample error results playing)
    (hcut : CutOf samples results) (hrunning : playing.leg.running = true)
    (hheld : playing.leg.held = []) (hempty : playing.leg.nextSampleRes = none)
    (hrecv : playing.leg.recv = some (res, left)) : res ≠ none := by
  intro hend
  subst hend
  obtain ⟨_, _, future, hflow, _, htail⟩ := hflowing
  obtain ⟨first, last, _, hresults⟩ := hcut
  unfold Leg.recv at hrecv
  split at hrecv
  next => cases hrecv
  next hchannel hended =>
    have hfuture := htail hrunning (by simp [Leg.reading, hended])
    have hpipe : playing.leg.pipe = [] := by
      simp [Leg.pipe, Leg.sending, hheld, hempty, hchannel, hended]
    rw [hpipe, hfuture, hresults] at hflow
    have hlast := congrArg List.getLast? hflow
    cases hsent : playing.sent.getLast? <;> simp [hsent] at hlast
  next => cases hrecv

theorem received_joinStep {leg : Leg Reader} {slept received : Bool}
    {input : PacingInput} (hat : leg.pacingAt = .join slept received)
    (hreceived : Received leg)
    (hrecv : received = false → ∀ res left, leg.recv = some (res, left) → res ≠ none) :
    Received (leg.joinStep slept received input) := by
  have hjoined (other : Leg Reader) (first second : Bool)
      (hfilled : second = true → other.nextSampleRes ≠ none) :
      Received (other.joined first second) := by
    unfold Leg.joined
    split
    next hboth =>
      intro _
      simp only [Bool.and_eq_true] at hboth
      exact hfilled hboth.2
    next =>
      intro hloaded
      cases second with
      | true => exact hfilled rfl
      | false => simp [Leg.loaded] at hloaded
  unfold Leg.joinStep
  split
  next =>
    apply hjoined
    intro htrue
    subst htrue
    exact hreceived (by simp [Leg.loaded, hat])
  next => exact hreceived
  next =>
    split
    next res left hsome =>
      apply hjoined
      intro _
      exact hrecv rfl res left hsome
    next => exact hreceived

theorem received_pacingLeg {input : PacingInput}
    (hflowing : Flowing nextSample error results playing)
    (hcut : CutOf samples results) (hrunning : playing.leg.running = true)
    (hreceived : Received playing.leg) : Received (playing.pacingLeg input) := by
  have hemptied := hflowing.emptied
  unfold pacingLeg Leg.pacingStep
  cases hat : playing.leg.pacingAt with
  | firstRecv =>
      dsimp only
      split
      next res left hrecv =>
        intro _
        exact recv_ne_end hflowing hcut hrunning (by simp [Leg.held, hat])
          (hemptied (by simp [Leg.loaded, hat])) hrecv
      next => exact hreceived
  | join slept received =>
      apply received_joinStep hat hreceived
      intro hawaited res left hrecv
      subst hawaited
      exact recv_ne_end hflowing hcut hrunning (by simp [Leg.held, hat])
        (hemptied (by simp [Leg.loaded, hat])) hrecv
  | whileRunning | whilePaused | pausedRunning | notified | ifRunning =>
      intro _
      exact hreceived (by simp [Leg.loaded, hat])
  | take =>
      cases hres : playing.leg.nextSampleRes with
      | none => simp [Received, Leg.loaded]
      | some res => cases res <;> simp [Received, Leg.loaded]
  | ifFirst sample =>
      dsimp only
      split
      · cases playing.syncBarrier <;> simp [Received, Leg.loaded]
      · simp [Received, Leg.loaded]
  | sendRtp sample =>
      dsimp only
      split <;> simp [Received, Leg.loaded]
  | barrierWait sample | ended => exact hreceived
  | released sample | account sample | finish => simp [Received, Leg.loaded]

/-- How a running task leaves its loop: it takes a failed read, or a send fails. -/
theorem exit_cases {input : PacingInput} (hrunning : playing.leg.running = true)
    (hreceived : Received playing.leg) (halive : playing.leg.alive = true)
    (hdead : (playing.pacingLeg input).alive = false) :
    (∃ error, playing.leg.pacingAt = .take ∧
        playing.leg.nextSampleRes = some (.error error) ∧
        (playing.pacingLeg input).endError = some error) ∨
      ∃ error, input = .sendFails error ∧
        (playing.pacingLeg input).endError = some error := by
  revert hdead
  unfold pacingLeg Leg.pacingStep
  cases hat : playing.leg.pacingAt with
  | firstRecv =>
      dsimp only
      split
      · simp [Leg.alive]
      · simp [Leg.alive, hat]
  | take =>
      have hsome := hreceived (by simp [Leg.loaded, hat])
      cases hres : playing.leg.nextSampleRes with
      | none => exact absurd hres hsome
      | some res =>
          cases res with
          | error error => simp
          | ok sample => simp [Leg.alive]
  | sendRtp sample =>
      cases playing.leg.muted <;> cases input <;> simp [Leg.alive]
  | ifFirst sample =>
      dsimp only
      split
      · cases playing.syncBarrier <;> simp [Leg.alive]
      · simp [Leg.alive]
  | join slept received =>
      intro hdead
      obtain ⟨hjoin | ⟨asleep, held, hjoin⟩, _, _⟩ :=
        Leg.atJoin_joinStep playing.leg slept received input hat <;>
        simp [Leg.alive, hjoin] at hdead
  | whileRunning | whilePaused | pausedRunning | notified | ifRunning =>
      cases playing.leg.paused <;> simp [Leg.alive, hrunning]
  | barrierWait sample | released sample | account sample =>
      simp [Leg.alive, hat]
  | finish | ended => simp [Leg.alive, hat] at halive

/-- A streamer that nobody stops, whatever its reads and sends do. -/
structure Unstopped (nextSample : Reader → Except RustTgCallsError Sample × Reader)
    (error : RustTgCallsError) (samples : List Sample) (playing : Playing Reader) :
    Prop where
  running : playing.leg.running = true
  received : playing.leg.alive = true → Received playing.leg
  flowing : playing.leg.alive = true → ∃ results, CutOf samples results ∧
    Flowing nextSample error results playing
  ended : playing.leg.alive = false → playing.leg.endError ≠ none

/-- No part of a `stop`. -/
def Kept (_ : Playing Reader) : Action → Prop
  | .clearOnEnd | .stopRunning => False
  | _ => True

theorem running_next (action : Action) (hkept : Kept playing action) :
    (playing.next nextSample action).leg.running = playing.leg.running := by
  cases action with
  | reader stalled => exact (Leg.paused_readerStep nextSample playing.leg stalled).2
  | pacing input => exact (playing.sameReader_pacingLeg input).running
  | release => exact Leg.running_release playing.leg
  | report =>
      simp only [next]
      rw [playing.report_frame.1]
  | pause | resume => rfl
  | clearOnEnd | stopRunning => exact hkept.elim

theorem dead_of_dead (action : Action) (hdead : playing.leg.alive = false) :
    (playing.next nextSample action).leg.alive = false := by
  cases halive : (playing.next nextSample action).leg.alive with
  | false => rfl
  | true => exact absurd (alive_next action halive) (by simp [hdead])

theorem endError_next (action : Action) (hdead : playing.leg.alive = false) :
    (playing.next nextSample action).leg.endError = playing.leg.endError := by
  cases action with
  | reader stalled => exact (Leg.endError_readerStep nextSample playing.leg stalled).1
  | pacing input =>
      simp only [next, pacing, pacingLeg, Leg.pacingStep]
      cases hat : playing.leg.pacingAt with
      | finish | ended => rfl
      | _ => simp [Leg.alive, hat] at hdead
  | release =>
      simp only [next, Leg.release]
      split <;> rfl
  | report =>
      simp only [next]
      rw [playing.report_frame.1]
  | pause | resume | clearOnEnd | stopRunning => rfl

theorem received_next (hflowing : Flowing nextSample error results playing)
    (hcut : CutOf samples results) (hrunning : playing.leg.running = true)
    (hreceived : Received playing.leg) (action : Action) :
    Received (playing.next nextSample action).leg := by
  cases action with
  | reader stalled =>
      have hsame := Leg.samePacing_readerStep nextSample playing.leg stalled
      simpa [Received, Leg.loaded, next, hsame.pacingAt, hsame.nextSampleRes] using
        hreceived
  | pacing input => exact received_pacingLeg hflowing hcut hrunning hreceived
  | release =>
      simp only [next, Leg.release]
      split
      · simp [Received, Leg.loaded]
      · exact hreceived
  | report =>
      simp only [next]
      rw [playing.report_frame.1]
      exact hreceived
  | pause | resume | clearOnEnd | stopRunning => exact hreceived

/-- Only the pacing task ends its loop. -/
theorem pacing_of_exit {action : Action} (halive : playing.leg.alive = true)
    (hdead : (playing.next nextSample action).leg.alive = false) :
    ∃ input, action = .pacing input := by
  cases action with
  | reader stalled =>
      have hsame := Leg.samePacing_readerStep nextSample playing.leg stalled
      simp [next, hsame.alive, halive] at hdead
  | pacing input => exact ⟨input, rfl⟩
  | release =>
      simp only [next, Leg.release] at hdead
      split at hdead
      · simp [Leg.alive] at hdead
      · simp [halive] at hdead
  | report => simp [next, playing.report_frame.1, halive] at hdead
  | pause | resume | clearOnEnd | stopRunning =>
      exact absurd (halive.symm.trans hdead) (by decide)

theorem unstopped_new {reader : Reader}
    (hyields : Yields nextSample reader samples error) (syncBarrier onEnd : Bool) :
    Unstopped nextSample error samples (new reader syncBarrier onEnd) where
  running := rfl
  received := fun _ hloaded => by simp [new, Leg.new, Leg.loaded] at hloaded
  flowing := (ordered_new hyields syncBarrier onEnd).flowing
  ended := fun hdead => by simp [new, Leg.new, Leg.alive] at hdead

theorem unstopped_next (playing : Playing Reader) (action : Action)
    (hunstopped : Unstopped nextSample error samples playing)
    (hkept : Kept playing action) :
    Unstopped nextSample error samples (playing.next nextSample action) := by
  obtain ⟨hrunning, hreceived, hflowing, hended⟩ := hunstopped
  refine ⟨(running_next action hkept).trans hrunning, ?_, ?_, ?_⟩
  · intro halive'
    have halive := alive_next action halive'
    obtain ⟨results, hcut, hflow⟩ := hflowing halive
    exact received_next hflow hcut hrunning (hreceived halive) action
  · intro halive'
    have halive := alive_next action halive'
    obtain ⟨results, hcut, hflow⟩ := hflowing halive
    obtain ⟨results', hflow', _, hcut'⟩ := hflow.next halive action halive'
    exact ⟨results', hcut' hcut, hflow'⟩
  · intro hdead'
    cases halive : playing.leg.alive with
    | false =>
        rw [endError_next action halive]
        exact hended halive
    | true =>
        obtain ⟨input, hinput⟩ := pacing_of_exit halive hdead'
        subst hinput
        obtain ⟨failed, _, _, hend⟩ | ⟨failed, _, hend⟩ :=
          exit_cases hrunning (hreceived halive) halive hdead'
        · simp [next, pacing, hend]
        · simp [next, pacing, hend]

/-! Without a stall or a failed send everything is delivered. -/

def Undisturbed (playing : Playing Reader) (action : Action) : Prop :=
  Kept playing action ∧ action ≠ .reader true ∧
    ∀ error, action ≠ .pacing (.sendFails error)

structure Delivered (nextSample : Reader → Except RustTgCallsError Sample × Reader)
    (error : RustTgCallsError) (samples : List Sample) (playing : Playing Reader) :
    Prop where
  unstopped : Unstopped nextSample error samples playing
  flowing : playing.leg.alive = true →
    Flowing nextSample error (samples.map .ok ++ [.error error]) playing
  whole : playing.leg.alive = false →
    playing.sent = samples ∧ playing.leg.reading = false

theorem reading_next (action : Action) (hread : playing.leg.reading = false) :
    (playing.next nextSample action).leg.reading = false := by
  cases action with
  | reader stalled =>
      cases hat : playing.leg.readerAt with
      | send res =>
          cases res with
          | ok sample => simp [Leg.reading, hat] at hread
          | error error =>
              simp only [next, Leg.readerStep, hat, Leg.send]
              split
              · rfl
              · split
                · rfl
                · exact hread
      | ended => simpa [next, Leg.readerStep, hat] using hread
      | _ => simp [Leg.reading, hat] at hread
  | pacing input =>
      have hsame := playing.sameReader_pacingLeg input
      simpa [next, pacing, Leg.reading, hsame.readerAt] using hread
  | release =>
      simp only [next, Leg.release]
      split <;> exact hread
  | report =>
      simp only [next]
      rw [playing.report_frame.1]
      exact hread
  | pause | resume | clearOnEnd | stopRunning => exact hread

theorem sent_of_failed {sent : List Sample} {failed last : RustTgCallsError}
    {rest : List (Except RustTgCallsError Sample)}
    (hsame : sent.map .ok ++ (.error failed :: rest) =
      samples.map .ok ++ [.error last]) : sent = samples ∧ rest = [] := by
  induction sent generalizing samples with
  | nil =>
      cases samples with
      | nil =>
          have hrest : failed = last ∧ rest = [] := by simpa using hsame
          exact ⟨rfl, hrest.2⟩
      | cons sample samples => simp at hsame
  | cons sample sent ih =>
      cases samples with
      | nil => simp at hsame
      | cons other samples =>
          simp only [List.map_cons, List.cons_append, List.cons.injEq,
            Except.ok.injEq] at hsame
          obtain ⟨hrest, hnil⟩ := ih hsame.2
          exact ⟨by rw [hsame.1, hrest], hnil⟩

theorem delivered_new {reader : Reader}
    (hyields : Yields nextSample reader samples error) (syncBarrier onEnd : Bool) :
    Delivered nextSample error samples (new reader syncBarrier onEnd) where
  unstopped := unstopped_new hyields syncBarrier onEnd
  flowing := fun _ => flowing_new hyields syncBarrier onEnd
  whole := fun hdead => by simp [new, Leg.new, Leg.alive] at hdead

theorem delivered_next (playing : Playing Reader) (action : Action)
    (hdelivered : Delivered nextSample error samples playing)
    (hundisturbed : Undisturbed playing action) :
    Delivered nextSample error samples (playing.next nextSample action) := by
  obtain ⟨hunstopped, hflowing, hwhole⟩ := hdelivered
  obtain ⟨hkept, hread, hsucceeds⟩ := hundisturbed
  refine ⟨unstopped_next playing action hunstopped hkept, ?_, ?_⟩
  · intro halive'
    have halive := alive_next action halive'
    obtain ⟨results', hflow', hsame, _⟩ :=
      @Flowing.next _ _ _ _ samples _ (hflowing halive) halive action halive'
    rw [hsame hread] at hflow'
    exact hflow'
  · intro hdead'
    cases halive : playing.leg.alive with
    | false =>
        obtain ⟨hsent, hread⟩ := hwhole halive
        refine ⟨?_, reading_next action hread⟩
        obtain hnext | hnext := @sent_next _ playing nextSample action
        · rw [hnext]
          exact hsent
        · rw [hnext, passing_of_not_alive halive]
          simpa using hsent
    | true =>
        obtain ⟨input, hinput⟩ := pacing_of_exit halive hdead'
        subst hinput
        obtain ⟨failed, hat, hres, _⟩ | ⟨failed, hfails, _⟩ :=
          exit_cases hunstopped.running (hunstopped.received halive) halive hdead'
        · obtain ⟨_, _, future, hflow, hfuture, _⟩ := hflowing halive
          have hnothing : passing playing.leg = none := by simp [passing, hat]
          simp only [Leg.pipe, Leg.held, hat, hres, List.map_nil, List.nil_append,
            Option.toList_some, List.cons_append] at hflow
          obtain ⟨hsent, hrest⟩ := sent_of_failed hflow
          refine ⟨by simpa [next, pacing, hnothing] using hsent, ?_⟩
          apply reading_next
          cases hread : playing.leg.reading with
          | false => rfl
          | true =>
              obtain ⟨items, _, hitems⟩ := hfuture hread
              simp [hitems] at hrest
        · exact absurd (congrArg Action.pacing hfails) (hsucceeds failed)

/-- The end is told by `done_flag` first and by the callback then. -/
def EndReported (playing : Playing Reader) : Prop :=
  playing.leg.doneFlag = true ∨ playing.reportAt ≠ .take

theorem endReported_next (action : Action) (halive : playing.leg.alive = true)
    (hreported : EndReported (playing.next nextSample action)) :
    EndReported playing := by
  unfold EndReported at hreported ⊢
  cases action with
  | reader stalled =>
      simpa [next, Leg.endError_readerStep] using hreported
  | pacing input =>
      simpa [next, pacing, doneFlag_pacingLeg halive] using hreported
  | release =>
      simp only [next, Leg.release] at hreported
      split at hreported <;> exact hreported
  | report =>
      have hsame : playing.report = playing := by
        unfold report
        split
        next hat _ => simp [Leg.alive, hat] at halive
        next hat _ => simp [Leg.alive, hat] at halive
        next => rfl
      simpa [next, hsame] using hreported
  | pause | resume | clearOnEnd | stopRunning => exact hreported

/-- The end is reported when the pacing task has left its loop. -/
def Announced (playing : Playing Reader) : Prop :=
  EndReported playing → playing.leg.alive = false

theorem announced_next (playing : Playing Reader) (action : Action)
    (hannounced : Announced playing) : Announced (playing.next nextSample action) := by
  intro hreported
  apply dead_of_dead action
  cases halive : playing.leg.alive with
  | false => rfl
  | true =>
      have hbefore := hannounced (endReported_next action halive hreported)
      exact absurd (halive.symm.trans hbefore) (by decide)

/-! A fair schedule of an un-paused streamer comes to its end. -/

/-- How far the reader task is from its next read or from its end. -/
def readerRank : ReaderAt → Nat
  | .send _ => 9
  | .whileRunning => 8
  | .pausedRunning => 7
  | .notified => 6
  | .whilePaused => 5
  | .ifRunning => 4
  | .nextSample => 3
  | .ended => 0

def pacingRank : PacingAt → Nat
  | .ifFirst _ => 29
  | .barrierWait _ => 28
  | .released _ => 27
  | .sendRtp _ => 26
  | .account _ => 25
  | .join slept received => 18 - (slept.toNat + received.toNat)
  | .firstRecv => 16
  | .whileRunning => 15
  | .pausedRunning => 14
  | .notified => 13
  | .whilePaused => 12
  | .ifRunning => 11
  | .take => 10
  | .finish => 5
  | .ended => 0

def reportRank : ReportAt → Nat
  | .take => 2
  | .call _ => 1
  | .returned => 0

/-- The reads to come, of as many as the samples and the error behind them. -/
def unread (samples : List Sample) (playing : Playing Reader) : Nat :=
  samples.length + 1 - (playing.sent.length + playing.leg.pipe.length)

/-- The results that the pacing task has not taken. -/
def untaken (samples : List Sample) (playing : Playing Reader) : Nat :=
  samples.length + 1 - (playing.sent.length + playing.leg.held.length)

def readerWork (samples : List Sample) (playing : Playing Reader) : Nat :=
  if playing.leg.reading then
    10 * unread samples playing + readerRank playing.leg.readerAt
  else readerRank playing.leg.readerAt

def work (samples : List Sample) (playing : Playing Reader) : Nat :=
  readerWork samples playing +
    (30 * untaken samples playing + pacingRank playing.leg.pacingAt) +
    reportRank playing.reportAt

/-- The scheduler's part: each task, the end of a sleep and the barrier get their
turn again and again.  The barrier's return is granted by the other leg, when it
arrives there. -/
def Turn : Action → Prop
  | .reader stalled => stalled = false
  | .pacing .proceed | .pacing .slept | .release | .report => True
  | _ => False

/-- Nothing happens, or work is done. -/
def Advances (samples : List Sample) (before after : Playing Reader) : Prop :=
  after = before ∨ work samples after < work samples before

theorem unread_pos (hflowing :
      Flowing nextSample error (samples.map .ok ++ [.error error]) playing)
    (hread : playing.leg.reading = true) :
    playing.sent.length + playing.leg.pipe.length < samples.length + 1 := by
  obtain ⟨_, _, future, hflow, hfuture, _⟩ := hflowing
  obtain ⟨items, _, hitems⟩ := hfuture hread
  have hlength := congrArg List.length hflow
  simp [hitems] at hlength
  omega

theorem work_of_readerWork {leg : Leg Reader}
    (hat : leg.pacingAt = playing.leg.pacingAt)
    (hless : readerWork samples { playing with leg } < readerWork samples playing) :
    work samples { playing with leg } < work samples playing := by
  have hheld : leg.held = playing.leg.held := by simp [Leg.held, hat]
  simp only [work, untaken, hheld, hat]
  omega

/-- The reader task moves on to its next read. -/
theorem work_readerAt {readerAt : ReaderAt} (hread : playing.leg.reading = true)
    (hquiet : playing.leg.sending = [])
    (hread' : { playing.leg with readerAt }.reading = true)
    (hquiet' : { playing.leg with readerAt }.sending = [])
    (hrank : readerRank readerAt < readerRank playing.leg.readerAt) :
    work samples { playing with leg := { playing.leg with readerAt } } <
      work samples playing := by
  have hpipe : { playing.leg with readerAt }.pipe = playing.leg.pipe :=
    Leg.pipe_congr rfl rfl (by rw [hquiet, hquiet'])
  refine work_of_readerWork rfl ?_
  simp only [readerWork, unread, hread, hread', hpipe, if_true]
  omega

theorem work_read (hflowing :
      Flowing nextSample error (samples.map .ok ++ [.error error]) playing)
    (hat : playing.leg.readerAt = .nextSample) :
    work samples (playing.next nextSample (.reader false)) < work samples playing := by
  have hread : playing.leg.reading = true := by simp [Leg.reading, hat]
  have hpos := unread_pos hflowing hread
  have hleg := Leg.readerStep_nextSample nextSample hat
  have hbefore : readerRank playing.leg.readerAt = 3 := by
    rw [hat]
    rfl
  simp only [next, hleg]
  refine work_of_readerWork rfl ?_
  have hpipe : { playing.leg with
      reader := (nextSample playing.leg.reader).2
      readerAt := .send (nextSample playing.leg.reader).1 }.pipe.length =
        playing.leg.pipe.length + 1 := by
    simp only [Leg.pipe, Leg.held, Leg.sending, hat, List.length_append,
      List.length_nil, List.length_singleton]
    omega
  simp only [readerWork, unread, hpipe, hread, hbefore, if_true]
  split <;> simp only [readerRank] <;> omega

theorem work_send (hat : playing.leg.readerAt = .send res) (stalled : Bool) :
    Advances samples playing (playing.next nextSample (.reader stalled)) ∧
      (playing.leg.channel = [] →
        work samples (playing.next nextSample (.reader stalled)) <
          work samples playing) := by
  have hrank : readerRank playing.leg.readerAt = 9 := by
    rw [hat]
    rfl
  have hbroken : work samples
      { playing with leg := { playing.leg with readerAt := .ended } } <
        work samples playing := by
    refine work_of_readerWork rfl ?_
    have hended : { playing.leg with readerAt := .ended }.reading = false := rfl
    simp only [readerWork, hrank, hended]
    cases playing.leg.reading <;> simp [readerRank]
  have hqueued (sample : Sample) (hok : res = .ok sample) : work samples
      { playing with
        leg :=
          { playing.leg with
            channel := playing.leg.channel ++ [res]
            readerAt := .whileRunning } } < work samples playing := by
    subst hok
    refine work_of_readerWork rfl ?_
    have hpipe : { playing.leg with
        channel := playing.leg.channel ++ [Except.ok sample]
        readerAt := .whileRunning }.pipe = playing.leg.pipe :=
      Leg.pipe_congr rfl rfl (by simp [Leg.sending, hat])
    have hread : playing.leg.reading = true := by simp [Leg.reading, hat]
    simp only [readerWork, unread, hread, hpipe, hrank]
    simp [Leg.reading, readerRank]
  have hlast (error : RustTgCallsError) (herror : res = .error error) : work samples
      { playing with
        leg :=
          { playing.leg with
            channel := playing.leg.channel ++ [res]
            readerAt := .ended } } < work samples playing := by
    subst herror
    refine work_of_readerWork rfl ?_
    have hread : playing.leg.reading = false := by simp [Leg.reading, hat]
    simp only [readerWork, hread, hrank]
    simp [Leg.reading, readerRank]
  simp only [next, Leg.readerStep, hat, Leg.send]
  split
  next => exact ⟨.inr hbroken, fun _ => hbroken⟩
  next =>
    split
    next =>
      cases res with
      | ok sample => exact ⟨.inr (hqueued sample rfl), fun _ => hqueued sample rfl⟩
      | error error => exact ⟨.inr (hlast error rfl), fun _ => hlast error rfl⟩
    next hfull =>
      refine ⟨.inl rfl, fun hempty => ?_⟩
      simp [hempty, Leg.channelCapacity] at hfull

theorem reader_advances (hdelivered : Delivered nextSample error samples playing)
    (hpaused : playing.leg.paused = false) :
    Advances samples playing (playing.next nextSample (.reader false)) ∧
      (playing.leg.readerAt ≠ .ended → playing.leg.channel = [] →
        work samples (playing.next nextSample (.reader false)) <
          work samples playing) := by
  have hrunning := hdelivered.unstopped.running
  have hboth (hless : work samples (playing.next nextSample (.reader false)) <
      work samples playing) :
      Advances samples playing (playing.next nextSample (.reader false)) ∧
        (playing.leg.readerAt ≠ .ended → playing.leg.channel = [] →
          work samples (playing.next nextSample (.reader false)) <
            work samples playing) :=
    ⟨.inr hless, fun _ _ => hless⟩
  cases hat : playing.leg.readerAt with
  | send res =>
      obtain ⟨hadvances, hroom⟩ := @work_send _ playing nextSample samples _ hat false
      exact ⟨hadvances, fun _ => hroom⟩
  | ended =>
      refine ⟨.inl ?_, fun hne => absurd rfl hne⟩
      simp [next, Leg.readerStep, hat]
  | nextSample =>
      rw [← hat]
      apply hboth
      cases halive : playing.leg.alive with
      | true => exact work_read (hdelivered.flowing halive) hat
      | false =>
          have hread := (hdelivered.whole halive).2
          simp [Leg.reading, hat] at hread
  | whileRunning | whilePaused | pausedRunning | notified | ifRunning =>
      rw [← hat]
      apply hboth
      simp only [next, Leg.readerStep, hat]
      refine work_readerAt ?_ ?_ ?_ ?_ ?_ <;>
        simp [Leg.reading, Leg.sending, hat, readerRank, hrunning, hpaused]

/-- A turn of the pacing task that keeps the results it has and those to come. -/
theorem work_of_pacingRank {other : Playing Reader}
    (hreader : readerWork samples other = readerWork samples playing)
    (huntaken : untaken samples other = untaken samples playing)
    (hrank : pacingRank other.leg.pacingAt < pacingRank playing.leg.pacingAt)
    (hreport : other.reportAt = playing.reportAt) :
    work samples other < work samples playing := by
  simp only [work, hreader, huntaken, hreport]
  omega

theorem readerWork_pacing {input : PacingInput}
    (hflowing : Flowing nextSample error results playing)
    (halive : (playing.pacing input).leg.alive = true) :
    readerWork samples (playing.pacing input) = readerWork samples playing := by
  have hsame := playing.sameReader_pacingLeg input
  obtain ⟨hpipe, _⟩ := pipe_pacingLeg hflowing.muted hflowing.emptied halive
  have hreading : (playing.pacingLeg input).reading = playing.leg.reading := by
    simp [Leg.reading, hsame.readerAt]
  have hunread : unread samples (playing.pacing input) = unread samples playing := by
    have hlength := congrArg List.length hpipe
    simp only [List.length_append, List.length_map] at hlength
    simp only [unread, pacing, List.length_append]
    omega
  simp only [readerWork, hunread]
  simp only [pacing, hreading, hsame.readerAt]

theorem readerWork_turn {input : PacingInput}
    (hdelivered : Delivered nextSample error samples playing)
    (hsucceeds : ∀ error, input ≠ .sendFails error) :
    readerWork samples (playing.pacing input) = readerWork samples playing := by
  have hundisturbed : Undisturbed playing (.pacing input) :=
    ⟨trivial, by simp, fun error hfails => hsucceeds error (Action.pacing.inj hfails)⟩
  have hnext := delivered_next playing _ hdelivered hundisturbed
  cases halive : (playing.pacing input).leg.alive with
  | true =>
      have hbefore := alive_pacingLeg halive
      exact readerWork_pacing (hdelivered.flowing hbefore) halive
  | false =>
      have hsame := playing.sameReader_pacingLeg input
      have hread := (hnext.whole halive).2
      have hread' : playing.leg.reading = false := by
        simpa [next, pacing, Leg.reading, hsame.readerAt] using hread
      simp only [next] at hread
      simp only [readerWork, hread, hread', Bool.false_eq_true, if_false]
      simp only [pacing, hsame.readerAt]

theorem work_pacing {input : PacingInput}
    (hdelivered : Delivered nextSample error samples playing)
    (hsucceeds : ∀ error, input ≠ .sendFails error)
    (hkept : (passing playing.leg).toList.length + (playing.pacingLeg input).held.length =
      playing.leg.held.length)
    (hrank : pacingRank (playing.pacingLeg input).pacingAt <
      pacingRank playing.leg.pacingAt) :
    work samples (playing.pacing input) < work samples playing := by
  apply work_of_pacingRank (readerWork_turn hdelivered hsucceeds) _ hrank rfl
  simp only [untaken, pacing, List.length_append]
  omega

/-- The pacing task takes a sample. -/
theorem work_take {input : PacingInput}
    (hdelivered : Delivered nextSample error samples playing)
    (hsucceeds : ∀ error, input ≠ .sendFails error)
    (hat : playing.leg.pacingAt = .take)
    (hres : playing.leg.nextSampleRes = some (.ok sample)) :
    work samples (playing.pacing input) < work samples playing := by
  have hreader := readerWork_turn hdelivered hsucceeds
  have hleg : (playing.pacing input).leg.pacingAt = .ifFirst sample := by
    simp [pacing, pacingLeg, Leg.pacingStep, hat, hres]
  have hsent : (playing.pacing input).sent = playing.sent := by
    simp [pacing, passing, hat]
  have hheld : (playing.pacing input).leg.held = [sample] := by
    simp [Leg.held, hleg]
  have hnone : playing.leg.held = [] := by simp [Leg.held, hat]
  obtain ⟨_, _, future, hflow, _⟩ :=
    hdelivered.flowing (by simp [Leg.alive, hat])
  have hlength := congrArg List.length hflow
  simp only [Leg.pipe, hres, Option.toList_some, List.length_append, List.length_map,
    List.length_singleton] at hlength
  simp only [work, hreader, untaken, hleg, hsent, hheld, hnone, hat, pacingRank,
    List.length_nil, List.length_singleton]
  simp only [pacing]
  omega

theorem pacing_same {input : PacingInput} (hleg : playing.pacingLeg input = playing.leg)
    (hnothing : passing playing.leg = none) (hsince : playing.sincePause = none) :
    playing.pacing input = playing := by
  simp only [pacing, hleg, hnothing, hsince, Option.toList_none, List.append_nil,
    Option.map_none]
  rw [← hsince]

theorem join_advances {slept received : Bool} {input : PacingInput}
    (hat : playing.leg.pacingAt = .join slept received) :
    playing.leg.joinStep slept received input = playing.leg ∨
      (playing.leg.joinStep slept received input).held = [] ∧
        pacingRank (playing.leg.joinStep slept received input).pacingAt <
          pacingRank playing.leg.pacingAt := by
  have hjoined (leg : Leg Reader) (first second : Bool)
      (hmore : slept.toNat + received.toNat < first.toNat + second.toNat) :
      (leg.joined first second).held = [] ∧
        pacingRank (leg.joined first second).pacingAt <
          pacingRank playing.leg.pacingAt := by
    rw [hat]
    unfold Leg.joined
    cases first <;> cases second <;> cases slept <;> cases received <;>
      simp_all [Leg.held, pacingRank]
  unfold Leg.joinStep
  split
  next =>
    cases slept with
    | true =>
        cases received with
        | true =>
            right
            rw [hat]
            simp [Leg.joined, Leg.held, pacingRank]
        | false =>
            left
            simp [Leg.joined, ← hat]
    | false => exact .inr (hjoined _ _ _ (by cases received <;> simp))
  next => exact .inl rfl
  next =>
    split
    next => exact .inr (hjoined _ _ _ (by cases slept <;> simp))
    next => exact .inl rfl

theorem pacing_advances {input : PacingInput}
    (hdelivered : Delivered nextSample error samples playing)
    (hpaused : playing.leg.paused = false) (hsince : playing.sincePause = none)
    (hsucceeds : ∀ error, input ≠ .sendFails error) :
    Advances samples playing (playing.pacing input) := by
  have hrunning := hdelivered.unstopped.running
  cases hat : playing.leg.pacingAt with
  | join slept received =>
      have hleg : playing.pacingLeg input =
          playing.leg.joinStep slept received input := by
        simp [pacingLeg, Leg.pacingStep, hat]
      have hnothing : passing playing.leg = none := by simp [passing, hat]
      obtain hsame | ⟨hheld, hrank⟩ := @join_advances _ playing _ _ input hat
      · exact .inl (pacing_same (hleg.trans hsame) hnothing hsince)
      · refine .inr (work_pacing hdelivered hsucceeds ?_ (hleg ▸ hrank))
        rw [hleg, hheld, hnothing]
        simp [Leg.held, hat]
  | firstRecv =>
      cases hrecv : playing.leg.recv with
      | none =>
          apply Or.inl
          apply pacing_same _ (by simp [passing, hat]) hsince
          simp [pacingLeg, Leg.pacingStep, hat, hrecv]
      | some received =>
          apply Or.inr
          apply work_pacing hdelivered hsucceeds <;>
            simp [pacingLeg, Leg.pacingStep, hat, hrecv, passing, Leg.held, pacingRank]
  | take =>
      cases hres : playing.leg.nextSampleRes with
      | none =>
          have halive : playing.leg.alive = true := by simp [Leg.alive, hat]
          exact absurd hres
            (hdelivered.unstopped.received halive (by simp [Leg.loaded, hat]))
      | some res =>
          cases res with
          | ok sample => exact .inr (work_take hdelivered hsucceeds hat hres)
          | error error =>
              apply Or.inr
              apply work_pacing hdelivered hsucceeds <;>
                simp [pacingLeg, Leg.pacingStep, hat, hres, passing, Leg.held,
                  pacingRank]
  | ifFirst sample =>
      apply Or.inr
      apply work_pacing hdelivered hsucceeds <;>
        cases hfirst : playing.leg.firstSample <;> cases hbarrier : playing.syncBarrier <;>
          simp [pacingLeg, Leg.pacingStep, hat, hfirst, hbarrier, passing, Leg.held,
            pacingRank]
  | sendRtp sample =>
      have hmuted := (hdelivered.flowing (by simp [Leg.alive, hat])).muted
      apply Or.inr
      cases input with
      | sendFails error => exact absurd rfl (hsucceeds error)
      | proceed | slept =>
          apply work_pacing hdelivered hsucceeds <;>
            simp [pacingLeg, Leg.pacingStep, hat, hmuted, passing, Leg.held, pacingRank]
  | barrierWait sample | ended =>
      apply Or.inl
      apply pacing_same _ (by simp [passing, hat]) hsince
      simp [pacingLeg, Leg.pacingStep, hat]
  | whileRunning | whilePaused | pausedRunning | notified | ifRunning
  | released sample | account sample | finish =>
      apply Or.inr
      apply work_pacing hdelivered hsucceeds <;>
        simp [pacingLeg, Leg.pacingStep, hat, hrunning, hpaused, passing, Leg.held,
          pacingRank]

theorem release_advances (hat : playing.leg.pacingAt = .barrierWait sample) :
    work samples (playing.next nextSample .release) < work samples playing := by
  have hleg : playing.leg.release = { playing.leg with pacingAt := .released sample } := by
    simp [Leg.release, hat]
  have hpipe : { playing.leg with pacingAt := .released sample }.pipe =
      playing.leg.pipe := by
    simp [Leg.pipe, Leg.held, Leg.sending, hat]
  have hheld : { playing.leg with pacingAt := .released sample }.held =
      playing.leg.held := by
    simp [Leg.held, hat]
  simp only [next, hleg]
  refine work_of_pacingRank ?_ ?_ ?_ rfl
  · simp only [readerWork, unread, hpipe]
    rfl
  · simp only [untaken, hheld]
  · simp [hat, pacingRank]

theorem report_advances (hat : playing.leg.pacingAt = .ended)
    (hreport : playing.reportAt ≠ .returned) :
    work samples playing.report < work samples playing := by
  cases hstage : playing.reportAt with
  | returned => exact absurd hstage hreport
  | take | call registered =>
      simp [report, hat, hstage, work, readerWork, unread, untaken, reportRank]

theorem recv_none {leg : Leg Reader} (hrecv : leg.recv = none) :
    leg.readerAt ≠ .ended ∧ leg.channel = [] := by
  unfold Leg.recv at hrecv
  split at hrecv
  next => cases hrecv
  next => cases hrecv
  next hchannel hended => exact ⟨fun hat => hended hat, hchannel⟩

/-- Short of the report, one of the scheduler's turns does work. -/
theorem turn_works (hdelivered : Delivered nextSample error samples playing)
    (hpaused : playing.leg.paused = false) (hsince : playing.sincePause = none)
    (hreport : playing.reportAt ≠ .returned) :
    ∃ action, Turn action ∧
      work samples (playing.next nextSample action) < work samples playing := by
  have hrunning := hdelivered.unstopped.running
  have hreader (hrecv : playing.leg.recv = none) :
      ∃ action, Turn action ∧
        work samples (playing.next nextSample action) < work samples playing := by
    obtain ⟨hended, hchannel⟩ := recv_none hrecv
    exact ⟨.reader false, rfl, (reader_advances hdelivered hpaused).2 hended hchannel⟩
  have hproceed (hmoves : (playing.pacingLeg .proceed).pacingAt ≠ playing.leg.pacingAt) :
      ∃ action, Turn action ∧
        work samples (playing.next nextSample action) < work samples playing := by
    refine ⟨.pacing .proceed, trivial, ?_⟩
    have hadvances := pacing_advances hdelivered hpaused hsince
      (fun _ => (by simp : PacingInput.proceed ≠ _))
    apply hadvances.resolve_left
    intro hsame
    exact hmoves (congrArg (fun after => after.leg.pacingAt) hsame)
  cases hat : playing.leg.pacingAt with
  | ended => exact ⟨.report, trivial, report_advances hat hreport⟩
  | barrierWait sample => exact ⟨.release, trivial, release_advances hat⟩
  | firstRecv =>
      cases hrecv : playing.leg.recv with
      | none => exact hreader hrecv
      | some received =>
          apply hproceed
          simp [pacingLeg, Leg.pacingStep, hat, hrecv]
  | join slept received =>
      by_cases hwaits : slept = true ∧ received = false
      · obtain ⟨hslept, hawaited⟩ := hwaits
        subst hslept hawaited
        cases hrecv : playing.leg.recv with
        | none => exact hreader hrecv
        | some received =>
            apply hproceed
            simp [pacingLeg, Leg.pacingStep, hat, Leg.joinStep, hrecv, Leg.joined]
      · refine ⟨.pacing .slept, trivial, ?_⟩
        have hadvances := pacing_advances hdelivered hpaused hsince
          (fun _ => (by simp : PacingInput.slept ≠ _))
        apply hadvances.resolve_left
        intro hsame
        have hplace := congrArg (fun after => after.leg.pacingAt) hsame
        clear hsame
        cases slept <;> cases received <;>
          simp [pacing, pacingLeg, Leg.pacingStep, hat, Leg.joinStep,
            Leg.joined] at hplace hwaits
  | take =>
      apply hproceed
      cases hres : playing.leg.nextSampleRes with
      | none => simp [pacingLeg, Leg.pacingStep, hat, hres]
      | some res => cases res <;> simp [pacingLeg, Leg.pacingStep, hat, hres]
  | ifFirst sample =>
      apply hproceed
      cases hfirst : playing.leg.firstSample <;> cases hbarrier : playing.syncBarrier <;>
        simp [pacingLeg, Leg.pacingStep, hat, hfirst, hbarrier]
  | sendRtp sample =>
      apply hproceed
      cases hmuted : playing.leg.muted <;> simp [pacingLeg, Leg.pacingStep, hat, hmuted]
  | whileRunning | whilePaused | pausedRunning | notified | ifRunning
  | released sample | account sample | finish =>
      apply hproceed
      simp [pacingLeg, Leg.pacingStep, hat, hrunning, hpaused]

/-- What an undisturbed run keeps. -/
structure Running (nextSample : Reader → Except RustTgCallsError Sample × Reader)
    (error : RustTgCallsError) (samples : List Sample) (playing : Playing Reader) :
    Prop where
  delivered : Delivered nextSample error samples playing
  announced : Announced playing
  hushed : Hushed playing

theorem running_new {reader : Reader} (hyields : Yields nextSample reader samples error)
    (syncBarrier onEnd : Bool) :
    Running nextSample error samples (new reader syncBarrier onEnd) where
  delivered := delivered_new hyields syncBarrier onEnd
  announced := fun hreported => by simp [EndReported, new, Leg.new] at hreported
  hushed := fun passed hpassed => by cases hpassed

theorem running_step (playing : Playing Reader) (action : Action)
    (hrunning : Running nextSample error samples playing)
    (hundisturbed : Undisturbed playing action) :
    Running nextSample error samples (playing.next nextSample action) where
  delivered := delivered_next playing action hrunning.delivered hundisturbed
  announced := announced_next playing action hrunning.announced
  hushed := hushed_next nextSample playing action hrunning.hushed

theorem Running.whole (hrunning : Running nextSample error samples playing)
    (hreported : EndReported playing) : playing.sent = samples :=
  (hrunning.delivered.whole (hrunning.announced hreported)).1

theorem Running.notPausing (hrunning : Running nextSample error samples playing)
    (hpaused : playing.leg.paused = false) : playing.sincePause = none := by
  cases hsince : playing.sincePause with
  | none => rfl
  | some passed =>
      have hflag := (hrunning.hushed passed hsince).1
      exact absurd (hflag.symm.trans hpaused) (by decide)

theorem Running.advances (hrunning : Running nextSample error samples playing)
    {action : Action} (hundisturbed : Undisturbed playing action)
    (hpaused : playing.leg.paused = false)
    (hpaused' : (playing.next nextSample action).leg.paused = false) :
    Advances samples playing (playing.next nextSample action) := by
  obtain ⟨hkept, hread, hsucceeds⟩ := hundisturbed
  have hsince := hrunning.notPausing hpaused
  cases action with
  | reader stalled =>
      cases stalled with
      | false => exact (reader_advances hrunning.delivered hpaused).1
      | true => exact absurd rfl hread
  | pacing input =>
      apply pacing_advances hrunning.delivered hpaused hsince
      intro error hfails
      exact hsucceeds error (congrArg Action.pacing hfails)
  | release =>
      cases hat : playing.leg.pacingAt with
      | barrierWait sample => exact .inr (release_advances hat)
      | _ => exact .inl (by simp [next, Leg.release, hat])
  | report =>
      by_cases hended : playing.leg.pacingAt = .ended ∧ playing.reportAt ≠ .returned
      · exact .inr (report_advances hended.1 hended.2)
      · apply Or.inl
        simp only [next, report]
        split <;> simp_all
  | pause => simp [next] at hpaused'
  | resume =>
      apply Or.inl
      simp only [next]
      rw [← hpaused, ← hsince]
  | clearOnEnd | stopRunning => exact hkept.elim

/-- What is sent is at every moment a prefix of what the reader gives, an un-resumed
pause lets at most one sample through, and without a stop the end is reported after
all of it was sent, which happens when the streamer is un-paused for good. -/
theorem delivery {reader : Reader} (hyields : Yields nextSample reader samples error)
    (syncBarrier onEnd : Bool) :
    (∀ actions, Always (next nextSample)
      (fun now => now.sent <+: samples ∧
        ∀ passed, now.sincePause = some passed → passed ≤ 1)
      (new reader syncBarrier onEnd) actions) ∧
    ∀ schedule : Nat → Action,
      let run := trace (next nextSample) (new reader syncBarrier onEnd) schedule
      (∀ n, Undisturbed (run n) (schedule n)) →
        (∀ n, EndReported (run n) → (run n).sent = samples) ∧
        (Fair Turn schedule → (∃ start, ∀ n, start ≤ n → (run n).leg.paused = false) →
          ∃ n, (run n).reportAt = .returned ∧ (run n).sent = samples) := by
  constructor
  · intro actions
    have hall : Along (next nextSample) (fun _ _ => True)
        (new reader syncBarrier onEnd) actions := along_true
    have hordered := hall.always (fun now action hnow _ =>
      ordered_next now action hnow) (ordered_new hyields syncBarrier onEnd)
    have hhushed := hall.always (fun now action hnow _ =>
      hushed_next nextSample now action hnow)
        (running_new hyields syncBarrier onEnd).hushed
    apply (hordered.and hhushed).mono
    intro now hnow
    refine ⟨hnow.1.sent, fun passed hpassed => ?_⟩
    exact Nat.le_trans (Nat.le_add_right _ _) (hnow.2 passed hpassed).2
  · intro schedule run hundisturbed
    have hrunning (n : Nat) : Running nextSample error samples (run n) :=
      trace_invariant running_step (running_new hyields syncBarrier onEnd)
        hundisturbed n
    refine ⟨fun n => (hrunning n).whole, ?_⟩
    rintro hfair ⟨start, hunpaused⟩
    have hstep (m : Nat) (hm : start ≤ m) : Advances samples (run m) (run (m + 1)) :=
      (hrunning m).advances (hundisturbed m) (hunpaused m hm)
        (hunpaused (m + 1) (Nat.le_succ_of_le hm))
    have hprogress (m : Nat) (hm : start ≤ m) (hgoal : (run m).reportAt ≠ .returned) :
        ∃ action, Turn action ∧
          work samples ((run m).next nextSample action) < work samples (run m) :=
      turn_works (hrunning m).delivered (hunpaused m hm)
        ((hrunning m).notPausing (hunpaused m hm)) hgoal
    obtain ⟨n, _, hreturned⟩ := @Fair.eventually _ _ _ Turn (work samples)
      (fun now => now.reportAt = .returned) _ _ hfair start hstep hprogress
    refine ⟨n, hreturned, (hrunning n).whole (.inr ?_)⟩
    intro htake
    exact absurd (htake.symm.trans hreturned) (by decide)

/-- A reader of two samples. -/
def listReader : List Sample → Except RustTgCallsError Sample × List Sample
  | [] => (.error .file, [])
  | sample :: rest => (.ok sample, rest)

def twoSamples : List Sample := [⟨[1], 20⟩, ⟨[2], 20⟩]

theorem delivery_twoSamples :
    (∀ actions, Always (next listReader)
      (fun now => now.sent <+: twoSamples ∧
        ∀ passed, now.sincePause = some passed → passed ≤ 1)
      (new twoSamples true true) actions) ∧
    ∀ schedule : Nat → Action,
      let run := trace (next listReader) (new twoSamples true true) schedule
      (∀ n, Undisturbed (run n) (schedule n)) →
        (∀ n, EndReported (run n) → (run n).sent = twoSamples) ∧
        (Fair Turn schedule → (∃ start, ∀ n, start ≤ n → (run n).leg.paused = false) →
          ∃ n, (run n).reportAt = .returned ∧ (run n).sent = twoSamples) := by
  have hyields : Yields listReader twoSamples twoSamples .file :=
    .item rfl (.item rfl (.stop rfl))
  exact delivery hyields true true

end RustTgCalls.Media.Playing
