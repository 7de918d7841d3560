import RustTgCalls.Library.Transition
import RustTgCalls.Library.Pull
import RustTgCalls.Media.Pacing

namespace RustTgCalls.Media

open Pull Transition

/-! A streamer from its first sample to the report of its end, with its two
tasks, its barrier and the calls of its owner in any order. -/

/-- Where the pacing task stands after it has set `done_flag`. -/
inductive ReportAt where
  | take
  | call (registered : Bool)
  | returned
  deriving DecidableEq, Repr

/-- `sent` lists the samples passed to `send_rtp_bytes` and `reports` what the
callback was given; `sincePause` counts the samples passed since a pause that was
not resumed. -/
structure Playing (Reader : Type) where
  leg : Leg Reader
  syncBarrier : Bool
  onEnd : Bool
  reportAt : ReportAt
  sent : List Sample
  reports : List (Option RustTgCallsError)
  sincePause : Option Nat

namespace Playing

variable {Reader : Type}

def new (reader : Reader) (syncBarrier onEnd : Bool) : Playing Reader where
  leg := .new reader
  syncBarrier
  onEnd
  reportAt := .take
  sent := []
  reports := []
  sincePause := none

/-- The tasks, the release of a waiter at the barrier, and the accesses that
`pause`, `resume` and `stop` are made of. -/
inductive Action where
  | reader (stalled : Bool)
  | pacing (input : PacingInput)
  | release
  | report
  | pause
  | resume
  | clearOnEnd
  | stopRunning

/-- The sample that the pacing task is about to pass to `send_rtp_bytes`. -/
def passing (leg : Leg Reader) : Option Sample :=
  match leg.pacingAt with
  | .sendRtp sample => if leg.muted then none else some sample
  | _ => none

/-- `first_sample` leads to the barrier where there is one. -/
def pacingLeg (playing : Playing Reader) (input : PacingInput) : Leg Reader :=
  match playing.leg.pacingAt with
  | .ifFirst sample =>
      if playing.leg.firstSample then
        { playing.leg with
          pacingAt :=
            if playing.syncBarrier then .barrierWait sample else .released sample }
      else playing.leg.pacingStep input
  | _ => playing.leg.pacingStep input

def pacing (playing : Playing Reader) (input : PacingInput) : Playing Reader :=
  { playing with
    leg := playing.pacingLeg input
    sent := playing.sent ++ (passing playing.leg).toList
    sincePause :=
      playing.sincePause.map (· + (passing playing.leg).toList.length) }

/-- The slot is taken first and what was in it is called then. -/
def report (playing : Playing Reader) : Playing Reader :=
  match playing.leg.pacingAt, playing.reportAt with
  | .ended, .take =>
      { playing with reportAt := .call playing.onEnd, onEnd := false }
  | .ended, .call registered =>
      { playing with
        reportAt := .returned
        reports :=
          if registered then playing.reports ++ [playing.leg.endError]
          else playing.reports }
  | _, _ => playing

def next (nextSample : Reader → Except RustTgCallsError Sample × Reader)
    (playing : Playing Reader) : Action → Playing Reader
  | .reader stalled =>
      { playing with leg := playing.leg.readerStep nextSample stalled }
  | .pacing input => playing.pacing input
  | .release => { playing with leg := playing.leg.release }
  | .report => playing.report
  | .pause =>
      { playing with
        leg := { playing.leg with paused := true }
        sincePause := some (playing.sincePause.getD 0) }
  | .resume =>
      { playing with
        leg := { playing.leg with paused := false }
        sincePause := none }
  | .clearOnEnd => { playing with onEnd := false }
  | .stopRunning => { playing with leg := { playing.leg with running := false } }

end Playing

/-! Where the samples are: what the reader task has read is with the pacing task,
in the slot of the result received last, in the channel, or on its way there. -/

namespace Leg

variable {Reader : Type}

def held (leg : Leg Reader) : List Sample :=
  match leg.pacingAt with
  | .ifFirst sample | .barrierWait sample | .released sample | .sendRtp sample =>
      [sample]
  | _ => []

def sending (leg : Leg Reader) : List (Except RustTgCallsError Sample) :=
  match leg.readerAt with
  | .send res => [res]
  | _ => []

def pipe (leg : Leg Reader) : List (Except RustTgCallsError Sample) :=
  leg.held.map .ok ++ (leg.nextSampleRes.toList ++ (leg.channel ++ leg.sending))

/-- The result received last has not been taken. -/
def loaded (leg : Leg Reader) : Bool :=
  match leg.pacingAt with
  | .whileRunning | .whilePaused | .pausedRunning | .notified | .ifRunning | .take
  | .join _ true => true
  | _ => false

/-- The reader task has not come to a failed read. -/
def reading (leg : Leg Reader) : Bool :=
  match leg.readerAt with
  | .send (.error _) | .ended => false
  | _ => true

theorem pipe_congr {old new : Leg Reader} (hat : new.pacingAt = old.pacingAt)
    (hres : new.nextSampleRes = old.nextSampleRes)
    (hcoming : new.channel ++ new.sending = old.channel ++ old.sending) :
    new.pipe = old.pipe := by
  simp only [pipe, held, hat, hres, hcoming]

theorem pipe_recv {leg left : Leg Reader} (hrecv : leg.recv = some (res, left))
    (hempty : leg.nextSampleRes = none) :
    { left with nextSampleRes := res }.pipe = leg.pipe := by
  unfold recv at hrecv
  split at hrecv
  next hchannel =>
    cases hrecv
    simp [pipe, held, sending, hempty, hchannel]
  next hchannel _ =>
    cases hrecv
    simp [pipe, held, sending, hempty, hchannel]
  next => cases hrecv

/-- What a step of one task leaves of the other. -/
structure SameReader (old new : Leg Reader) : Prop where
  reader : new.reader = old.reader
  readerAt : new.readerAt = old.readerAt
  muted : new.muted = old.muted
  running : new.running = old.running
  paused : new.paused = old.paused

theorem paused_readerStep
    (nextSample : Reader → Except RustTgCallsError Sample × Reader)
    (leg : Leg Reader) (stalled : Bool) :
    (leg.readerStep nextSample stalled).paused = leg.paused ∧
      (leg.readerStep nextSample stalled).running = leg.running := by
  unfold readerStep
  split
  case h_6 => split <;> exact ⟨rfl, rfl⟩
  case h_7 =>
    unfold send
    split
    · exact ⟨rfl, rfl⟩
    · split <;> exact ⟨rfl, rfl⟩
  all_goals exact ⟨rfl, rfl⟩

theorem endError_readerStep
    (nextSample : Reader → Except RustTgCallsError Sample × Reader)
    (leg : Leg Reader) (stalled : Bool) :
    (leg.readerStep nextSample stalled).endError = leg.endError ∧
      (leg.readerStep nextSample stalled).doneFlag = leg.doneFlag := by
  unfold readerStep
  split
  case h_6 => split <;> exact ⟨rfl, rfl⟩
  case h_7 =>
    unfold send
    split
    · exact ⟨rfl, rfl⟩
    · split <;> exact ⟨rfl, rfl⟩
  all_goals exact ⟨rfl, rfl⟩

theorem sameReader_recv {leg left : Leg Reader}
    (hrecv : leg.recv = some (res, left)) : SameReader leg left := by
  unfold recv at hrecv
  split at hrecv <;> cases hrecv <;> exact ⟨rfl, rfl, rfl, rfl, rfl⟩

theorem doneFlag_recv {leg left : Leg Reader} (hrecv : leg.recv = some (res, left)) :
    left.doneFlag = leg.doneFlag := by
  unfold recv at hrecv
  split at hrecv <;> cases hrecv <;> rfl

theorem doneFlag_joinStep (leg : Leg Reader) (slept received : Bool)
    (input : PacingInput) :
    (leg.joinStep slept received input).doneFlag = leg.doneFlag := by
  have hjoined (other : Leg Reader) (first second : Bool) :
      (other.joined first second).doneFlag = other.doneFlag := by
    unfold joined
    split <;> rfl
  unfold joinStep
  split
  next => exact hjoined ..
  next => rfl
  next =>
    split
    next hrecv =>
      have hflag := doneFlag_recv hrecv
      rw [hjoined]
      exact hflag
    next => rfl

theorem sameReader_joinStep (leg : Leg Reader) (slept received : Bool)
    (input : PacingInput) : SameReader leg (leg.joinStep slept received input) := by
  have hjoined (other : Leg Reader) (first second : Bool)
      (hsame : SameReader leg other) : SameReader leg (other.joined first second) := by
    obtain ⟨hreader, hat, hmuted, hrunning, hpaused⟩ := hsame
    unfold joined
    split <;> exact ⟨hreader, hat, hmuted, hrunning, hpaused⟩
  have hrefl : SameReader leg leg := ⟨rfl, rfl, rfl, rfl, rfl⟩
  unfold joinStep
  split
  · exact hjoined leg true received hrefl
  · exact hrefl
  · split
    next hrecv =>
      obtain ⟨hreader, hat, hmuted, hrunning, hpaused⟩ := sameReader_recv hrecv
      exact hjoined _ _ _ ⟨hreader, hat, hmuted, hrunning, hpaused⟩
    next => exact hrefl

theorem sameReader_pacingStep (leg : Leg Reader) (input : PacingInput) :
    SameReader leg (leg.pacingStep input) := by
  unfold pacingStep
  split
  case h_1 =>
    split
    next hrecv =>
      obtain ⟨hreader, hat, hmuted, hrunning, hpaused⟩ := sameReader_recv hrecv
      exact ⟨hreader, hat, hmuted, hrunning, hpaused⟩
    next => exact ⟨rfl, rfl, rfl, rfl, rfl⟩
  case h_7 => split <;> exact ⟨rfl, rfl, rfl, rfl, rfl⟩
  case h_8 => split <;> exact ⟨rfl, rfl, rfl, rfl, rfl⟩
  case h_11 => split <;> exact ⟨rfl, rfl, rfl, rfl, rfl⟩
  case h_13 slept received _ => exact sameReader_joinStep leg slept received input
  all_goals exact ⟨rfl, rfl, rfl, rfl, rfl⟩

end Leg

namespace Leg

variable {Reader : Type} {leg : Leg Reader}

/-- The slot is empty wherever its result has been taken. -/
def Emptied (leg : Leg Reader) : Prop :=
  leg.loaded = false → leg.nextSampleRes = none

theorem pipe_joined {slept received : Bool}
    (hat : leg.pacingAt = .join asleep received') :
    (leg.joined slept received).pipe = leg.pipe := by
  unfold joined
  split <;> simp [pipe, held, sending, hat]

theorem emptied_joined {slept received : Bool}
    (hreceived : received = false → leg.nextSampleRes = none) :
    (leg.joined slept received).Emptied := by
  unfold joined
  split
  · simp [Emptied, loaded]
  · intro hloaded
    cases received with
    | true => simp [loaded] at hloaded
    | false => exact hreceived rfl

theorem pipe_joinStep {slept received : Bool} {input : PacingInput}
    (hat : leg.pacingAt = .join slept received) (hemptied : leg.Emptied) :
    (leg.joinStep slept received input).pipe = leg.pipe ∧
      (leg.joinStep slept received input).Emptied := by
  have hreceived (hnone : received = false) : leg.nextSampleRes = none := by
    subst hnone
    exact hemptied (by simp [loaded, hat])
  unfold joinStep
  split
  next => exact ⟨pipe_joined hat, emptied_joined hreceived⟩
  next => exact ⟨rfl, hemptied⟩
  next =>
    split
    next res left hrecv =>
      have hfilled : { left with nextSampleRes := res }.pacingAt =
          .join slept false :=
        (recv_some hrecv).1.trans hat
      refine ⟨?_, emptied_joined (by simp)⟩
      rw [pipe_joined hfilled]
      exact pipe_recv hrecv (hreceived rfl)
    next => exact ⟨rfl, hemptied⟩

end Leg

namespace Playing

variable {Reader : Type} {playing : Playing Reader}

theorem sameReader_pacingLeg (playing : Playing Reader) (input : PacingInput) :
    Leg.SameReader playing.leg (playing.pacingLeg input) := by
  unfold pacingLeg
  split
  · split
    · exact ⟨rfl, rfl, rfl, rfl, rfl⟩
    · exact Leg.sameReader_pacingStep playing.leg input
  · exact Leg.sameReader_pacingStep playing.leg input

theorem doneFlag_pacingLeg {input : PacingInput} (halive : playing.leg.alive = true) :
    (playing.pacingLeg input).doneFlag = playing.leg.doneFlag := by
  unfold pacingLeg Leg.pacingStep
  cases hat : playing.leg.pacingAt with
  | firstRecv =>
      dsimp only
      split
      next hrecv =>
        have hflag := Leg.doneFlag_recv hrecv
        exact hflag
      next => rfl
  | take => dsimp only; split <;> rfl
  | ifFirst sample => dsimp only; split <;> rfl
  | sendRtp sample => dsimp only; split <;> rfl
  | join slept received => exact Leg.doneFlag_joinStep playing.leg slept received input
  | finish | ended => simp [Leg.alive, hat] at halive
  | _ => rfl

/-- A turn of the pacing task takes at most the sample it passes on out of the
pipe. -/
theorem pipe_pacingLeg {input : PacingInput} (hmuted : playing.leg.muted = false)
    (hemptied : playing.leg.Emptied) (halive : (playing.pacingLeg input).alive = true) :
    playing.leg.pipe =
        (passing playing.leg).toList.map .ok ++ (playing.pacingLeg input).pipe ∧
      (playing.pacingLeg input).Emptied := by
  revert halive
  unfold pacingLeg Leg.pacingStep passing
  cases hat : playing.leg.pacingAt with
  | firstRecv =>
      intro _
      have hnone := hemptied (by simp [Leg.loaded, hat])
      dsimp only
      split
      next hrecv =>
        refine ⟨?_, by simp [Leg.Emptied, Leg.loaded]⟩
        rw [← Leg.pipe_recv hrecv hnone]
        simp [Leg.pipe, Leg.held, Leg.sending, (Leg.recv_some hrecv).1, hat]
      next => exact ⟨rfl, hemptied⟩
  | whileRunning =>
      cases playing.leg.running <;>
        simp [Leg.alive, Leg.pipe, Leg.held, Leg.sending, hat, Leg.Emptied, Leg.loaded]
  | whilePaused =>
      cases playing.leg.paused <;>
        simp [Leg.pipe, Leg.held, Leg.sending, hat, Leg.Emptied, Leg.loaded]
  | pausedRunning =>
      cases playing.leg.running <;>
        simp [Leg.pipe, Leg.held, Leg.sending, hat, Leg.Emptied, Leg.loaded]
  | notified =>
      simp [Leg.pipe, Leg.held, Leg.sending, hat, Leg.Emptied, Leg.loaded]
  | ifRunning =>
      cases playing.leg.running <;>
        simp [Leg.alive, Leg.pipe, Leg.held, Leg.sending, hat, Leg.Emptied, Leg.loaded]
  | take =>
      cases hres : playing.leg.nextSampleRes with
      | none => simp [Leg.alive]
      | some res =>
          cases res with
          | error error => simp [Leg.alive]
          | ok sample =>
              simp [Leg.pipe, Leg.held, Leg.sending, hat, hres, Leg.Emptied]
  | ifFirst sample =>
      have hnone := hemptied (by simp [Leg.loaded, hat])
      intro _
      dsimp only
      split
      · cases playing.syncBarrier <;>
          simp [Leg.pipe, Leg.held, Leg.sending, hat, hnone, Leg.Emptied]
      · simp [Leg.pipe, Leg.held, Leg.sending, hat, hnone, Leg.Emptied]
  | barrierWait sample => exact fun _ => ⟨rfl, hemptied⟩
  | released sample =>
      have hnone := hemptied (by simp [Leg.loaded, hat])
      simp [Leg.pipe, Leg.held, Leg.sending, hat, hnone, Leg.Emptied]
  | sendRtp sample =>
      have hnone := hemptied (by simp [Leg.loaded, hat])
      cases input <;>
        simp [Leg.alive, Leg.pipe, Leg.held, Leg.sending, hat, hnone, hmuted, Leg.Emptied]
  | account sample =>
      have hnone := hemptied (by simp [Leg.loaded, hat])
      simp [Leg.pipe, Leg.held, Leg.sending, hat, hnone, Leg.Emptied]
  | join slept received =>
      intro _
      obtain ⟨hpipe, hemptied'⟩ := @Leg.pipe_joinStep _ _ _ _ input hat hemptied
      exact ⟨by simp [hpipe], hemptied'⟩
  | finish => simp [Leg.alive]
  | ended => simp [Leg.alive, hat]

section Flowing

variable (nextSample : Reader → Except RustTgCallsError Sample × Reader)
  (error : RustTgCallsError)

/-- What was sent, what is on its way and what the reader has still to give make
up one list of results. -/
structure Flowing (results : List (Except RustTgCallsError Sample))
    (playing : Playing Reader) : Prop where
  muted : playing.leg.muted = false
  emptied : playing.leg.Emptied
  flow : ∃ future,
    playing.sent.map .ok ++ (playing.leg.pipe ++ future) = results ∧
      (playing.leg.reading = true → ∃ items,
        Yields nextSample playing.leg.reader items error ∧
          future = items.map .ok ++ [.error error]) ∧
      (playing.leg.running = true → playing.leg.reading = false → future = [])

/-- Samples from the front of the list, then an error. -/
def CutOf (samples : List Sample) (results : List (Except RustTgCallsError Sample)) :
    Prop :=
  ∃ first last, first <+: samples ∧ results = first.map .ok ++ [.error last]

end Flowing

section Flowing

variable {nextSample : Reader → Except RustTgCallsError Sample × Reader}
  {error : RustTgCallsError} {samples : List Sample}
  {results : List (Except RustTgCallsError Sample)}

theorem flowing_new {reader : Reader} (hyields : Yields nextSample reader samples error)
    (syncBarrier onEnd : Bool) :
    Flowing nextSample error (samples.map .ok ++ [.error error])
      (new reader syncBarrier onEnd) where
  muted := rfl
  emptied := fun _ => rfl
  flow := by
    refine ⟨samples.map .ok ++ [.error error], ?_, ?_, ?_⟩
    · simp [new, Leg.new, Leg.pipe, Leg.held, Leg.sending]
    · exact fun _ => ⟨samples, hyields, rfl⟩
    · simp [new, Leg.new, Leg.reading]

/-- A step that moves nothing; the reader task does not go on after a failed read,
nor break off while the streamer runs. -/
theorem Flowing.still (hflowing : Flowing nextSample error results playing)
    {other : Playing Reader} (hsent : other.sent = playing.sent)
    (hmuted : other.leg.muted = playing.leg.muted) (hemptied : other.leg.Emptied)
    (hpipe : other.leg.pipe = playing.leg.pipe)
    (hreader : other.leg.reader = playing.leg.reader)
    (hreading : other.leg.reading = true → playing.leg.reading = true)
    (hbreaks : other.leg.running = true → other.leg.reading = false →
      playing.leg.running = true ∧ playing.leg.reading = false) :
    Flowing nextSample error results other := by
  obtain ⟨hunmuted, _, future, hflow, hfuture, htail⟩ := hflowing
  refine ⟨hmuted.trans hunmuted, hemptied, future, ?_, ?_, ?_⟩
  · rw [hsent, hpipe]
    exact hflow
  · intro hread
    rw [hreader]
    exact hfuture (hreading hread)
  · intro hrunning hread
    obtain ⟨hrunning', hread'⟩ := hbreaks hrunning hread
    exact htail hrunning' hread'

theorem Flowing.pacing (hflowing : Flowing nextSample error results playing)
    {input : PacingInput} (halive : (playing.pacing input).leg.alive = true) :
    Flowing nextSample error results (playing.pacing input) := by
  obtain ⟨hmuted, hemptied, future, hflow, hfuture, htail⟩ := hflowing
  obtain ⟨hpipe, hemptied'⟩ := pipe_pacingLeg hmuted hemptied halive
  have hsame := playing.sameReader_pacingLeg input
  have hreading : (playing.pacingLeg input).reading = playing.leg.reading := by
    simp [Leg.reading, hsame.readerAt]
  refine ⟨hsame.muted.trans hmuted, hemptied', future, ?_, ?_, ?_⟩
  · rw [← hflow, hpipe]
    simp [Playing.pacing]
  · intro hread
    simp only [Playing.pacing, hreading] at hread
    simpa [Playing.pacing, hsame.reader] using hfuture hread
  · intro hrunning hread
    simp only [Playing.pacing, hreading, hsame.running] at hrunning hread
    exact htail hrunning hread

/-- What has been read in a stream that is still read is a list of samples from
its front. -/
theorem CutOf.front {front items : List (Except RustTgCallsError Sample)}
    {last : RustTgCallsError}
    (hcut : CutOf samples (front ++ (items ++ [.error last]))) :
    ∃ first, first <+: samples ∧ front = first.map .ok := by
  obtain ⟨first, last', hprefix, hresults⟩ := hcut
  rw [← List.append_assoc] at hresults
  obtain ⟨hfront, _⟩ := List.append_inj' hresults rfl
  obtain ⟨read, rest, hfirst, hread, _⟩ := List.append_eq_map_iff.mp hfront
  subst hfirst
  exact ⟨read, (List.prefix_append read rest).trans hprefix, hread.symm⟩

theorem Flowing.stall (hflowing : Flowing nextSample error results playing)
    (hat : playing.leg.readerAt = .nextSample) :
    ∃ results', Flowing nextSample error results'
        (playing.next nextSample (.reader true)) ∧
      (CutOf samples results → CutOf samples results') := by
  obtain ⟨hmuted, hemptied, future, hflow, hfuture, _⟩ := hflowing
  have hleg : playing.leg.readerStep nextSample true =
      { playing.leg with readerAt := .send Leg.stallResult } := by
    simp [Leg.readerStep, hat]
  refine ⟨playing.sent.map .ok ++ (playing.leg.pipe ++ [Leg.stallResult]), ?_, ?_⟩
  · simp only [next, hleg]
    refine ⟨hmuted, hemptied, [], ?_, ?_, fun _ _ => rfl⟩
    · simp [Leg.pipe, Leg.held, Leg.sending, hat]
    · simp [Leg.reading, Leg.stallResult]
  · intro hcut
    obtain ⟨items, _, hitems⟩ := hfuture (by simp [Leg.reading, hat])
    rw [← hflow, hitems, ← List.append_assoc] at hcut
    obtain ⟨first, hprefix, hfront⟩ := hcut.front
    refine ⟨first, .internal "streamer read timed out after 30s", hprefix, ?_⟩
    rw [← List.append_assoc, hfront]
    rfl

theorem Flowing.read (hflowing : Flowing nextSample error results playing)
    (hat : playing.leg.readerAt = .nextSample) :
    Flowing nextSample error results (playing.next nextSample (.reader false)) := by
  obtain ⟨hmuted, hemptied, future, hflow, hfuture, _⟩ := hflowing
  obtain ⟨items, hyields, hitems⟩ := hfuture (by simp [Leg.reading, hat])
  subst hitems
  have hleg := Leg.readerStep_nextSample nextSample hat
  simp only [next, hleg]
  refine ⟨hmuted, hemptied, ?_⟩
  cases hyields with
  | stop hfailed =>
      refine ⟨[], ?_, ?_, fun _ _ => rfl⟩
      · rw [← hflow]
        simp [Leg.pipe, Leg.held, Leg.sending, hat, hfailed]
      · simp [Leg.reading, hfailed]
  | item hpulled hrest =>
      have hleft := congrArg Prod.snd hpulled
      simp only at hleft
      rw [← hleft] at hrest
      refine ⟨_, ?_, fun _ => ⟨_, hrest, rfl⟩, ?_⟩
      · rw [← hflow]
        simp [Leg.pipe, Leg.held, Leg.sending, hat, hpulled]
      · simp [Leg.reading, hpulled]

theorem Flowing.readerSend (hflowing : Flowing nextSample error results playing)
    (halive : playing.leg.alive = true) (stalled : Bool)
    (hat : playing.leg.readerAt = .send res) :
    Flowing nextSample error results (playing.next nextSample (.reader stalled)) := by
  have hemptied := hflowing.emptied
  have hlive : playing.leg.pacingAt ≠ .ended := by
    intro hended
    simp [Leg.alive, hended] at halive
  simp only [next, Leg.readerStep, hat]
  unfold Leg.send
  split
  next hended => exact absurd hended hlive
  next =>
    split
    · refine hflowing.still rfl rfl hemptied ?_ rfl ?_ ?_
      · cases res <;> simp [Leg.pipe, Leg.held, Leg.sending, hat]
      · cases res <;> simp [Leg.reading, hat]
      · cases res <;> simp [Leg.reading, hat]
    · exact hflowing

theorem Flowing.reader (hflowing : Flowing nextSample error results playing)
    (halive : playing.leg.alive = true) (stalled : Bool) :
    ∃ results', Flowing nextSample error results'
        (playing.next nextSample (.reader stalled)) ∧
      (stalled = false → results' = results) ∧
      (CutOf samples results → CutOf samples results') := by
  have hemptied := hflowing.emptied
  have hsame (hkeeps : Flowing nextSample error results
      (playing.next nextSample (.reader stalled))) :
      ∃ results', Flowing nextSample error results'
          (playing.next nextSample (.reader stalled)) ∧
        (stalled = false → results' = results) ∧
        (CutOf samples results → CutOf samples results') :=
    ⟨results, hkeeps, fun _ => rfl, id⟩
  cases hat : playing.leg.readerAt with
  | send res => exact hsame (hflowing.readerSend halive stalled hat)
  | nextSample =>
      cases stalled with
      | false => exact hsame (hflowing.read hat)
      | true =>
          obtain ⟨results', hflowing', hcut⟩ := hflowing.stall hat
          exact ⟨results', hflowing', by simp, hcut⟩
  | ended =>
      apply hsame
      simpa [next, Leg.readerStep, hat] using hflowing
  | whileRunning | whilePaused | pausedRunning | notified | ifRunning =>
      apply hsame
      have hquiet : playing.leg.sending = [] := by simp [Leg.sending, hat]
      have hreading : playing.leg.reading = true := by simp [Leg.reading, hat]
      simp only [next, Leg.readerStep, hat]
      refine hflowing.still rfl rfl hemptied ?_ rfl (fun _ => hreading) ?_
      · refine Leg.pipe_congr rfl rfl ?_
        rw [hquiet]
        cases playing.leg.running <;> cases playing.leg.paused <;> rfl
      · intro hrunning
        dsimp only at hrunning
        cases playing.leg.paused <;> simp [Leg.reading, hrunning]

theorem Flowing.release (hflowing : Flowing nextSample error results playing) :
    Flowing nextSample error results (playing.next nextSample .release) := by
  have hemptied := hflowing.emptied
  simp only [next, Leg.release]
  split
  next sample hat =>
    refine hflowing.still rfl rfl ?_ ?_ rfl id fun hrunning hread => ⟨hrunning, hread⟩
    · intro _
      exact hemptied (by simp [Leg.loaded, hat])
    · simp [Leg.pipe, Leg.held, Leg.sending, hat]
  next => exact hflowing

theorem report_frame (playing : Playing Reader) :
    playing.report.leg = playing.leg ∧ playing.report.sent = playing.sent ∧
      playing.report.sincePause = playing.sincePause := by
  unfold report
  split <;> exact ⟨rfl, rfl, rfl⟩

/-- Every step of a living pacing task keeps the flow, with the list of results cut
short where a read stalls. -/
theorem Flowing.next (hflowing : Flowing nextSample error results playing)
    (halive : playing.leg.alive = true) (action : Action)
    (halive' : (playing.next nextSample action).leg.alive = true) :
    ∃ results', Flowing nextSample error results' (playing.next nextSample action) ∧
      (action ≠ .reader true → results' = results) ∧
      (CutOf samples results → CutOf samples results') := by
  have hsame (hkeeps : Flowing nextSample error results
      (playing.next nextSample action)) :
      ∃ results', Flowing nextSample error results' (playing.next nextSample action) ∧
        (action ≠ .reader true → results' = results) ∧
        (CutOf samples results → CutOf samples results') :=
    ⟨results, hkeeps, fun _ => rfl, id⟩
  have hemptied := hflowing.emptied
  cases action with
  | reader stalled =>
      obtain ⟨results', hflowing', hread, hcut⟩ :=
        hflowing.reader halive stalled
      refine ⟨results', hflowing', fun hne => hread ?_, hcut⟩
      cases stalled with
      | false => rfl
      | true => exact absurd rfl hne
  | pacing input => exact hsame (hflowing.pacing halive')
  | release => exact hsame hflowing.release
  | report =>
      obtain ⟨hleg, hsent, _⟩ := playing.report_frame
      apply hsame
      apply hflowing.still hsent <;> simp +contextual [hleg, hemptied]
  | pause | resume | clearOnEnd =>
      exact hsame (hflowing.still rfl rfl hemptied rfl rfl id
        fun hrunning hread => ⟨hrunning, hread⟩)
  | stopRunning =>
      exact hsame (hflowing.still rfl rfl hemptied rfl rfl id (by simp [Playing.next]))

/-! What is sent is the front of what the reader gives. -/

theorem prefix_of_map_ok {first second : List Sample}
    {rest : List (Except RustTgCallsError Sample)} {last : RustTgCallsError}
    (hsame : first.map .ok ++ rest = second.map .ok ++ [.error last]) :
    first <+: second := by
  induction first generalizing second with
  | nil => exact List.nil_prefix
  | cons sample first ih =>
      cases second with
      | nil => simp at hsame
      | cons other second =>
          simp only [List.map_cons, List.cons_append, List.cons.injEq,
            Except.ok.injEq] at hsame
          obtain ⟨hhead, htail⟩ := hsame
          subst hhead
          exact List.cons_prefix_cons.mpr ⟨rfl, ih htail⟩

theorem passing_held (leg : Leg Reader) :
    (passing leg).toList = [] ∨ (passing leg).toList = leg.held := by
  unfold passing Leg.held
  split
  next hat =>
    split
    · exact .inl rfl
    · exact .inr (by simp [hat])
  next => exact .inl rfl

theorem Flowing.sent_prefix (hflowing : Flowing nextSample error results playing)
    (hcut : CutOf samples results) :
    playing.sent ++ (passing playing.leg).toList <+: samples := by
  obtain ⟨_, _, future, hflow, _⟩ := hflowing
  obtain ⟨first, last, hprefix, hresults⟩ := hcut
  subst hresults
  apply List.IsPrefix.trans _ hprefix
  obtain hnone | hheld := passing_held playing.leg
  · rw [hnone, List.append_nil]
    exact prefix_of_map_ok hflow
  · rw [hheld]
    simp only [Leg.pipe, List.append_assoc] at hflow
    rw [← List.append_assoc, ← List.map_append] at hflow
    exact prefix_of_map_ok hflow

theorem alive_pacingLeg {input : PacingInput}
    (halive : (playing.pacingLeg input).alive = true) : playing.leg.alive = true := by
  unfold pacingLeg at halive
  cases hat : playing.leg.pacingAt with
  | finish | ended => simp [hat, Leg.pacingStep, Leg.alive] at halive
  | _ => simp [Leg.alive, hat]

/-- A pacing task that has left its loop does not come back. -/
theorem alive_next (action : Action)
    (halive : (playing.next nextSample action).leg.alive = true) :
    playing.leg.alive = true := by
  cases action with
  | reader stalled =>
      have hsame := Leg.samePacing_readerStep nextSample playing.leg stalled
      exact hsame.alive ▸ halive
  | pacing input => exact alive_pacingLeg halive
  | release =>
      simp only [next, Leg.release] at halive
      split at halive
      next hat => simp [Leg.alive, hat]
      next => exact halive
  | report => exact playing.report_frame.1 ▸ halive
  | pause | resume | stopRunning | clearOnEnd => exact halive

theorem passing_of_not_alive {leg : Leg Reader} (hdead : leg.alive = false) :
    passing leg = none := by
  unfold passing
  split
  next hat => simp [Leg.alive, hat] at hdead
  next => rfl

theorem sent_next (action : Action) :
    (playing.next nextSample action).sent = playing.sent ∨
      (playing.next nextSample action).sent =
        playing.sent ++ (passing playing.leg).toList := by
  cases action with
  | pacing input => exact .inr rfl
  | report => exact .inl playing.report_frame.2.1
  | _ => exact .inl rfl

/-- The property of what is sent, and what carries it. -/
structure Ordered (nextSample : Reader → Except RustTgCallsError Sample × Reader)
    (error : RustTgCallsError) (samples : List Sample) (playing : Playing Reader) :
    Prop where
  sent : playing.sent <+: samples
  flowing : playing.leg.alive = true → ∃ results, CutOf samples results ∧
    Flowing nextSample error results playing

theorem ordered_new {reader : Reader} (hyields : Yields nextSample reader samples error)
    (syncBarrier onEnd : Bool) :
    Ordered nextSample error samples (new reader syncBarrier onEnd) where
  sent := List.nil_prefix
  flowing := fun _ => ⟨_, ⟨samples, error, List.prefix_refl _, rfl⟩,
    flowing_new hyields syncBarrier onEnd⟩

theorem ordered_next (playing : Playing Reader) (action : Action)
    (hordered : Ordered nextSample error samples playing) :
    Ordered nextSample error samples (playing.next nextSample action) := by
  constructor
  · obtain hsent | hsent := sent_next action
    · rw [hsent]
      exact hordered.sent
    · rw [hsent]
      cases halive : playing.leg.alive with
      | true =>
          obtain ⟨results, hcut, hflowing⟩ := hordered.flowing halive
          exact hflowing.sent_prefix hcut
      | false =>
          rw [passing_of_not_alive halive]
          simpa using hordered.sent
  · intro halive'
    have halive := alive_next action halive'
    obtain ⟨results, hcut, hflowing⟩ := hordered.flowing halive
    obtain ⟨results', hflowing', _, hcut'⟩ := hflowing.next halive action halive'
    exact ⟨results', hcut' hcut, hflowing'⟩

end Flowing

/-! A pause lets through at most the sample that is past its test. -/

/-- Past the test of the paused flag, with the send still to come. -/
def past (leg : Leg Reader) : Bool :=
  match leg.pacingAt with
  | .ifRunning => leg.running
  | .take | .ifFirst _ | .barrierWait _ | .released _ | .sendRtp _ => true
  | _ => false

theorem past_of_passing {leg : Leg Reader} (hpassing : passing leg ≠ none) :
    past leg = true := by
  unfold passing at hpassing
  split at hpassing
  next hat => simp [past, hat]
  next => exact absurd rfl hpassing

theorem past_pacingLeg {input : PacingInput}
    (hheld : playing.leg.pacingAt = .whilePaused →
      playing.leg.paused = true ∨ playing.leg.running = false)
    (hpast : past (playing.pacingLeg input) = true) :
    past playing.leg = true ∧ passing playing.leg = none := by
  unfold pacingLeg Leg.pacingStep at hpast
  cases hat : playing.leg.pacingAt with
  | firstRecv =>
      simp only [hat] at hpast
      split at hpast
      · simp [past] at hpast
      · simp [past, hat] at hpast
  | whileRunning => cases hrunning : playing.leg.running <;> simp [hat, hrunning, past] at hpast
  | whilePaused =>
      obtain hpaused | hstopped := hheld hat
      · simp [hat, hpaused, past] at hpast
      · cases hpaused : playing.leg.paused <;> simp [hat, hpaused, hstopped, past] at hpast
  | pausedRunning => cases hrunning : playing.leg.running <;> simp [hat, hrunning, past] at hpast
  | ifRunning =>
      cases hrunning : playing.leg.running with
      | true => simp [past, passing, hat, hrunning]
      | false => simp [hat, hrunning, past] at hpast
  | sendRtp sample =>
      simp only [hat] at hpast
      split at hpast <;> simp [past] at hpast
  | join slept received =>
      simp only [hat] at hpast
      obtain ⟨hjoin | ⟨asleep, held, hjoin⟩, _, _⟩ :=
        Leg.atJoin_joinStep playing.leg slept received input hat <;>
        simp [past, hjoin] at hpast
  | take | ifFirst sample | barrierWait sample | released sample =>
      simp [past, passing, hat]
  | notified | account sample | finish | ended => simp [hat, past] at hpast

/-- Where no test of the paused flag is passed, only the sample on its way goes out. -/
theorem onItsWay_pacing (hheld : playing.leg.pacingAt = .whilePaused →
      playing.leg.paused = true ∨ playing.leg.running = false) (input : PacingInput) :
    (passing playing.leg).toList.length + (past (playing.pacingLeg input)).toNat ≤
      (past playing.leg).toNat := by
  cases hafter : past (playing.pacingLeg input) with
  | true =>
      obtain ⟨hwas, hnone⟩ := past_pacingLeg hheld hafter
      simp [hwas, hnone]
  | false =>
      cases hpassing : passing playing.leg with
      | none => simp
      | some sample =>
          have hwas := @past_of_passing _ playing.leg (by simp [hpassing])
          simp [hwas]

/-- Since a pause that was not resumed at most one sample was passed on, and none
if another one is on its way. -/
def Hushed (playing : Playing Reader) : Prop :=
  ∀ passed, playing.sincePause = some passed →
    playing.leg.paused = true ∧ passed + (past playing.leg).toNat ≤ 1

theorem hushed_pacing (hhushed : Hushed playing) (input : PacingInput) :
    Hushed (playing.pacing input) := by
  intro passed hpassed
  obtain ⟨before, hbefore, hcount⟩ := Option.map_eq_some_iff.mp hpassed
  obtain ⟨hpaused, hone⟩ := hhushed before hbefore
  have hsame := playing.sameReader_pacingLeg input
  have hway := onItsWay_pacing (fun _ => .inl hpaused) input
  refine ⟨hsame.paused.trans hpaused, ?_⟩
  simp only [pacing]
  omega

theorem hushed_next (nextSample : Reader → Except RustTgCallsError Sample × Reader)
    (playing : Playing Reader) (action : Action) (hhushed : Hushed playing) :
    Hushed (playing.next nextSample action) := by
  cases action with
  | reader stalled =>
      intro passed hpassed
      have hsame := Leg.samePacing_readerStep nextSample playing.leg stalled
      obtain ⟨hpaused, _⟩ := Leg.paused_readerStep nextSample playing.leg stalled
      simpa [next, past, hsame.pacingAt, hsame.running, hpaused] using
        hhushed passed hpassed
  | pacing input => exact hushed_pacing hhushed input
  | release =>
      intro passed hpassed
      have hbefore := hhushed passed hpassed
      simp only [next, Leg.release]
      split
      next hat => simpa [past, hat] using hbefore
      next => exact hbefore
  | report =>
      obtain ⟨hleg, _, hsince⟩ := playing.report_frame
      intro passed hpassed
      simp only [next] at hpassed ⊢
      rw [hsince] at hpassed
      rw [hleg]
      exact hhushed passed hpassed
  | pause =>
      intro passed hpassed
      refine ⟨rfl, ?_⟩
      have hcount := Option.some.inj hpassed
      cases hsince : playing.sincePause with
      | none =>
          rw [hsince] at hcount
          simp only [Option.getD_none] at hcount
          rw [← hcount]
          exact Nat.zero_add _ ▸ Bool.toNat_le _
      | some before =>
          rw [hsince] at hcount
          simp only [Option.getD_some] at hcount
          rw [← hcount]
          exact (hhushed before hsince).2
  | resume =>
      intro passed hpassed
      cases hpassed
  | clearOnEnd => exact hhushed
  | stopRunning =>
      intro passed hpassed
      obtain ⟨hpaused, hone⟩ := hhushed passed hpassed
      refine ⟨hpaused, ?_⟩
      have hless : (past { playing.leg with running := false }).toNat ≤
          (past playing.leg).toNat := by
        unfold past
        cases playing.leg.pacingAt <;> simp
      exact Nat.le_trans (Nat.add_le_add_left hless passed) hone

end Playing

end RustTgCalls.Media
