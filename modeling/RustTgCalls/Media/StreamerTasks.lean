import RustTgCalls.Media.FrameReader

namespace RustTgCalls.Media

/-! The two tasks of a streamer that shares a barrier with the other leg, one
atomic access or await at a time.  Deadlines are left to the scheduler: a sleep
may end at any step. -/

inductive ReaderAt where
  | whileRunning
  | whilePaused
  | pausedRunning
  | notified
  | ifRunning
  | nextSample
  | send (res : Except RustTgCallsError Sample)
  | ended

inductive PacingAt where
  | firstRecv
  | whileRunning
  | whilePaused
  | pausedRunning
  | notified
  | ifRunning
  | take
  | ifFirst (sample : Sample)
  | barrierWait (sample : Sample)
  | released (sample : Sample)
  | sendRtp (sample : Sample)
  | account (sample : Sample)
  | join (slept received : Bool)
  | finish
  | ended

/-- A streamer with its two tasks; `channel` holds what the reader has sent. -/
structure Leg (Reader : Type) where
  reader : Reader
  readerAt : ReaderAt
  channel : List (Except RustTgCallsError Sample)
  muted : Bool
  paused : Bool
  running : Bool
  doneFlag : Bool
  nsSent : Nat
  pacingAt : PacingAt
  firstSample : Bool
  nextSampleRes : Option (Except RustTgCallsError Sample)
  endError : Option RustTgCallsError

/-- What the pacing task is woken for: its next step, a transmission the stack
refuses, or the end of its sleep. -/
inductive PacingInput where
  | proceed
  | sendFails (error : RustTgCallsError)
  | slept

namespace Leg

variable {Reader : Type}

def new (reader : Reader) : Leg Reader where
  reader := reader
  readerAt := .whileRunning
  channel := []
  muted := false
  paused := false
  running := true
  doneFlag := false
  nsSent := 0
  pacingAt := .firstRecv
  firstSample := true
  nextSampleRes := none
  endError := none

def channelCapacity : Nat := 256

/-- `rx.recv()`: the oldest result, the end of the channel, or not ready. -/
def recv (leg : Leg Reader) :
    Option (Option (Except RustTgCallsError Sample) × Leg Reader) :=
  match leg.channel, leg.readerAt with
  | res :: rest, _ => some (some res, { leg with channel := rest })
  | [], .ended => some (none, leg)
  | [], _ => none

/-- `tx.send(res)`, which fails once the pacing task has dropped the receiver,
and the break behind it. -/
def send (leg : Leg Reader) (res : Except RustTgCallsError Sample) :
    Leg Reader :=
  match leg.pacingAt with
  | .ended => { leg with readerAt := .ended }
  | _ =>
      if leg.channel.length < channelCapacity then
        { leg with
          channel := leg.channel ++ [res]
          readerAt := match res with
            | .ok _ => .whileRunning
            | .error _ => .ended }
      else leg

def stallResult : Except RustTgCallsError Sample :=
  .error (.internal "streamer read timed out after 30s")

/-- One step of the reader task; `stalled` is whether a read meets the stall
timeout. -/
def readerStep (nextSample : Reader → Except RustTgCallsError Sample × Reader)
    (leg : Leg Reader) (stalled : Bool) : Leg Reader :=
  match leg.readerAt with
  | .whileRunning =>
      { leg with readerAt := if leg.running then .whilePaused else .ended }
  | .whilePaused =>
      { leg with readerAt := if leg.paused then .pausedRunning else .ifRunning }
  | .pausedRunning =>
      { leg with readerAt := if leg.running then .notified else .ifRunning }
  | .notified => { leg with readerAt := .whilePaused }
  | .ifRunning =>
      { leg with readerAt := if leg.running then .nextSample else .ended }
  | .nextSample =>
      if stalled then
        { leg with readerAt := .send stallResult }
      else
        let (res, left) := nextSample leg.reader
        { leg with reader := left, readerAt := .send res }
  | .send res => leg.send res
  | .ended => leg

/-- A read that comes back in time. -/
theorem readerStep_nextSample
    (nextSample : Reader → Except RustTgCallsError Sample × Reader) {leg : Leg Reader}
    (hat : leg.readerAt = .nextSample) :
    leg.readerStep nextSample false =
      { leg with
        reader := (nextSample leg.reader).2
        readerAt := .send (nextSample leg.reader).1 } := by
  simp [readerStep, hat]

def joined (leg : Leg Reader) (slept received : Bool) : Leg Reader :=
  if slept && received then { leg with pacingAt := .whileRunning }
  else { leg with pacingAt := .join slept received }

def joinStep (leg : Leg Reader) (slept received : Bool) (input : PacingInput) :
    Leg Reader :=
  match input, received with
  | .slept, _ => leg.joined true received
  | _, true => leg
  | _, false =>
      match leg.recv with
      | some (res, left) => { left with nextSampleRes := res }.joined slept true
      | none => leg

/-- One step of the pacing task, up to the arrival at the barrier. -/
def pacingStep (leg : Leg Reader) (input : PacingInput) : Leg Reader :=
  match leg.pacingAt with
  | .firstRecv =>
      match leg.recv with
      | some (res, left) =>
          { left with nextSampleRes := res, pacingAt := .whileRunning }
      | none => leg
  | .whileRunning =>
      { leg with pacingAt := if leg.running then .whilePaused else .finish }
  | .whilePaused =>
      { leg with pacingAt := if leg.paused then .pausedRunning else .ifRunning }
  | .pausedRunning =>
      { leg with pacingAt := if leg.running then .notified else .ifRunning }
  | .notified => { leg with firstSample := true, pacingAt := .whilePaused }
  | .ifRunning =>
      { leg with pacingAt := if leg.running then .take else .finish }
  | .take =>
      match leg.nextSampleRes with
      | none => { leg with pacingAt := .finish }
      | some (.error error) =>
          { leg with
            nextSampleRes := none
            endError := some error
            pacingAt := .finish }
      | some (.ok sample) =>
          { leg with nextSampleRes := none, pacingAt := .ifFirst sample }
  | .ifFirst sample =>
      if leg.firstSample then leg else { leg with pacingAt := .sendRtp sample }
  | .barrierWait _ => leg
  | .released sample =>
      { leg with firstSample := false, pacingAt := .sendRtp sample }
  | .sendRtp sample =>
      match leg.muted, input with
      | false, .sendFails error =>
          { leg with endError := some error, pacingAt := .finish }
      | _, _ => { leg with pacingAt := .account sample }
  | .account sample =>
      { leg with
        nsSent := (leg.nsSent + sample.duration) % UInt64.size
        pacingAt := .join false false }
  | .join slept received => leg.joinStep slept received input
  | .finish => { leg with doneFlag := true, pacingAt := .ended }
  | .ended => leg

def release (leg : Leg Reader) : Leg Reader :=
  match leg.pacingAt with
  | .barrierWait sample => { leg with pacingAt := .released sample }
  | _ => leg

end Leg

end RustTgCalls.Media
