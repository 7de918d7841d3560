import RustTgCalls.Library.Transition
import RustTgCalls.Library.FairMutex
import RustTgCalls.Models
import Mathlib.Logic.Function.Basic

namespace RustTgCalls.Io

open Transition

/-! The child process of a `ShellReader`, the reap task that waits for it and
the calls of `close`. -/

inductive Task where
  | reap
  | closer (id : Nat)
  deriving DecidableEq, Repr

inductive WaitResult where
  | success
  | failure (status : String)
  | error (detail : String)
  deriving DecidableEq, Repr

inductive Process where
  | running
  | exited (result : WaitResult)
  deriving DecidableEq, Repr

inductive ReapAt where
  | lock
  | queued
  | waiting
  | storeError (err : Option RustTgCallsError)
  | callback (err : Option RustTgCallsError)
  | markExited
  | returned
  deriving DecidableEq, Repr

inductive CloserAt where
  | idle
  | called
  | lock
  | queued
  | killing
  | markExited
  | returned
  deriving DecidableEq, Repr

/-- `child` is whether the option behind the mutex still holds the child, and
`killed` whether the kill signal has been sent. -/
structure ShellReader where
  mutex : FairMutex Task
  child : Bool
  process : Process
  killed : Bool
  closed : Bool
  exited : Bool
  exitError : Option RustTgCallsError
  hasOnExit : Bool
  reported : List (Option RustTgCallsError)
  reapAt : ReapAt
  closers : Nat → CloserAt

namespace ShellReader

/-- A reader whose child has just been spawned, and the reap task with it. -/
def new (hasOnExit : Bool) : ShellReader where
  mutex := .free
  child := true
  process := .running
  killed := false
  closed := false
  exited := false
  exitError := none
  hasOnExit := hasOnExit
  reported := []
  reapAt := .lock
  closers := fun _ => .idle

inductive Action where
  | reap
  | call (id : Nat)
  | closer (id : Nat)
  /-- The signal takes effect. -/
  | die
  /-- The child exits by itself. -/
  | exit (result : WaitResult)
  deriving DecidableEq, Repr

def exitErrorOf : WaitResult → Option RustTgCallsError
  | .success => none
  | .failure status => some (.ffmpegCrashed ("ffmpeg exited with code " ++ status))
  | .error detail => some (.ffmpegCrashed detail)

def inspect (reader : ShellReader) : ShellReader :=
  if reader.child then { reader with reapAt := .waiting }
  else { reader with reapAt := .returned, mutex := reader.mutex.release }

/-- The reap task.  A free mutex is taken and the child looked for in one step,
as nothing the task awaits lies between. -/
def reapStep (reader : ShellReader) : ShellReader :=
  match reader.reapAt with
  | .lock =>
      let requested := { reader with mutex := reader.mutex.request .reap }
      if requested.mutex.holder = some .reap then requested.inspect
      else { requested with reapAt := .queued }
  | .queued =>
      if reader.mutex.holder = some .reap then reader.inspect else reader
  | .waiting =>
      match reader.process with
      | .running => reader
      | .exited result =>
          { reader with
            mutex := reader.mutex.release
            reapAt := .storeError (exitErrorOf result) }
  | .storeError err =>
      { reader with exitError := err, reapAt := .callback err }
  | .callback err =>
      { reader with
        reported :=
          if reader.hasOnExit then reader.reported ++ [err] else reader.reported
        reapAt := .markExited }
  | .markExited => { reader with exited := true, reapAt := .returned }
  | .returned => reader

def moveTo (reader : ShellReader) (id : Nat) (closerAt : CloserAt) :
    ShellReader :=
  { reader with closers := Function.update reader.closers id closerAt }

/-- `close`; the mutex is held to its end. -/
def closerStep (reader : ShellReader) (id : Nat) : ShellReader :=
  match reader.closers id with
  | .idle => reader
  | .called =>
      if reader.closed then reader.moveTo id .returned
      else { reader with closed := true }.moveTo id .lock
  | .lock =>
      { reader with mutex := reader.mutex.request (.closer id) }.moveTo id .queued
  | .queued =>
      if reader.mutex.holder = some (.closer id) then
        if reader.child then
          { reader with child := false, killed := true }.moveTo id .killing
        else reader.moveTo id .markExited
      else reader
  | .killing =>
      match reader.process with
      | .running => reader
      | .exited _ => reader.moveTo id .markExited
  | .markExited =>
      { reader with exited := true, mutex := reader.mutex.release }.moveTo id
        .returned
  | .returned => reader

/-- One atomic step; a step that is not possible changes nothing. -/
def next (reader : ShellReader) : Action → ShellReader
  | .reap => reader.reapStep
  | .call id =>
      if reader.closers id = .idle then reader.moveTo id .called else reader
  | .closer id => reader.closerStep id
  | .die =>
      if reader.killed ∧ reader.process = .running then
        { reader with process := .exited (.failure "signal: 9 (SIGKILL)") }
      else reader
  | .exit result =>
      if reader.process = .running then
        { reader with process := .exited result }
      else reader

end ShellReader

end RustTgCalls.Io
