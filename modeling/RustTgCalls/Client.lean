import RustTgCalls.Models
import Mathlib.Data.List.Basic
import Mathlib.Logic.Function.Basic

namespace RustTgCalls

/-! The call map of a `Client` under concurrent creations. -/

inductive CallKind where
  | group
  | rtmp (url : String)
  deriving DecidableEq, Repr

structure Request where
  chatId : Int
  kind : CallKind
  deriving DecidableEq, Repr

/-- Where a creation stands; a group call is answered with its local params. -/
inductive CreateAt where
  | idle
  | test (request : Request)
  | readCallback (request : Request)
  | construct (request : Request)
  | localParams (request : Request)
  | insert (request : Request) (json : Option String)
  | returned (request : Request)
      (result : Except RustTgCallsError (Option String))
  deriving DecidableEq

inductive CreateInput where
  | ok (json : String)
  | fails (detail : String)
  | invalid (detail : String)
  deriving DecidableEq, Repr

/-- A call in the map is known by the creation that made it.  `overwritten`
lists the calls that an insertion has displaced. -/
structure Client where
  started : Nat
  creators : Nat → CreateAt
  calls : Int → Option Nat
  overwritten : Int → List Nat

namespace Client

def new : Client where
  started := 0
  creators := fun _ => .idle
  calls := fun _ => none
  overwritten := fun _ => []

inductive Action where
  | create (request : Request)
  | step (id : Nat) (input : CreateInput)
  deriving DecidableEq, Repr

/-- `contains_key`, with nothing to await before the insertion of an RTMP
call. -/
def createTest (client : Client) (request : Request) : CreateAt :=
  if (client.calls request.chatId).isSome then
    .returned request (.error .connectionExists)
  else
    match request.kind with
    | .group => .readCallback request
    | .rtmp _ => .insert request none

def createTurn (client : Client) (stage : CreateAt) (input : CreateInput) :
    CreateAt :=
  match stage with
  | .test request => client.createTest request
  | .readCallback request => .construct request
  | .construct request =>
      match input with
      | .ok _ => .localParams request
      | .fails detail | .invalid detail =>
          .returned request (.error (.internal detail))
  | .localParams request =>
      match input with
      | .ok json => .insert request (some json)
      | .fails detail => .returned request (.error (.internal detail))
      | .invalid detail => .returned request (.error (.invalidParams detail))
  | .insert request json => .returned request (.ok json)
  | .idle => .idle
  | .returned request result => .returned request result

/-- One atomic step; a step that is not possible changes nothing. -/
def next (client : Client) : Action → Client
  | .create request =>
      { client with
        started := client.started + 1
        creators := Function.update client.creators client.started
          (.test request) }
  | .step id input =>
      let stage := client.createTurn (client.creators id) input
      let moved :=
        { client with creators := Function.update client.creators id stage }
      match client.creators id with
      | .insert request _ =>
          { moved with
            calls := Function.update client.calls request.chatId (some id)
            overwritten := Function.update client.overwritten request.chatId
              (client.overwritten request.chatId ++
                (client.calls request.chatId).toList) }
      | _ => moved

end Client

end RustTgCalls
