import RustTgCalls.Library.Transition
import RustTgCalls.Client
import RustTgCalls.Instances.Installing

namespace RustTgCalls

open Instances Media

/-! A `Client` in use: its registered callbacks, its map, the calls that its
creations have made, and its `close`. -/

/-- The callbacks that `create_call` puts into the events of its call.  A callback
is known by its registration. -/
structure Captured where
  onStreamEnd : Option Nat
  onConnectionChange : Option Nat
  deriving DecidableEq, Repr

/-- Where `Client::close` stands: the chats its iterator has still to yield and the
call it was yielded last, or the number of creations begun before it returned. -/
inductive ClientCloseAt where
  | idle
  | iterating (due : List Int) (visited : Option Nat)
  | returned (started : Nat)
  deriving DecidableEq, Repr

/-- Calls and captured callbacks are known by the creation they belong to.
`entering` lists the `set_source` that have found their call open, `installing` has
the one that holds the locks of a call, and `stopping` lists the calls that a `stop`
has removed and not yet stopped. -/
structure Facade where
  client : Client
  connectTimeout : Duration
  objects : Nat → Option Call
  captured : Nat → Option Captured
  entering : List (Nat × Streams)
  installing : Nat → Option Installing
  onStreamEnd : Option Nat
  onConnectionChange : Option Nat
  registrations : Nat
  stopping : List Nat
  closeAt : ClientCloseAt

namespace Facade

def new (connectTimeout : Duration) : Facade where
  client := .new
  connectTimeout := connectTimeout
  objects := fun _ => none
  captured := fun _ => none
  entering := []
  installing := fun _ => none
  onStreamEnd := none
  onConnectionChange := none
  registrations := 0
  stopping := []
  closeAt := .idle

/-- `invoke` is a method that looks its call up and performs it at once, `perform`
one that holds its call already; `set_source` goes on with an `enter` and an
`install`, and `stop` is a `remove` and a `stopRemoved`.  The iterator of `close`
yields every chat that was in the map when it started. -/
inductive Action where
  | onStreamEnd
  | onConnectionChange
  | create (request : Request)
  | step (id : Nat) (input : CreateInput)
  | invoke (chat : Int) (op : Op)
  | perform (id : Nat) (op : Op)
  | enter (id : Nat) (streams : Streams) (awaited : ConnState) (now : Instant)
      (answer : Except String Nat)
  | install (id : Nat)
  | undergo (id : Nat) (event : Event)
  | remove (chat : Int)
  | stopRemoved (id : Nat)
  | close
  | visit (chat : Int)
  | stopVisited
  | clear

/-- The call that a creation has made when it comes to a stage. -/
def made (facade : Facade) (id : Nat) : CreateAt → Option Call
  | .localParams request =>
      let events : GroupCallEvents :=
        { onStreamEnd := ((facade.captured id).bind Captured.onStreamEnd).isSome
          onConnectionChange :=
            ((facade.captured id).bind Captured.onConnectionChange).isSome
          onUpgrade := false }
      some (.group (.newWithEvents request.chatId facade.connectTimeout events))
  | .insert ⟨chatId, .rtmp url⟩ none => some (.rtmp (.newWithEvents chatId url false))
  | _ => facade.objects id

/-- `create_call` reads `on_stream_end` and passes no `on_connection_change`. -/
def capturedAt (facade : Facade) (id : Nat) : CreateAt → Option Captured
  | .construct _ => some ⟨facade.onStreamEnd, none⟩
  | _ => facade.captured id

def act (facade : Facade) (id : Nat) (change : Call → Call) : Facade :=
  match facade.objects id with
  | some call =>
      { facade with objects := Function.update facade.objects id (some (change call)) }
  | none => facade

/-- A method waits for the locks that a `set_source` holds. -/
def waits (facade : Facade) (id : Nat) (op : Op) : Bool :=
  (facade.installing id).isSome && op.locks

/-- The chats in the map. -/
def chats (facade : Facade) : List Int :=
  (List.range facade.client.started).filterMap fun id =>
    match facade.client.creators id with
    | .returned request _ =>
        if facade.client.calls request.chatId = some id then some request.chatId else none
    | _ => none

variable (formatSeconds : Nat → String)

/-- A method of a call up to its first wait. -/
def operate (facade : Facade) (id : Nat) (op : Op) : Facade :=
  match op with
  | .setSource streams _ _ _ =>
      match facade.objects id with
      | some call =>
          if call.closed then facade
          else { facade with entering := facade.entering ++ [(id, streams)] }
      | none => facade
  | op =>
      if facade.waits id op then facade
      else facade.act id fun call => (call.perform formatSeconds op).1

def next (facade : Facade) : Action → Facade
  | .onStreamEnd =>
      { facade with
        onStreamEnd := some facade.registrations
        registrations := facade.registrations + 1 }
  | .onConnectionChange =>
      { facade with
        onConnectionChange := some facade.registrations
        registrations := facade.registrations + 1 }
  | .create request => { facade with client := facade.client.next (.create request) }
  | .step id input =>
      let stage := facade.client.createTurn (facade.client.creators id) input
      { facade with
        client := facade.client.next (.step id input)
        objects := Function.update facade.objects id (facade.made id stage)
        captured := Function.update facade.captured id (facade.capturedAt id stage) }
  | .invoke chat op =>
      match facade.client.calls chat with
      | some id => facade.operate formatSeconds id op
      | none => facade
  | .perform id op => facade.operate formatSeconds id op
  | .enter id streams awaited now answer =>
      if (id, streams) ∈ facade.entering ∧ facade.installing id = none then
        { facade.act id fun call =>
            (call.beginSource formatSeconds streams awaited now answer).1 with
          entering := facade.entering.erase (id, streams)
          installing := Function.update facade.installing id
            ((facade.objects id).bind fun call =>
              (call.beginSource formatSeconds streams awaited now answer).2) }
      else facade
  | .install id =>
      match facade.installing id with
      | some installing =>
          { facade.act id (·.registerEnd installing) with
            installing := Function.update facade.installing id none }
      | none => facade
  | .undergo id event => facade.act id (·.undergo event)
  | .remove chat =>
      { facade with
        client :=
          { facade.client with calls := Function.update facade.client.calls chat none }
        stopping := facade.stopping ++ (facade.client.calls chat).toList }
  | .stopRemoved id =>
      if id ∈ facade.stopping ∧ facade.installing id = none then
        { facade.act id fun call => (call.perform formatSeconds .stop).1 with
          stopping := facade.stopping.erase id }
      else facade
  | .close =>
      match facade.closeAt with
      | .idle => { facade with closeAt := .iterating facade.chats none }
      | _ => facade
  | .visit chat =>
      match facade.closeAt with
      | .iterating due none =>
          { facade with
            closeAt :=
              .iterating (due.filter (· ≠ chat)) (facade.client.calls chat) }
      | _ => facade
  | .stopVisited =>
      match facade.closeAt with
      | .iterating due (some id) =>
          if facade.installing id = none then
            { facade.act id fun call => (call.perform formatSeconds .stop).1 with
              closeAt := .iterating due none }
          else facade
      | _ => facade
  | .clear =>
      match facade.closeAt with
      | .iterating [] none =>
          { facade with
            client := { facade.client with calls := fun _ => none }
            closeAt := .returned facade.client.started }
      | _ => facade

/-! What the actions leave alone. -/

@[simp] theorem client_act (facade : Facade) (id : Nat) (change : Call → Call) :
    (facade.act id change).client = facade.client := by
  unfold act
  split <;> rfl

@[simp] theorem closeAt_act (facade : Facade) (id : Nat) (change : Call → Call) :
    (facade.act id change).closeAt = facade.closeAt := by
  unfold act
  split <;> rfl

@[simp] theorem captured_act (facade : Facade) (id : Nat) (change : Call → Call) :
    (facade.act id change).captured = facade.captured := by
  unfold act
  split <;> rfl

@[simp] theorem installing_act (facade : Facade) (id : Nat) (change : Call → Call) :
    (facade.act id change).installing = facade.installing := by
  unfold act
  split <;> rfl

@[simp] theorem stopping_act (facade : Facade) (id : Nat) (change : Call → Call) :
    (facade.act id change).stopping = facade.stopping := by
  unfold act
  split <;> rfl

theorem objects_act (facade : Facade) (id : Nat) (change : Call → Call) :
    (facade.act id change).objects =
      Function.update facade.objects id ((facade.objects id).map change) := by
  unfold act
  split
  next hobject => simp [hobject]
  next hobject => rw [hobject, Option.map_none, ← hobject, Function.update_eq_self]

/-- A method waits, or is a `set_source` that finds its call closed or begins, or is
performed. -/
theorem operate_cases (facade : Facade) (id : Nat) (op : Op) :
    (facade.waits id op = true ∧ facade.operate formatSeconds id op = facade) ∨
      (∃ streams awaited now answer entering, op = .setSource streams awaited now answer ∧
        facade.operate formatSeconds id op = { facade with entering := entering }) ∨
      facade.waits id op = false ∧
        facade.operate formatSeconds id op =
          facade.act id fun call => (call.perform formatSeconds op).1 := by
  have hperforms (hother : facade.operate formatSeconds id op =
      if facade.waits id op then facade
      else facade.act id fun call => (call.perform formatSeconds op).1) :
      (facade.waits id op = true ∧ facade.operate formatSeconds id op = facade) ∨
        facade.waits id op = false ∧
          facade.operate formatSeconds id op =
            facade.act id fun call => (call.perform formatSeconds op).1 := by
    rw [hother]
    cases facade.waits id op with
    | true => exact .inl ⟨rfl, rfl⟩
    | false => exact .inr ⟨rfl, rfl⟩
  cases op with
  | setSource streams awaited now answer =>
      refine .inr (.inl ⟨streams, awaited, now, answer, ?_⟩)
      simp only [operate]
      split
      · split
        · exact ⟨facade.entering, trivial, rfl⟩
        · exact ⟨_, trivial, rfl⟩
      · exact ⟨facade.entering, trivial, rfl⟩
  | _ => exact (hperforms rfl).imp_right .inr

end Facade

end RustTgCalls
