import RustTgCalls.ClientClose
import RustTgCalls.Library.Erasure

namespace RustTgCalls

open Instances Media Transition

/-! A client of many chats is, for each of them, a client of that chat alone. -/

namespace CreateAt

variable {stage other : CreateAt} {chat : Int}

/-- A creation for another chat as it is before its first step. -/
def heldBack (stage : CreateAt) (chat : Int) : CreateAt :=
  match stage.request with
  | some request => if request.chatId = chat then stage else .test request
  | none => stage

@[simp] theorem request_heldBack : (stage.heldBack chat).request = stage.request := by
  cases hrequest : stage.request with
  | none => simp [heldBack, hrequest]
  | some request =>
      simp only [heldBack, hrequest]
      split
      · exact hrequest
      · rfl

end CreateAt

namespace Client

/-- A map of which one chat is looked at. -/
def onlyAt {α : Type} (chat : Int) (values : Int → α) (absent : α) : Int → α :=
  fun asked => if asked = chat then values chat else absent

/-- The part of the map, and of the creations, that is about one chat. -/
def alone (client : Client) (chat : Int) : Client where
  started := client.started
  creators := fun id => (client.creators id).heldBack chat
  calls := onlyAt chat client.calls none
  overwritten := onlyAt chat client.overwritten []

end Client

attribute [ext] Client Facade

namespace Client

variable {client : Client} {chat : Int} {id : Nat} {input : CreateInput}

end Client

/-- `close`, of whose iteration only one chat and its calls are looked at. -/
def ClientCloseAt.alone (chat : Int) (belongs : Nat → Bool) :
    ClientCloseAt → ClientCloseAt
  | .iterating due visited => .iterating (due.filter (· = chat)) (visited.filter belongs)
  | closeAt => closeAt

namespace Facade

variable (formatSeconds : Nat → String) {facade : Facade} {chat : Int}

/-- The creation is one for the chat. -/
def belongs (facade : Facade) (chat : Int) (id : Nat) : Bool :=
  (facade.client.creators id).concerns chat

/-- What is kept by the number of a creation, of which the chat's own is looked at. -/
def ownOnly {α : Type} (belongs : Nat → Bool) (values : Nat → Option α) :
    Nat → Option α :=
  fun id => if belongs id then values id else none

section OwnOnly

variable {α : Type} {belongs : Nat → Bool} {id : Nat}

end OwnOnly

/-- What is left of a client when only one chat is looked at: its entry, its calls
and the answers to its creations. -/
def alone (facade : Facade) (chat : Int) : Facade :=
  { facade with
    client := facade.client.alone chat
    objects := ownOnly (facade.belongs chat) facade.objects
    captured := ownOnly (facade.belongs chat) facade.captured
    entering := facade.entering.filter fun entry => facade.belongs chat entry.1
    installing := ownOnly (facade.belongs chat) facade.installing
    stopping := facade.stopping.filter (facade.belongs chat)
    closeAt := facade.closeAt.alone chat (facade.belongs chat) }

section Projection

end Projection

end Facade

end RustTgCalls
