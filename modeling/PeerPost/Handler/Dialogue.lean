import PeerPost.Message

/-!
# Dialogues with the collaborators

A handler does its work by calling the collaborators of the node: the contact manager, the conversation
manager, the messaging manager, the clock, and the turn-taking of writers. A `Dialogue` is such a
handler as data: it ends with a result, or makes a call and goes on with the answer. `run` holds a
dialogue with collaborators that answer from a state.
-/

namespace PeerPost

/-- A call of a collaborator. `takeTurn` and `endTurn` are the begin and the end of a write to a group;
no other write to the group has its turn between them. -/
inductive Call where
  | contact (id : ContactId)
  | contacts
  | count (id : ContactId)
  | headers (id : ContactId)
  | group (contact : Contact)
  | text (id : MessageId)
  | send (message : OutgoingMessage)
  | now
  | takeTurn (group : GroupId)
  | endTurn (group : GroupId)
deriving DecidableEq

def Call.Answer : Call → Type
  | .contact _ => Except DomainError Contact
  | .contacts => Except DomainError (List Contact)
  | .count _ => Except DomainError MessageCount
  | .headers _ => Except DomainError (List MessageHeader)
  | .group _ => Except DomainError GroupId
  | .text _ => Except DomainError (Option String)
  | .send _ => Except DomainError MessageHeader
  | .now => Timestamp
  | .takeTurn _ => Unit
  | .endTurn _ => Unit

/-- The group whose turn a call asks for. -/
def Call.turn? : Call → Option GroupId
  | .takeTurn g => some g
  | _ => none

/-- A handler in the middle of its work. -/
inductive Dialogue (α : Type) where
  | done (result : α)
  | ask (call : Call) (next : call.Answer → Dialogue α)

namespace Dialogue

variable {α β σ : Type}

/-- Goes on with the result of a dialogue. -/
def bind : Dialogue α → (α → Dialogue β) → Dialogue β
  | .done a, k => k a
  | .ask call next, k => .ask call fun answer => (next answer).bind k

instance : Monad Dialogue where
  pure := .done
  bind := bind

def call (c : Call) : Dialogue c.Answer :=
  .ask c .done

/-- Holds a dialogue with collaborators that answer from a state. -/
def run (answer : (c : Call) → σ → c.Answer × σ) : Dialogue α → σ → α × σ
  | .done a, s => (a, s)
  | .ask c next, s => (next (answer c s).1).run answer (answer c s).2

/-- The calls that a dialogue makes when it is held. -/
def calls (answer : (c : Call) → σ → c.Answer × σ) : Dialogue α → σ → List Call
  | .done _, _ => []
  | .ask c next, s => c :: (next (answer c s).1).calls answer (answer c s).2

/-- The group whose turn a dialogue asks for, if it asks for one when it is held. -/
def turn? (answer : (c : Call) → σ → c.Answer × σ) : Dialogue α → σ → Option GroupId
  | .done _, _ => none
  | .ask c next, s =>
    match c.turn? with
    | some g => some g
    | none => (next (answer c s).1).turn? answer (answer c s).2

end Dialogue

end PeerPost
