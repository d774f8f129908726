import PeerPost.Entries
import PeerPost.Handler.Dialogue
import PeerPost.Handler.Turns
import PeerPost.Message.Archive

/-!
# Scripted collaborators

Collaborators that answer from a script, for handlers that are tried out without a node. Every call can
be told to fail with a given error before it does anything; a fault is set under the name of its call.
With an archive, the message calls go to it over the scripted contacts; otherwise they too are answered
from the script, and messages that are sent are only noted. Dialogues that are started together are held
in the order of their turns.
-/

namespace PeerPost

/-- What scripted collaborators answer, the messages that were sent through them, and the turns that are
left in the stretch. -/
structure Script where
  clock : Timestamp
  contacts : List Contact
  counts : List (ContactId × MessageCount)
  headers : List (ContactId × MessageHeader)
  texts : List (MessageId × Option String)
  group : GroupId
  faults : List (String × DomainError)
  archive? : Option Archive
  sent : List OutgoingMessage
  turns : Nat

namespace Script

/-- Sets the fault of a call, or removes it. -/
def setFault (s : Script) (name : String) (fault? : Option DomainError) : Script :=
  let others := s.faults.filter fun f => f.1 ≠ name
  { s with faults := match fault? with
    | some e => (name, e) :: others
    | none => others }

/-- The answer to a call, or its fault. -/
def unlessFault {α : Type} (s : Script) (name : String) (answer : Except DomainError α) : Except DomainError α :=
  match Entries.get? s.faults name with
  | some e => .error e
  | none => answer

/-- The first contact with a number. -/
def contact (s : Script) (id : ContactId) : Except DomainError Contact :=
  s.unlessFault "get_contact" <|
    match s.contacts.find? fun c => c.id = id with
    | some contact => .ok contact
    | none => .error (.plain .contactNotFound "no such contact")

def count (s : Script) (id : ContactId) : Except DomainError MessageCount :=
  match s.archive? with
  | some archive => (s.contact id).map fun contact => archive.count contact.group
  | none => .ok (((s.counts.find? fun c => c.1 = id).map Prod.snd).getD .zero)

def headersOf (s : Script) (id : ContactId) : Except DomainError (List MessageHeader) :=
  match s.archive? with
  | some archive => (s.contact id).map fun contact => archive.headers contact.group
  | none => .ok ((s.headers.filter fun h => h.1 = id).map Prod.snd)

def groupOf (s : Script) (contact : Contact) : GroupId :=
  if s.archive?.isSome then contact.group else s.group

def text (s : Script) (id : MessageId) : Except DomainError (Option String) :=
  match s.archive? with
  | some archive => archive.text id
  | none =>
    match s.texts.find? fun t => t.1 = id with
    | some (_, text) => .ok text
    | none => .error (.plain .messageNotFound "no such message")

/-- Sends a message, to the archive or to nobody. -/
def send (s : Script) (message : OutgoingMessage) : MessageHeader × Script :=
  match s.archive? with
  | some archive =>
    let (header, archive) := archive.send message
    (header, { s with archive? := some archive })
  | none => (⟨⟨⟨Vector.replicate 32 0xEE⟩⟩, message.groupId, message.timestamp, true, false, false, true⟩, s)

def receive (s : Script) (id : ContactId) (timestamp : Timestamp) (text : MessageText) :
    Except DomainError (MessageHeader × Script) :=
  (s.contact id).map fun contact =>
    let (header, archive) := (s.archive?.getD .empty).receive contact.group timestamp text
    (header, { s with archive? := some archive })

/-- How the script answers a call. A message that is to be sent is noted unless the call has a fault. -/
def answer : (call : Call) → Script → call.Answer × Script
  | .contact id, s => (s.contact id, s)
  | .contacts, s => (s.unlessFault "get_contacts" (.ok s.contacts), s)
  | .count id, s => (s.unlessFault "get_group_count" (s.count id), s)
  | .headers id, s => (s.unlessFault "get_message_headers" (s.headersOf id), s)
  | .group contact, s => (s.unlessFault "get_contact_group" (.ok (s.groupOf contact)), s)
  | .text id, s => (s.unlessFault "get_message_text" (s.text id), s)
  | .send message, s =>
    match s.unlessFault "send_private_message" (.ok ()) with
    | .error e => ((Except.error e : Except DomainError MessageHeader), s)
    | .ok () =>
      let (header, s) := { s with sent := s.sent ++ [message] }.send message
      ((Except.ok header : Except DomainError MessageHeader), s)
  | .now, s => (s.clock, s)
  | .takeTurn _, s => ((), { s with turns := Turns.grant s.turns })
  | .endTurn _, s => ((), s)

def hold {α : Type} (s : Script) (dialogue : Dialogue α) : α × Script :=
  dialogue.run answer s

/-- Holds dialogues that are started together. The results stand in the order of the dialogues. -/
def holdAll {α : Type} (s : Script) (dialogues : List (Dialogue α)) : List α × Script :=
  let started := dialogues.mapIdx fun i d => (i, d.turn? answer s, d)
  let (results, s) := (Turns.order s.turns (·.2.1) started).foldl (fun (results, s) (i, _, d) =>
    let (result, s) := s.hold d
    ((i, result) :: results, s)) (([] : List (Nat × α)), s)
  ((results.mergeSort fun a b => a.1 ≤ b.1).map Prod.snd, s)

end Script

end PeerPost
