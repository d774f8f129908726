import PeerPost.Contact.AddressBook
import PeerPost.Event.Channel
import PeerPost.Handler.Dialogue
import PeerPost.Message.Archive
import PeerPost.Wire

/-!
# The node

A node has a local author, its contacts, its messages and its event channel. Journals record the
contacts added since they were opened. `Node.answer` is how the node answers the calls of a handler; the
time comes from outside.
-/

namespace PeerPost

/-- A node. Every journal has the events since it was opened. -/
structure Node where
  localAuthor : Author
  contacts : AddressBook
  archive : Archive
  events : Channel
  journals : List (List ContactAdded)

inductive StartFailure where
  | author (e : DomainError)
  | channel (fault : ChannelFault)
deriving DecidableEq

namespace Node

/-- A node without contacts and messages. -/
def start (author : Author) (events : Channel) : Node :=
  ⟨author, .empty author.id, .empty, events, []⟩

/-- A node without contacts and messages, with a channel of this capacity. -/
def ofAuthor (author : Author) (capacity : Nat) : Except ChannelFault Node :=
  match Channel.create capacity with
  | .ok channel => .ok (start author channel)
  | .error fault => .error fault

/-- A node for a new local author with this name and key. -/
def create (name : String) (key : Bytes) (capacity : Nat) : Except StartFailure Node :=
  match Author.create name key with
  | .error e => .error (.author (.ofValidation e))
  | .ok author =>
    match ofAuthor author capacity with
    | .error fault => .error (.channel fault)
    | .ok node => .ok node

/-- Announces an added contact: first to the event channel, then to the journals. -/
def announce (node : Node) (event : ContactAdded) : Node :=
  { node with
    events := (node.events.publish event.frame).2
    journals := node.journals.map fun journal => journal ++ [event] }

/-- Adds a contact and announces it. -/
def addContact (node : Node) (author : Author) (entry : AddressBook.Entry) : Except DomainError (ContactAdded × Node) :=
  match node.contacts.add author entry with
  | .error e => .error e
  | .ok (event, contacts) => .ok (event, { node with contacts := contacts }.announce event)

def setAlias (node : Node) (id : ContactId) (alias? : Option String) : Except DomainError Node :=
  match node.contacts.setAlias id alias? with
  | .error e => .error e
  | .ok contacts => .ok { node with contacts := contacts }

def receive (node : Node) (id : ContactId) (timestamp : Timestamp) (text : MessageText) :
    Except DomainError (MessageHeader × Node) :=
  match node.contacts.get id with
  | .error e => .error e
  | .ok contact =>
    let (header, archive) := node.archive.receive contact.group timestamp text
    .ok (header, { node with archive := archive })

/-- Stores a message of the local author. -/
def send (node : Node) (message : OutgoingMessage) : MessageHeader × Node :=
  let (header, archive) := node.archive.send message
  (header, { node with archive := archive })

/-- Opens a journal and gives its number. -/
def openJournal (node : Node) : Nat × Node :=
  (node.journals.length, { node with journals := node.journals ++ [[]] })

/-- Publishes a frame on the event channel and gives the number of its receivers. -/
def publish (node : Node) (frame : String) : Nat × Node :=
  let (receivers, events) := node.events.publish frame
  (receivers, { node with events := events })

/-- The counters of the conversation with a contact. -/
def count (node : Node) (id : ContactId) : Except DomainError MessageCount :=
  (node.contacts.get id).map fun contact => node.archive.count contact.group

/-- The headers of the conversation with a contact, in the order in which they were stored. -/
def headers (node : Node) (id : ContactId) : Except DomainError (List MessageHeader) :=
  (node.contacts.get id).map fun contact => node.archive.headers contact.group

/-- How the node answers a call at a time. A turn is always free, because handlers run one after the
other here. -/
def answer (now : Timestamp) : (call : Call) → Node → call.Answer × Node
  | .contact id, node => (node.contacts.get id, node)
  | .contacts, node => (Except.ok node.contacts.contacts, node)
  | .count id, node => (node.count id, node)
  | .headers id, node => (node.headers id, node)
  | .group contact, node => (Except.ok contact.group, node)
  | .text id, node => (node.archive.text id, node)
  | .send message, node => ((Except.ok (node.send message).1 : Except DomainError MessageHeader), (node.send message).2)
  | .now, node => (now, node)
  | .takeTurn _, node => ((), node)
  | .endTurn _, node => ((), node)

/-- Holds a dialogue with the node at a time. -/
def hold {α : Type} (node : Node) (now : Timestamp) (dialogue : Dialogue α) : α × Node :=
  dialogue.run (answer now) node

end Node

end PeerPost
