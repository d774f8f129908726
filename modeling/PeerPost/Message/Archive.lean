import PeerPost.Entries
import PeerPost.Message

/-!
# The message archive

All messages that were received or sent. The headers stand by groups, in the order in which they were
stored, and the texts by message identifiers.
-/

namespace PeerPost

structure StoredMessage where
  header : MessageHeader
  text : MessageText
deriving DecidableEq

/-- All stored messages: the headers of every group, the oldest first, and the text of every identifier. -/
structure Archive where
  groups : List (GroupId × List MessageHeader)
  texts : List (MessageId × String)
deriving DecidableEq

namespace Archive

def empty : Archive := ⟨[], []⟩

/-- The headers of a group in the order in which they were stored. -/
def headers (archive : Archive) (group : GroupId) : List MessageHeader :=
  (Entries.get? archive.groups group).getD []

def text? (archive : Archive) (id : MessageId) : Option String :=
  Entries.get? archive.texts id

/-- Stores a message: its text under its identifier, in place of an earlier one, and its header behind
those of its group. -/
def store (archive : Archive) (message : StoredMessage) : Archive :=
  let group := message.header.groupId
  ⟨Entries.put group (archive.headers group ++ [message.header]) archive.groups,
   Entries.put message.header.id message.text.text archive.texts⟩

def count (archive : Archive) (group : GroupId) : MessageCount :=
  .ofHeaders (archive.headers group)

/-- The text of a message, or the error that there is no such message. -/
def text (archive : Archive) (id : MessageId) : Except DomainError (Option String) :=
  match archive.text? id with
  | some text => .ok (some text)
  | none => .error (.plain .messageNotFound ("Message not found: " ++ id.display))

/-- A message from a contact as it is stored: not read, and none of its marks set. -/
def incoming (group : GroupId) (timestamp : Timestamp) (text : MessageText) : StoredMessage :=
  ⟨⟨.derive group timestamp text.text, group, timestamp, false, false, false, false⟩, text⟩

/-- A message of the local author as it is stored: read and sent, and not seen yet. -/
def outgoing (message : OutgoingMessage) : StoredMessage :=
  ⟨⟨.derive message.groupId message.timestamp message.text.text, message.groupId, message.timestamp,
    true, true, true, false⟩, message.text⟩

def receive (archive : Archive) (group : GroupId) (timestamp : Timestamp) (text : MessageText) :
    MessageHeader × Archive :=
  let message := incoming group timestamp text
  (message.header, archive.store message)

/-- Stores a message of the local author. There is no transport behind the archive, so it counts as sent
at once. -/
def send (archive : Archive) (message : OutgoingMessage) : MessageHeader × Archive :=
  let stored := outgoing message
  (stored.header, archive.store stored)

end Archive

end PeerPost
