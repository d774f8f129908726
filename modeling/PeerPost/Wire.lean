import PeerPost.Json.Record
import PeerPost.Message

/-!
# Wire records

The ordered records by which clients see authors, contacts, messages and events. Bytes are written in
base64. What may be missing comes last, and its name is left out with it.
-/

namespace PeerPost

def Timestamp.toJson (t : Timestamp) : Json :=
  .number t.millis.toInt

def ContactId.toJson (id : ContactId) : Json :=
  .number id.value

def Author.record (author : Author) : Record :=
  Record.empty.put "formatVersion" (.number author.formatVersion.toInt)
    |>.put "id" (.string author.id.display)
    |>.put "name" (.string author.name)
    |>.put "publicKey" (.string (Base64.encode author.publicKey))

/-- The record of a contact and of the time of its latest message. -/
def Contact.record (contact : Contact) (latest : Timestamp) : Record :=
  Record.empty.put "contactId" contact.id.toJson
    |>.put "author" contact.author.record.toJson
    |>.put "verified" (.bool contact.verified)
    |>.put "lastChatActivity" latest.toJson
    |>.putIfPresent "alias" (contact.alias?.map .string)
    |>.putIfPresent "handshakePublicKey" (contact.handshakeKey?.map fun key => .string (Base64.encode key))

def ContactAdded.record (event : ContactAdded) : Record :=
  Record.empty.put "contactId" event.contactId.toJson
    |>.put "verified" (.bool event.verified)

/-- The record of a message of a contact, with its text if that is there. -/
def MessageHeader.record (header : MessageHeader) (contactId : ContactId) (text? : Option String) : Record :=
  Record.empty.put "type" (.string "PrivateMessage")
    |>.put "contactId" contactId.toJson
    |>.put "timestamp" header.timestamp.toJson
    |>.put "read" (.bool header.read)
    |>.put "seen" (.bool header.seen)
    |>.put "sent" (.bool header.sent)
    |>.put "local" (.bool header.isLocal)
    |>.put "id" (.string header.id.display)
    |>.put "groupId" (.string header.groupId.display)
    |>.putIfPresent "text" (text?.map .string)

/-- The frame of an event with its name and data. -/
def eventRecord (name : String) (data : Json) : Record :=
  Record.empty.put "type" (.string "event")
    |>.put "name" (.string name)
    |>.put "data" data

/-- The frame by which an added contact is announced. -/
def ContactAdded.frame (event : ContactAdded) : String :=
  (eventRecord ContactAdded.eventName event.record.toJson).text

end PeerPost
