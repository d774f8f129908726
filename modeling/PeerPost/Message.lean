import PeerPost.Contact
import PeerPost.Timestamp

/-!
# Private messages

The text of a message, its header, the counters of a conversation, and how a message gets its
identifier and its time.
-/

namespace PeerPost

/-- The greatest size of a message text in bytes: 32 KiB less 1 KiB for framing. -/
def maxMessageSize : Nat := 32 * 1024 - 1024

/-- A text that fits one message: at least one byte and at most `maxMessageSize`. -/
structure MessageText where
  text : String
  nonempty : Text.size text ≠ 0
  size_le : Text.size text ≤ maxMessageSize
deriving DecidableEq

def MessageText.ofString (text : String) : Except ValidationError MessageText :=
  if h₀ : Text.size text = 0 then .error (.emptyField "text")
  else if h₁ : Text.size text ≤ maxMessageSize then .ok ⟨text, h₀, h₁⟩
  else .error (.tooLong "text" maxMessageSize (Text.size text))

/-- What is known of a message without its text. `isLocal` marks a message that the local author wrote,
`sent` one that reached the transport, and `seen` one that the contact acknowledged. -/
structure MessageHeader where
  id : MessageId
  groupId : GroupId
  timestamp : Timestamp
  isLocal : Bool
  read : Bool
  sent : Bool
  seen : Bool
deriving DecidableEq

/-- The counters of a conversation. The latest time is `Timestamp.none` before the first message. -/
structure MessageCount where
  total : Nat
  unread : Nat
  latest : Timestamp
deriving DecidableEq

namespace MessageCount

def zero : MessageCount := ⟨0, 0, .none⟩

def add (count : MessageCount) (header : MessageHeader) : MessageCount :=
  ⟨count.total + 1, if header.read then count.unread else count.unread + 1,
   count.latest.latest header.timestamp⟩

/-- The counters of a conversation with these messages. -/
def ofHeaders (headers : List MessageHeader) : MessageCount :=
  headers.foldl add zero

/-- The time of the next message of the conversation: the current time, unless that is not after the
latest message. -/
def nextTime (count : MessageCount) (now : Timestamp) : Timestamp :=
  now.latest count.latest.next

end MessageCount

/-- A message that is ready to be sent. -/
structure OutgoingMessage where
  groupId : GroupId
  timestamp : Timestamp
  text : MessageText
deriving DecidableEq

/-- What is hashed for the identifier of a message: a label, the group, the time and the text. -/
def MessageId.hashedBytes (group : GroupId) (timestamp : Timestamp) (text : String) : Bytes :=
  Text.utf8 "courier/MESSAGE_ID" ++ group.id.toBytes ++ bigEndian64 timestamp.millis.toUInt64 ++ Text.utf8 text

def MessageId.derive (group : GroupId) (timestamp : Timestamp) (text : String) : MessageId :=
  ⟨⟨Sha256.digest (hashedBytes group timestamp text)⟩⟩

end PeerPost
