import PeerPost.Author

/-!
# Contacts

A contact is a peer that the local author has added. An alias that is set may be empty, which differs
from an alias that is not set.
-/

namespace PeerPost

/-- A peer that the local author has added. -/
structure Contact where
  id : ContactId
  author : Author
  localAuthorId : AuthorId
  alias? : Option String
  handshakeKey? : Option Bytes
  verified : Bool
deriving DecidableEq

/-- A contact was added. `verified` is the flag at that time. -/
structure ContactAdded where
  contactId : ContactId
  verified : Bool
deriving DecidableEq

/-- The name of the event in the event stream. -/
def ContactAdded.eventName : String := "ContactAddedEvent"

namespace Contact

/-- What is hashed for the group of two authors: a label and the two identifiers, the smaller first. -/
def groupHashedBytes (a b : AuthorId) : Bytes :=
  let (first, second) := if a.id.toBytes < b.id.toBytes then (a, b) else (b, a)
  Text.utf8 "courier/PRIVATE_GROUP_ID" ++ first.id.toBytes ++ second.id.toBytes

/-- The group of the messages that two authors exchange. -/
def groupOf (a b : AuthorId) : GroupId :=
  ⟨⟨Sha256.digest (groupHashedBytes a b)⟩⟩

def group (contact : Contact) : GroupId :=
  groupOf contact.localAuthorId contact.author.id

end Contact

end PeerPost
