import PeerPost.Handler.Dialogue

/-!
# Listing contacts and messages

The two handlers that only read. Contacts come in the order of the contact manager, each with the time
of its latest message. Messages come oldest first, messages of the same time in the order of the
conversation manager, each with its text.
-/

namespace PeerPost

/-- A contact and the time of the latest message exchanged with it. -/
structure ContactActivity where
  contact : Contact
  latest : Timestamp
deriving DecidableEq

/-- A message with its text, which may have been deleted. -/
structure LoadedMessage where
  header : MessageHeader
  text? : Option String
deriving DecidableEq

structure MessageList where
  contactId : ContactId
  items : List LoadedMessage
deriving DecidableEq

inductive ListError where
  | contactNotFound (id : ContactId)
  | collaborator (e : DomainError)
deriving DecidableEq

def ListError.message : ListError → String
  | .contactNotFound id => "Contact not found: " ++ id.display
  | .collaborator e => "Collaborator error: " ++ e.display

namespace Listing

/-- The latest activity of each of these contacts. -/
def activities : List Contact → List ContactActivity → Dialogue (Except ListError (List ContactActivity))
  | [], found => .done (.ok found.reverse)
  | contact :: rest, found =>
    .ask (.count contact.id) fun
      | .ok count => activities rest (⟨contact, count.latest⟩ :: found)
      | .error e => .done (.error (.collaborator e))

def contacts : Dialogue (Except ListError (List ContactActivity)) :=
  .ask .contacts fun
    | .ok contacts => activities contacts []
    | .error e => .done (.error (.collaborator e))

/-- The messages of these headers with their texts. -/
def loadTexts (id : ContactId) : List MessageHeader → List LoadedMessage → Dialogue (Except ListError MessageList)
  | [], loaded => .done (.ok ⟨id, loaded.reverse⟩)
  | header :: rest, loaded =>
    .ask (.text header.id) fun
      | .ok text => loadTexts id rest (⟨header, text⟩ :: loaded)
      | .error e => .done (.error (.collaborator e))

/-- Headers in the order of their times; headers of the same time keep their order. -/
def inOrder (headers : List MessageHeader) : List MessageHeader :=
  headers.mergeSort fun a b => a.timestamp.notAfter b.timestamp

def messages (id : ContactId) : Dialogue (Except ListError MessageList) :=
  .ask (.contact id) fun
    | .error e => .done (.error (if e.code.isNotFound then .contactNotFound id else .collaborator e))
    | .ok contact =>
      .ask (.headers contact.id) fun
        | .error e => .done (.error (.collaborator e))
        | .ok headers => loadTexts contact.id (inOrder headers) []

end Listing

end PeerPost
