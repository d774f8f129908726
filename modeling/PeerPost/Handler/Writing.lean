import PeerPost.Handler.Dialogue

/-!
# Writing a message

The handler that sends a message to a contact. From reading the latest time of the conversation to the
end of sending it has the turn of the group, so that the times of messages written one after the other
increase.
-/

namespace PeerPost

structure WrittenMessage where
  contactId : ContactId
  header : MessageHeader
  text : MessageText
deriving DecidableEq

inductive WriteError where
  | contactNotFound (id : ContactId)
  | invalidText (e : ValidationError)
  | collaborator (e : DomainError)
deriving DecidableEq

def WriteError.message : WriteError → String
  | .contactNotFound id => "Contact not found: " ++ id.display
  | .invalidText e => "Invalid message: " ++ e.message
  | .collaborator e => "Collaborator error: " ++ e.display

namespace Writing

/-- Ends the turn of a group and gives a result. -/
def finish (group : GroupId) (result : Except WriteError WrittenMessage) :
    Dialogue (Except WriteError WrittenMessage) :=
  .ask (.endTurn group) fun _ => .done result

/-- Sends a message to a contact, in the turn of its group. -/
def send (contact : Contact) (message : OutgoingMessage) : Dialogue (Except WriteError WrittenMessage) :=
  .ask (.send message) fun
    | .error e => finish message.groupId (.error (.collaborator e))
    | .ok header => finish message.groupId (.ok ⟨contact.id, header, message.text⟩)

/-- Picks the time of a message from the counters of its conversation, and sends it. -/
def pickTime (contact : Contact) (group : GroupId) (text : MessageText) (count : MessageCount) :
    Dialogue (Except WriteError WrittenMessage) :=
  .ask .now fun now => send contact ⟨group, count.nextTime now, text⟩

/-- Reads the counters of a conversation, and writes a message to it. -/
def inTurn (contact : Contact) (group : GroupId) (text : MessageText) :
    Dialogue (Except WriteError WrittenMessage) :=
  .ask (.count contact.id) fun
    | .error e => finish group (.error (.collaborator e))
    | .ok count => pickTime contact group text count

/-- Writes a message to a group as soon as it is its turn. -/
def toGroup (contact : Contact) (text : MessageText) (group : GroupId) :
    Dialogue (Except WriteError WrittenMessage) :=
  .ask (.takeTurn group) fun _ => inTurn contact group text

def toContact (contact : Contact) (text : MessageText) : Dialogue (Except WriteError WrittenMessage) :=
  .ask (.group contact) fun
    | .error e => .done (.error (.collaborator e))
    | .ok group => toGroup contact text group

def write (id : ContactId) (text : String) : Dialogue (Except WriteError WrittenMessage) :=
  .ask (.contact id) fun
    | .error e => .done (.error (if e.code.isNotFound then .contactNotFound id else .collaborator e))
    | .ok contact =>
      match MessageText.ofString text with
      | .error e => .done (.error (.invalidText e))
      | .ok text => toContact contact text

end Writing

end PeerPost
