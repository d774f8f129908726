import PeerPost.Handler.Listing
import PeerPost.Handler.Writing
import PeerPost.Node
import PeerPost.Proofs.Archive
import PeerPost.Proofs.Contacts

/-! # Dialogues held with a node

Holding a dialogue with a node stores the messages that the dialogue sends and changes nothing else. The
listings send nothing. A write finds the contact, checks the text, and sends one message at the next time
of the conversation. -/

namespace PeerPost

/-- The message that a call stores. -/
def Call.stored? : Call → Option StoredMessage
  | .send message => some (Archive.outgoing message)
  | _ => none

namespace Dialogue

variable {α β σ : Type}

theorem run_bind (answer : (c : Call) → σ → c.Answer × σ) (k : α → Dialogue β) (d : Dialogue α) (s : σ) :
    (d.bind k).run answer s = (k (d.run answer s).1).run answer (d.run answer s).2 := by
  induction d generalizing s with
  | done a => rfl
  | ask call next ih => exact ih _ _

/-- A dialogue that sends nothing, whatever it is answered. -/
inductive Reads : Dialogue α → Prop
  | done (a : α) : Reads (.done a)
  | ask {call : Call} {next : call.Answer → Dialogue α} (quiet : call.stored? = none)
      (rest : ∀ answer, Reads (next answer)) : Reads (.ask call next)

theorem Reads.bind {d : Dialogue α} {k : α → Dialogue β} (h : d.Reads) (hk : ∀ a, (k a).Reads) : (d.bind k).Reads := by
  induction h with
  | done a => exact hk a
  | ask quiet rest ih => exact .ask quiet ih

end Dialogue

namespace Node

variable {α β : Type} {node : Node} {now : Timestamp}

/-- The messages that a dialogue stores when it is held with a node at a time. -/
def storedBy (node : Node) (now : Timestamp) (dialogue : Dialogue α) : List StoredMessage :=
  (dialogue.calls (answer now) node).filterMap Call.stored?

theorem send_eq (node : Node) (message : OutgoingMessage) : node.send message =
    ((Archive.outgoing message).header, { node with archive := node.archive.store (Archive.outgoing message) }) := rfl

/-- A call changes a node by the message that it stores. -/
theorem answer_node (now : Timestamp) (call : Call) (node : Node) :
    (answer now call node).2 =
      { node with archive := call.stored?.toList.foldl Archive.store node.archive } := by
  cases call <;> rfl

/-- Holding a dialogue changes a node by the messages that the dialogue stores. -/
theorem hold_node (node : Node) (now : Timestamp) (dialogue : Dialogue α) :
    (node.hold now dialogue).2 =
      { node with archive := (node.storedBy now dialogue).foldl Archive.store node.archive } := by
  induction dialogue generalizing node with
  | done a => rfl
  | ask call next ih =>
    have h := answer_node now call node
    unfold hold storedBy at ih ⊢
    rw [Dialogue.run, Dialogue.calls, ih, List.filterMap_cons, h]
    cases call.stored? with
    | none => rfl
    | some m => rfl

theorem storedBy_identified {dialogue : Dialogue α} : ∀ m ∈ node.storedBy now dialogue, m.Identified := by
  intro m hm
  obtain ⟨call, -, hs⟩ := List.mem_filterMap.mp hm
  cases call with
  | send message =>
    cases hs
    exact Archive.outgoing_identified message
  | _ => cases hs

theorem storedBy_reads {dialogue : Dialogue α} (h : dialogue.Reads) : node.storedBy now dialogue = [] := by
  induction h generalizing node with
  | done a => rfl
  | ask quiet rest ih =>
    rw [storedBy, Dialogue.calls, List.filterMap_cons, quiet]
    exact ih _

theorem hold_reads {dialogue : Dialogue α} (h : dialogue.Reads) : (node.hold now dialogue).2 = node := by
  rw [hold_node, storedBy_reads h]
  rfl

theorem hold_bind (node : Node) (now : Timestamp) (dialogue : Dialogue α) (k : α → Dialogue β) :
    node.hold now (dialogue.bind k) = (node.hold now dialogue).2.hold now (k (node.hold now dialogue).1) :=
  Dialogue.run_bind _ _ _ _

end Node

/-! ### The listings -/

namespace Listing

theorem activities_reads (contacts : List Contact) (found : List ContactActivity) :
    (activities contacts found).Reads := by
  induction contacts generalizing found with
  | nil => exact .done _
  | cons contact rest ih =>
    refine .ask rfl fun answer => ?_
    cases answer with
    | ok count => exact ih _
    | error e => exact .done _

theorem contacts_reads : contacts.Reads := by
  refine .ask rfl fun answer => ?_
  cases answer with
  | ok found => exact activities_reads found []
  | error e => exact .done _

theorem loadTexts_reads (id : ContactId) (headers : List MessageHeader) (loaded : List LoadedMessage) :
    (loadTexts id headers loaded).Reads := by
  induction headers generalizing loaded with
  | nil => exact .done _
  | cons header rest ih =>
    refine .ask rfl fun answer => ?_
    cases answer with
    | ok text => exact ih _
    | error e => exact .done _

theorem messages_reads (id : ContactId) : (messages id).Reads := by
  refine .ask rfl fun answer => ?_
  cases answer with
  | error e => exact .done _
  | ok contact =>
    refine .ask rfl fun answer => ?_
    cases answer with
    | error e => exact .done _
    | ok headers => exact loadTexts_reads contact.id (inOrder headers) []

end Listing

/-! ### Writing -/

theorem MessageText.text_of_ofString {text : String} {checked : MessageText} (h : ofString text = .ok checked) :
    checked.text = text := by
  unfold ofString at h
  split at h
  · cases h
  · split at h
    · cases h
      rfl
    · cases h

namespace Node

variable {node : Node} {id : ContactId} {contact : Contact}

/-- The message to a contact with this text, at the next time of its conversation. -/
def nextMessage (node : Node) (contact : Contact) (now : Timestamp) (text : MessageText) : OutgoingMessage :=
  ⟨contact.group, (node.archive.count contact.group).nextTime now, text⟩

theorem count_of_find? (h : node.contacts.find? id = some contact) :
    node.count id = .ok (node.archive.count contact.group) := by
  rw [Node.count, AddressBook.get_of_find? h, Except.map]

theorem headers_of_find? (h : node.contacts.find? id = some contact) :
    node.headers id = .ok (node.archive.headers contact.group) := by
  rw [Node.headers, AddressBook.get_of_find? h, Except.map]

theorem hold_write_unknown (h : node.contacts.find? id = none) (now : Timestamp) (text : String) :
    node.hold now (Writing.write id text) = (.error (.contactNotFound id), node) := by
  simp only [hold, Writing.write, Dialogue.run, answer, AddressBook.get_unknown h]
  rfl

theorem hold_write_invalid (h : node.contacts.find? id = some contact) {text : String} {e : ValidationError}
    (ht : MessageText.ofString text = .error e) (now : Timestamp) :
    node.hold now (Writing.write id text) = (.error (.invalidText e), node) := by
  simp only [hold, Writing.write, Dialogue.run, answer, AddressBook.get_of_find? h, ht]

/-- A write to a known contact stores its message and answers the header of it. -/
theorem hold_write (h : node.contacts.find? id = some contact) {text : String} {checked : MessageText}
    (ht : MessageText.ofString text = .ok checked) (now : Timestamp) :
    let message := Archive.outgoing (node.nextMessage contact now checked)
    node.hold now (Writing.write id text) =
      (.ok ⟨id, message.header, checked⟩, { node with archive := node.archive.store message }) := by
  obtain ⟨-, rfl⟩ := AddressBook.find?_inv h
  simp only [hold, Writing.write, Writing.toContact, Writing.toGroup, Writing.inTurn, Dialogue.run, answer,
    AddressBook.get_of_find? h, ht, count_of_find? h]
  rfl

end Node

end PeerPost
