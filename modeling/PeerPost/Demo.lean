import PeerPost.Node

/-!
# Demo contacts

Two contacts and a short conversation with the first of them, for a node that has nothing to show yet.
The keys come from outside. What was done before a failure stays done.
-/

namespace PeerPost.Demo

structure Keys where
  alice : Bytes
  aliceHandshake : Bytes
  bob : Bytes

/-- Why seeding stops. `tooEarly` stands for a time so early that there is none before it for the first
message. -/
inductive SeedFailure where
  | rejected (e : DomainError)
  | tooEarly
deriving DecidableEq

/-- The text of a seeding that stopped because of the time. -/
def SeedFailure.tooEarlyMessage : String := "attempt to subtract with overflow"

/-- The messages of the first contact, each with its age in milliseconds. -/
def script : List (Nat × String) :=
  [(60000, "Hi there!"), (30000, "Are you online?")]

def addContact (name : String) (key : Bytes) (entry : AddressBook.Entry) (node : Node) :
    Except SeedFailure (ContactId × Node) :=
  match Author.create name key with
  | .error e => .error (.rejected (.ofValidation e))
  | .ok author =>
    match node.addContact author entry with
    | .error e => .error (.rejected e)
    | .ok (event, node) => .ok (event.contactId, node)

def receive (id : ContactId) (now : Timestamp) (age : Nat) (text : String) (node : Node) : Except SeedFailure Node :=
  match now.before? age with
  | none => .error .tooEarly
  | some time =>
    match MessageText.ofString text with
    | .error e => .error (.rejected (.ofValidation e))
    | .ok text =>
      match node.receive id time text with
      | .error e => .error (.rejected e)
      | .ok (_, node) => .ok node

def receiveAll (id : ContactId) (now : Timestamp) : List (Nat × String) → Node → Option SeedFailure × Node
  | [], node => (none, node)
  | (age, text) :: rest, node =>
    match receive id now age text node with
    | .error failure => (some failure, node)
    | .ok node => receiveAll id now rest node

/-- Adds the demo contacts and the conversation with the first of them. -/
def seed (keys : Keys) (now : Timestamp) (node : Node) : Option SeedFailure × Node :=
  match addContact "Alice" keys.alice ⟨true, none, some keys.aliceHandshake⟩ node with
  | .error failure => (some failure, node)
  | .ok (alice, node) =>
    match addContact "Bob" keys.bob ⟨false, some "Bobby", none⟩ node with
    | .error failure => (some failure, node)
    | .ok (_, node) => receiveAll alice now script node

end PeerPost.Demo
