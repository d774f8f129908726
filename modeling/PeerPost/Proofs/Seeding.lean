import PeerPost.Demo
import PeerPost.Proofs.Agreement
import PeerPost.Proofs.Identities

/-! # Seeding a node

Demo data is two additions to the contacts and two messages from the first of them, at times before the
current one. A node that comes about can be seeded whatever was done with it before. If there is no time for
the first message, the contacts are there and the messages are not. -/

namespace PeerPost

/-! ### One contact more -/

/-- An address book has neither this author nor a contact with it. -/
def AddressBook.Lacks (book : AddressBook) (author : Author) : Prop :=
  author.id ≠ book.localAuthorId ∧ ∀ c ∈ book.contacts, c.author.id ≠ author.id

namespace Node

/-- A contact was added and announced, and nothing else happened. -/
structure Gains (node : Node) (contact : Contact) (next : Node) : Prop where
  contacts : next.contacts.contacts = node.contacts.contacts ++ [contact]
  events : next.events = (node.events.publish (ContactAdded.frame ⟨contact.id, contact.verified⟩)).2
  journals : next.journals = node.journals.map fun journal => journal ++ [⟨contact.id, contact.verified⟩]
  archive : next.archive = node.archive
  owner : next.contacts.localAuthorId = node.contacts.localAuthorId

end Node

/-! ### Records after more was stored -/

namespace Reached

variable {node next : Node} {stored more : List StoredMessage} {contact : Contact} (h : Reached node stored)
  (later : Reached next (stored ++ more)) (hash : Set.InjOn Sha256.digest (hashedForMessages (stored ++ more)))

include h later hash

theorem map_record_kept (contact : Contact) {group : GroupId} {headers : List MessageHeader}
    (within : ∀ header ∈ headers, header ∈ node.archive.headers group) :
    (headers.map fun header => header.record contact.id (next.archive.text? header.id)) =
      headers.map fun header => header.record contact.id (node.archive.text? header.id) := by
  have earlier := hash.mono (hashedForMessages_mono (List.subset_append_left stored more))
  refine List.map_congr_left fun header hh => ?_
  obtain ⟨m, hm, rfl, text⟩ := h.text?_of_headers earlier (within header hh)
  rw [text, later.records.text?_of_mem later.identified hash (List.mem_append_left _ hm)]

theorem messageRecords_kept (same : next.archive.headers contact.group = node.archive.headers contact.group) :
    next.messageRecords contact = node.messageRecords contact := by
  rw [Node.messageRecords, Node.messageRecords, same]
  exact h.map_record_kept later hash contact fun header hh => Listing.mem_inOrder.mp hh

/-- The records of a conversation to which messages were added, the added ones in their order if it is that of
their times. -/
theorem messageRecords_extended {added : List StoredMessage} (known : added ⊆ stored ++ more)
    (headers : next.archive.headers contact.group = node.archive.headers contact.group ++ added.map (·.header)) :
    let records := added.map fun m => m.header.record contact.id (some m.text.text)
    (next.messageRecords contact).Perm (node.messageRecords contact ++ records) ∧
      (added.Pairwise (fun a b => a.header.timestamp ≤ b.header.timestamp) →
        records.Sublist (next.messageRecords contact)) := by
  intro records
  let record := fun header : MessageHeader => header.record contact.id (next.archive.text? header.id)
  have own : (added.map (·.header)).map record = records := by
    rw [List.map_map]
    refine List.map_congr_left fun m hm => ?_
    show m.header.record contact.id (next.archive.text? m.header.id) = _
    rw [later.records.text?_of_mem later.identified hash (known hm)]
  constructor
  · have kept := h.map_record_kept later hash contact fun header (hh : header ∈ Listing.inOrder
      (node.archive.headers contact.group)) => Listing.mem_inOrder.mp hh
    rw [← own, Node.messageRecords, Node.messageRecords, headers, ← kept, ← List.map_append]
    refine List.Perm.map record ((List.mergeSort_perm _ _).trans (List.Perm.append_right _ ?_))
    exact (List.mergeSort_perm _ _).symm
  · intro ordered
    rw [← own, Node.messageRecords, headers]
    refine List.Sublist.map record ?_
    refine List.sublist_mergeSort Listing.notAfter_trans Listing.notAfter_total ?_ (List.sublist_append_right _ _)
    refine List.pairwise_map.mpr (ordered.imp fun le => ?_)
    rwa [Timestamp.notAfter_iff]

end Reached

namespace Demo

/-! ### The conversation -/

/-- The message that an entry of the script makes in a group, if there is a time for it. -/
def message? (group : GroupId) (now : Timestamp) : Nat × String → Option StoredMessage
  | (age, text) =>
    (now.before? age).bind fun time => (MessageText.ofString text).toOption.map (Archive.incoming group time)

/-- The messages that a script makes in a group, up to the first that cannot be made. -/
def messages (group : GroupId) (now : Timestamp) : List (Nat × String) → List StoredMessage
  | [] => []
  | entry :: rest =>
    match message? group now entry with
    | some message => message :: messages group now rest
    | none => []

theorem message?_inv {group : GroupId} {now : Timestamp} {entry : Nat × String} {message : StoredMessage}
    (h : message? group now entry = some message) : ∃ time text, message = Archive.incoming group time text := by
  obtain ⟨time, -, made⟩ := Option.bind_eq_some_iff.mp h
  obtain ⟨text, -, rfl⟩ := Option.map_eq_some_iff.mp made
  exact ⟨time, text, rfl⟩

theorem groupId_of_mem_messages {group : GroupId} {now : Timestamp} {script : List (Nat × String)}
    {message : StoredMessage} (h : message ∈ messages group now script) : message.header.groupId = group := by
  induction script with
  | nil => cases h
  | cons entry rest ih =>
    cases made : message? group now entry with
    | none =>
      rw [messages, made] at h
      cases h
    | some first =>
      rw [messages, made] at h
      rcases List.mem_cons.mp h with rfl | h
      · obtain ⟨time, text, rfl⟩ := message?_inv made
        rfl
      · exact ih h

theorem headers_messages (archive : Archive) (group : GroupId) (now : Timestamp) (script : List (Nat × String))
    (other : GroupId) : ((messages group now script).foldl Archive.store archive).headers other =
      if other = group then archive.headers other ++ (messages group now script).map (·.header)
      else archive.headers other := by
  have all : ∀ header ∈ (messages group now script).map (·.header), header.groupId = group := by
    intro header hh
    obtain ⟨m, hm, rfl⟩ := List.mem_map.mp hh
    exact groupId_of_mem_messages hm
  rw [Archive.headers_foldl_store]
  split
  · next same =>
    rw [List.filter_eq_self.mpr fun header hh => by simpa [same] using all header hh]
  · next apart =>
    have none : ((messages group now script).map (·.header)).filter (·.groupId = other) = [] :=
      List.filter_eq_nil_iff.mpr fun header hh => by simpa [all header hh] using Ne.symm apart
    rw [none, List.append_nil]

section Receiving

variable {node : Node} {stored : List StoredMessage} {id : ContactId} {contact : Contact}

/-- An entry of the script is received as its message, or not at all. -/
theorem receive_spec (hf : node.contacts.find? id = some contact) (now : Timestamp) (age : Nat) (text : String) :
    (∃ message, message? contact.group now (age, text) = some message ∧
      receive id now age text node = .ok { node with archive := node.archive.store message }) ∨
    message? contact.group now (age, text) = none ∧ ∃ failure, receive id now age text node = .error failure := by
  cases time : now.before? age with
  | none => exact .inr ⟨by rw [message?, time]; rfl, .tooEarly, by simp only [receive, time]⟩
  | some time' =>
    cases content : MessageText.ofString text with
    | error e =>
      exact .inr ⟨by rw [message?, time, content]; rfl, .rejected (.ofValidation e),
        by simp only [receive, time, content]⟩
    | ok content' =>
      refine .inl ⟨Archive.incoming contact.group time' content', by rw [message?, time, content]; rfl, ?_⟩
      simp only [receive, time, content, Node.receive, AddressBook.get_of_find? hf, Archive.receive]

theorem reached_store (h : Reached node stored) (hf : node.contacts.find? id = some contact) {now : Timestamp}
    {entry : Nat × String} {message : StoredMessage} (hm : message? contact.group now entry = some message) :
    Reached { node with archive := node.archive.store message } (stored ++ [message]) := by
  obtain ⟨time, -, made⟩ := Option.bind_eq_some_iff.mp hm
  obtain ⟨text, -, rfl⟩ := Option.map_eq_some_iff.mp made
  have reached := h.command (.receive id time text)
  simp only [Node.perform, Node.receive, AddressBook.get_of_find? hf] at reached
  exact reached

theorem reached_receive (h : Reached node stored) {now : Timestamp} {age : Nat} {text : String} {next : Node}
    (received : receive id now age text node = .ok next) : ∃ more, Reached next (stored ++ more) := by
  unfold receive at received
  split at received
  · cases received
  · next time there =>
    split at received
    · cases received
    · next content valid =>
      split at received
      · cases received
      · next header after accepted =>
        cases received
        have reached := h.command (.receive id time content)
        simp only [Node.perform, accepted] at reached
        exact ⟨_, reached⟩

/-- What receiving a script leaves, and that this node comes about too. A script is received to its end if all its
messages can be made. -/
theorem receiveAll_leaves (h : Reached node stored) (hf : node.contacts.find? id = some contact) (now : Timestamp)
    (script : List (Nat × String)) :
    (receiveAll id now script node).2 =
        { node with archive := (messages contact.group now script).foldl Archive.store node.archive } ∧
      Reached (receiveAll id now script node).2 (stored ++ messages contact.group now script) ∧
      ((∀ entry ∈ script, (message? contact.group now entry).isSome) → (receiveAll id now script node).1 = none) := by
  induction script generalizing node stored with
  | nil => exact ⟨rfl, by rwa [messages, List.append_nil], fun _ => rfl⟩
  | cons entry rest ih =>
    obtain ⟨age, text⟩ := entry
    rcases receive_spec hf now age text with ⟨message, made, received⟩ | ⟨missing, failure, received⟩
    · obtain ⟨left, reached, whole⟩ := ih (reached_store h hf made) hf
      simp only [receiveAll, received, messages, made]
      exact ⟨left, by rwa [List.append_cons], fun all => whole fun other ho => all other (List.mem_cons_of_mem _ ho)⟩
    · simp only [receiveAll, received, messages, missing]
      refine ⟨rfl, by rwa [List.append_nil], fun all => ?_⟩
      have there := all _ List.mem_cons_self
      rw [missing] at there
      cases there

/-- Whatever is received from a script, the node comes about too. -/
theorem reached_receiveAll (h : Reached node stored) (id : ContactId) (now : Timestamp) (script : List (Nat × String)) :
    ∃ more, Reached (receiveAll id now script node).2 (stored ++ more) := by
  induction script generalizing node stored with
  | nil => exact ⟨[], by rwa [List.append_nil]⟩
  | cons entry rest ih =>
    obtain ⟨age, text⟩ := entry
    cases received : receive id now age text node with
    | error failure =>
      simp only [receiveAll, received]
      exact ⟨[], by rwa [List.append_nil]⟩
    | ok next =>
      obtain ⟨first, reached⟩ := reached_receive h received
      obtain ⟨more, reached⟩ := ih reached
      simp only [receiveAll, received]
      exact ⟨first ++ more, by rwa [← List.append_assoc]⟩

end Receiving

def greeting : MessageText := ⟨"Hi there!", by decide, by decide⟩

def question : MessageText := ⟨"Are you online?", by decide, by decide⟩

/-- The records of the two messages. -/
def greetings (friend : Contact) (hi online : MessageHeader) : List Record :=
  [hi.record friend.id (some greeting.text), online.record friend.id (some question.text)]

/-- The two messages end the conversation with a contact as it is stored, and its list has them in their order. -/
structure Greeted (node next : Node) (friend : Contact) (now : Timestamp) (hi online : MessageHeader) : Prop where
  times : hi.timestamp.millis.toInt = now.millis.toInt - 60000 ∧
    online.timestamp.millis.toInt = now.millis.toInt - 30000
  unread : hi.read = false ∧ online.read = false
  stored : next.headers friend.id = .ok (node.archive.headers friend.group ++ [hi, online])
  listed : ∃ list, Http.Lists next (Http.conversationTarget friend.id) list ∧
    (greetings friend hi online).Sublist list ∧ list.Perm (node.messageRecords friend ++ greetings friend hi online) ∧
    (node.archive.headers friend.group = [] → list = greetings friend hi online)

theorem messages_with_room {now : Timestamp} (room : Int64.minValue.toInt + 60000 ≤ now.millis.toInt) :
    ∃ first second : Timestamp, first.millis.toInt = now.millis.toInt - 60000 ∧
      second.millis.toInt = now.millis.toInt - 30000 ∧ ∀ group,
        messages group now script = [Archive.incoming group first greeting, Archive.incoming group second question] ∧
          ∀ entry ∈ script, (message? group now entry).isSome := by
  obtain ⟨first, earlier, ago⟩ := Timestamp.before?_eq_some 60000 room
  obtain ⟨second, later, ago'⟩ := Timestamp.before?_eq_some 30000 (by omega : _ ≤ now.millis.toInt)
  refine ⟨first, second, ago, ago', fun group => ?_⟩
  have hi : message? group now (60000, "Hi there!") = some (Archive.incoming group first greeting) := by
    rw [message?, earlier]
    rfl
  have online : message? group now (30000, "Are you online?") = some (Archive.incoming group second question) := by
    rw [message?, later]
    rfl
  simp [script, messages, hi, online]

theorem messages_without_room {now : Timestamp} (early : now.before? 60000 = none) (group : GroupId) :
    messages group now script = [] := by
  simp only [script, messages, message?, early]
  rfl

/-! ### The newcomers -/

/-- The author that a name and a key of valid sizes make. -/
def newcomer (name : String) (key : Bytes) : Author :=
  ⟨Author.deriveId Author.currentVersion name key, Author.currentVersion, name, key⟩

def aliceContact (keys : Keys) (owner : AuthorId) (id : ContactId) : Contact :=
  ⟨id, newcomer "Alice" keys.alice, owner, none, some keys.aliceHandshake, true⟩

def bobContact (keys : Keys) (owner : AuthorId) (id : ContactId) : Contact :=
  ⟨id, newcomer "Bob" keys.bob, owner, some "Bobby", none, false⟩

/-- Keys of 32 bytes whose authors are new to an address book. -/
structure NewTo (keys : Keys) (book : AddressBook) : Prop where
  sizes : keys.alice.length = 32 ∧ keys.aliceHandshake.length = 32 ∧ keys.bob.length = 32
  alice : book.Lacks (newcomer "Alice" keys.alice)
  bob : book.Lacks (newcomer "Bob" keys.bob)

/-- All that is hashed until a node is seeded, for messages, for groups and for the two authors. -/
def hashedUntilSeeded (node : Node) (stored : List StoredMessage) (keys : Keys) (now : Timestamp)
    (alice bob : ContactId) : Set Bytes :=
  let owner := node.contacts.localAuthorId
  let contacts := node.contacts.contacts ++ [aliceContact keys owner alice, bobContact keys owner bob]
  hashedForMessages (stored ++ messages (aliceContact keys owner alice).group now script) ∪ hashedForGroups contacts ∪
    {(newcomer "Alice" keys.alice).hashed, (newcomer "Bob" keys.bob).hashed}

theorem mem_of_hashedUntilSeeded {node : Node} {stored : List StoredMessage} {keys : Keys} {now : Timestamp}
    {alice bob : ContactId} {bytes : Bytes} (h : bytes ∈ hashedUntilSeeded node stored keys now alice bob) :
    let owner := node.contacts.localAuthorId
    let contacts := node.contacts.contacts ++ [aliceContact keys owner alice, bobContact keys owner bob]
    bytes ∈ ((stored ++ messages (aliceContact keys owner alice).group now script).map StoredMessage.hashedBytes ++
      contacts.map fun c => Contact.groupHashedBytes c.localAuthorId c.author.id) ++
        [(newcomer "Alice" keys.alice).hashed, (newcomer "Bob" keys.bob).hashed] := by
  rcases h with h | h
  · exact List.mem_append_left _ (mem_of_hashed h)
  · exact List.mem_append_right _ (by simpa using h)

theorem create_newcomer {name : String} {key : Bytes} (named : Author.ValidName name) (sized : key.length = 32) :
    Author.create name key = .ok (newcomer name key) := by
  have keyed : Author.ValidKey key := by
    rw [Author.ValidKey, sized]
    decide
  exact Author.create_of_valid named keyed

variable {node : Node} {stored : List StoredMessage}

/-- A node with a contact added comes about too, and no message was stored on the way. -/
theorem reached_addContact (h : Reached node stored) {name : String} {key : Bytes} {entry : AddressBook.Entry}
    {id : ContactId} {next : Node} (added : addContact name key entry node = .ok (id, next)) : Reached next stored := by
  unfold addContact at added
  split at added
  · cases added
  · next author made =>
    split at added
    · cases added
    · next event after accepted =>
      cases added
      have reached := h.command (.add author entry)
      simpa only [Node.perform, accepted, storedBy?, Option.toList_none, List.append_nil] using reached

/-- An author that is new to a node is added under the number that follows. -/
theorem addContact_newcomer (h : Reached node stored) {name : String} (named : Author.ValidName name) {key : Bytes}
    (sized : key.length = 32) (entry : AddressBook.Entry) (new : node.contacts.Lacks (newcomer name key))
    {id : ContactId} (number : id.value = node.contacts.contacts.length + 1) :
    ∃ next, addContact name key entry node = .ok (id, next) ∧ Reached next stored ∧
      node.Gains ⟨id, newcomer name key, node.contacts.localAuthorId, entry.alias?, entry.handshakeKey?,
        entry.verified⟩ next := by
  obtain ⟨book, added⟩ := AddressBook.add_of_next (h.sound.nextId_eq number) new.1 new.2 entry
  obtain ⟨-, -, id', -, event, book_eq⟩ := AddressBook.add_inv added
  obtain rfl : id = id' := congrArg ContactAdded.contactId event
  have accepted : addContact name key entry node =
      .ok (id, { node with contacts := book }.announce ⟨id, entry.verified⟩) := by
    simp only [addContact, create_newcomer named sized, Node.addContact, added]
  refine ⟨_, accepted, reached_addContact h accepted, ?_⟩
  rw [book_eq]
  exact ⟨rfl, rfl, rfl, rfl, rfl⟩

/-- How the address book refuses when it has given out its last number. -/
def noNumbers : SeedFailure :=
  .rejected (.plain .storageError "No contact ids left")

theorem addContact_full (h : Reached node stored) {name : String} (named : Author.ValidName name) {key : Bytes}
    (sized : key.length = 32) (entry : AddressBook.Entry) (new : node.contacts.Lacks (newcomer name key))
    (full : ContactId.greatest ≤ node.contacts.contacts.length) :
    addContact name key entry node = .error noNumbers := by
  have unknown : node.contacts.knows (newcomer name key).id = false := by
    simpa [AddressBook.knows] using new.2
  simp only [addContact, create_newcomer named sized, Node.addContact, AddressBook.add, new.1, unknown,
    h.sound.nextId_none full, if_false, Bool.false_eq_true]
  rfl

/-! ### Seeding -/

/-- Whatever comes of seeding a node, the node that it leaves comes about too. -/
theorem reached_seed (h : Reached node stored) (keys : Keys) (now : Timestamp) :
    ∃ more, Reached (seed keys now node).2 (stored ++ more) := by
  have same : Reached node (stored ++ []) := by rwa [List.append_nil]
  unfold seed
  split
  · exact ⟨[], same⟩
  · next alice greeted addedAlice =>
    have reached := reached_addContact h addedAlice
    split
    · exact ⟨[], by rwa [List.append_nil]⟩
    · next bob ready addedBob => exact reached_receiveAll (reached_addContact reached addedBob) alice now script

/-- The second author is new beside the first too, since the names differ. -/
theorem NewTo.lacks_bob {keys : Keys} (new : NewTo keys node.contacts) {inputs : Set Bytes}
    (hash : Set.InjOn Sha256.digest inputs) (within : {(newcomer "Alice" keys.alice).hashed,
      (newcomer "Bob" keys.bob).hashed} ⊆ inputs) {id : ContactId} {greeted : Node}
    (gains : node.Gains (aliceContact keys node.contacts.localAuthorId id) greeted) :
    greeted.contacts.Lacks (newcomer "Bob" keys.bob) := by
  have apart : (newcomer "Alice" keys.alice).id ≠ (newcomer "Bob" keys.bob).id := by
    intro same
    have names := (Author.id_eq_iff hash (create_newcomer (by decide) new.sizes.1)
      (create_newcomer (by decide) new.sizes.2.2) (within (by simp)) (within (by simp))).mp same
    exact absurd names.1 (by decide)
  refine ⟨by rw [gains.owner]; exact new.bob.1, fun c hc => ?_⟩
  rw [gains.contacts] at hc
  rcases List.mem_append.mp hc with hc | hc
  · exact new.bob.2 c hc
  · rw [List.mem_singleton.mp hc]
    exact apart

/-- Without a number for one of the contacts, seeding stops there. -/
theorem seed_full (h : Reached node stored) {keys : Keys} (new : NewTo keys node.contacts) (now : Timestamp)
    (hash : Set.InjOn Sha256.digest {(newcomer "Alice" keys.alice).hashed, (newcomer "Bob" keys.bob).hashed}) :
    (ContactId.greatest ≤ node.contacts.contacts.length →
        (seed keys now node).1 = some noNumbers ∧ (seed keys now node).2 = node) ∧
      ∀ alice : ContactId, alice.value = node.contacts.contacts.length + 1 → alice.value = ContactId.greatest →
        (seed keys now node).1 = some noNumbers ∧
          node.Gains (aliceContact keys node.contacts.localAuthorId alice) (seed keys now node).2 := by
  constructor
  · intro full
    simp [seed, addContact_full h (by decide) new.sizes.1 _ new.alice full]
  · intro alice first last
    obtain ⟨greeted, added, reached, gains⟩ := addContact_newcomer h (by decide) new.sizes.1
      ⟨true, none, some keys.aliceHandshake⟩ new.alice first
    have full : ContactId.greatest ≤ greeted.contacts.contacts.length := by
      rw [gains.contacts, List.length_append]
      exact (first ▸ last).ge
    have seeded : seed keys now node = (some noNumbers, greeted) := by
      simp only [seed, added,
        addContact_full reached (by decide) new.sizes.2.2 _ (new.lacks_bob hash subset_rfl gains) full]
    rw [seeded]
    exact ⟨rfl, gains⟩

section Seeding

variable {keys : Keys} {now : Timestamp} {alice bob : ContactId} (h : Reached node stored)
  (new : NewTo keys node.contacts) (first : alice.value = node.contacts.contacts.length + 1)
  (second : bob.value = node.contacts.contacts.length + 2)
  (hash : Set.InjOn Sha256.digest (hashedUntilSeeded node stored keys now alice bob))

include h new first second hash

/-- Seeding gets to the conversation, with both contacts added and announced. -/
theorem seed_admits : ∃ greeted ready,
    node.Gains (aliceContact keys node.contacts.localAuthorId alice) greeted ∧
      greeted.Gains (bobContact keys node.contacts.localAuthorId bob) ready ∧ Reached ready stored ∧
      seed keys now node = receiveAll alice now script ready := by
  obtain ⟨greeted, addedAlice, reached, gainsAlice⟩ := addContact_newcomer h (by decide) new.sizes.1
    ⟨true, none, some keys.aliceHandshake⟩ new.alice first
  have number : bob.value = greeted.contacts.contacts.length + 1 := by
    rw [gainsAlice.contacts, List.length_append]
    exact second
  obtain ⟨ready, addedBob, reached, gainsBob⟩ := addContact_newcomer reached (by decide) new.sizes.2.2
    ⟨false, some "Bobby", none⟩ (new.lacks_bob hash Set.subset_union_right gainsAlice) number
  rw [gainsAlice.owner] at gainsBob
  refine ⟨greeted, ready, gainsAlice, gainsBob, reached, ?_⟩
  simp only [seed, addedAlice, addedBob]

/-- A seeded node has two contacts more, each announced in its turn, and the messages of the script. -/
theorem seed_leaves :
    let friend := aliceContact keys node.contacts.localAuthorId alice
    let other := bobContact keys node.contacts.localAuthorId bob
    let added := messages friend.group now script
    let next := (seed keys now node).2
    Reached next (stored ++ added) ∧ next.contacts.contacts = node.contacts.contacts ++ [friend, other] ∧
      next.events = ((node.events.publish (ContactAdded.frame ⟨alice, true⟩)).2.publish
        (ContactAdded.frame ⟨bob, false⟩)).2 ∧
      next.journals = (node.journals.map fun journal => journal ++ [⟨alice, true⟩, ⟨bob, false⟩]) ∧
      next.archive = added.foldl Archive.store node.archive ∧
      ((∀ entry ∈ script, (message? friend.group now entry).isSome) → (seed keys now node).1 = none) ∧
      (now.before? 60000 = none → (seed keys now node).1 = some .tooEarly) := by
  intro friend other added next
  obtain ⟨greeted, ready, gainsAlice, gainsBob, reached, seeded⟩ := seed_admits h new first second hash
  have contacts : ready.contacts.contacts = node.contacts.contacts ++ [friend, other] := by
    rw [gainsBob.contacts, gainsAlice.contacts, List.append_assoc]
    rfl
  have mem : friend ∈ ready.contacts.contacts := by
    rw [contacts]
    simp
  have found : ready.contacts.find? alice = some friend := reached.sound.find?_of_mem mem
  obtain ⟨left, final, whole⟩ := receiveAll_leaves reached found now script
  have next_eq : next = { ready with archive := added.foldl Archive.store ready.archive } := by
    rw [← left, ← seeded]
  rw [← seeded] at final
  refine ⟨final, ?_, ?_, ?_, ?_, ?_, ?_⟩
  · rw [next_eq]
    exact contacts
  · rw [next_eq]
    show ready.events = _
    rw [gainsBob.events, gainsAlice.events]
    rfl
  · rw [next_eq]
    show ready.journals = _
    rw [gainsBob.journals, gainsAlice.journals]
    simp [Function.comp_def, aliceContact, bobContact]
  · rw [next_eq, gainsBob.archive, gainsAlice.archive]
  · rw [seeded]
    exact whole
  · intro early
    rw [seeded]
    simp only [script, receiveAll, receive, early]

/-- The contacts of a seeded node have a group each. -/
theorem group_ne {c : Contact} (hc : c ∈ (seed keys now node).2.contacts.contacts) (hid : c.id ≠ alice) :
    c.group ≠ (aliceContact keys node.contacts.localAuthorId alice).group := by
  obtain ⟨reached, contacts, -⟩ := seed_leaves h new first second hash
  intro same
  have groups : Set.InjOn Sha256.digest (hashedForGroups (seed keys now node).2.contacts.contacts) := by
    rw [contacts]
    exact hash.mono fun bytes hb => .inl (.inr hb)
  exact hid (congrArg Contact.id (reached.sound.eq_of_group groups hc (by rw [contacts]; simp) same))

/-- With times for both messages, the first contact has greeted. -/
theorem seed_with_room (room : Int64.minValue.toInt + 60000 ≤ now.millis.toInt) :
    let friend := aliceContact keys node.contacts.localAuthorId alice
    let next := (seed keys now node).2
    (seed keys now node).1 = none ∧ ∃ hi online, Greeted node next friend now hi online := by
  intro friend next
  obtain ⟨reached, contacts, -, -, archive, whole, -⟩ := seed_leaves h new first second hash
  have hashMessages : Set.InjOn Sha256.digest (hashedForMessages (stored ++ messages friend.group now script)) :=
    hash.mono fun bytes hb => .inl (.inl hb)
  have mem : friend ∈ next.contacts.contacts := by
    rw [contacts]
    simp [friend]
  have listed := Http.lists_messages reached hashMessages mem
  obtain ⟨hi, online, ago, ago', made⟩ := messages_with_room room
  obtain ⟨added, all⟩ := made friend.group
  have headers : next.archive.headers friend.group =
      node.archive.headers friend.group ++ (messages friend.group now script).map (·.header) := by
    rw [archive, headers_messages, if_pos rfl]
  have looked : next.headers friend.id = .ok (next.archive.headers friend.group) :=
    Node.headers_of_find? (reached.sound.find?_of_mem mem)
  obtain ⟨perm, sorted⟩ := h.messageRecords_extended reached hashMessages (List.subset_append_right _ _) headers
  rw [headers, added] at looked
  rw [added] at perm sorted
  have ordered : hi ≤ online := by
    rw [Timestamp.le_iff, ago, ago']
    omega
  have sublist := sorted (List.pairwise_pair.mpr ordered)
  refine ⟨whole all, _, _, ⟨ago, ago'⟩, ⟨rfl, rfl⟩, looked, _, listed, sublist, perm, fun nothing => ?_⟩
  have records : node.messageRecords friend = [] := by
    rw [Node.messageRecords, nothing, Listing.inOrder, List.mergeSort_nil, List.map_nil]
  rw [records, List.nil_append] at perm
  exact (sublist.eq_of_length perm.length_eq.symm).symm

end Seeding

/-- What comes of seeding a node with keys of 32 bytes that are new to it, whatever was done with it before. If there
are numbers for both, two contacts follow those that are there, and each is announced in its turn; the conversations
with all others stay as they are. If there is a time for the first message, both messages end the conversation with
the first of the two, not read yet, and are listed in their order. Otherwise seeding stops before the first message.
Without a number for one of the contacts, seeding stops before that contact. -/
theorem seed_outcome (h : Reached node stored) (keys : Keys) (new : NewTo keys node.contacts) (now : Timestamp) :
    let failure? := (seed keys now node).1
    let next := (seed keys now node).2
    -- there are numbers for both contacts
    (∀ alice bob : ContactId, alice.value = node.contacts.contacts.length + 1 →
      bob.value = node.contacts.contacts.length + 2 →
      Set.InjOn Sha256.digest (hashedUntilSeeded node stored keys now alice bob) →
      let friend := aliceContact keys node.contacts.localAuthorId alice
      let other := bobContact keys node.contacts.localAuthorId bob
      -- the contacts and their events
      (next.contacts.contacts = node.contacts.contacts ++ [friend, other] ∧
        next.events = ((node.events.publish (ContactAdded.frame ⟨alice, true⟩)).2.publish
          (ContactAdded.frame ⟨bob, false⟩)).2 ∧
        next.journals = node.journals.map fun journal => journal ++ [⟨alice, true⟩, ⟨bob, false⟩]) ∧
      -- the conversations with all others
      (∀ c ∈ next.contacts.contacts, c.id ≠ alice → next.headers c.id = .ok (node.archive.headers c.group) ∧
        Http.Lists next (Http.conversationTarget c.id) (node.messageRecords c)) ∧
      (∀ c ∈ node.contacts.contacts, Http.Lists node (Http.conversationTarget c.id) (node.messageRecords c)) ∧
      -- there are times for both messages
      (Int64.minValue.toInt + 60000 ≤ now.millis.toInt → failure? = none ∧
        ∃ hi online, Greeted node next friend now hi online) ∧
      -- there is none for the first
      (now.millis.toInt < Int64.minValue.toInt + 60000 → failure? = some .tooEarly ∧ next.archive = node.archive)) ∧
    -- there is no number for the first or for the second contact
    (Set.InjOn Sha256.digest {(newcomer "Alice" keys.alice).hashed, (newcomer "Bob" keys.bob).hashed} →
      (ContactId.greatest ≤ node.contacts.contacts.length → failure? = some noNumbers ∧ next = node) ∧
      ∀ alice : ContactId, alice.value = node.contacts.contacts.length + 1 → alice.value = ContactId.greatest →
        failure? = some noNumbers ∧ node.Gains (aliceContact keys node.contacts.localAuthorId alice) next) := by
  intro failure? next
  refine ⟨fun alice bob first second hash => ?_, seed_full h new now⟩
  intro friend other
  obtain ⟨reached, contacts, events, journals, archive, -, tooEarly⟩ := seed_leaves h new first second hash
  have hashMessages : Set.InjOn Sha256.digest (hashedForMessages (stored ++ messages friend.group now script)) :=
    hash.mono fun bytes hb => .inl (.inl hb)
  have before := hashMessages.mono (hashedForMessages_mono (List.subset_append_left _ _))
  refine ⟨⟨contacts, events, journals⟩, fun c hc hid => ?_, fun c hc => Http.lists_messages h before hc,
    seed_with_room h new first second hash, fun early => ?_⟩
  · have kept : next.archive.headers c.group = node.archive.headers c.group := by
      rw [archive, headers_messages, if_neg (group_ne h new first second hash hc hid)]
    have looked : next.headers c.id = .ok (next.archive.headers c.group) :=
      Node.headers_of_find? (reached.sound.find?_of_mem hc)
    refine ⟨kept ▸ looked, ?_⟩
    rw [← h.messageRecords_kept reached hashMessages kept]
    exact Http.lists_messages reached hashMessages hc
  · have none := Timestamp.before?_eq_none 60000 early
    exact ⟨tooEarly none, by rw [archive, messages_without_room none]; rfl⟩

/-! A node with a contact and a conversation is seeded at the first time at which there is one for the first
message. -/

theorem seed_outcome_after_echo :
    let node := (Node.plainNode.performAll Node.echoCommands).2
    let keys : Keys := ⟨List.replicate 32 3, List.replicate 32 4, List.replicate 32 5⟩
    let now : Timestamp := ⟨Int64.minValue + 60000⟩
    let alice : ContactId := ⟨2, by decide, by decide⟩
    (seed keys now node).1 = none ∧ ∃ hi online : MessageHeader, hi.timestamp = ⟨Int64.minValue⟩ ∧
      online.timestamp = ⟨Int64.minValue + 30000⟩ ∧ Http.Lists (seed keys now node).2 (Http.conversationTarget alice)
        [hi.record alice (some "Hi there!"), online.record alice (some "Are you online?")] := by
  intro node keys now alice
  let bob : ContactId := ⟨3, by decide, by decide⟩
  have reached := (Reached.start (Node.plainAuthor "Me" 1) ⟨16, 0, [], [], 0⟩).performAll Node.echoCommands
  have new : NewTo keys node.contacts :=
    ⟨⟨rfl, rfl, rfl⟩, ⟨by decide +kernel, by decide +kernel⟩, ⟨by decide +kernel, by decide +kernel⟩⟩
  have hash : Set.InjOn Sha256.digest (hashedUntilSeeded node (storedIn (Node.plainNode.performAll Node.echoCommands).1)
      keys now alice bob) := by
    refine injOn_digest ?_ fun bytes => mem_of_hashedUntilSeeded
    decide +kernel
  obtain ⟨-, -, -, seeded, -⟩ := (seed_outcome reached keys new now).1 alice bob rfl rfl hash
  obtain ⟨whole, hi, online, ⟨ago, ago'⟩, -, -, list, listed, -, -, only⟩ := seeded (by decide)
  refine ⟨whole, hi, online, Timestamp.eq_of_toInt ago, Timestamp.eq_of_toInt ago', ?_⟩
  rw [only (by decide +kernel)] at listed
  exact listed

end Demo

end PeerPost
