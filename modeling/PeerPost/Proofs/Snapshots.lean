import PeerPost.Proofs.Listings
import PeerPost.Proofs.Operations

/-! # Listing while others use the node

A listing calls the node several times, and others may do anything with the node before each of its calls. The
list of a conversation is still the one at the moment when its headers were read, because a message that is
stored keeps its text whatever is done afterwards. -/

namespace PeerPost

namespace Node

variable {α : Type}

/-- Holds a dialogue with a node while others use it: before each call of the dialogue they do some operations.
Gives the result of the dialogue, the history of what the others did, and the node. -/
def holdAmid (node : Node) (now : Timestamp) (others : Nat → List Operation) : Dialogue α → α × List Occurrence × Node
  | .done result => (result, [], node)
  | .ask call next =>
    let (history, found) := node.operateAll (others 0)
    let (answered, after) := answer now call found
    let (result, later, last) := after.holdAmid now (fun i => others (i + 1)) (next answered)
    (result, history ++ later, last)

theorem holdAmid_alone (node : Node) (now : Timestamp) (dialogue : Dialogue α) :
    node.holdAmid now (fun _ => []) dialogue = ((node.hold now dialogue).1, [], (node.hold now dialogue).2) := by
  induction dialogue generalizing node with
  | done result => rfl
  | ask call next ih =>
    simp only [holdAmid, operateAll, ih]
    rfl

end Node

/-! ### What others leave as it is -/

theorem Occurrence.Changes.continues {o : Occurrence} {next : AddressBook} (h : o.Changes next) :
    o.node.contacts.Continues next := by
  cases h with
  | added a _ _ accepted => exact .add accepted
  | renamed id alias? _ _ accepted => exact .setAlias accepted
  | kept _ _ same => exact same ▸ .refl _

namespace Node

variable {node : Node} {stored all : List StoredMessage} {others : Nat → List Operation} {now : Timestamp}
  {id : ContactId}

theorem continues_operateAll (node : Node) (operations : List Operation) :
    node.contacts.Continues (node.operateAll operations).2.contacts := by
  refine operateAll_run (fun _ next => node.contacts.Continues next.contacts) ?_ (.refl _)
  intro operation _ past next h
  exact h.trans (next.changes_operate operation).continues

/-- Texts that are loaded while others use the node are those of the messages that were stored before. -/
theorem holdAmid_loadTexts {view : MessageHeader → LoadedMessage} {headers : List MessageHeader}
    {done : List LoadedMessage} (h : Reached node stored)
    (hash : Set.InjOn Sha256.digest (hashedForMessages all))
    (within : stored ++ storedDuring (node.holdAmid now others (Listing.loadTexts id headers done)).2.1 ⊆ all)
    (known : ∀ header ∈ headers, ∃ m ∈ stored, m.header = header ∧ view header = ⟨header, some m.text.text⟩) :
    (node.holdAmid now others (Listing.loadTexts id headers done)).1 =
      .ok ⟨id, done.reverse ++ headers.map view⟩ := by
  -- The node goes on changing from one text to the next, but what `view` says of the headers does not.
  induction headers generalizing node stored others done with
  | nil =>
    rw [List.map_nil, List.append_nil]
    rfl
  | cons header rest ih =>
    obtain ⟨m, hm, own, seen⟩ := known header List.mem_cons_self
    -- What the others do before the call stores messages and keeps those that are there.
    have reached := reached_operateAll h (others 0)
    have fewer : stored ++ storedDuring (node.operateAll (others 0)).1 ⊆ all := by
      refine List.Subset.trans ?_ within
      simp only [Listing.loadTexts, holdAmid, storedDuring_append, ← List.append_assoc]
      exact List.subset_append_left _ _
    have text : (node.operateAll (others 0)).2.archive.text header.id = .ok (some m.text.text) := by
      refine Archive.text_of_text? ?_
      rw [← own]
      exact reached.records.text?_of_mem reached.identified (hash.mono (hashedForMessages_mono fewer))
        (List.mem_append_left _ hm)
    simp only [Listing.loadTexts, holdAmid, answer, text] at within ⊢
    rw [ih reached ?_ ?_, List.reverse_cons, List.append_assoc, List.map_cons, seen]
    · rfl
    · rwa [storedDuring_append, ← List.append_assoc] at within
    · intro other ho
      obtain ⟨m, hm, same⟩ := known other (List.mem_cons_of_mem _ ho)
      exact ⟨m, List.mem_append_left _ hm, same⟩

theorem holdAmid_messages_unknown (h : (node.operateAll (others 0)).2.contacts.find? id = none) :
    (node.holdAmid now others (Listing.messages id)).1 = .error (.contactNotFound id) := by
  simp only [Listing.messages, holdAmid, answer, AddressBook.get_unknown h]
  rfl

/-- The listing of a known contact, from the moment when its headers were read. -/
theorem holdAmid_messages (now : Timestamp) {contact : Contact}
    (h : (node.operateAll (others 0)).2.contacts.find? id = some contact) :
    let lookup := node.operateAll (others 0)
    let reading := lookup.2.operateAll (others 1)
    let loading := reading.2.holdAmid now (fun i => others (i + 2))
      (Listing.loadTexts id (Listing.inOrder (reading.2.archive.headers contact.group)) [])
    (∃ found, reading.2.contacts.find? id = some found ∧ found.group = contact.group) ∧
      node.holdAmid now others (Listing.messages id) =
        (loading.1, lookup.1 ++ (reading.1 ++ loading.2.1), loading.2.2) := by
  intro lookup reading loading
  obtain ⟨-, rfl⟩ := AddressBook.find?_inv h
  obtain ⟨found, hr, group⟩ := (continues_operateAll lookup.2 (others 1)).group h
  have headers : ((node.operateAll (others 0)).2.operateAll (others 1)).2.headers contact.id =
      .ok (reading.2.archive.headers contact.group) := by
    rw [headers_of_find? hr, group]
  refine ⟨⟨found, hr, group⟩, ?_⟩
  simp only [Listing.messages, holdAmid, answer, AddressBook.get_of_find? h, headers]
  rfl

/-- A listing of a conversation while others do anything with the node; all that was done with the node before
counts as theirs. If the contact is there when it is looked up, the list is the one that is given alone at the
moment when the headers were read: it has these headers in the order of their times, and every message with the text
that it was stored with. Otherwise the contact is not found. -/
theorem messages_amid (author : Author) (events : Channel) (now : Timestamp) (others : Nat → List Operation)
    (id : ContactId) (hash : Set.InjOn Sha256.digest (hashedForMessages
      (storedDuring ((start author events).holdAmid now others (Listing.messages id)).2.1))) :
    let result := ((start author events).holdAmid now others (Listing.messages id)).1
    let lookup := (start author events).operateAll (others 0)
    let reading := lookup.2.operateAll (others 1)
    (∀ contact, lookup.2.contacts.find? id = some contact → ∃ list, result = .ok list ∧
      (∀ later, (reading.2.hold later (Listing.messages id)).1 = .ok list) ∧
      (list.contactId = id ∧ ∃ headers, reading.2.headers id = .ok headers ∧
        list.items.map (·.header) = Listing.inOrder headers) ∧
      ∀ item ∈ list.items, ∃ m ∈ storedDuring (lookup.1 ++ reading.1), item = ⟨m.header, some m.text.text⟩) ∧
    (lookup.2.contacts.find? id = none → result = .error (.contactNotFound id)) := by
  intro result lookup reading
  refine ⟨fun contact hf => ?_, holdAmid_messages_unknown⟩
  have reached : Reached reading.2 (storedDuring (lookup.1 ++ reading.1)) := by
    rw [storedDuring_append]
    exact reached_operateAll (reached_run author events (others 0)) (others 1)
  obtain ⟨⟨found, hr, group⟩, split⟩ := holdAmid_messages now hf
  have whole : storedDuring ((start author events).holdAmid now others (Listing.messages id)).2.1 =
      storedDuring (lookup.1 ++ reading.1) ++ storedDuring (reading.2.holdAmid now (fun i => others (i + 2))
        (Listing.loadTexts id (Listing.inOrder (reading.2.archive.headers contact.group)) [])).2.1 := by
    rw [split]
    simp only [storedDuring_append, List.append_assoc]
    rfl
  have earlier := hash.mono (hashedForMessages_mono (whole ▸ List.subset_append_left _ _))
  have known : ∀ header ∈ Listing.inOrder (reading.2.archive.headers contact.group),
      ∃ m ∈ storedDuring (lookup.1 ++ reading.1), m.header = header ∧
        reading.2.loaded header = ⟨header, some m.text.text⟩ := by
    intro header hh
    obtain ⟨m, hm, own, text⟩ := reached.text?_of_headers earlier (Listing.mem_inOrder.mp hh)
    exact ⟨m, hm, own, by rw [loaded, text]⟩
  refine ⟨⟨id, (Listing.inOrder (reading.2.archive.headers contact.group)).map reading.2.loaded⟩, ?_, ?_,
    ⟨rfl, reading.2.archive.headers contact.group, ?_, List.map_map.trans (List.map_id _)⟩, ?_⟩
  · show ((start author events).holdAmid now others (Listing.messages id)).1 = _
    rw [split]
    exact holdAmid_loadTexts reached hash (whole ▸ List.Subset.refl _) known
  · intro later
    rw [reached.hold_messages earlier hr, group]
  · rw [headers_of_find? hr, group]
  · intro item hi
    obtain ⟨header, hh, rfl⟩ := List.mem_map.mp hi
    obtain ⟨m, hm, rfl, seen⟩ := known header hh
    exact ⟨m, hm, seen⟩

/-- A listing after the run of `echoCommands`. Before its first text is loaded, the contact gets an alias and the
text of that message is stored again at the same time. -/
theorem messages_amid_echo :
    let group := Contact.groupOf plainNode.localAuthor.id (plainAuthor "Ann" 2).id
    let hi : MessageText := ⟨"Hi", by decide, by decide⟩
    let others : Nat → List Operation := fun i => if i = 0 then echoCommands.map .command else
      if i = 2 then [.command (.rename .first (some "A")), .command (.send ⟨group, ⟨5⟩, hi⟩)] else []
    let reading := ((plainNode.operateAll (others 0)).2.operateAll (others 1)).2
    ∃ list, (plainNode.holdAmid ⟨0⟩ others (Listing.messages .first)).1 = .ok list ∧
      (reading.hold ⟨0⟩ (Listing.messages .first)).1 = .ok list := by
  intro group hi others reading
  let ann : Contact := ⟨.first, plainAuthor "Ann" 2, plainNode.localAuthor.id, none, none, true⟩
  have hf : (plainNode.operateAll (others 0)).2.contacts.find? .first = some ann := by decide +kernel
  have sorted : Listing.inOrder (reading.archive.headers ann.group) = reading.archive.headers ann.group := by
    refine List.mergeSort_of_pairwise ?_
    decide +kernel
  have hash : Set.InjOn Sha256.digest (hashedForMessages
      (storedDuring (plainNode.holdAmid ⟨0⟩ others (Listing.messages .first)).2.1)) := by
    rw [(holdAmid_messages ⟨0⟩ hf).2, sorted]
    refine injOn_digest ?_ fun _ => mem_of_hashedForMessages
    decide +kernel
  obtain ⟨list, listed, alone, -⟩ := (messages_amid _ _ ⟨0⟩ others .first hash).1 ann hf
  exact ⟨list, listed, alone ⟨0⟩⟩

end Node

end PeerPost
