import PeerPost.Node
import PeerPost.Proofs.Archive
import PeerPost.Proofs.Contacts
import PeerPost.Proofs.Times

/-! # Commands to a node and what they store

A command changes the contacts or the messages of a node and gets a reply. The transcript of a run of
commands says what was stored: every message that a reply names, with the text of its command. The
archive is then these messages stored one after the other, and no command takes back what an earlier
one stored. -/

namespace PeerPost

/-- A command that changes the contacts or the messages of a node. -/
inductive Command where
  | receive (id : ContactId) (time : Timestamp) (text : MessageText)
  | send (message : OutgoingMessage)
  | add (author : Author) (entry : AddressBook.Entry)
  | rename (id : ContactId) (alias? : Option String)

/-- What a node replies to a command. -/
inductive Reply where
  | stored (header : MessageHeader)
  | added (event : ContactAdded)
  | renamed
  | refused (e : DomainError)

namespace Node

/-- Carries out a command. A refused command changes nothing. -/
def perform (node : Node) : Command → Reply × Node
  | .receive id time text =>
    match node.receive id time text with
    | .ok (header, next) => (.stored header, next)
    | .error e => (.refused e, node)
  | .send message => (.stored (node.send message).1, (node.send message).2)
  | .add author entry =>
    match node.addContact author entry with
    | .ok (event, next) => (.added event, next)
    | .error e => (.refused e, node)
  | .rename id alias? =>
    match node.setAlias id alias? with
    | .ok next => (.renamed, next)
    | .error e => (.refused e, node)

/-- Carries out commands one after the other. The transcript has every command with its reply. -/
def performAll (node : Node) : List Command → List (Command × Reply) × Node
  | [] => ([], node)
  | command :: rest =>
    let (reply, next) := node.perform command
    let (transcript, last) := next.performAll rest
    ((command, reply) :: transcript, last)

end Node

/-- The message that a command stored, if its reply names one. -/
def storedBy? : Command × Reply → Option StoredMessage
  | (.receive _ _ text, .stored header) => some ⟨header, text⟩
  | (.send message, .stored header) => some ⟨header, message.text⟩
  | _ => none

/-- The header of the message that a command received from a contact, if its reply names one. -/
def receivedBy? : Command × Reply → Option MessageHeader
  | (.receive .., .stored header) => some header
  | _ => none

/-- The messages stored in the course of a transcript, the oldest first. -/
def storedIn (transcript : List (Command × Reply)) : List StoredMessage :=
  transcript.filterMap storedBy?

/-- The headers of the messages received from contacts in the course of a transcript. -/
def receivedIn (transcript : List (Command × Reply)) : List MessageHeader :=
  transcript.filterMap receivedBy?

namespace Node

variable {node : Node}

/-! ### One command -/

/-- What carrying out a command does to the contacts and to the archive. -/
structure Performs (node : Node) (command : Command) (reply : Reply) (next : Node) : Prop where
  archive : next.archive = (storedBy? (command, reply)).toList.foldl Archive.store node.archive
  identified : ∀ m, storedBy? (command, reply) = some m → m.Identified
  received : receivedBy? (command, reply) = ((storedBy? (command, reply)).filter (!·.header.read)).map (·.header)
  sound : node.contacts.Sound → next.contacts.Sound
  continues : node.contacts.Continues next.contacts

theorem performs_refused (node : Node) (command : Command) (e : DomainError) :
    Performs node command (.refused e) node where
  archive := by cases command <;> rfl
  identified m h := by cases command <;> cases h
  received := by cases command <;> rfl
  sound h := h
  continues := .refl _

theorem perform_performs (node : Node) (command : Command) :
    Performs node command (node.perform command).1 (node.perform command).2 := by
  cases command with
  | receive id time text =>
    cases h : node.contacts.get id with
    | error e =>
      simp only [perform, receive, h]
      exact performs_refused node _ e
    | ok contact =>
      simp only [perform, receive, h]
      refine ⟨rfl, ?_, rfl, fun h => h, .refl _⟩
      intro m hm
      cases hm
      exact Archive.incoming_identified _ _ _
  | send message =>
    refine ⟨rfl, ?_, rfl, fun h => h, .refl _⟩
    intro m hm
    cases hm
    exact Archive.outgoing_identified _
  | add author entry =>
    cases h : node.contacts.add author entry with
    | error e =>
      simp only [perform, addContact, h]
      exact performs_refused node _ e
    | ok added =>
      simp only [perform, addContact, h]
      exact ⟨rfl, fun _ h => (nomatch h), rfl, fun hs => hs.add h, .add h⟩
  | rename id alias? =>
    cases h : node.contacts.setAlias id alias? with
    | error e =>
      simp only [perform, Node.setAlias, h]
      exact performs_refused node _ e
    | ok contacts =>
      simp only [perform, Node.setAlias, h]
      exact ⟨rfl, fun _ h => (nomatch h), rfl, fun hs => hs.setAlias h, .setAlias h⟩

/-- A message from a contact that is not known is refused, and nothing changes. -/
theorem perform_receive_unknown {id : ContactId} (h : node.contacts.find? id = none) (time : Timestamp)
    (text : MessageText) :
    ∃ e, node.perform (.receive id time text) = (.refused e, node) ∧ e.code = .contactNotFound := by
  simp only [perform, receive, AddressBook.get_unknown h]
  exact ⟨_, rfl, rfl⟩

/-- A message from a known contact is stored in the group of the contact. -/
theorem perform_receive_known {id : ContactId} {contact : Contact} (h : node.contacts.find? id = some contact)
    (time : Timestamp) (text : MessageText) : ∃ header next,
      node.perform (.receive id time text) = (.stored header, next) ∧ header.groupId = contact.group ∧
        header.timestamp = time := by
  simp only [perform, receive, AddressBook.get_of_find? h]
  exact ⟨_, _, rfl, rfl, rfl⟩

/-! ### A run of commands -/

theorem performAll_append (node : Node) (earlier later : List Command) :
    node.performAll (earlier ++ later) =
      ((node.performAll earlier).1 ++ ((node.performAll earlier).2.performAll later).1,
        ((node.performAll earlier).2.performAll later).2) := by
  induction earlier generalizing node with
  | nil => rfl
  | cons command rest ih => simp only [List.cons_append, performAll, ih]

/-- The archive after a run is the one before it with the messages of the transcript stored. -/
theorem performAll_archive (node : Node) (commands : List Command) :
    (node.performAll commands).2.archive =
      (storedIn (node.performAll commands).1).foldl Archive.store node.archive := by
  induction commands generalizing node with
  | nil => rfl
  | cons command rest ih =>
    have h := (perform_performs node command).archive
    simp only [performAll, storedIn, List.filterMap_cons]
    rw [ih, h]
    cases storedBy? (command, (node.perform command).1) with
    | none => rfl
    | some m => rfl

theorem performAll_identified (node : Node) (commands : List Command) :
    ∀ m ∈ storedIn (node.performAll commands).1, m.Identified := by
  induction commands generalizing node with
  | nil => intro m hm; cases hm
  | cons command rest ih =>
    intro m hm
    obtain ⟨entry, he, hs⟩ := List.mem_filterMap.mp hm
    rcases List.mem_cons.mp he with rfl | he
    · exact (perform_performs node command).identified m hs
    · exact ih _ m (List.mem_filterMap.mpr ⟨entry, he, hs⟩)

/-- The messages received in a run are those stored that are not read. -/
theorem performAll_received (node : Node) (commands : List Command) :
    receivedIn (node.performAll commands).1 =
      ((storedIn (node.performAll commands).1).filter (!·.header.read)).map (·.header) := by
  induction commands generalizing node with
  | nil => rfl
  | cons command rest ih =>
    have h := (perform_performs node command).received
    have tail := ih (node.perform command).2
    simp only [performAll, receivedIn, storedIn, List.filterMap_cons] at tail ⊢
    rw [h]
    cases storedBy? (command, (node.perform command).1) with
    | none => exact tail
    | some m => cases hr : m.header.read <;> simp [Option.filter, hr, tail]

theorem performAll_sound (h : node.contacts.Sound) (commands : List Command) :
    (node.performAll commands).2.contacts.Sound := by
  induction commands generalizing node with
  | nil => exact h
  | cons command rest ih => exact ih ((perform_performs node command).sound h)

/-! ### The stores after a run -/

theorem performAll_records (author : Author) (events : Channel) (commands : List Command) :
    ((start author events).performAll commands).2.archive.Records
      (storedIn ((start author events).performAll commands).1) := by
  rw [performAll_archive]
  exact Archive.records_empty.foldl_store _

/-- The counters of what was stored for a group: how many messages, how many of them received, and the
latest of their times and zero. -/
theorem count_stored (author : Author) (events : Channel) (commands : List Command) (group : GroupId) :
    let transcript := ((start author events).performAll commands).1
    let exchanged := ((storedIn transcript).map (·.header)).filter (·.groupId = group)
    MessageCount.ofHeaders exchanged =
      ⟨exchanged.length, ((receivedIn transcript).filter (·.groupId = group)).length,
        (exchanged.map (·.timestamp)).foldl max Timestamp.none⟩ := by
  intro transcript exchanged
  rw [MessageCount.ofHeaders_eq, performAll_received, List.filter_map, List.filter_filter]
  congr 1
  simp only [List.filter_map, List.filter_filter, List.length_map, Function.comp_def, Bool.and_comm]
  rfl

/-- What was stored stays stored: the headers of a group are continued, and a text stays the same. -/
theorem archive_continues (author : Author) (events : Channel) (earlier later : List Command)
    (hash : Set.InjOn Sha256.digest
      (hashedForMessages (storedIn ((start author events).performAll (earlier ++ later)).1))) :
    let before := ((start author events).performAll earlier).2
    let after := ((start author events).performAll (earlier ++ later)).2
    (∀ group, before.archive.headers group <+: after.archive.headers group) ∧
      ∀ id text, before.archive.text? id = some text → after.archive.text? id = some text := by
  intro before after
  have first := performAll_records author events earlier
  have whole := performAll_records author events (earlier ++ later)
  have genuine := performAll_identified (start author events) (earlier ++ later)
  have split : storedIn ((start author events).performAll (earlier ++ later)).1 =
      storedIn ((start author events).performAll earlier).1 ++ storedIn (before.performAll later).1 := by
    rw [performAll_append]
    exact List.filterMap_append
  refine ⟨fun group => ?_, fun id text ht => ?_⟩
  · rw [first.headers, whole.headers, split, List.map_append, List.filter_append]
    exact List.prefix_append _ _
  · -- The text is that of a message stored in the first part, which is stored in the whole run too.
    rw [first.text?, Option.map_eq_some_iff] at ht
    obtain ⟨m, hm, rfl⟩ := ht
    have member : m ∈ storedIn ((start author events).performAll (earlier ++ later)).1 := by
      rw [split]
      exact List.mem_append_left _ (List.mem_reverse.mp (List.mem_of_find?_eq_some hm))
    have id_eq : m.header.id = id := by simpa using List.find?_some hm
    rw [← id_eq]
    exact whole.text?_of_mem genuine hash member

/-- After any run of commands on a new node, its stores say of every contact and every message exactly what
the transcript of the run says was stored. -/
theorem stores_reflect_transcript (author : Author) (events : Channel) (commands : List Command)
    (hash : Set.InjOn Sha256.digest
      (hashedForMessages (storedIn ((start author events).performAll commands).1))) :
    let transcript := ((start author events).performAll commands).1
    let node := ((start author events).performAll commands).2
    -- the headers and the counters of every contact
    (∀ contact ∈ node.contacts.contacts,
      let exchanged := ((storedIn transcript).map (·.header)).filter (·.groupId = contact.group)
      node.headers contact.id = .ok exchanged ∧
        node.count contact.id = .ok ⟨exchanged.length,
          ((receivedIn transcript).filter (·.groupId = contact.group)).length,
          (exchanged.map (·.timestamp)).foldl max Timestamp.none⟩) ∧
    -- the texts
    (∀ m ∈ storedIn transcript, node.archive.text m.header.id = .ok (some m.text.text)) ∧
    (∀ id, (∀ m ∈ storedIn transcript, m.header.id ≠ id) →
      ∃ e, node.archive.text id = .error e ∧ e.code = .messageNotFound) ∧
    -- what is stored next, and what is refused
    (∀ contact ∈ node.contacts.contacts, ∀ time text, ∃ header next,
      node.perform (.receive contact.id time text) = (.stored header, next) ∧ header.groupId = contact.group ∧
        header.timestamp = time) ∧
    (∀ id time text, node.contacts.find? id = none →
      ∃ e, node.perform (.receive id time text) = (.refused e, node) ∧ e.code = .contactNotFound) ∧
    -- nothing stored earlier is altered or lost
    (∀ earlier later, commands = earlier ++ later →
      let before := ((start author events).performAll earlier).2
      (∀ group, before.archive.headers group <+: node.archive.headers group) ∧
        ∀ id text, before.archive.text? id = some text → node.archive.text? id = some text) := by
  intro transcript node
  have sound : node.contacts.Sound := performAll_sound (AddressBook.sound_empty author.id) commands
  have records : node.archive.Records (storedIn transcript) := performAll_records author events commands
  have genuine : ∀ m ∈ storedIn transcript, m.Identified := performAll_identified _ commands
  refine ⟨?_, ?_, ?_, ?_, ?_, ?_⟩
  · intro contact hc exchanged
    refine ⟨?_, ?_⟩
    · rw [Node.headers, sound.get_of_mem hc, Except.map, records.headers]
    · rw [Node.count, sound.get_of_mem hc, Except.map, Archive.count, records.headers]
      exact congrArg Except.ok (count_stored author events commands contact.group)
  · intro m hm
    exact Archive.text_of_text? (records.text?_of_mem genuine hash hm)
  · intro id hid
    exact Archive.text_unknown (records.text?_eq_none hid)
  · intro contact hc time text
    exact perform_receive_known (sound.find?_of_mem hc) time text
  · intro id time text hid
    exact perform_receive_unknown hid time text
  · intro earlier later hsplit
    subst hsplit
    exact archive_continues author events earlier later hash

/-! A run in which the same text is received and sent at the same time, so that two messages have one
identifier, and another text is sent after them. -/

/-- An author whose identifier and key repeat one byte. -/
def plainAuthor (name : String) (byte : UInt8) : Author :=
  ⟨⟨⟨Vector.replicate 32 byte⟩⟩, Author.currentVersion, name, List.replicate 32 byte⟩

/-- A new node with a small event channel. -/
def plainNode : Node :=
  start (plainAuthor "Me" 1) ⟨16, 0, [], [], 0⟩

/-- A contact is added, and the same text goes back and forth before another one is sent. -/
def echoCommands : List Command :=
  let ann := plainAuthor "Ann" 2
  let group := Contact.groupOf plainNode.localAuthor.id ann.id
  let hi : MessageText := ⟨"Hi", by decide, by decide⟩
  let ho : MessageText := ⟨"Ho", by decide, by decide⟩
  [.add ann ⟨true, none, none⟩, .receive .first ⟨5⟩ hi, .send ⟨group, ⟨5⟩, hi⟩, .send ⟨group, ⟨6⟩, ho⟩]

theorem stores_reflect_echo :
    (storedIn (plainNode.performAll echoCommands).1).length = 3 ∧
      ∀ m ∈ storedIn (plainNode.performAll echoCommands).1,
        (plainNode.performAll echoCommands).2.archive.text m.header.id = .ok (some m.text.text) := by
  have hash : Set.InjOn Sha256.digest (hashedForMessages (storedIn (plainNode.performAll echoCommands).1)) := by
    refine injOn_digest ?_ fun _ => mem_of_hashedForMessages
    decide +kernel
  exact ⟨rfl, (stores_reflect_transcript _ _ _ hash).2.1⟩

end Node

end PeerPost
