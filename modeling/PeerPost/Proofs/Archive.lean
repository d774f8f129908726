import Mathlib.Data.Set.Function
import PeerPost.Message.Archive
import PeerPost.Proofs.Hashing

/-! # The archive and what was stored in it

`Records` relates an archive to the list of all messages stored in it: its headers by groups are the
headers of the list by groups, and its texts are those last stored under their identifiers. Where the
digests of the messages are distinct, the last text under an identifier is the text of every message
that has it, so nothing stored is ever lost. -/

namespace PeerPost

/-- The bytes hashed for the identifier of a message. -/
def StoredMessage.hashedBytes (m : StoredMessage) : Bytes :=
  MessageId.hashedBytes m.header.groupId m.header.timestamp m.text.text

/-- The identifier of a message is the digest of its group, time and text. -/
def StoredMessage.Identified (m : StoredMessage) : Prop :=
  m.header.id = ⟨⟨Sha256.digest m.hashedBytes⟩⟩

/-- The bytes hashed for messages. -/
def hashedForMessages (stored : List StoredMessage) : Set Bytes :=
  {bytes | ∃ m ∈ stored, m.hashedBytes = bytes}

/-- The digests of some bytes are distinct if no two of them have the same digest. -/
theorem injOn_digest {inputs : List Bytes}
    (h : ∀ a ∈ inputs, ∀ b ∈ inputs, Sha256.digest a = Sha256.digest b → a = b) {hashed : Set Bytes}
    (all : ∀ bytes ∈ hashed, bytes ∈ inputs) : Set.InjOn Sha256.digest hashed :=
  fun a ha b hb => h a (all a ha) b (all b hb)

theorem mem_of_hashedForMessages {stored : List StoredMessage} {bytes : Bytes} (h : bytes ∈ hashedForMessages stored) :
    bytes ∈ stored.map StoredMessage.hashedBytes := by
  obtain ⟨m, hm, rfl⟩ := h
  exact List.mem_map_of_mem hm

theorem hashedForMessages_mono {stored all : List StoredMessage} (h : stored ⊆ all) :
    hashedForMessages stored ⊆ hashedForMessages all := by
  rintro bytes ⟨m, hm, rfl⟩
  exact ⟨m, h hm, rfl⟩

/-- Messages with the same identifier were hashed from the same bytes, where the digests are distinct. -/
theorem hashedBytes_eq_of_id {stored : List StoredMessage} (hash : Set.InjOn Sha256.digest (hashedForMessages stored))
    (genuine : ∀ m ∈ stored, m.Identified) {m m' : StoredMessage} (hm : m ∈ stored) (hm' : m' ∈ stored)
    (same : m.header.id = m'.header.id) : m.hashedBytes = m'.hashedBytes := by
  have digest : Sha256.digest m.hashedBytes = Sha256.digest m'.hashedBytes := by
    simpa using (genuine m hm).symm.trans (same.trans (genuine m' hm'))
  exact hash ⟨m, hm, rfl⟩ ⟨m', hm', rfl⟩ digest

namespace Archive

variable {archive : Archive} {stored : List StoredMessage}

/-! ### Storing messages -/

theorem headers_store (archive : Archive) (m : StoredMessage) (group : GroupId) :
    (archive.store m).headers group =
      if group = m.header.groupId then archive.headers group ++ [m.header] else archive.headers group := by
  simp only [headers, store, Entries.get?_put]
  by_cases h : group = m.header.groupId
  · subst h
    simp
  · simp [h]

theorem text?_store (archive : Archive) (m : StoredMessage) (id : MessageId) :
    (archive.store m).text? id = if id = m.header.id then some m.text.text else archive.text? id := by
  simp only [text?, store, Entries.get?_put]

theorem headers_foldl_store (archive : Archive) (more : List StoredMessage) (group : GroupId) :
    (more.foldl store archive).headers group =
      archive.headers group ++ (more.map (·.header)).filter (·.groupId = group) := by
  induction more generalizing archive with
  | nil => simp
  | cons m rest ih =>
    rw [List.foldl_cons, ih, headers_store]
    by_cases h : group = m.header.groupId
    · simp [h]
    · simp [h, Ne.symm h]

theorem incoming_identified (group : GroupId) (time : Timestamp) (text : MessageText) :
    (incoming group time text).Identified := rfl

theorem outgoing_identified (message : OutgoingMessage) : (outgoing message).Identified := rfl

/-! ### All messages stored -/

/-- The archive holds these messages and no others: the headers of every group in the order of storing,
and under every identifier the text last stored. -/
structure Records (archive : Archive) (stored : List StoredMessage) : Prop where
  headers : ∀ group, archive.headers group = (stored.map (·.header)).filter (·.groupId = group)
  text? : ∀ id, archive.text? id = (stored.reverse.find? (·.header.id = id)).map (·.text.text)

theorem records_empty : Records empty [] where
  headers _ := rfl
  text? _ := rfl

namespace Records

theorem store (h : Records archive stored) (m : StoredMessage) : Records (archive.store m) (stored ++ [m]) where
  headers group := by
    rw [headers_store, h.headers, List.map_append, List.filter_append]
    by_cases hg : group = m.header.groupId
    · simp [hg]
    · simp [hg, Ne.symm hg]
  text? id := by
    rw [text?_store, h.text?, List.reverse_append, List.reverse_singleton, List.singleton_append, List.find?_cons]
    by_cases hid : id = m.header.id
    · simp [hid]
    · simp [hid, Ne.symm hid]

theorem foldl_store (h : Records archive stored) (more : List StoredMessage) :
    Records (more.foldl Archive.store archive) (stored ++ more) := by
  induction more generalizing archive stored with
  | nil => rwa [List.append_nil]
  | cons m rest ih =>
    rw [List.append_cons]
    exact ih (h.store m)

/-- An identifier under which nothing was stored has no text. -/
theorem text?_eq_none (h : Records archive stored) {id : MessageId} (hid : ∀ m ∈ stored, m.header.id ≠ id) :
    archive.text? id = none := by
  rw [h.text?, Option.map_eq_none_iff, List.find?_eq_none]
  intro m hm
  simpa using hid m (List.mem_reverse.mp hm)

/-- Every stored message has its own text, where the digests of the messages are distinct: a message with
the same identifier was hashed from the same bytes, which hold the text. -/
theorem text?_of_mem (h : Records archive stored) (genuine : ∀ m ∈ stored, m.Identified)
    (hash : Set.InjOn Sha256.digest (hashedForMessages stored)) {m : StoredMessage} (hm : m ∈ stored) :
    archive.text? m.header.id = some m.text.text := by
  have found : (stored.reverse.find? (·.header.id = m.header.id)).isSome := by
    rw [List.find?_isSome]
    exact ⟨m, List.mem_reverse.mpr hm, by simp⟩
  obtain ⟨other, ho⟩ := Option.isSome_iff_exists.mp found
  have member : other ∈ stored := List.mem_reverse.mp (List.mem_of_find?_eq_some ho)
  have id_eq : other.header.id = m.header.id := by simpa using List.find?_some ho
  have bytes_eq := hashedBytes_eq_of_id hash genuine member hm id_eq
  rw [h.text?, ho, Option.map_some, (MessageId.hashedBytes_inj bytes_eq).2.2]

theorem mem_headers (h : Records archive stored) {header : MessageHeader} {group : GroupId} :
    header ∈ archive.headers group ↔ (∃ m ∈ stored, m.header = header) ∧ header.groupId = group := by
  rw [h.headers, List.mem_filter, List.mem_map, decide_eq_true_eq]

end Records

/-- A text or the error that there is none. -/
theorem text_of_text? {id : MessageId} {content : String} (h : archive.text? id = some content) :
    archive.text id = .ok (some content) := by
  simp only [text, h]

theorem text_unknown {id : MessageId} (h : archive.text? id = none) :
    ∃ e, archive.text id = .error e ∧ e.code = .messageNotFound := by
  simp only [text, h]
  exact ⟨_, rfl, rfl⟩

end Archive

end PeerPost
