import Mathlib.Data.Sym.Sym2
import PeerPost.Proofs.Authors
import PeerPost.Proofs.Operations

/-! # Identifiers

Where the digests of what was hashed are distinct, an identifier stands for one author, one pair of authors or
one message. The group of two authors does not depend on which of them is the local one, so two nodes that are
contacts of each other agree on it, and on the identifiers of the messages between them. -/

namespace PeerPost

/-- What was hashed for the identifier of an author. -/
def Author.hashed (author : Author) : Bytes :=
  hashedBytes author.formatVersion author.name author.publicKey

/-- What was hashed for the group of a contact. -/
def Contact.hashed (contact : Contact) : Bytes :=
  groupHashedBytes contact.localAuthorId contact.author.id

theorem Author.id_of_create {name : String} {key : Bytes} {author : Author} (h : create name key = .ok author) :
    author.id.id = ⟨Sha256.digest author.hashed⟩ := by
  obtain ⟨-, -, rfl⟩ := create_eq_ok_iff.mp h
  rfl

theorem Contact.groupHashedBytes_comm (a b : AuthorId) : groupHashedBytes a b = groupHashedBytes b a := by
  rw [groupHashedBytes_eq, groupHashedBytes_eq]
  by_cases less : a.id.toBytes < b.id.toBytes
  · rw [if_pos less, if_neg (List.lt_asymm less)]
  · by_cases greater : b.id.toBytes < a.id.toBytes
    · rw [if_neg less, if_pos greater]
    · -- Neither comes before the other, so they are the same bytes.
      rw [if_neg less, if_neg greater, List.le_antisymm (List.not_lt.mp less) (List.not_lt.mp greater)]

/-- The group of two authors is that of the two in the other order. -/
theorem Contact.groupOf_comm (a b : AuthorId) : groupOf a b = groupOf b a := by
  rw [groupOf, groupHashedBytes_comm]
  rfl

section Hashed

variable {inputs : Set Bytes} (hash : Set.InjOn Sha256.digest inputs)
include hash

/-! ### Authors -/

theorem Author.id_eq_iff {name name' : String} {key key' : Bytes} {a b : Author}
    (ha : create name key = .ok a) (hb : create name' key' = .ok b) (ma : a.hashed ∈ inputs) (mb : b.hashed ∈ inputs) :
    a.id = b.id ↔ name = name' ∧ key = key' := by
  obtain ⟨named, -, rfl⟩ := create_eq_ok_iff.mp ha
  obtain ⟨named', -, rfl⟩ := create_eq_ok_iff.mp hb
  constructor
  · intro same
    have bytes := hash ma mb (congrArg (fun i : AuthorId => i.id.bytes) same)
    exact (hashedBytes_inj named.size_lt named'.size_lt bytes).2
  · rintro ⟨rfl, rfl⟩
    rfl

/-! ### Groups -/

theorem Contact.group_eq_iff {c d : Contact} (hc : c.hashed ∈ inputs) (hd : d.hashed ∈ inputs) :
    c.group = d.group ↔ s(c.localAuthorId, c.author.id) = s(d.localAuthorId, d.author.id) := by
  rw [Sym2.eq_iff]
  constructor
  · intro same
    exact groupHashedBytes_inj (hash hc hd (congrArg (fun g : GroupId => g.id.bytes) same))
  · rintro (⟨own, other⟩ | ⟨own, other⟩)
    · rw [group, group, own, other]
    · rw [group, group, own, other, groupOf_comm]

/-! ### Messages -/

theorem MessageId.derive_eq_iff {g g' : GroupId} {t t' : Timestamp} {text text' : String}
    (h : hashedBytes g t text ∈ inputs) (h' : hashedBytes g' t' text' ∈ inputs) :
    derive g t text = derive g' t' text' ↔ g = g' ∧ t = t' ∧ text = text' := by
  constructor
  · intro same
    exact hashedBytes_inj (hash h h' (congrArg (fun m : MessageId => m.id.bytes) same))
  · rintro ⟨rfl, rfl, rfl⟩
    rfl

end Hashed

/-! ### Nodes -/

theorem Node.perform_owner (node : Node) (command : Command) :
    (node.perform command).2.localAuthor = node.localAuthor ∧
      (node.perform command).2.contacts.localAuthorId = node.contacts.localAuthorId := by
  cases command with
  | receive id time text =>
    obtain ⟨archive, same⟩ := perform_receive_node node id time text
    rw [same]
    exact ⟨rfl, rfl⟩
  | send message => exact ⟨rfl, rfl⟩
  | add author entry =>
    cases h : node.contacts.add author entry with
    | error e =>
      rw [perform_add_error h]
      exact ⟨rfl, rfl⟩
    | ok added =>
      obtain ⟨-, -, _, -, -, book⟩ := AddressBook.add_inv h
      have owner : added.2.localAuthorId = node.contacts.localAuthorId := by rw [book]
      rw [perform_add_ok h]
      exact ⟨rfl, owner⟩
  | rename id alias? =>
    cases h : node.contacts.setAlias id alias? with
    | error e =>
      rw [perform_rename_error h]
      exact ⟨rfl, rfl⟩
    | ok book =>
      have owner : book.localAuthorId = node.contacts.localAuthorId := by
        rw [(AddressBook.setAlias_inv h).2]
      rw [perform_rename_ok h]
      exact ⟨rfl, owner⟩

/-- The contacts of a node are those of its local author. -/
theorem Reached.owner {node : Node} {stored : List StoredMessage} (h : Reached node stored) :
    node.contacts.localAuthorId = node.localAuthor.id := by
  induction h with
  | start author events => rfl
  | command before command ih =>
    obtain ⟨author, book⟩ := Node.perform_owner _ command
    rw [author, book, ih]
  | request before origins now request ih =>
    rw [Http.node_serve]
    exact ih
  | relay before events journals ih => exact ih

/-- Two nodes that are contacts of each other have the same group for their messages. -/
theorem group_eq_of_contacts {m n : Node} {sent received : List StoredMessage} (hm : Reached m sent)
    (hn : Reached n received) {c d : Contact} (hc : c ∈ m.contacts.contacts) (hd : d ∈ n.contacts.contacts)
    (there : c.author.id = n.localAuthor.id) (here : d.author.id = m.localAuthor.id) : c.group = d.group := by
  have own : c.localAuthorId = m.localAuthor.id := (hm.sound.ours c hc).trans hm.owner
  have other : d.localAuthorId = n.localAuthor.id := (hn.sound.ours d hd).trans hn.owner
  rw [Contact.group, Contact.group, own, there, other, here, Contact.groupOf_comm]

/-- Identifiers are unambiguous and symmetric, where the digests of what was hashed are distinct. Authors with the
same identifier have the same name and key. Contacts have the same group exactly if they have the same pair of
authors, in either order: two nodes that are contacts of each other have the same group, and no two contacts of
a node do. Messages with the same identifier have the same group, time and text, and a message has the same
identifier where it is sent and where it is received. And no identifier of an author is one of a group or of a
message, and none of a group is one of a message. -/
theorem identifiers_unambiguous (inputs : Set Bytes) (hash : Set.InjOn Sha256.digest inputs) :
    -- authors
    (∀ name key name' key', Author.ValidName name → Author.ValidKey key → Author.ValidName name' →
      Author.ValidKey key' → ∃ a b, Author.create name key = .ok a ∧ Author.create name' key' = .ok b ∧
        (a.hashed ∈ inputs → b.hashed ∈ inputs → (a.id = b.id ↔ name = name' ∧ key = key'))) ∧
    -- groups
    (∀ c d : Contact, c.hashed ∈ inputs → d.hashed ∈ inputs →
      (c.group = d.group ↔ s(c.localAuthorId, c.author.id) = s(d.localAuthorId, d.author.id))) ∧
    (∀ node stored, Reached node stored → hashedForGroups node.contacts.contacts ⊆ inputs →
      ∀ c ∈ node.contacts.contacts, ∀ d ∈ node.contacts.contacts, c ≠ d → c.group ≠ d.group) ∧
    -- messages
    (∀ g t text g' t' text', MessageId.hashedBytes g t text ∈ inputs → MessageId.hashedBytes g' t' text' ∈ inputs →
      (MessageId.derive g t text = MessageId.derive g' t' text' ↔ g = g' ∧ t = t' ∧ text = text')) ∧
    -- two nodes that are contacts of each other
    (∀ m n sent received, Reached m sent → Reached n received →
      ∀ c ∈ m.contacts.contacts, ∀ d ∈ n.contacts.contacts,
        c.author.id = n.localAuthor.id → d.author.id = m.localAuthor.id → c.group = d.group ∧
          ∀ time text, ∃ header next, n.receive d.id time text = .ok (header, next) ∧
            header.id = (m.send ⟨c.group, time, text⟩).1.id) ∧
    -- the three kinds
    (∀ name key a (c : Contact) g t text, Author.create name key = .ok a → a.hashed ∈ inputs → c.hashed ∈ inputs →
      MessageId.hashedBytes g t text ∈ inputs →
        a.id.id ≠ c.group.id ∧ a.id.id ≠ (MessageId.derive g t text).id ∧
          c.group.id ≠ (MessageId.derive g t text).id) := by
  refine ⟨?_, ?_, ?_, ?_, ?_, ?_⟩
  · intro name key name' key' named keyed named' keyed'
    have ha := Author.create_of_valid named keyed
    have hb := Author.create_of_valid named' keyed'
    exact ⟨_, _, ha, hb, Author.id_eq_iff hash ha hb⟩
  · intro c d hc hd
    exact Contact.group_eq_iff hash hc hd
  · intro node stored h within c hc d hd apart same
    exact apart (h.sound.eq_of_group (hash.mono within) hc hd same)
  · intro g t text g' t' text' h h'
    exact MessageId.derive_eq_iff hash h h'
  · intro m n sent received hm hn c hc d hd there here
    have groups := group_eq_of_contacts hm hn hc hd there here
    refine ⟨groups, fun time text => ?_⟩
    refine ⟨(n.archive.receive d.group time text).1, { n with archive := (n.archive.receive d.group time text).2 },
      ?_, ?_⟩
    · simp only [Node.receive, hn.sound.get_of_mem hd]
    · rw [groups]
      rfl
  · intro name key a c g t text created ha hc ht
    obtain ⟨hgroup, hmessage, hpair⟩ :=
      hashedBytes_apart a.formatVersion a.name a.publicKey c.localAuthorId c.author.id g t text
    have id := Author.id_of_create created
    refine ⟨fun same => hgroup (hash ha hc ?_), fun same => hmessage (hash ha ht ?_), fun same => hpair (hash hc ht ?_)⟩
    · exact congrArg UniqueId.bytes (id.symm.trans same)
    · exact congrArg UniqueId.bytes (id.symm.trans same)
    · exact congrArg UniqueId.bytes same

/-! The name of one author goes on with a byte of the key of another, and a text with one of another text. -/

theorem identifiers_unambiguous_of_shifted_key :
    ∃ a b, Author.create "A" [0x42, 0x43] = .ok a ∧ Author.create "AB" [0x43] = .ok b ∧ a.id ≠ b.id ∧
      let pair : Contact := ⟨.first, b, a.id, none, none, true⟩
      let sent := fun text => MessageId.derive pair.group ⟨-1⟩ text
      a.id.id ≠ pair.group.id ∧ pair.group.id ≠ (sent "A").id ∧ sent "A" ≠ sent "AB" := by
  let a : Author := ⟨Author.deriveId Author.currentVersion "A" [0x42, 0x43], Author.currentVersion, "A", [0x42, 0x43]⟩
  let b : Author := ⟨Author.deriveId Author.currentVersion "AB" [0x43], Author.currentVersion, "AB", [0x43]⟩
  let pair : Contact := ⟨.first, b, a.id, none, none, true⟩
  let inputs : List Bytes := [a.hashed, b.hashed, pair.hashed, MessageId.hashedBytes pair.group ⟨-1⟩ "A",
    MessageId.hashedBytes pair.group ⟨-1⟩ "AB"]
  have hash : Set.InjOn Sha256.digest {bytes | bytes ∈ inputs} := by
    have apart : ∀ x ∈ inputs, ∀ y ∈ inputs, Sha256.digest x = Sha256.digest y → x = y := by decide +kernel
    exact injOn_digest apart fun _ h => h
  obtain ⟨authors, -, -, messages, -, kinds⟩ := identifiers_unambiguous _ hash
  obtain ⟨a', b', ha, hb, same⟩ := authors "A" [0x42, 0x43] "AB" [0x43] (by decide) (by decide) (by decide) (by decide)
  have created : Author.create "A" [0x42, 0x43] = .ok a := Author.create_of_valid (by decide) (by decide)
  have created' : Author.create "AB" [0x43] = .ok b := Author.create_of_valid (by decide) (by decide)
  obtain rfl : a = a' := Except.ok.inj (created.symm.trans ha)
  obtain rfl : b = b' := Except.ok.inj (created'.symm.trans hb)
  have ma : a.hashed ∈ inputs := by simp [inputs]
  have mb : b.hashed ∈ inputs := by simp [inputs]
  have mpair : pair.hashed ∈ inputs := by simp [inputs]
  have first : MessageId.hashedBytes pair.group ⟨-1⟩ "A" ∈ inputs := by simp [inputs]
  have second : MessageId.hashedBytes pair.group ⟨-1⟩ "AB" ∈ inputs := by simp [inputs]
  obtain ⟨hgroup, -, hpair⟩ := kinds _ _ a pair pair.group ⟨-1⟩ "A" ha ma mpair first
  refine ⟨a, b, ha, hb, ?_, hgroup, hpair, ?_⟩
  · intro e
    exact absurd ((same ma mb).mp e).1 (by decide)
  · intro e
    exact absurd ((messages pair.group ⟨-1⟩ "A" pair.group ⟨-1⟩ "AB" first second).mp e).2.2 (by decide)

end PeerPost
