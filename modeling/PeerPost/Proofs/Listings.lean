import PeerPost.Proofs.Dialogues
import PeerPost.Proofs.Times

/-! # What the listings give

Held with a node, the listing of contacts gives every contact with the latest time of its conversation, and
the listing of a conversation gives its headers in the order of their times with their texts. A message that
is not before any other stands last. -/

namespace PeerPost

/-! ### Sorting -/

/-- Two splits of a list into elements that satisfy a condition and elements that do not are the same. -/
theorem split_unique {α : Type} {p : α → Bool} {a b c d : List α} (h : a ++ b = c ++ d) (ha : ∀ x ∈ a, p x = true)
    (hb : ∀ x ∈ b, p x = false) (hc : ∀ x ∈ c, p x = true) (hd : ∀ x ∈ d, p x = false) : a = c ∧ b = d := by
  have none {l : List α} (hl : ∀ x ∈ l, p x = false) : l.filter p = [] :=
    List.filter_eq_nil_iff.mpr fun x hx => by simp [hl x hx]
  have same := congrArg (List.filter p) h
  rw [List.filter_append, List.filter_append, List.filter_eq_self.mpr ha, List.filter_eq_self.mpr hc, none hb, none hd,
    List.append_nil, List.append_nil] at same
  exact ⟨same, List.append_cancel_left (same ▸ h)⟩

/-- An element that no other comes after is sorted to the end, if it stood last. -/
theorem mergeSort_concat {α : Type} {le : α → α → Bool} (trans : ∀ a b c, le a b → le b c → le a c)
    (total : ∀ a b, le a b || le b a) {l : List α} {last : α} (h : ∀ a ∈ l, le a last = true) :
    (l ++ [last]).mergeSort le = l.mergeSort le ++ [last] := by
  induction l with
  | nil => simp
  | cons a l ih =>
    have tail := ih fun b hb => h b (List.mem_cons_of_mem _ hb)
    -- Both sorted lists are split where `a` stands: it is not after what follows it, but after what precedes it.
    obtain ⟨low, high, hs, ht, hl⟩ := List.mergeSort_cons trans total a l
    obtain ⟨low', high', hs', ht', hl'⟩ := List.mergeSort_cons trans total a (l ++ [last])
    have follows {rest low high : List α} (e : (a :: rest).mergeSort le = low ++ a :: high) :
        ∀ b ∈ high, (!le a b) = false := by
      have sorted := List.pairwise_mergeSort trans total (a :: rest)
      rw [e, List.pairwise_append] at sorted
      intro b hb
      rw [List.rel_of_pairwise_cons sorted.2.1 hb]
      rfl
    have same : low' ++ high' = low ++ (high ++ [last]) := by
      rw [← ht', tail, ht, List.append_assoc]
    obtain ⟨rfl, rfl⟩ := split_unique same hl' (follows hs') hl (by
      intro b hb
      rcases List.mem_append.mp hb with hb | hb
      · exact follows hs b hb
      · rw [List.mem_singleton.mp hb, h a List.mem_cons_self]
        rfl)
    rw [List.cons_append, hs', hs, List.append_assoc]
    rfl

namespace Listing

theorem notAfter_trans (a b c : MessageHeader) (hab : a.timestamp.notAfter b.timestamp = true)
    (hbc : b.timestamp.notAfter c.timestamp = true) : a.timestamp.notAfter c.timestamp = true := by
  rw [Timestamp.notAfter_iff] at hab hbc ⊢
  exact le_trans hab hbc

theorem notAfter_total (a b : MessageHeader) :
    (a.timestamp.notAfter b.timestamp || b.timestamp.notAfter a.timestamp) = true := by
  rw [Bool.or_eq_true, Timestamp.notAfter_iff, Timestamp.notAfter_iff]
  exact le_total _ _

theorem inOrder_concat {headers : List MessageHeader} {last : MessageHeader}
    (h : ∀ header ∈ headers, header.timestamp ≤ last.timestamp) :
    inOrder (headers ++ [last]) = inOrder headers ++ [last] := by
  refine mergeSort_concat notAfter_trans notAfter_total fun header hh => ?_
  rw [Timestamp.notAfter_iff]
  exact h header hh

theorem sorted_inOrder (headers : List MessageHeader) :
    (inOrder headers).Pairwise fun a b => a.timestamp ≤ b.timestamp := by
  refine (List.pairwise_mergeSort notAfter_trans notAfter_total headers).imp fun ordered => ?_
  rwa [Timestamp.notAfter_iff] at ordered

theorem mem_inOrder {headers : List MessageHeader} {header : MessageHeader} :
    header ∈ inOrder headers ↔ header ∈ headers :=
  List.mem_mergeSort

end Listing

namespace Node

variable {node : Node} {now : Timestamp}

/-- A header with the text that the archive has for it. -/
def loaded (node : Node) (header : MessageHeader) : LoadedMessage :=
  ⟨header, node.archive.text? header.id⟩

theorem hold_loadTexts {headers : List MessageHeader}
    (h : ∀ header ∈ headers, ∃ text, node.archive.text? header.id = some text) (now : Timestamp) (id : ContactId)
    (done : List LoadedMessage) : node.hold now (Listing.loadTexts id headers done) =
      (.ok ⟨id, done.reverse ++ headers.map node.loaded⟩, node) := by
  induction headers generalizing done with
  | nil =>
    rw [List.map_nil, List.append_nil]
    rfl
  | cons header rest ih =>
    obtain ⟨text, ht⟩ := h header List.mem_cons_self
    have answered : node.hold now (Listing.loadTexts id (header :: rest) done) =
        node.hold now (Listing.loadTexts id rest (⟨header, some text⟩ :: done)) := by
      simp only [hold, Listing.loadTexts, Dialogue.run, answer, Archive.text_of_text? ht]
    rw [answered, ih fun other ho => h other (List.mem_cons_of_mem _ ho), List.reverse_cons, List.append_assoc,
      List.map_cons, loaded, ht]
    rfl

theorem hold_messages_unknown {id : ContactId} (h : node.contacts.find? id = none) (now : Timestamp) :
    node.hold now (Listing.messages id) = (.error (.contactNotFound id), node) := by
  simp only [hold, Listing.messages, Dialogue.run, answer, AddressBook.get_unknown h]
  rfl

/-- The listing of a conversation whose messages all have their texts. -/
theorem hold_messages {id : ContactId} {contact : Contact} (h : node.contacts.find? id = some contact)
    (texts : ∀ header ∈ node.archive.headers contact.group, ∃ text, node.archive.text? header.id = some text)
    (now : Timestamp) : node.hold now (Listing.messages id) =
      (.ok ⟨id, (Listing.inOrder (node.archive.headers contact.group)).map node.loaded⟩, node) := by
  obtain ⟨-, rfl⟩ := AddressBook.find?_inv h
  have held : node.hold now (Listing.messages contact.id) =
      node.hold now (Listing.loadTexts contact.id (Listing.inOrder (node.archive.headers contact.group)) []) := by
    simp only [hold, Listing.messages, Dialogue.run, answer, AddressBook.get_of_find? h, headers_of_find? h]
  rw [held, hold_loadTexts fun header hh => texts header (Listing.mem_inOrder.mp hh)]
  rfl

theorem hold_activities {contacts : List Contact} (h : ∀ c ∈ contacts, node.contacts.find? c.id = some c)
    (now : Timestamp) (found : List ContactActivity) : node.hold now (Listing.activities contacts found) =
      (.ok (found.reverse ++ contacts.map fun c => ⟨c, (node.archive.count c.group).latest⟩), node) := by
  induction contacts generalizing found with
  | nil =>
    rw [List.map_nil, List.append_nil]
    rfl
  | cons contact rest ih =>
    have count := count_of_find? (h contact List.mem_cons_self)
    have answered : node.hold now (Listing.activities (contact :: rest) found) =
        node.hold now (Listing.activities rest (⟨contact, (node.archive.count contact.group).latest⟩ :: found)) := by
      simp only [hold, Listing.activities, Dialogue.run, answer, count]
    rw [answered, ih fun other ho => h other (List.mem_cons_of_mem _ ho), List.reverse_cons, List.append_assoc]
    rfl

/-- The listing of the contacts of a sound address book. -/
theorem hold_contacts (h : node.contacts.Sound) (now : Timestamp) : node.hold now Listing.contacts =
    (.ok (node.contacts.contacts.map fun c => ⟨c, (node.archive.count c.group).latest⟩), node) := by
  exact hold_activities (fun c hc => h.find?_of_mem hc) now []

end Node

end PeerPost
