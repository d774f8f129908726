import Mathlib.Data.List.Nodup
import Mathlib.Data.List.Range
import PeerPost.Contact.AddressBook

/-! # The address book over its whole life

`Sound` is what every address book satisfies that was filled by adding contacts and changing aliases: the
numbers are 1, 2, … in the order of admission, the authors are distinct, and none of them is the local
author. `Continues` is what such changes keep of a contact: everything but its alias. -/

namespace PeerPost

theorem ContactId.value_injective {a b : ContactId} (same : a.value = b.value) : a = b := by
  obtain ⟨a, _, _⟩ := a
  obtain ⟨b, _, _⟩ := b
  cases same
  rfl

namespace AddressBook

variable {book next : AddressBook} {author : Author} {entry : Entry} {id : ContactId} {contact : Contact}

/-! ### Looking up -/

theorem find?_inv (h : book.find? id = some contact) : contact ∈ book.contacts ∧ contact.id = id :=
  ⟨List.mem_of_find?_eq_some h, by simpa using List.find?_some h⟩

theorem get_eq_ok_iff : book.get id = .ok contact ↔ book.find? id = some contact := by
  unfold get
  cases book.find? id with
  | none => simp
  | some other => simp

theorem get_of_find? (h : book.find? id = some contact) : book.get id = .ok contact := get_eq_ok_iff.mpr h

theorem get_unknown (h : book.find? id = none) : book.get id = .error (unknown id) := by
  simp only [get, h]

/-! ### Adding and renaming -/

/-- What an accepted addition found and did. -/
theorem add_inv {event : ContactAdded} (h : book.add author entry = .ok (event, next)) :
    author.id ≠ book.localAuthorId ∧ (∀ c ∈ book.contacts, c.author.id ≠ author.id) ∧
      ∃ id, book.nextId = some id ∧ event = ⟨id, entry.verified⟩ ∧
        next = { book with
          contacts := book.contacts ++
            [⟨id, author, book.localAuthorId, entry.alias?, entry.handshakeKey?, entry.verified⟩]
          nextId := id.next? } := by
  unfold add at h
  split at h
  · cases h
  · next hlocal =>
    split at h
    · cases h
    · next hknown =>
      have strange : ∀ c ∈ book.contacts, c.author.id ≠ author.id := by
        intro c hc he
        exact hknown (List.any_eq_true.mpr ⟨c, hc, by simpa using he⟩)
      split at h
      · cases h
      · next id hid =>
        cases h
        exact ⟨hlocal, strange, id, hid, rfl, rfl⟩

/-- What an accepted change of an alias found and did. -/
theorem setAlias_inv {alias? : Option String} (h : book.setAlias id alias? = .ok next) :
    (∃ contact, book.find? id = some contact) ∧
      next = { book with
        contacts := book.contacts.map fun c => if c.id = id then { c with alias? := alias? } else c } := by
  unfold setAlias at h
  split at h
  · cases h
  · next contact hc =>
    cases h
    exact ⟨⟨contact, hc⟩, rfl⟩

/-- An addition is refused as invalid exactly for the local author and for an author that is already there. -/
theorem add_invalid_iff (book : AddressBook) (author : Author) (entry : Entry) :
    (∃ e, book.add author entry = .error e ∧ e.code = .validationFailed) ↔
      author.id = book.localAuthorId ∨ ∃ c ∈ book.contacts, c.author.id = author.id := by
  have knows : book.knows author.id = true ↔ ∃ c ∈ book.contacts, c.author.id = author.id := by
    simp only [AddressBook.knows, List.any_eq_true, decide_eq_true_eq]
  rw [← knows]
  unfold add
  split
  · next own => exact ⟨fun _ => Or.inl own, fun _ => ⟨_, rfl, rfl⟩⟩
  · next other =>
    split
    · next known => exact ⟨fun _ => Or.inr known, fun _ => ⟨_, rfl, rfl⟩⟩
    · next strange =>
      refine ⟨?_, fun h => absurd h (not_or.mpr ⟨other, strange⟩)⟩
      rintro ⟨e, he, code⟩
      -- The only other refusal is that of a book without a next number, which has another code.
      split at he
      · cases he
        cases code
      · cases he

theorem add_of_next (hid : book.nextId = some id) (other : author.id ≠ book.localAuthorId)
    (strange : ∀ c ∈ book.contacts, c.author.id ≠ author.id) (entry : Entry) :
    ∃ next, book.add author entry = .ok (⟨id, entry.verified⟩, next) := by
  have unknown : book.knows author.id = false := by
    simpa [AddressBook.knows] using strange
  simp only [add, other, unknown, hid, if_false, Bool.false_eq_true]
  exact ⟨_, rfl⟩

theorem setAlias_unknown (h : book.find? id = none) (alias? : Option String) :
    ∃ e, book.setAlias id alias? = .error e ∧ e.code = .contactNotFound := by
  simp only [setAlias, h]
  exact ⟨_, rfl, rfl⟩

theorem setAlias_of_find? (h : book.find? id = some contact) (alias? : Option String) :
    ∃ next, book.setAlias id alias? = .ok next := by
  simp only [setAlias, h]
  exact ⟨_, rfl⟩

/-- A change of contacts that keeps their numbers can be made after looking one of them up. -/
theorem find?_map {change : Contact → Contact} (number : ∀ c, (change c).id = c.id) (other : ContactId) :
    find? { book with contacts := book.contacts.map change } other = (book.find? other).map change := by
  have same : (fun c : Contact => decide (c.id = other)) ∘ change = fun c => decide (c.id = other) := by
    funext c
    rw [Function.comp_apply, number]
  unfold find?
  rw [List.find?_map, same]

theorem find?_setAlias {alias? : Option String} (h : book.setAlias id alias? = .ok next) (other : ContactId) :
    next.find? other =
      (book.find? other).map fun c => if c.id = id then { c with alias? := alias? } else c := by
  obtain ⟨-, rfl⟩ := setAlias_inv h
  exact find?_map (fun c => by split <;> rfl) other

/-! ### What every address book satisfies -/

/-- The number that is given out after `count` others, as long as there is one. -/
def numberAfter (count : Nat) : Option Nat :=
  if count < ContactId.greatest then some (count + 1) else none

/-- What every address book satisfies that was filled by adding contacts and changing aliases. -/
structure Sound (book : AddressBook) : Prop where
  numbers : (book.contacts.map fun c => c.id.value) = List.range' 1 book.contacts.length
  authors : (book.contacts.map fun c => c.author.id).Nodup
  strangers : ∀ c ∈ book.contacts, c.author.id ≠ book.localAuthorId
  ours : ∀ c ∈ book.contacts, c.localAuthorId = book.localAuthorId
  following : book.nextId.map (·.value) = numberAfter book.contacts.length

theorem sound_empty (owner : AuthorId) : Sound (empty owner) where
  numbers := rfl
  authors := List.nodup_nil
  strangers := fun _ h => nomatch h
  ours := fun _ h => nomatch h
  following := rfl

theorem next?_value (id : ContactId) : id.next?.map (·.value) = numberAfter id.value := by
  unfold ContactId.next? numberAfter ContactId.greatest
  split <;> rfl

namespace Sound

/-- The number given out next is the one after all that were given out before. -/
theorem value_next (h : Sound book) (hid : book.nextId = some id) : id.value = book.contacts.length + 1 := by
  have hf := h.following
  rw [hid, numberAfter] at hf
  split at hf
  · exact Option.some.inj hf
  · cases hf

theorem nextId_eq (h : Sound book) (number : id.value = book.contacts.length + 1) : book.nextId = some id := by
  have most := id.le_greatest
  have room : book.contacts.length < ContactId.greatest := by
    rw [ContactId.greatest]
    omega
  have next := h.following
  rw [numberAfter, if_pos room, Option.map_eq_some_iff] at next
  obtain ⟨other, same, value⟩ := next
  rw [same, ContactId.value_injective (value.trans number.symm)]

theorem nextId_none (h : Sound book) (full : ContactId.greatest ≤ book.contacts.length) : book.nextId = none := by
  have next := h.following
  rwa [numberAfter, if_neg (Nat.not_lt.mpr full), Option.map_eq_none_iff] at next

theorem find?_next (h : Sound book) (hid : book.nextId = some id) : book.find? id = none := by
  unfold AddressBook.find?
  rw [List.find?_eq_none]
  intro c hc same
  have number : c.id.value ∈ List.range' 1 book.contacts.length := by
    rw [← h.numbers]
    exact List.mem_map_of_mem hc
  have next := h.value_next hid
  rw [decide_eq_true_eq] at same
  rw [same, List.mem_range'_1] at number
  omega

theorem add {event : ContactAdded} (h : Sound book) (ha : book.add author entry = .ok (event, next)) :
    Sound next := by
  obtain ⟨hlocal, strange, id, hid, -, rfl⟩ := add_inv ha
  have number := h.value_next hid
  refine ⟨?_, ?_, ?_, ?_, ?_⟩
  · rw [List.map_append, h.numbers, List.length_append, List.length_singleton, List.range'_concat]
    simp [number, Nat.add_comm]
  · rw [List.map_append]
    refine h.authors.append (List.nodup_singleton _) ?_
    intro a ha ha'
    obtain ⟨c, hc, rfl⟩ := List.mem_map.mp ha
    exact strange c hc (List.mem_singleton.mp ha')
  · intro c hc
    rcases List.mem_append.mp hc with hc | hc
    · exact h.strangers c hc
    · rw [List.mem_singleton.mp hc]
      exact hlocal
  · intro c hc
    rcases List.mem_append.mp hc with hc | hc
    · exact h.ours c hc
    · rw [List.mem_singleton.mp hc]
  · show id.next?.map (·.value) = _
    rw [next?_value, List.length_append, List.length_singleton, number]

/-- A change of contacts that keeps their numbers and authors keeps the book sound. -/
theorem of_map (h : Sound book) {change : Contact → Contact} (number : ∀ c, (change c).id = c.id)
    (person : ∀ c, (change c).author = c.author) (owner : ∀ c, (change c).localAuthorId = c.localAuthorId) :
    Sound { book with contacts := book.contacts.map change } := by
  refine ⟨?_, ?_, ?_, ?_, ?_⟩
  · simpa [Function.comp_def, number] using h.numbers
  · simpa [Function.comp_def, person] using h.authors
  · intro c' hc'
    obtain ⟨c, hc, rfl⟩ := List.mem_map.mp hc'
    rw [person]
    exact h.strangers c hc
  · intro c' hc'
    obtain ⟨c, hc, rfl⟩ := List.mem_map.mp hc'
    rw [owner]
    exact h.ours c hc
  · rw [List.length_map]
    exact h.following

theorem setAlias {alias? : Option String} (h : Sound book) (hs : book.setAlias id alias? = .ok next) :
    Sound next := by
  obtain ⟨-, rfl⟩ := setAlias_inv hs
  refine h.of_map ?_ ?_ ?_ <;> intro c <;> split <;> rfl

/-- No two contacts have the same number. -/
theorem eq_of_id (h : Sound book) {c d : Contact} (hc : c ∈ book.contacts) (hd : d ∈ book.contacts)
    (he : c.id = d.id) : c = d := by
  have distinct : (book.contacts.map fun c => c.id.value).Nodup := by
    rw [h.numbers]
    exact List.nodup_range'
  exact List.inj_on_of_nodup_map distinct hc hd (congrArg ContactId.value he)

/-- No two contacts have the same author. -/
theorem eq_of_author (h : Sound book) {c d : Contact} (hc : c ∈ book.contacts) (hd : d ∈ book.contacts)
    (he : c.author.id = d.author.id) : c = d :=
  List.inj_on_of_nodup_map h.authors hc hd he

/-- Every contact is found under its number. -/
theorem find?_of_mem (h : Sound book) (hc : contact ∈ book.contacts) : book.find? contact.id = some contact := by
  have found : (book.find? contact.id).isSome := by
    unfold AddressBook.find?
    rw [List.find?_isSome]
    exact ⟨contact, hc, by simp⟩
  obtain ⟨other, ho⟩ := Option.isSome_iff_exists.mp found
  obtain ⟨hm, he⟩ := find?_inv ho
  rw [ho, h.eq_of_id hm hc he]

theorem get_of_mem (h : Sound book) (hc : contact ∈ book.contacts) : book.get contact.id = .ok contact :=
  get_of_find? (h.find?_of_mem hc)

end Sound

/-! ### What stays of a contact -/

/-- Every contact that was found is still found, and at most its alias has changed. -/
def Continues (book next : AddressBook) : Prop :=
  ∀ id contact, book.find? id = some contact → ∃ alias?, next.find? id = some { contact with alias? := alias? }

namespace Continues

theorem refl (book : AddressBook) : Continues book book := fun _ contact h => ⟨contact.alias?, h⟩

theorem trans {last : AddressBook} (h₁ : Continues book next) (h₂ : Continues next last) : Continues book last := by
  intro id contact h
  obtain ⟨a, ha⟩ := h₁ id contact h
  obtain ⟨b, hb⟩ := h₂ id _ ha
  exact ⟨b, hb⟩

theorem add {event : ContactAdded} (ha : book.add author entry = .ok (event, next)) : Continues book next := by
  obtain ⟨-, -, _, -, -, rfl⟩ := add_inv ha
  intro id contact h
  refine ⟨contact.alias?, ?_⟩
  unfold find? at h ⊢
  rw [List.find?_append, h, Option.some_or]

theorem setAlias {alias? : Option String} {target : ContactId} (hs : book.setAlias target alias? = .ok next) :
    Continues book next := by
  intro id contact h
  rw [find?_setAlias hs, h, Option.map_some]
  split
  · exact ⟨alias?, rfl⟩
  · exact ⟨contact.alias?, rfl⟩

/-- A contact that is still found has the group that it had. -/
theorem group (h : Continues book next) (hc : book.find? id = some contact) :
    ∃ found, next.find? id = some found ∧ found.group = contact.group := by
  obtain ⟨alias?, ha⟩ := h id contact hc
  exact ⟨_, ha, rfl⟩

end Continues

end AddressBook

end PeerPost
