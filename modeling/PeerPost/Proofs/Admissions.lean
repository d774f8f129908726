import PeerPost.Proofs.Operations

/-! # The contacts that were admitted

The contacts of a node are those that its history admitted, in the order of admission and under the numbers
1, 2, …; each has the alias that it was last given. `Reflects` says this of an address book and a history, and
every operation keeps it. -/

namespace PeerPost

/-- The aliases that were set or cleared in the course of a history, with their contacts. -/
def renamingsIn (history : List Occurrence) : List (ContactId × Option String) :=
  history.filterMap Occurrence.renaming?

theorem renamingsIn_concat (history : List Occurrence) (o : Occurrence) :
    renamingsIn (history ++ [o]) = renamingsIn history ++ o.renaming?.toList := by
  cases h : o.renaming? <;> simp [renamingsIn, h]

/-- The alias of an admitted contact: the last one given to it, or the one that it was admitted with. -/
def Admission.aliasAfter? (a : Admission) (renamings : List (ContactId × Option String)) : Option String :=
  ((renamings.reverse.find? (·.1 = a.event.contactId)).map Prod.snd).getD a.entry.alias?

/-- The contact of an admission, with its alias after a history. -/
def Admission.contact (a : Admission) (owner : AuthorId) (history : List Occurrence) : Contact :=
  ⟨a.event.contactId, a.author, owner, a.aliasAfter? (renamingsIn history), a.entry.handshakeKey?, a.entry.verified⟩

section Aliases

variable (a : Admission) (renamings : List (ContactId × Option String))

theorem Admission.aliasAfter?_concat (id : ContactId) (alias? : Option String) :
    a.aliasAfter? (renamings ++ [(id, alias?)]) =
      if a.event.contactId = id then alias? else a.aliasAfter? renamings := by
  unfold aliasAfter?
  rw [List.reverse_append, List.reverse_singleton, List.singleton_append, List.find?_cons]
  by_cases h : a.event.contactId = id
  · simp [h]
  · simp [h, Ne.symm h]

theorem Admission.aliasAfter?_of_unnamed (h : ∀ r ∈ renamings, r.1 ≠ a.event.contactId) :
    a.aliasAfter? renamings = a.entry.alias? := by
  have none : renamings.reverse.find? (·.1 = a.event.contactId) = none := by
    rw [List.find?_eq_none]
    intro r hr
    simpa using h r (List.mem_reverse.mp hr)
  rw [aliasAfter?, none, Option.map_none, Option.getD_none]

end Aliases

namespace AddressBook

/-- The contacts of an address book are those that a history admitted. -/
structure Reflects (book : AddressBook) (history : List Occurrence) : Prop where
  sound : book.Sound
  contacts : book.contacts = (admissionsIn history).map fun a => a.contact book.localAuthorId history
  verified : ∀ a ∈ admissionsIn history, a.event.verified = a.entry.verified
  named : ∀ r ∈ renamingsIn history, (book.find? r.1).isSome

theorem reflects_empty (owner : AuthorId) : Reflects (empty owner) [] where
  sound := sound_empty owner
  contacts := rfl
  verified := fun _ h => nomatch h
  named := fun _ h => nomatch h

namespace Reflects

variable {book next : AddressBook} {history : List Occurrence} {o : Occurrence} {a : Admission} {id : ContactId}
  {alias? : Option String}

theorem add (h : Reflects book history) (admitted : o.admission? = some a) (unnamed : o.renaming? = none)
    (accepted : book.add a.author a.entry = .ok (a.event, next)) : Reflects next (history ++ [o]) := by
  have admissions : admissionsIn (history ++ [o]) = admissionsIn history ++ [a] := by
    rw [admissionsIn_concat, admitted, Option.toList_some]
  have renamings : renamingsIn (history ++ [o]) = renamingsIn history := by
    rw [renamingsIn_concat, unnamed, Option.toList_none, List.append_nil]
  have continues := Continues.add accepted
  obtain ⟨-, -, id, hid, event, rfl⟩ := add_inv accepted
  refine ⟨h.sound.add accepted, ?_, ?_, ?_⟩
  · -- Nobody could give the new contact an alias before it was there.
    have first : a.aliasAfter? (renamingsIn history) = a.entry.alias? := by
      refine a.aliasAfter?_of_unnamed _ fun r hr same => ?_
      have known := h.named r hr
      rw [same, event, h.sound.find?_next hid] at known
      cases known
    rw [admissions, List.map_append, h.contacts]
    simp only [Admission.contact, renamings, first, List.map_cons, List.map_nil, event]
  · rw [admissions]
    intro b hb
    rcases List.mem_append.mp hb with hb | hb
    · exact h.verified b hb
    · rw [List.mem_singleton.mp hb, event]
  · rw [renamings]
    intro r hr
    obtain ⟨contact, hc⟩ := Option.isSome_iff_exists.mp (h.named r hr)
    obtain ⟨_, found⟩ := continues r.1 contact hc
    rw [found]
    rfl

theorem setAlias (h : Reflects book history) (quiet : o.admission? = none) (named : o.renaming? = some (id, alias?))
    (accepted : book.setAlias id alias? = .ok next) : Reflects next (history ++ [o]) := by
  have admissions : admissionsIn (history ++ [o]) = admissionsIn history := by
    rw [admissionsIn_concat, quiet, Option.toList_none, List.append_nil]
  have renamings : renamingsIn (history ++ [o]) = renamingsIn history ++ [(id, alias?)] := by
    rw [renamingsIn_concat, named, Option.toList_some]
  have continues := Continues.setAlias accepted
  have kept {target : ContactId} (known : (book.find? target).isSome) : (next.find? target).isSome := by
    obtain ⟨contact, hc⟩ := Option.isSome_iff_exists.mp known
    obtain ⟨_, found⟩ := continues target contact hc
    rw [found]
    rfl
  refine ⟨h.sound.setAlias accepted, ?_, ?_, ?_⟩
  · obtain ⟨-, rfl⟩ := setAlias_inv accepted
    rw [admissions, h.contacts, List.map_map]
    refine List.map_congr_left fun b _ => ?_
    simp only [Function.comp_apply, Admission.contact, renamings, Admission.aliasAfter?_concat]
    split <;> rfl
  · rw [admissions]
    exact h.verified
  · rw [renamings]
    intro r hr
    rcases List.mem_append.mp hr with hr | hr
    · exact kept (h.named r hr)
    · obtain ⟨⟨contact, hc⟩, -⟩ := setAlias_inv accepted
      rw [List.mem_singleton.mp hr]
      exact kept (Option.isSome_iff_exists.mpr ⟨contact, hc⟩)

theorem keep (h : Reflects book history) (quiet : o.admission? = none) (unnamed : o.renaming? = none) :
    Reflects book (history ++ [o]) := by
  have admissions : admissionsIn (history ++ [o]) = admissionsIn history := by
    rw [admissionsIn_concat, quiet, Option.toList_none, List.append_nil]
  have renamings : renamingsIn (history ++ [o]) = renamingsIn history := by
    rw [renamingsIn_concat, unnamed, Option.toList_none, List.append_nil]
  refine ⟨h.sound, ?_, admissions ▸ h.verified, renamings ▸ h.named⟩
  simp only [h.contacts, admissions, Admission.contact, renamings]

theorem changes (h : Reflects o.node.contacts history) (hc : o.Changes next) : Reflects next (history ++ [o]) := by
  cases hc with
  | added a admitted unnamed accepted => exact h.add admitted unnamed accepted
  | renamed id alias? quiet named accepted => exact h.setAlias quiet named accepted
  | kept quiet unnamed same => exact same ▸ h.keep quiet unnamed

theorem length_eq (h : Reflects book history) : book.contacts.length = (admissionsIn history).length := by
  rw [h.contacts, List.length_map]

end Reflects

end AddressBook

namespace Node

theorem reflects_run (author : Author) (events : Channel) (operations : List Operation) :
    ((start author events).operateAll operations).2.contacts.Reflects
      ((start author events).operateAll operations).1 := by
  refine operateAll_run (fun past node => node.contacts.Reflects past) ?_ (AddressBook.reflects_empty author.id)
  intro operation _ past node h
  exact h.changes (node.changes_operate operation)

theorem localAuthorId_run (author : Author) (events : Channel) (operations : List Operation) :
    ((start author events).operateAll operations).2.contacts.localAuthorId = author.id := by
  refine operateAll_run (fun _ node => node.contacts.localAuthorId = author.id) ?_ rfl
  intro operation _ past node h
  cases node.changes_operate operation with
  | added a _ _ accepted =>
    obtain ⟨-, -, _, -, -, eq⟩ := AddressBook.add_inv accepted
    rw [eq]
    exact h
  | renamed id alias? _ _ accepted =>
    rw [(AddressBook.setAlias_inv accepted).2]
    exact h
  | kept _ _ same =>
    rw [same]
    exact h

/-! ### What is answered to additions and renamings -/

variable {node : Node}

/-- A refused addition changes nothing, and it is refused as invalid exactly for the local author and for
authors that are contacts already. -/
theorem perform_add_refused (node : Node) (newcomer : Author) (entry : AddressBook.Entry) :
    ((∃ e, (node.perform (.add newcomer entry)).1 = .refused e ∧ e.code = .validationFailed) ↔
        newcomer.id = node.contacts.localAuthorId ∨ ∃ c ∈ node.contacts.contacts, c.author.id = newcomer.id) ∧
      ∀ e, (node.perform (.add newcomer entry)).1 = .refused e → (node.perform (.add newcomer entry)).2 = node := by
  rw [← AddressBook.add_invalid_iff node.contacts newcomer entry]
  cases h : node.contacts.add newcomer entry with
  | error e =>
    rw [perform_add_error h]
    refine ⟨⟨?_, ?_⟩, fun _ _ => rfl⟩
    · rintro ⟨_, ⟨⟩, code⟩
      exact ⟨e, rfl, code⟩
    · rintro ⟨_, ⟨⟩, code⟩
      exact ⟨e, rfl, code⟩
  | ok added =>
    rw [perform_add_ok h]
    refine ⟨⟨?_, ?_⟩, fun _ h => nomatch h⟩
    · rintro ⟨_, ⟨⟩, -⟩
    · rintro ⟨_, ⟨⟩, -⟩

theorem perform_rename_unknown {id : ContactId} (h : node.contacts.find? id = none) (alias? : Option String) :
    ∃ e, node.perform (.rename id alias?) = (.refused e, node) ∧ e.code = .contactNotFound := by
  obtain ⟨e, he, code⟩ := AddressBook.setAlias_unknown h alias?
  exact ⟨e, perform_rename_error he, code⟩

theorem perform_rename_known {id : ContactId} {contact : Contact} (h : node.contacts.find? id = some contact)
    (alias? : Option String) : ∃ book,
      node.perform (.rename id alias?) = (.renamed, { node with contacts := book }) ∧
        book.find? id = some { contact with alias? := alias? } ∧
        (∀ other, other ≠ id → book.find? other = node.contacts.find? other) ∧
        book.contacts.map (·.id) = node.contacts.contacts.map (·.id) ∧
        book.localAuthorId = node.contacts.localAuthorId ∧ book.nextId = node.contacts.nextId := by
  obtain ⟨book, hb⟩ := AddressBook.setAlias_of_find? h alias?
  have looked := AddressBook.find?_setAlias hb
  obtain ⟨-, eq⟩ := AddressBook.setAlias_inv hb
  obtain ⟨-, number⟩ := AddressBook.find?_inv h
  refine ⟨book, perform_rename_ok hb, ?_, ?_, ?_, by rw [eq], by rw [eq]⟩
  · rw [looked, h, Option.map_some, if_pos number]
  · intro other ho
    rw [looked]
    cases hf : node.contacts.find? other with
    | none => rfl
    | some c =>
      obtain ⟨-, rfl⟩ := AddressBook.find?_inv hf
      rw [Option.map_some, if_neg ho]
  · rw [eq, List.map_map]
    refine List.map_congr_left fun c _ => ?_
    rw [Function.comp_apply]
    split <;> rfl

/-- The contacts after any run of operations on a new node. They stand in the order of their admission under
the numbers 1, 2, …, each as it was admitted and with the alias it was last given; their authors are distinct,
and none of them is the local author. The next one gets the number after these. An addition is refused as
invalid exactly for the local author and for authors that are there, and then nothing changes. A renaming
changes the alias of its contact and nothing else, and without such a contact it is refused and changes
nothing. -/
theorem contacts_reflect_history (author : Author) (events : Channel) (operations : List Operation) :
    let history := ((start author events).operateAll operations).1
    let node := ((start author events).operateAll operations).2
    let admitted := admissionsIn history
    -- who is there, and under which number
    (node.contacts.contacts = admitted.map (·.contact author.id history) ∧
      admitted.map (·.event.contactId.value) = List.range' 1 admitted.length ∧
      node.contacts.contacts.map (·.id.value) = List.range' 1 admitted.length ∧
      ∀ contact ∈ node.contacts.contacts,
        node.contacts.find? contact.id = some contact ∧ contact.localAuthorId = author.id) ∧
    -- the authors
    ((node.contacts.contacts.map (·.author.id)).Nodup ∧
      ∀ contact ∈ node.contacts.contacts, contact.author.id ≠ author.id) ∧
    -- the next number
    (admitted.length < ContactId.greatest →
      ∃ id, node.contacts.nextId = some id ∧ id.value = admitted.length + 1) ∧
    -- additions
    (∀ newcomer entry,
      let reply := (node.perform (.add newcomer entry)).1
      let taken := newcomer.id = author.id ∨ ∃ c ∈ node.contacts.contacts, c.author.id = newcomer.id
      ((∃ e, reply = .refused e ∧ e.code = .validationFailed) ↔ taken) ∧
        (∀ e, reply = .refused e → (node.perform (.add newcomer entry)).2 = node) ∧
        (admitted.length < ContactId.greatest → ¬taken →
          ∃ event, reply = .added event ∧ event.contactId.value = admitted.length + 1)) ∧
    -- renamings
    (∀ id contact alias?, node.contacts.find? id = some contact → ∃ book,
      node.perform (.rename id alias?) = (.renamed, { node with contacts := book }) ∧
        book.find? id = some { contact with alias? := alias? } ∧
        (∀ other, other ≠ id → book.find? other = node.contacts.find? other) ∧
        book.contacts.map (·.id) = node.contacts.contacts.map (·.id) ∧
        book.localAuthorId = node.contacts.localAuthorId ∧ book.nextId = node.contacts.nextId) ∧
    (∀ id alias?, node.contacts.find? id = none →
      ∃ e, node.perform (.rename id alias?) = (.refused e, node) ∧ e.code = .contactNotFound) := by
  intro history node admitted
  have reflects : node.contacts.Reflects history := reflects_run author events operations
  have owner : node.contacts.localAuthorId = author.id := localAuthorId_run author events operations
  have sound := reflects.sound
  have length : node.contacts.contacts.length = admitted.length := reflects.length_eq
  have who : node.contacts.contacts = admitted.map (·.contact author.id history) := owner ▸ reflects.contacts
  have numbers := length ▸ sound.numbers
  have following : admitted.length < ContactId.greatest →
      ∃ id, node.contacts.nextId = some id ∧ id.value = admitted.length + 1 := by
    intro room
    have next := sound.following
    rw [length, AddressBook.numberAfter, if_pos room, Option.map_eq_some_iff] at next
    exact next
  refine ⟨⟨who, ?_, numbers, fun contact hc => ⟨sound.find?_of_mem hc, owner ▸ sound.ours contact hc⟩⟩,
    ⟨sound.authors, owner ▸ sound.strangers⟩, following, ?_, ?_, ?_⟩
  · rw [who, List.map_map] at numbers
    exact numbers
  · intro newcomer entry reply taken
    obtain ⟨invalid, refused⟩ := node.perform_add_refused newcomer entry
    rw [owner] at invalid
    refine ⟨invalid, refused, fun room free => ?_⟩
    obtain ⟨id, hid, value⟩ := following room
    obtain ⟨other, strange⟩ := not_or.mp free
    obtain ⟨book, added⟩ :=
      AddressBook.add_of_next hid (owner.symm ▸ other) (fun c hc e => strange ⟨c, hc, e⟩) entry
    exact ⟨⟨id, entry.verified⟩, congrArg Prod.fst (perform_add_ok added), value⟩
  · intro id contact alias? hf
    exact perform_rename_known hf alias?
  · intro id alias? hf
    exact perform_rename_unknown hf alias?

end Node

end PeerPost
