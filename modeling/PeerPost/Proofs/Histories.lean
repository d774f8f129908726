import PeerPost.Proofs.Crowd
import PeerPost.Proofs.Listings
import PeerPost.Proofs.Requests

/-! # The nodes that come about

`Reached node stored` says that a node comes about from a new one by commands, requests and whatever goes
on in its event channel and journals, and that these messages were stored on the way. The address book of
such a node is sound and its archive records the messages. Where the digests of what was hashed are
distinct, the contacts have distinct groups and every stored message keeps its text. The node of a crowd of
writers comes about in this way too, however its writes are interleaved. -/

namespace PeerPost

/-- A node that comes about, with the messages that were stored on the way, the oldest first. -/
inductive Reached : Node → List StoredMessage → Prop
  | start (author : Author) (events : Channel) : Reached (Node.start author events) []
  | command {node : Node} {stored : List StoredMessage} (before : Reached node stored) (command : Command) :
      Reached (node.perform command).2 (stored ++ (storedBy? (command, (node.perform command).1)).toList)
  | request {node : Node} {stored : List StoredMessage} (before : Reached node stored) (origins : Http.Origins)
      (now : Timestamp) (request : Http.Request) :
      Reached (Http.serve origins node now request).2 (stored ++ (Http.plan request).stored node now)
  | relay {node : Node} {stored : List StoredMessage} (before : Reached node stored) (events : Channel)
      (journals : List (List ContactAdded)) : Reached { node with events := events, journals := journals } stored

/-- The bytes hashed for the groups of contacts. -/
def hashedForGroups (contacts : List Contact) : Set Bytes :=
  {bytes | ∃ c ∈ contacts, Contact.groupHashedBytes c.localAuthorId c.author.id = bytes}

theorem mem_of_hashed {stored : List StoredMessage} {contacts : List Contact} {bytes : Bytes}
    (h : bytes ∈ hashedForMessages stored ∪ hashedForGroups contacts) :
    bytes ∈ stored.map StoredMessage.hashedBytes ++
      contacts.map fun c => Contact.groupHashedBytes c.localAuthorId c.author.id := by
  rcases h with h | ⟨c, hc, rfl⟩
  · exact List.mem_append_left _ (mem_of_hashedForMessages h)
  · exact List.mem_append_right _ (List.mem_map_of_mem hc)

namespace Reached

variable {node : Node} {stored : List StoredMessage}

theorem sound (h : Reached node stored) : node.contacts.Sound := by
  induction h with
  | start author events => exact AddressBook.sound_empty author.id
  | command before command ih => exact (Node.perform_performs _ command).sound ih
  | request before origins now request ih =>
    rw [Http.node_serve]
    exact ih
  | relay before events journals ih => exact ih

theorem records (h : Reached node stored) : node.archive.Records stored := by
  induction h with
  | start author events => exact Archive.records_empty
  | command before command ih =>
    rw [(Node.perform_performs _ command).archive]
    exact ih.foldl_store _
  | request before origins now request ih =>
    rw [Http.node_serve]
    exact ih.foldl_store _
  | relay before events journals ih => exact ih

theorem identified (h : Reached node stored) : ∀ m ∈ stored, m.Identified := by
  induction h with
  | start author events => exact fun m hm => nomatch hm
  | command before command ih =>
    intro m hm
    rcases List.mem_append.mp hm with hm | hm
    · exact ih m hm
    · exact (Node.perform_performs _ command).identified m (Option.mem_toList.mp hm)
  | request before origins now request ih =>
    intro m hm
    rcases List.mem_append.mp hm with hm | hm
    · exact ih m hm
    · exact (Http.plan request).stored_identified _ now m hm
  | relay before events journals ih => exact ih

/-- Every header has the text of its message, where the digests of the messages are distinct. -/
theorem text?_of_headers (h : Reached node stored) (hash : Set.InjOn Sha256.digest (hashedForMessages stored))
    {group : GroupId} {header : MessageHeader} (hh : header ∈ node.archive.headers group) :
    ∃ m ∈ stored, m.header = header ∧ node.archive.text? header.id = some m.text.text := by
  obtain ⟨⟨m, hm, rfl⟩, -⟩ := h.records.mem_headers.mp hh
  exact ⟨m, hm, rfl, h.records.text?_of_mem h.identified hash hm⟩

/-- The listing of a conversation, where the digests of the messages are distinct. -/
theorem hold_messages (h : Reached node stored) (hash : Set.InjOn Sha256.digest (hashedForMessages stored))
    {id : ContactId} {contact : Contact} (hf : node.contacts.find? id = some contact) (now : Timestamp) :
    node.hold now (Listing.messages id) =
      (.ok ⟨id, (Listing.inOrder (node.archive.headers contact.group)).map node.loaded⟩, node) := by
  refine Node.hold_messages hf (fun header hh => ?_) now
  obtain ⟨m, -, -, text⟩ := h.text?_of_headers hash hh
  exact ⟨_, text⟩

theorem performAll (h : Reached node stored) (commands : List Command) :
    Reached (node.performAll commands).2 (stored ++ storedIn (node.performAll commands).1) := by
  induction commands generalizing node stored with
  | nil =>
    rw [show storedIn (node.performAll []).1 = [] from rfl, List.append_nil]
    exact h
  | cons command rest ih =>
    have next := ih (h.command command)
    rw [List.append_assoc] at next
    have split : storedIn (node.performAll (command :: rest)).1 =
        (storedBy? (command, (node.perform command).1)).toList ++
          storedIn ((node.perform command).2.performAll rest).1 := by
      simp only [Node.performAll, storedIn, List.filterMap_cons]
      cases storedBy? (command, (node.perform command).1) <;> rfl
    rw [split]
    exact next

end Reached

/-! ### Writers at the same time -/

/-- A move of a crowd stores at most one message, and its node comes about without the crowd too. -/
theorem reached_make {crowd : Crowd} {stored : List StoredMessage} (h : Reached crowd.node stored) (move : Move) :
    ∃ more, Reached (crowd.make move).node (stored ++ more) := by
  have same : Reached crowd.node (stored ++ []) := by rwa [List.append_nil]
  cases move with
  | enter id text => exact ⟨[], same⟩
  | abandon i => exact ⟨[], same⟩
  | setClock time => exact ⟨[], same⟩
  | perform command => exact ⟨_, h.command command⟩
  | proceed i =>
    rcases Crowd.proceed_inv crowd i with e | ⟨w, call, rest, node, a, e⟩
    · rw [Crowd.make, e]
      exact ⟨[], same⟩
    · rw [Crowd.make, e]
      have after : (crowd.answered i w call rest node).node = node := rfl
      rw [after, a.node_eq]
      cases call with
      | send message => exact ⟨_, h.command (.send message)⟩
      | _ => exact ⟨[], same⟩

theorem reached_makeAll {crowd : Crowd} {stored : List StoredMessage} (h : Reached crowd.node stored)
    (moves : List Move) : ∃ more, Reached (crowd.makeAll moves).node (stored ++ more) := by
  induction moves generalizing crowd stored with
  | nil => exact ⟨[], by rwa [List.append_nil]⟩
  | cons move rest ih =>
    obtain ⟨first, hf⟩ := reached_make h move
    obtain ⟨more, hm⟩ := ih hf
    rw [List.append_assoc] at hm
    exact ⟨first ++ more, hm⟩

/-! ### Groups -/

/-- Two contacts with the same group are the same, where the digests of what was hashed for groups are
distinct. -/
theorem AddressBook.Sound.eq_of_group {book : AddressBook} (h : book.Sound)
    (hash : Set.InjOn Sha256.digest (hashedForGroups book.contacts)) {c d : Contact} (hc : c ∈ book.contacts)
    (hd : d ∈ book.contacts) (same : c.group = d.group) : c = d := by
  have digest : Sha256.digest (Contact.groupHashedBytes c.localAuthorId c.author.id) =
      Sha256.digest (Contact.groupHashedBytes d.localAuthorId d.author.id) :=
    congrArg (fun g : GroupId => g.id.bytes) same
  have bytes := hash ⟨c, hc, rfl⟩ ⟨d, hd, rfl⟩ digest
  rw [h.ours c hc, h.ours d hd] at bytes
  rcases Contact.groupHashedBytes_inj bytes with ⟨-, authors⟩ | ⟨stranger, -⟩
  · exact h.eq_of_author hc hd authors
  · -- The local author is none of the contacts.
    exact absurd stranger.symm (h.strangers d hd)

end PeerPost
