import PeerPost.Proofs.Collaborators
import PeerPost.Proofs.Conversations
import PeerPost.Proofs.Operations

/-! # Operations with different contacts

A request to write to a contact, a message received from it, and a change of its alias depend on nothing but the
group of the contact and the headers of this group, and change nothing but the messages of the group and the alias
of the contact (`Operation.Concerns.settles`). Different contacts have different groups, so that it does not matter
in which order two such operations with different contacts are done: each comes to the same, and the nodes that
they leave answer every call alike (`Node.Alike`). -/

namespace PeerPost

/-! ### Nodes that are alike -/

namespace Node

variable {m n : Node}

/-- Two nodes have the same contacts, and the same headers and texts, in whatever order these were stored. -/
structure Alike (m n : Node) : Prop where
  contacts : m.contacts = n.contacts
  headers : ∀ group, m.archive.headers group = n.archive.headers group
  text? : ∀ id, m.archive.text? id = n.archive.text? id

namespace Alike

theorem store (h : m.Alike n) (message : StoredMessage) :
    Alike { m with archive := m.archive.store message } { n with archive := n.archive.store message } where
  contacts := h.contacts
  headers group := by simp only [Archive.headers_store, h.headers]
  text? id := by simp only [Archive.text?_store, h.text?]

theorem text (h : m.Alike n) (id : MessageId) : m.archive.text id = n.archive.text id := by
  rw [Archive.text, Archive.text, h.text?]

theorem count (h : m.Alike n) (id : ContactId) : m.count id = n.count id := by
  simp only [Node.count, Archive.count, h.contacts, h.headers]

theorem headers_of_contact (h : m.Alike n) (id : ContactId) : m.headers id = n.headers id := by
  simp only [Node.headers, h.contacts, h.headers]

theorem answer (h : m.Alike n) (now : Timestamp) (call : Call) :
    (Node.answer now call m).1 = (Node.answer now call n).1 ∧
      (Node.answer now call m).2.Alike (Node.answer now call n).2 := by
  cases call with
  | contact id => exact ⟨congrArg (AddressBook.get · id) h.contacts, h⟩
  | contacts =>
    have same : (Except.ok m.contacts.contacts : Except DomainError _) = .ok n.contacts.contacts := by rw [h.contacts]
    exact ⟨same, h⟩
  | count id => exact ⟨h.count id, h⟩
  | headers id => exact ⟨h.headers_of_contact id, h⟩
  | group contact => exact ⟨rfl, h⟩
  | text id => exact ⟨h.text id, h⟩
  | send message => exact ⟨rfl, h.store _⟩
  | _ => exact ⟨rfl, h⟩

theorem hold {α : Type} (h : m.Alike n) (now : Timestamp) (dialogue : Dialogue α) :
    (m.hold now dialogue).1 = (n.hold now dialogue).1 := by
  induction dialogue generalizing m n with
  | done a => rfl
  | ask call next ih =>
    obtain ⟨same, after⟩ := h.answer now call
    simp only [Node.hold, Dialogue.run] at ih ⊢
    rw [same]
    exact ih _ after

theorem serve (h : m.Alike n) (origins : Http.Origins) (now : Timestamp) (request : Http.Request) :
    (Http.serve origins m now request).1 = (Http.serve origins n now request).1 := by
  unfold Http.serve
  cases Http.plan request with
  | respond response => rfl
  | hold dialogue => simp only [Http.Plan.carryOut, h.hold]

end Alike

end Node

/-! ### What an operation with a contact reads and changes -/

/-- The operations with a contact: a request to write to it, whatever the body is, a message received from it, and a
change of its alias. -/
inductive Operation.Concerns (id : ContactId) : Operation → Prop
  | write (origins : Http.Origins) (now : Timestamp) {request : Http.Request} {segment : List Char} {name : String}
      (post : request.method = "POST") (route : request.route? = some (.conversation segment))
      (named : Http.segmentText? segment = some name) (number : ContactId.ofText name = .ok id) :
      Concerns id (.request origins now request)
  | receive (time : Timestamp) (text : MessageText) : Concerns id (.command (.receive id time text))
  | rename (alias? : Option String) : Concerns id (.command (.rename id alias?))

/-- What an operation with a contact changes: it may store a message, and it may change the alias. -/
structure Change where
  stored? : Option StoredMessage
  rename : Option String → Option String

namespace Change

/-- The alias of the contact with this number is changed. -/
def contact (change : Change) (id : ContactId) (c : Contact) : Contact :=
  if c.id = id then { c with alias? := change.rename c.alias? } else c

def apply (change : Change) (id : ContactId) (node : Node) : Node :=
  { node with
    contacts := { node.contacts with contacts := node.contacts.contacts.map (change.contact id) }
    archive := change.stored?.toList.foldl Archive.store node.archive }

/-- What is stored is a message of this group. -/
def Within (change : Change) (group : GroupId) : Prop :=
  ∀ m, change.stored? = some m → m.header.groupId = group

variable {change a b : Change} {id other : ContactId} {group g g' : GroupId} {node : Node}

theorem within_of_none (h : change.stored? = none) : change.Within group := by
  intro m hm
  rw [h] at hm
  cases hm

theorem id_contact (change : Change) (id : ContactId) (c : Contact) : (change.contact id c).id = c.id := by
  unfold contact
  split <;> rfl

theorem group_contact (change : Change) (id : ContactId) (c : Contact) : (change.contact id c).group = c.group := by
  unfold contact
  split <;> rfl

theorem contact_comm (apart : id ≠ other) (c : Contact) :
    a.contact id (b.contact other c) = b.contact other (a.contact id c) := by
  unfold contact
  by_cases first : c.id = id
  · have rest : c.id ≠ other := fun second => apart (first.symm.trans second)
    simp only [first, if_true, if_neg apart]
  · by_cases second : c.id = other
    · simp only [second, if_true, if_neg apart.symm]
    · simp only [first, second, if_false]

theorem find?_apply (change : Change) (id other : ContactId) (node : Node) :
    (change.apply id node).contacts.find? other = (node.contacts.find? other).map (change.contact id) :=
  AddressBook.find?_map (change.id_contact id) other

theorem headers_apply (change : Change) (id : ContactId) (node : Node) (group : GroupId) :
    (change.apply id node).archive.headers group =
      node.archive.headers group ++ (change.stored?.toList.map (·.header)).filter (·.groupId = group) :=
  Archive.headers_foldl_store _ _ _

theorem headers_apply_of_ne (h : change.Within group) (apart : g ≠ group) :
    (change.apply id node).archive.headers g = node.archive.headers g := by
  rw [headers_apply]
  cases hs : change.stored? with
  | none => simp
  | some m => simp [h m hs, Ne.symm apart]

/-- Changes of different contacts, which store different messages in different groups, may be made in either order. -/
theorem apply_comm (apart : id ≠ other) (ha : a.Within g) (hb : b.Within g') (groups : g ≠ g')
    (messages : ∀ m m', a.stored? = some m → b.stored? = some m' → m.header.id ≠ m'.header.id) :
    (b.apply other (a.apply id node)).Alike (a.apply id (b.apply other node)) where
  contacts := by
    unfold apply
    simp only [List.map_map]
    congr 2
    funext c
    exact (contact_comm apart c).symm
  headers group := by
    by_cases first : group = g
    · have second : group ≠ g' := first ▸ groups
      rw [headers_apply_of_ne hb second, headers_apply a, headers_apply a, headers_apply_of_ne hb second]
    · rw [headers_apply_of_ne ha first, headers_apply b, headers_apply b, headers_apply_of_ne ha first]
  text? mid := by
    unfold apply
    cases first : a.stored? with
    | none => rfl
    | some m =>
      cases second : b.stored? with
      | none => rfl
      | some m' =>
        have distinct := messages m m' first second
        simp only [Option.toList_some, List.foldl_cons, List.foldl_nil, Archive.text?_store]
        by_cases own : mid = m.header.id
        · rw [if_neg (own ▸ distinct), if_pos own, if_pos own]
        · rw [if_neg own, if_neg own]

end Change

/-! ### What an operation with a contact comes to -/

/-- The contact with this number has this group, and these are the headers of the group. -/
def Node.HasConversation (node : Node) (id : ContactId) (group : GroupId) (headers : List MessageHeader) : Prop :=
  ∃ contact, node.contacts.find? id = some contact ∧ contact.group = group ∧ node.archive.headers group = headers

/-- In every node with this conversation the operation comes to this and makes this change. -/
structure Operation.Settles (operation : Operation) (id : ContactId) (group : GroupId) (headers : List MessageHeader)
    (upshot : Upshot) (change : Change) : Prop where
  within : change.Within group
  operate : ∀ node : Node, node.HasConversation id group headers →
    node.operate operation = (upshot, change.apply id node)
  stored : ∀ node : Node, node.HasConversation id group headers →
    (node.occurrence operation).stored = change.stored?.toList

theorem Node.HasConversation.apply {node : Node} {id other : ContactId} {g g' : GroupId}
    {headers : List MessageHeader} {change : Change} (h : node.HasConversation id g headers) (within : change.Within g')
    (apart : g ≠ g') : (change.apply other node).HasConversation id g headers := by
  obtain ⟨contact, found, rfl, rfl⟩ := h
  refine ⟨change.contact other contact, ?_, change.group_contact other contact, ?_⟩
  · rw [Change.find?_apply, found, Option.map_some]
  · exact Change.headers_apply_of_ne within apart

/-- A change that keeps the alias changes the archive only. -/
theorem Change.apply_keep (stored? : Option StoredMessage) (id : ContactId) (node : Node) :
    (⟨stored?, fun alias? => alias?⟩ : Change).apply id node =
      { node with archive := stored?.toList.foldl Archive.store node.archive } := by
  have same : (⟨stored?, fun alias? => alias?⟩ : Change).contact id = fun c => c := funext fun c => ite_self c
  rw [apply, same, List.map_id']

theorem Node.answer_contact {node : Node} {id : ContactId} {contact : Contact}
    (found : node.contacts.find? id = some contact) (now : Timestamp) :
    Node.answer now (.contact id) node = (.ok contact, node) := by
  rw [Node.answer, AddressBook.get_of_find? found]

/-- The calls of a write to a known contact, and what it ends with. -/
theorem Writing.ends_write_sent {node : Node} {id : ContactId} {contact : Contact}
    (found : node.contacts.find? id = some contact) (now : Timestamp) {text : String} {checked : MessageText}
    (valid : MessageText.ofString text = .ok checked) :
    let message := node.nextMessage contact now checked
    (write id text).Ends (Node.answer now) node [.contact id, .group contact, .takeTurn contact.group,
      .count contact.id, .now, .send message, .endTurn contact.group]
      (.ok ⟨id, (Archive.outgoing message).header, checked⟩) := by
  intro message
  obtain ⟨-, rfl⟩ := AddressBook.find?_inv found
  have counted : Node.answer now (.count contact.id) node = (.ok (node.archive.count contact.group), node) := by
    rw [Node.answer, Node.count_of_find? found]
  have stored : Node.answer now (.send message) node = (.ok (Archive.outgoing message).header, (node.send message).2) :=
    rfl
  have sent : (send contact message).Ends (Node.answer now) node [.send message, .endTurn contact.group]
      (.ok ⟨contact.id, (Archive.outgoing message).header, checked⟩) := Dialogue.ends_ask stored (ends_finish _ _ _)
  exact ends_write_valid (Node.answer_contact found now) valid (ends_toContact rfl (ends_inTurn counted sent))

namespace Http.Controller

/-- What a write of a context comes to, and what it stores, depends on the conversation only. -/
theorem writeMessage_settles {ctx : Context} {id : ContactId} (named : contactId ctx = .ok id) (now : Timestamp)
    (group : GroupId) (headers : List MessageHeader) : ∃ final stored?,
      (∀ m, stored? = some m → m.header.groupId = group) ∧
      ∀ node : Node, node.HasConversation id group headers →
        (node.hold now (writeMessage ctx)).1 = final ∧ node.storedBy now (writeMessage ctx) = stored?.toList := by
  have settled {node : Node} {made : List Call} {final : Context} (h : (writeMessage ctx).Ends (Node.answer now) node
      made final) : (node.hold now (writeMessage ctx)).1 = final ∧
        node.storedBy now (writeMessage ctx) = made.filterMap Call.stored? :=
    ⟨h.result, congrArg (List.filterMap Call.stored?) h.calls⟩
  rcases writeMessage_inv ctx with ⟨_, text, -, draft, -⟩ | ⟨failure, refused⟩
  · cases ht : MessageText.ofString text with
    | error e =>
      refine ⟨answerWrite ctx (.error (.invalidText e)), none, nofun, ?_⟩
      rintro node ⟨contact, found, -, -⟩
      exact settled (ends_writeMessage named draft (Writing.ends_write_invalid (Node.answer_contact found now) ht))
    | ok checked =>
      let message := Archive.outgoing ⟨group, (MessageCount.ofHeaders headers).nextTime now, checked⟩
      refine ⟨answerWrite ctx (.ok ⟨id, message.header, checked⟩), some message, ?_, ?_⟩
      · rintro _ ⟨⟩
        rfl
      · rintro node ⟨contact, found, rfl, rfl⟩
        exact settled (ends_writeMessage named draft (Writing.ends_write_sent found now ht))
  · refine ⟨ctx.fail 400 failure, none, nofun, fun node _ => ?_⟩
    rw [refused]
    exact ⟨rfl, rfl⟩

end Http.Controller

namespace Operation

theorem settles_write (origins : Http.Origins) (now : Timestamp) {request : Http.Request} {segment : List Char}
    {name : String} {id : ContactId} (post : request.method = "POST")
    (route : request.route? = some (.conversation segment)) (named : Http.segmentText? segment = some name)
    (number : ContactId.ofText name = .ok id) (group : GroupId) (headers : List MessageHeader) :
    ∃ upshot change, (Operation.request origins now request).Settles id group headers upshot change := by
  have planned := Http.plan_write post route named
  have other : request.method ≠ "HEAD" := post.trans_ne (by decide)
  by_cases long : Http.maxBodySize < request.body.length
  · rw [if_pos long] at planned
    refine ⟨.responded (origins.dress request Http.bodyTooLarge.withSize), ⟨none, fun alias? => alias?⟩,
      Change.within_of_none rfl, fun node _ => ?_, fun node _ => ?_⟩
    · rw [Node.operate, Http.serve_respond planned other, Change.apply_keep]
      rfl
    · show (Http.plan request).stored node now = []
      rw [planned]
      rfl
  · rw [if_neg long] at planned
    let ctx := (Http.contactContext name).withBody request.body
    have numbered : Http.Controller.contactId ctx = .ok id := Http.Controller.contactId_contactContext.mpr number
    obtain ⟨final, stored?, within, settled⟩ := Http.Controller.writeMessage_settles numbered now group headers
    refine ⟨.responded (origins.dress request final.toResponse.withSize), ⟨stored?, fun alias? => alias?⟩, within,
      fun node talks => ?_, fun node talks => ?_⟩
    · obtain ⟨answered, stored⟩ := settled node talks
      rw [Node.operate, Http.serve_hold planned other, answered, Node.hold_node, stored, Change.apply_keep]
    · show (Http.plan request).stored node now = stored?.toList
      rw [planned]
      exact (settled node talks).2

/-- What an operation with a contact comes to and changes depends on the conversation only. -/
theorem Concerns.settles {operation : Operation} {id : ContactId} (h : operation.Concerns id) (group : GroupId)
    (headers : List MessageHeader) : ∃ upshot change, operation.Settles id group headers upshot change := by
  cases h with
  | write origins now post route named number => exact settles_write origins now post route named number group headers
  | receive time text =>
    let message := Archive.incoming group time text
    refine ⟨.replied (.stored message.header), ⟨some message, fun alias? => alias?⟩, ?_, ?_, ?_⟩
    · rintro _ ⟨⟩
      rfl
    · rintro node ⟨contact, found, rfl, -⟩
      simp only [Node.operate, Node.perform, Node.receive, AddressBook.get_of_find? found, Change.apply_keep]
      rfl
    · rintro node ⟨contact, found, rfl, -⟩
      simp only [Node.occurrence, Node.operate, Node.perform, Node.receive, AddressBook.get_of_find? found]
      rfl
  | rename alias? =>
    refine ⟨.replied .renamed, ⟨none, fun _ => alias?⟩, Change.within_of_none rfl, ?_, ?_⟩
    · rintro node ⟨contact, found, -, -⟩
      simp only [Node.operate, Node.perform, Node.setAlias, AddressBook.setAlias, found]
      rfl
    · rintro node ⟨contact, found, -, -⟩
      simp only [Node.occurrence, Node.operate, Node.perform, Node.setAlias, AddressBook.setAlias, found]
      rfl

end Operation

namespace Node

theorem operateAll_settles {node : Node} {i j : ContactId} {g g' : GroupId} {headers headers' : List MessageHeader}
    {first second : Operation} {u v : Upshot} {a b : Change} (talks : node.HasConversation i g headers)
    (talks' : node.HasConversation j g' headers') (apart : g ≠ g') (settles : first.Settles i g headers u a)
    (settles' : second.Settles j g' headers' v b) :
    (node.operateAll [first, second]).1.map (·.upshot) = [u, v] ∧
      (node.operateAll [first, second]).2 = b.apply j (a.apply i node) ∧
      storedDuring (node.operateAll [first, second]).1 = a.stored?.toList ++ b.stored?.toList := by
  have one := settles.operate node talks
  -- The first operation leaves the conversation of the second one as it was.
  have still : (a.apply i node).HasConversation j g' headers' := talks'.apply settles.within apart.symm
  have two := settles'.operate _ still
  have history : (node.operateAll [first, second]).1 =
      [node.occurrence first, (a.apply i node).occurrence second] := by simp only [operateAll, one]
  refine ⟨?_, ?_, ?_⟩
  · simp only [history, List.map_cons, List.map_nil, occurrence, one, two]
  · simp only [operateAll, one, two]
  · simp only [history, storedDuring, List.flatMap_cons, List.flatMap_nil, List.append_nil, settles.stored node talks,
      settles'.stored _ still]

/-- Two operations with different contacts may be done in either order: each comes to the same, and afterwards every
request is answered alike, and so are the questions for the text of a message and for the counters of a contact. -/
theorem operations_commute {node : Node} {stored : List StoredMessage} (h : Reached node stored) {c d : Contact}
    (hc : c ∈ node.contacts.contacts) (hd : d ∈ node.contacts.contacts) (apart : c ≠ d) {first second : Operation}
    (with_c : first.Concerns c.id) (with_d : second.Concerns d.id)
    (hash : Set.InjOn Sha256.digest
      (hashedForMessages (storedDuring (node.operateAll [first, second]).1) ∪
        hashedForGroups node.contacts.contacts)) :
    let there := node.operateAll [first, second]
    let back := node.operateAll [second, first]
    back.1.map (·.upshot) = (there.1.map (·.upshot)).reverse ∧
      (∀ origins now request,
        (Http.serve origins there.2 now request).1 = (Http.serve origins back.2 now request).1) ∧
      (∀ id, there.2.archive.text id = back.2.archive.text id) ∧ ∀ id, there.2.count id = back.2.count id := by
  intro there back
  have groups : c.group ≠ d.group := fun same =>
    apart (h.sound.eq_of_group (hash.mono Set.subset_union_right) hc hd same)
  have numbers : c.id ≠ d.id := fun same => apart (h.sound.eq_of_id hc hd same)
  have talks_c : node.HasConversation c.id c.group _ := ⟨c, h.sound.find?_of_mem hc, rfl, rfl⟩
  have talks_d : node.HasConversation d.id d.group _ := ⟨d, h.sound.find?_of_mem hd, rfl, rfl⟩
  obtain ⟨u, a, settles_c⟩ := with_c.settles c.group (node.archive.headers c.group)
  obtain ⟨v, b, settles_d⟩ := with_d.settles d.group (node.archive.headers d.group)
  obtain ⟨upshots, last, (all : storedDuring there.1 = _)⟩ :=
    operateAll_settles talks_c talks_d groups settles_c settles_d
  obtain ⟨upshots', last', -⟩ := operateAll_settles talks_d talks_c groups.symm settles_d settles_c
  have messages : ∀ m m', a.stored? = some m → b.stored? = some m' → m.header.id ≠ m'.header.id := by
    intro m m' hm hm' same
    have genuine : ∀ m ∈ storedDuring there.1, m.Identified := fun m hm =>
      (reached_operateAll h _).identified m (List.mem_append_right _ hm)
    have mine : m ∈ storedDuring there.1 := by simp [all, hm]
    have others : m' ∈ storedDuring there.1 := by simp [all, hm']
    have bytes := hashedBytes_eq_of_id (hash.mono Set.subset_union_left) genuine mine others same
    have group := (MessageId.hashedBytes_inj bytes).1
    rw [settles_c.within m hm, settles_d.within m' hm'] at group
    exact groups group
  have alike : there.2.Alike back.2 := by
    rw [last, last']
    exact Change.apply_comm numbers settles_c.within settles_d.within groups messages
  exact ⟨by rw [upshots, upshots']; rfl, alike.serve, alike.text, alike.count⟩

/-! A text is posted to one contact, and the same text is received from another one at the same time. -/

/-- A new node to which two contacts were added. -/
def sociableNode : Node :=
  (plainNode.performAll
    [.add (plainAuthor "Ann" 2) ⟨true, none, none⟩, .add (plainAuthor "Ben" 3) ⟨true, none, none⟩]).2

theorem greetings_commute :
    let ben : Contact := ⟨⟨2, by decide, by decide⟩, plainAuthor "Ben" 3, plainNode.localAuthor.id, none, none, true⟩
    let post : Operation :=
      .request .any ⟨5⟩ ⟨"POST", Http.conversationTarget Http.echoContact.id, [], writeBody "Hi"⟩
    let received : Operation := .command (.receive ben.id ⟨5⟩ ⟨"Hi", by decide, by decide⟩)
    let there := sociableNode.operateAll [post, received]
    let back := sociableNode.operateAll [received, post]
    (storedDuring there.1).length = 2 ∧ back.1.map (·.upshot) = (there.1.map (·.upshot)).reverse ∧
      ∀ id, there.2.archive.text id = back.2.archive.text id := by
  intro ben post received there back
  have reached := (Reached.start (plainAuthor "Me" 1) ⟨16, 0, [], [], 0⟩).performAll
    [.add (plainAuthor "Ann" 2) ⟨true, none, none⟩, .add (plainAuthor "Ben" 3) ⟨true, none, none⟩]
  have ann_admitted : Http.echoContact ∈ sociableNode.contacts.contacts := by decide +kernel
  have ben_admitted : ben ∈ sociableNode.contacts.contacts := by decide +kernel
  have writes : post.Concerns Http.echoContact.id :=
    .write .any ⟨5⟩ rfl (Http.route?_conversation rfl) (Http.segmentText?_display _) (ContactId.ofText_display _)
  have stored : (storedDuring there.1).length = 2 := by decide +kernel
  have hash : Set.InjOn Sha256.digest
      (hashedForMessages (storedDuring there.1) ∪ hashedForGroups sociableNode.contacts.contacts) := by
    refine injOn_digest ?_ fun _ => mem_of_hashed
    decide +kernel
  obtain ⟨upshots, -, texts, -⟩ :=
    operations_commute reached ann_admitted ben_admitted (by decide) writes (.receive _ _) hash
  exact ⟨stored, upshots, texts⟩

end Node

end PeerPost
