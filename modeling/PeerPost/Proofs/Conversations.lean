import PeerPost.Proofs.Histories
import PeerPost.Proofs.Listings
import PeerPost.Proofs.Records
import PeerPost.Proofs.Targets

/-! # Writing a message and listing it

A text that is posted to a contact is answered with the record of its message, and from then on the list of
the conversation ends with this record. Every other conversation is listed as before, and so are the
contacts, but for the time of the latest activity of this one. -/

namespace PeerPost

/-- The node after a message to a contact was written. -/
def Node.afterWrite (node : Node) (contact : Contact) (now : Timestamp) (text : MessageText) : Node :=
  { node with archive := node.archive.store (Archive.outgoing (node.nextMessage contact now text)) }

theorem Node.headers_afterWrite (node : Node) (contact : Contact) (now : Timestamp) (text : MessageText)
    (group : GroupId) : (node.afterWrite contact now text).archive.headers group =
      if group = contact.group then
        node.archive.headers group ++ [(Archive.outgoing (node.nextMessage contact now text)).header]
      else node.archive.headers group := Archive.headers_store _ _ _

theorem MessageText.ofString_text (text : MessageText) : ofString text.text = .ok text := by
  rw [ofString, dif_neg text.nonempty, dif_pos text.size_le]

namespace Http

variable {request : Request} {id : ContactId}

/-! ### Plans of the requests -/

theorem plan_getConversation (method : request.method = "GET") (target : request.target = conversationTarget id) :
    plan request = .hold (Controller.listMessages (contactContext id.display)) := by
  rw [plan, if_neg (by rw [method]; decide), route?_conversation target]
  simp only [planRoute, method, true_or, if_true, segmentText?_display]

theorem plan_write {segment : List Char} {name : String} (method : request.method = "POST")
    (route : request.route? = some (.conversation segment)) (named : segmentText? segment = some name) :
    plan request = if maxBodySize < request.body.length then .respond bodyTooLarge
      else .hold (Controller.writeMessage ((contactContext name).withBody request.body)) := by
  have other : ¬("POST" = "GET" ∨ "POST" = "HEAD") := by decide
  rw [plan, if_neg (by rw [method]; decide), route]
  simp only [planRoute, method, other, if_false, if_true, named]

theorem plan_postConversation (method : request.method = "POST") (target : request.target = conversationTarget id)
    (size : request.body.length ≤ maxBodySize) :
    plan request = .hold (Controller.writeMessage ((contactContext id.display).withBody request.body)) := by
  rw [plan_write method (route?_conversation target) (segmentText?_display id), if_neg (Nat.not_lt.mpr size)]

theorem plan_getContacts (method : request.method = "GET") (target : request.target = contactsTarget) :
    plan request = .hold (Controller.listContacts (.fresh "")) := by
  rw [plan, if_neg (by rw [method]; decide), route?_contacts target]
  simp only [planRoute, method, true_or, if_true]

/-! ### Responses -/

theorem body_dress (origins : Origins) (request : Request) (response : Response) :
    (origins.dress request response).body = response.body := by
  unfold Origins.dress
  cases origins.admit? request <;> rfl

theorem serve_respond {response : Response} (hp : plan request = .respond response) (method : request.method ≠ "HEAD")
    (origins : Origins) (node : Node) (now : Timestamp) :
    serve origins node now request = (origins.dress request response.withSize, node) := by
  rw [serve, hp]
  simp only [Plan.carryOut, method, if_false]

/-- The response to a request that holds a dialogue is made from the context that the dialogue ends with. -/
theorem serve_hold {dialogue : Dialogue Context} (hp : plan request = .hold dialogue)
    (method : request.method ≠ "HEAD") (origins : Origins) (node : Node) (now : Timestamp) :
    serve origins node now request =
      (origins.dress request (node.hold now dialogue).1.toResponse.withSize, (node.hold now dialogue).2) := by
  rw [serve, hp]
  simp only [Plan.carryOut, method, if_false]

theorem serve_hold_json {dialogue : Dialogue Context} (hp : plan request = .hold dialogue)
    (method : request.method ≠ "HEAD") {node : Node} {now : Timestamp} {ctx : Context} {value : Json}
    (h : (node.hold now dialogue).1 = ctx.json value) (origins : Origins) :
    (serve origins node now request).1.status = 200 ∧ (serve origins node now request).1.body = value.text := by
  rw [serve_hold hp method, h]
  exact ⟨status_dress _ _ _, body_dress _ _ _⟩

/-! ### Listing -/

namespace Controller

theorem contactId_display (id : ContactId) : contactId (contactContext id.display) = .ok id :=
  contactId_contactContext.mpr (ContactId.ofText_display id)

theorem hold_listMessages (node : Node) (now : Timestamp) (id : ContactId) :
    (node.hold now (listMessages (contactContext id.display))).1 =
      match (node.hold now (Listing.messages id)).1 with
      | .ok list => (contactContext id.display).json (messageRecords list)
      | .error e => failListing (contactContext id.display) e := by
  simp only [listMessages, contactId_display, Node.hold_bind]
  cases (node.hold now (Listing.messages id)).1 <;> rfl

theorem hold_listContacts {node : Node} (h : node.contacts.Sound) (now : Timestamp) (ctx : Context) :
    (node.hold now (listContacts ctx)).1 = ctx.json (.array (node.contacts.contacts.map fun c =>
      (c.record (node.archive.count c.group).latest).toJson)) := by
  rw [listContacts, Node.hold_bind, Node.hold_contacts h]
  show ctx.json (contactRecords _) = _
  rw [contactRecords, List.map_map]
  rfl

/-- A text that is posted to a known contact is written, and the response is the record of its message. -/
theorem hold_writeMessage {node : Node} {id : ContactId} {contact : Contact} (h : node.contacts.find? id = some contact)
    (now : Timestamp) (text : MessageText) :
    let ctx := (contactContext id.display).withBody (writeBody text.text)
    node.hold now (writeMessage ctx) =
      (ctx.json ((Archive.outgoing (node.nextMessage contact now text)).header.record id (some text.text)).toJson,
        node.afterWrite contact now text) := by
  intro ctx
  have number : contactId ctx = .ok id := contactId_display id
  have draft : ctx.draft? = some ⟨some text.text⟩ := Draft.decode?_writeBody text.text
  simp only [writeMessage, number, draft, Node.hold_bind, Node.hold_write h text.ofString_text]
  rfl

end Controller

end Http

/-! ### What a write leaves as it was -/

namespace Reached

variable {node : Node} {stored : List StoredMessage} {contact : Contact} {now : Timestamp} {text : MessageText}
  (h : Reached node stored) (hash : Set.InjOn Sha256.digest
    (hashedForMessages (stored ++ [Archive.outgoing (node.nextMessage contact now text)])))

include h hash

/-- Every header of an archive has its text, which a write to the node does not change. -/
theorem text_kept {group : GroupId} {header : MessageHeader} (hh : header ∈ node.archive.headers group) :
    ∃ content, node.archive.text? header.id = some content ∧
      (node.afterWrite contact now text).archive.text? header.id = some content := by
  obtain ⟨⟨m, hm, rfl⟩, -⟩ := h.records.mem_headers.mp hh
  have genuine : ∀ m ∈ stored ++ [Archive.outgoing (node.nextMessage contact now text)], m.Identified := by
    intro m hm
    rcases List.mem_append.mp hm with hm | hm
    · exact h.identified m hm
    · rw [List.mem_singleton.mp hm]
      exact Archive.outgoing_identified _
  have earlier : hashedForMessages stored ⊆
      hashedForMessages (stored ++ [Archive.outgoing (node.nextMessage contact now text)]) := by
    rintro _ ⟨m, hm, rfl⟩
    exact ⟨m, List.mem_append_left _ hm, rfl⟩
  refine ⟨m.text.text, h.records.text?_of_mem h.identified (hash.mono earlier) hm, ?_⟩
  exact (h.records.store _).text?_of_mem genuine hash (List.mem_append_left _ hm)

theorem text_before {group : GroupId} {header : MessageHeader} (hh : header ∈ node.archive.headers group) :
    ∃ content, node.archive.text? header.id = some content := by
  obtain ⟨content, before, -⟩ := h.text_kept hash hh
  exact ⟨content, before⟩

theorem text_after {group : GroupId} {header : MessageHeader} (hh : header ∈ node.archive.headers group) :
    ∃ content, (node.afterWrite contact now text).archive.text? header.id = some content := by
  obtain ⟨content, -, after⟩ := h.text_kept hash hh
  exact ⟨content, after⟩

theorem loaded_kept {group : GroupId} {header : MessageHeader} (hh : header ∈ node.archive.headers group) :
    (node.afterWrite contact now text).loaded header = node.loaded header := by
  obtain ⟨content, before, after⟩ := h.text_kept hash hh
  rw [Node.loaded, Node.loaded, before, after]

/-- The list of a conversation to which nothing was written is the same as before. -/
theorem messages_kept {id : ContactId} (other : ∀ c, node.contacts.find? id = some c → c.group ≠ contact.group)
    (earlier later : Timestamp) : ((node.afterWrite contact now text).hold later (Listing.messages id)).1 =
      (node.hold earlier (Listing.messages id)).1 := by
  cases hf : node.contacts.find? id with
  | none =>
    have hf' : (node.afterWrite contact now text).contacts.find? id = none := hf
    rw [Node.hold_messages_unknown hf, Node.hold_messages_unknown hf']
  | some c =>
    have hf' : (node.afterWrite contact now text).contacts.find? id = some c := hf
    have headers : (node.afterWrite contact now text).archive.headers c.group = node.archive.headers c.group := by
      rw [Node.headers_afterWrite, if_neg (other c hf)]
    have same : (Listing.inOrder (node.archive.headers c.group)).map (node.afterWrite contact now text).loaded =
        (Listing.inOrder (node.archive.headers c.group)).map node.loaded :=
      List.map_congr_left fun header hh => h.loaded_kept hash (Listing.mem_inOrder.mp hh)
    rw [Node.hold_messages hf fun header hh => h.text_before hash hh,
      Node.hold_messages hf' fun header hh => h.text_after hash (headers ▸ hh), headers, same]

/-- The list of the conversation to which a message was written is the one before with this message at the
end. -/
theorem messages_extended (hc : contact ∈ node.contacts.contacts) (earlier later : Timestamp) :
    let header := (Archive.outgoing (node.nextMessage contact now text)).header
    let items := (Listing.inOrder (node.archive.headers contact.group)).map node.loaded
    (node.hold earlier (Listing.messages contact.id)).1 = .ok ⟨contact.id, items⟩ ∧
      ((node.afterWrite contact now text).hold later (Listing.messages contact.id)).1 =
        .ok ⟨contact.id, items ++ [⟨header, some text.text⟩]⟩ := by
  intro header items
  have hf := h.sound.find?_of_mem hc
  have hf' : (node.afterWrite contact now text).contacts.find? contact.id = some contact := hf
  have headers : (node.afterWrite contact now text).archive.headers contact.group =
      node.archive.headers contact.group ++ [header] := by
    rw [Node.headers_afterWrite, if_pos rfl]
  have own : (node.afterWrite contact now text).archive.text? header.id = some text.text := by
    rw [Node.afterWrite, Archive.text?_store, if_pos rfl]
    rfl
  have last : ∀ other ∈ node.archive.headers contact.group, other.timestamp ≤ header.timestamp :=
    fun other ho => MessageCount.timestamp_le_nextTime ho now
  refine ⟨by rw [Node.hold_messages hf fun other ho => h.text_before hash ho], ?_⟩
  rw [Node.hold_messages hf', headers, Listing.inOrder_concat last, List.map_append]
  · have same : (Listing.inOrder (node.archive.headers contact.group)).map (node.afterWrite contact now text).loaded =
        items := List.map_congr_left fun other ho => h.loaded_kept hash (Listing.mem_inOrder.mp ho)
    rw [same, List.map_singleton, Node.loaded, own]
  · intro other ho
    rw [headers] at ho
    rcases List.mem_append.mp ho with ho | ho
    · exact h.text_after hash ho
    · rw [List.mem_singleton.mp ho]
      exact ⟨_, own⟩

end Reached

/-! ### Posting and listing -/

namespace Http

variable {node : Node} {stored : List StoredMessage} {contact : Contact}

theorem serve_post (hf : node.contacts.find? contact.id = some contact) (now : Timestamp) (text : MessageText)
    (origins : Origins) {post : Request} (method : post.method = "POST")
    (target : post.target = conversationTarget contact.id) (body : post.body = writeBody text.text) :
    ((serve origins node now post).1.status = 200 ∧ (serve origins node now post).1.body =
      ((Archive.outgoing (node.nextMessage contact now text)).header.record contact.id (some text.text)).toJson.text) ∧
      (serve origins node now post).2 = node.afterWrite contact now text := by
  have size : post.body.length ≤ maxBodySize := by
    have most := Draft.length_writeBody_le text.text
    have le := text.size_le
    rw [body, maxBodySize]
    rw [maxMessageSize] at le
    omega
  have plan := plan_postConversation method target size
  have other : post.method ≠ "HEAD" := method.trans_ne (by decide)
  rw [body] at plan
  have held := Controller.hold_writeMessage hf now text
  refine ⟨serve_hold_json plan other (congrArg Prod.fst held) origins, ?_⟩
  rw [serve_hold plan other]
  exact congrArg Prod.snd held

/-- The latest time of a conversation to which a message was written is the time of this message. -/
theorem latest_afterWrite (node : Node) (contact : Contact) (now : Timestamp) (text : MessageText) :
    ((node.afterWrite contact now text).archive.count contact.group).latest =
      (node.nextMessage contact now text).timestamp := by
  rw [Archive.count, Node.headers_afterWrite, if_pos rfl, MessageCount.ofHeaders_append, MessageCount.add,
    Timestamp.latest_eq_max]
  exact max_eq_right (MessageCount.latest_le_nextTime _ _)

/-- The records of the conversation with a contact, in the order of their times. -/
def conversationRecords (node : Node) (contact : Contact) : List Json :=
  ((Listing.inOrder (node.archive.headers contact.group)).map node.loaded).map fun item =>
    (item.header.record contact.id item.text?).toJson

section Lists

variable {now : Timestamp} {text : MessageText} {get : Request} (h : Reached node stored)
  (hc : contact ∈ node.contacts.contacts) (hash : Set.InjOn Sha256.digest
    (hashedForMessages (stored ++ [Archive.outgoing (node.nextMessage contact now text)])))
  (method : get.method = "GET")

include h hc hash method

/-- The response with the list of the conversation to which a message was written. -/
theorem serve_list_extended (target : get.target = conversationTarget contact.id) (origins : Origins)
    (earlier later : Timestamp) :
    let header := (Archive.outgoing (node.nextMessage contact now text)).header
    let record := (header.record contact.id (some text.text)).toJson
    ((serve origins node earlier get).1.status = 200 ∧
        (serve origins node earlier get).1.body = (Json.array (conversationRecords node contact)).text) ∧
      (serve origins (node.afterWrite contact now text) later get).1.status = 200 ∧
        (serve origins (node.afterWrite contact now text) later get).1.body =
          (Json.array (conversationRecords node contact ++ [record])).text := by
  intro header record
  obtain ⟨before, after⟩ := h.messages_extended hash hc earlier later
  have plan := plan_getConversation method target
  have other : get.method ≠ "HEAD" := method.trans_ne (by decide)
  refine ⟨serve_hold_json plan other (by rw [Controller.hold_listMessages, before]; rfl) origins, ?_⟩
  have extended : ((node.afterWrite contact now text).hold later
      (Controller.listMessages (contactContext contact.id.display))).1 =
      (contactContext contact.id.display).json (Json.array (conversationRecords node contact ++ [record])) := by
    rw [Controller.hold_listMessages, after]
    show Context.json _ (Controller.messageRecords _) = _
    rw [Controller.messageRecords, List.map_append]
    rfl
  exact serve_hold_json plan other extended origins

/-- The response with the list of another conversation. -/
theorem serve_list_kept (groups : Set.InjOn Sha256.digest (hashedForGroups node.contacts.contacts)) {id : ContactId}
    (hid : id ≠ contact.id) (target : get.target = conversationTarget id) (origins : Origins)
    (earlier later : Timestamp) :
    (serve origins (node.afterWrite contact now text) later get).1 = (serve origins node earlier get).1 := by
  have separate : ∀ c, node.contacts.find? id = some c → c.group ≠ contact.group := by
    intro c hf same
    obtain ⟨hm, rfl⟩ := AddressBook.find?_inv hf
    exact hid (congrArg Contact.id (h.sound.eq_of_group groups hm hc same))
  have plan := plan_getConversation method target
  have other : get.method ≠ "HEAD" := method.trans_ne (by decide)
  rw [serve_hold plan other, serve_hold plan other, Controller.hold_listMessages, Controller.hold_listMessages,
    h.messages_kept hash separate earlier later]

end Lists

/-- The response with the contacts of a sound address book. -/
theorem serve_contacts (h : node.contacts.Sound) {get : Request} (method : get.method = "GET")
    (target : get.target = contactsTarget) (origins : Origins) (now : Timestamp) :
    (serve origins node now get).1.status = 200 ∧
      (serve origins node now get).1.body = (Json.array (node.contacts.contacts.map fun c =>
        (c.record (node.archive.count c.group).latest).toJson)).text := by
  have other : get.method ≠ "HEAD" := method.trans_ne (by decide)
  exact serve_hold_json (plan_getContacts method target) other (Controller.hold_listContacts h now _) origins

/-- The latest activities of the contacts after a message was written to one of them. -/
theorem latest_kept (h : Reached node stored) (hc : contact ∈ node.contacts.contacts)
    (groups : Set.InjOn Sha256.digest (hashedForGroups node.contacts.contacts)) (now : Timestamp) (text : MessageText)
    {c : Contact} (hm : c ∈ node.contacts.contacts) :
    ((node.afterWrite contact now text).archive.count c.group).latest =
      if c = contact then (node.nextMessage contact now text).timestamp else (node.archive.count c.group).latest := by
  by_cases same : c = contact
  · rw [if_pos same, same]
    exact latest_afterWrite node contact now text
  · have apart : c.group ≠ contact.group := fun e => same (h.sound.eq_of_group groups hm hc e)
    rw [if_neg same, Archive.count, Node.headers_afterWrite, if_neg apart]
    rfl

/-- A text that is posted to a contact is answered with the record of its message, which has this text, the number
of the contact, and for time the current one or, if that is later, the successor of the latest time of the
conversation. A request for the list of the conversation then gives the list that it gave before with this record
at its end. The lists of all other conversations are the same as before, and so is the list of contacts, except
that the latest activity in the record of the contact is the time of the message. -/
theorem listed_after_write (h : Reached node stored) (admitted : contact ∈ node.contacts.contacts) (now : Timestamp)
    (text : MessageText)
    (hash : Set.InjOn Sha256.digest
      (hashedForMessages (stored ++ [Archive.outgoing (node.nextMessage contact now text)]) ∪
        hashedForGroups node.contacts.contacts))
    (origins : Origins) (headers : List (String × Bytes)) :
    let post : Request := ⟨"POST", conversationTarget contact.id, headers, writeBody text.text⟩
    let response := (serve origins node now post).1
    let next := (serve origins node now post).2
    let latest := ((node.archive.headers contact.group).map (·.timestamp)).foldl max Timestamp.none
    let activity := fun c : Contact => (node.archive.count c.group).latest
    ∃ (header : MessageHeader) (items : List Json),
      let record := header.record contact.id (some text.text)
      let listed := fun c : Contact => c.record (activity c)
      let relisted := fun c : Contact => c.record (if c = contact then header.timestamp else activity c)
      -- the response and its record
      (response.status = 200 ∧ response.body = (Json.object record.entries).text ∧
        header.timestamp = max now latest.next) ∧
      (record.get? "text" = some (.string text.text) ∧ record.get? "contactId" = some (.number contact.id.value) ∧
        record.get? "timestamp" = some (.number (max now latest.next).millis.toInt)) ∧
      -- the records of the contacts before and after
      (∀ c ∈ node.contacts.contacts, (listed c).get? "contactId" = some (.number c.id.value) ∧
        (c ≠ contact → relisted c = listed c)) ∧
      ((relisted contact).keys = (listed contact).keys ∧ ∀ name, (relisted contact).get? name =
        if name = "lastChatActivity" then some (.number (max now latest.next).millis.toInt)
        else (listed contact).get? name) ∧
      -- the lists before and after
      ∀ (get : Request) (origins : Origins) (earlier later : Timestamp), get.method = "GET" →
        let before := (serve origins node earlier get).1
        let after := (serve origins next later get).1
        (get.target = conversationTarget contact.id →
          (before.status = 200 ∧ before.body = (Json.array items).text) ∧
            after.status = 200 ∧ after.body = (Json.array (items ++ [.object record.entries])).text) ∧
        (∀ id, id ≠ contact.id → get.target = conversationTarget id → after = before) ∧
        (get.target = contactsTarget →
          (before.status = 200 ∧ before.body =
            (Json.array (node.contacts.contacts.map fun c => .object (listed c).entries)).text) ∧
            after.status = 200 ∧ after.body =
              (Json.array (node.contacts.contacts.map fun c => .object (relisted c).entries)).text) := by
  intro post response next latest activity
  have hf := h.sound.find?_of_mem admitted
  obtain ⟨answered, changed⟩ := serve_post hf now text origins (show post.method = "POST" from rfl) rfl rfl
  have next_eq : next = node.afterWrite contact now text := changed
  have hashMessages := hash.mono Set.subset_union_left
  have hashGroups := hash.mono Set.subset_union_right
  let header := (Archive.outgoing (node.nextMessage contact now text)).header
  have time : header.timestamp = max now latest.next := by
    show (node.archive.count contact.group).nextTime now = _
    rw [MessageCount.nextTime_eq_max, Archive.count, MessageCount.latest_eq]
  have shown := header.shows_record contact.id (some text.text)
  refine ⟨header, conversationRecords node contact, ⟨answered.1, answered.2, time⟩,
    ⟨shown.text, shown.contactId, time ▸ shown.timestamp⟩, fun c _ => ⟨(c.shows_record _).contactId, fun other => ?_⟩,
    ⟨contact.keys_record _ _, fun name => ?_⟩, ?_⟩
  · simp only [if_neg other]
  · simp only [if_true, ← time]
    exact contact.get?_record_later _ _ name
  · intro get origins earlier later method before after
    refine ⟨?_, ?_, ?_⟩
    · intro target
      have listed := serve_list_extended h admitted hashMessages method target origins earlier later
      rw [← next_eq] at listed
      exact listed
    · intro id hid target
      have kept := serve_list_kept h admitted hashMessages method hashGroups hid target origins earlier later
      rw [← next_eq] at kept
      exact kept
    · intro target
      refine ⟨serve_contacts h.sound method target origins earlier, ?_⟩
      have sound : (node.afterWrite contact now text).contacts.Sound := h.sound
      have listed := serve_contacts sound method target origins later
      rw [← next_eq] at listed
      refine ⟨listed.1, listed.2.trans ?_⟩
      rw [next_eq]
      congr 2
      exact List.map_congr_left fun c hm => by rw [latest_kept h admitted hashGroups now text hm]; rfl

/-! The text of an earlier message is posted again, to a node in which one message was received and two were
sent. -/

/-- The contact of the node in the run of `Node.echoCommands`. -/
def echoContact : Contact :=
  ⟨.first, Node.plainAuthor "Ann" 2, Node.plainNode.localAuthor.id, none, none, true⟩

theorem listed_after_echo :
    let node := (Node.plainNode.performAll Node.echoCommands).2
    let post : Request := ⟨"POST", conversationTarget echoContact.id, [], writeBody "Hi"⟩
    let next := (serve .any node ⟨3⟩ post).2
    (∃ header : MessageHeader, header.timestamp = ⟨7⟩ ∧
      let record := header.record echoContact.id (some "Hi")
      (serve .any node ⟨3⟩ post).1.body = (Json.object record.entries).text ∧
        record.get? "text" = some (.string "Hi") ∧ record.get? "contactId" = some (.number 1) ∧
        record.get? "timestamp" = some (.number 7)) ∧
    ∃ relisted : Record, relisted.get? "lastChatActivity" = some (.number 7) ∧
      (serve .any next ⟨3⟩ ⟨"GET", contactsTarget, [], []⟩).1.body =
        (Json.array [.object relisted.entries]).text := by
  have reached : Reached (Node.plainNode.performAll Node.echoCommands).2
      (storedIn (Node.plainNode.performAll Node.echoCommands).1) :=
    (Reached.start (Node.plainAuthor "Me" 1) ⟨16, 0, [], [], 0⟩).performAll Node.echoCommands
  have admitted : echoContact ∈ (Node.plainNode.performAll Node.echoCommands).2.contacts.contacts := by decide +kernel
  let hi : MessageText := ⟨"Hi", by decide, by decide⟩
  have hash : Set.InjOn Sha256.digest
      (hashedForMessages (storedIn (Node.plainNode.performAll Node.echoCommands).1 ++
          [Archive.outgoing ((Node.plainNode.performAll Node.echoCommands).2.nextMessage echoContact ⟨3⟩ hi)]) ∪
        hashedForGroups (Node.plainNode.performAll Node.echoCommands).2.contacts.contacts) := by
    refine injOn_digest ?_ fun _ => mem_of_hashed
    decide +kernel
  have only : (Node.plainNode.performAll Node.echoCommands).2.contacts.contacts = [echoContact] := by decide +kernel
  obtain ⟨header, items, ⟨status, body, time⟩, ⟨content, number, shown⟩, -, ⟨-, relisted⟩, lists⟩ :=
    listed_after_write reached admitted ⟨3⟩ hi hash .any []
  have seven : max (⟨3⟩ : Timestamp) ((((Node.plainNode.performAll Node.echoCommands).2.archive.headers
      echoContact.group).map (·.timestamp)).foldl max Timestamp.none).next = ⟨7⟩ := by decide +kernel
  have written := congrArg (fun time : Timestamp => some (Json.number time.millis.toInt)) seven
  refine ⟨⟨header, time.trans seven, body, content, number, shown.trans written⟩, _,
    (relisted "lastChatActivity").trans ((if_pos rfl).trans written),
    ((lists ⟨"GET", contactsTarget, [], []⟩ .any ⟨0⟩ ⟨3⟩ rfl).2.2 rfl).2.2.trans ?_⟩
  rw [only]
  rfl

end Http

end PeerPost
