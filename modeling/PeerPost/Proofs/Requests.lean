import PeerPost.Http.Router
import PeerPost.Proofs.Dialogues

/-! # What requests do to a node

A request is answered at once, or by a listing, which sends nothing, or by a write. So the only requests
that change a node are those that write a message and are answered with status 200, and they change it by
that message. -/

namespace PeerPost.Http

variable {node : Node} {now : Timestamp} {request : Request}

/-! ### Statuses -/

theorem Context.status_toResponse (ctx : Context) : ctx.toResponse.status = ctx.status := by
  unfold toResponse
  cases ctx.response? <;> rfl

theorem status_dress (origins : Origins) (request : Request) (response : Response) :
    (origins.dress request response).status = response.status := by
  unfold Origins.dress
  cases origins.admit? request <;> rfl

theorem status_serve (origins : Origins) (node : Node) (now : Timestamp) (request : Request) :
    (serve origins node now request).1.status = ((plan request).carryOut node now).1.status := by
  have dressed := status_dress origins request ((plan request).carryOut node now).1.withSize
  by_cases head : request.method = "HEAD"
  · simp only [serve, head, if_true]
    exact dressed
  · simp only [serve, head, if_false]
    exact dressed

/-! ### Plans -/

/-- The messages that carrying out a plan stores. -/
def Plan.stored (node : Node) (now : Timestamp) : Plan → List StoredMessage
  | .respond _ => []
  | .hold dialogue => node.storedBy now dialogue

/-- A request changes a node by the messages that carrying out its plan stores. -/
theorem node_serve (origins : Origins) (node : Node) (now : Timestamp) (request : Request) :
    (serve origins node now request).2 =
      { node with archive := ((plan request).stored node now).foldl Archive.store node.archive } := by
  show ((plan request).carryOut node now).2 = _
  cases plan request with
  | respond response => rfl
  | hold dialogue => exact Node.hold_node node now dialogue

theorem Plan.stored_identified (p : Plan) (node : Node) (now : Timestamp) : ∀ m ∈ p.stored node now, m.Identified := by
  cases p with
  | respond response => exact fun m hm => nomatch hm
  | hold dialogue => exact Node.storedBy_identified

/-- A request to write a message: a POST on the route of a conversation. -/
def Request.AsksToWrite (request : Request) : Prop :=
  request.method = "POST" ∧ ∃ segment, request.route? = some (.conversation segment)

theorem reads_listContacts (ctx : Context) : (Controller.listContacts ctx).Reads := by
  refine Listing.contacts_reads.bind fun result => ?_
  cases result with
  | ok items => exact .done _
  | error e => exact .done _

theorem reads_listMessages (ctx : Context) : (Controller.listMessages ctx).Reads := by
  unfold Controller.listMessages
  split
  · exact .done _
  · refine (Listing.messages_reads _).bind fun result => ?_
    cases result with
    | ok list => exact .done _
    | error e => exact .done _

/-- The kinds of plans: to respond at once, which is no success of a write; to hold a dialogue that sends
nothing; and to write. -/
inductive Request.Plans (request : Request) : Plan → Prop
  | respond {response : Response} (failed : request.AsksToWrite → response.status ≠ 200) :
      request.Plans (.respond response)
  | read {dialogue : Dialogue Context} (reads : dialogue.Reads) (quiet : ¬request.AsksToWrite) :
      request.Plans (.hold dialogue)
  | write {segment : List Char} {contactId : String} (post : request.method = "POST")
      (route : request.route? = some (.conversation segment)) (named : segmentText? segment = some contactId) :
      request.Plans (.hold (Controller.writeMessage ((contactContext contactId).withBody request.body)))

theorem plans_read {route : Route} (reads : request.method = "GET" ∨ request.method = "HEAD") :
    request.Plans (planRoute request route) := by
  have quiet : ¬request.AsksToWrite := by
    rintro ⟨post, -⟩
    rw [post] at reads
    exact absurd reads (by decide)
  cases route with
  | contacts =>
    simp only [planRoute, reads, if_true]
    exact .read (reads_listContacts _) quiet
  | events => exact .respond fun asks => absurd asks quiet
  | conversation segment =>
    simp only [planRoute, reads, if_true]
    split
    · exact .respond fun asks => absurd asks quiet
    · exact .read (reads_listMessages _) quiet

theorem plans_other {route : Route} (hr : request.route? = some route)
    (reads : ¬(request.method = "GET" ∨ request.method = "HEAD")) : request.Plans (planRoute request route) := by
  cases route with
  | contacts =>
    simp only [planRoute, reads, if_false]
    exact .respond fun _ => by decide
  | events =>
    simp only [planRoute, reads, if_false]
    exact .respond fun _ => by decide
  | conversation segment =>
    simp only [planRoute, reads, if_false]
    split
    · next post =>
      split
      · exact .respond fun _ => by decide
      · next named =>
        split
        · exact .respond fun _ => by decide
        · exact .write post hr named
    · next other => exact .respond fun asks => absurd asks.1 other

theorem plans (request : Request) : request.Plans (plan request) := by
  unfold plan
  split
  · next options =>
    refine .respond fun asks => ?_
    rw [asks.1] at options
    exact absurd options (by decide)
  · split
    · next route hr =>
      by_cases reads : request.method = "GET" ∨ request.method = "HEAD"
      · exact plans_read reads
      · exact plans_other hr reads
    · exact .respond fun _ => by decide

/-! ### Writing -/

namespace Controller

/-- The contact number that a context for a contact names is that of the path. -/
theorem contactId_contactContext {name : String} {id : ContactId} :
    contactId (contactContext name) = .ok id ↔ ContactId.ofText name = .ok id := by
  have param : (contactContext name).param? contactParam = some name := by
    simp [contactContext, Context.param?, Context.withParam]
  simp only [contactId, param]
  cases ContactId.ofText name with
  | ok other => simp
  | error e => simp

theorem status_failWriting (ctx : Context) (e : WriteError) : (failWriting ctx e).status ≠ 200 := by
  cases e <;> exact of_decide_eq_false rfl

/-- A write of a context holds the dialogue of its handler, where the context names a contact number and a
text, and fails otherwise. -/
theorem writeMessage_inv (ctx : Context) :
    (∃ id text, contactId ctx = .ok id ∧ ctx.draft? = some ⟨some text⟩ ∧
        writeMessage ctx = (Writing.write id text).bind fun
          | .ok written => .done (ctx.json (written.header.record written.contactId (some written.text.text)).toJson)
          | .error e => .done (failWriting ctx e)) ∨
      ∃ failure, writeMessage ctx = .done (ctx.fail 400 failure) := by
  unfold writeMessage
  split
  · exact Or.inr ⟨_, rfl⟩
  · next id hid =>
    split
    · exact Or.inr ⟨_, rfl⟩
    · exact Or.inr ⟨_, rfl⟩
    · next text hd => exact Or.inl ⟨id, text, hid, hd, rfl⟩

/-- What carrying out a write of a context did: it stored the message that the context asks for and
responded with the record of it, or it failed and changed nothing. -/
theorem hold_writeMessage_inv (node : Node) (now : Timestamp) (ctx : Context) :
    (∃ id contact checked, contactId ctx = .ok id ∧ node.contacts.find? id = some contact ∧
        ctx.draft? = some ⟨some checked.text⟩ ∧
        let message := Archive.outgoing (node.nextMessage contact now checked)
        node.hold now (writeMessage ctx) = (ctx.json (message.header.record id (some checked.text)).toJson,
          { node with archive := node.archive.store message })) ∨
      ∃ failed, failed.status ≠ 200 ∧ node.hold now (writeMessage ctx) = (failed, node) := by
  rcases writeMessage_inv ctx with ⟨id, text, hid, hd, hw⟩ | ⟨failure, hw⟩
  · rw [hw, Node.hold_bind]
    cases hc : node.contacts.find? id with
    | none =>
      rw [Node.hold_write_unknown hc]
      exact Or.inr ⟨_, status_failWriting ctx _, rfl⟩
    | some contact =>
      cases ht : MessageText.ofString text with
      | error e =>
        rw [Node.hold_write_invalid hc ht]
        exact Or.inr ⟨_, status_failWriting ctx _, rfl⟩
      | ok checked =>
        rw [Node.hold_write hc ht]
        refine Or.inl ⟨id, contact, checked, hid, hc, ?_, rfl⟩
        rw [MessageText.text_of_ofString ht]
        exact hd
  · rw [hw]
    exact Or.inr ⟨ctx.fail 400 failure, of_decide_eq_false rfl, rfl⟩

end Controller

/-! ### What a request changes -/

/-- Only a successful write changes a node. Whatever the request is, the node stays as it was unless the
request is a POST on the route of a conversation and is answered with status 200. In that case one header
is added to the group of the contact that the request names, its identifier gets the text that the request
has, and everything else stays as it was. -/
theorem serve_changes_only_by_write (origins : Origins) (node : Node) (now : Timestamp) (request : Request) :
    let response := (serve origins node now request).1
    let next := (serve origins node now request).2
    let written := request.method = "POST" ∧ (∃ segment, request.route? = some (.conversation segment)) ∧
      response.status = 200
    (¬written → next = node) ∧
      (written → ∃ segment name id contact text header,
        (request.route? = some (.conversation segment) ∧ segmentText? segment = some name ∧
          ContactId.ofText name = .ok id ∧ node.contacts.find? id = some contact ∧
          Draft.decode? request.body = some ⟨some text⟩) ∧
        (header.groupId = contact.group ∧ header.isLocal = true ∧ header.read = true ∧ header.sent = true ∧
          header.seen = false) ∧
        (∀ group, next.archive.headers group =
          if group = contact.group then node.archive.headers group ++ [header] else node.archive.headers group) ∧
        (∀ mid, next.archive.text? mid = if mid = header.id then some text else node.archive.text? mid) ∧
        next.localAuthor = node.localAuthor ∧ next.contacts = node.contacts ∧ next.events = node.events ∧
        next.journals = node.journals) := by
  intro response next written
  have status : response.status = ((plan request).carryOut node now).1.status := status_serve _ _ _ _
  have after : next = ((plan request).carryOut node now).2 := rfl
  have planned := plans request
  generalize plan request = p at status after planned
  cases planned with
  | respond failed =>
    refine ⟨fun _ => after, fun w => ?_⟩
    exact absurd (status.symm.trans w.2.2) (failed ⟨w.1, w.2.1⟩)
  | read reads quiet =>
    refine ⟨fun _ => after.trans (Node.hold_reads reads), fun w => ?_⟩
    exact absurd ⟨w.1, w.2.1⟩ quiet
  | @write segment name post route named =>
    rcases Controller.hold_writeMessage_inv node now ((contactContext name).withBody request.body) with
      ⟨id, contact, checked, hid, hc, hd, hw⟩ | ⟨failed, hf, hw⟩
    · -- The write succeeded.
      rw [Plan.carryOut, hw] at status after
      refine ⟨fun h => absurd ⟨post, ⟨segment, route⟩, status⟩ h, fun _ => ?_⟩
      refine ⟨segment, name, id, contact, checked.text,
        (Archive.outgoing (node.nextMessage contact now checked)).header,
        ⟨route, named, Controller.contactId_contactContext.mp hid, hc, hd⟩, ⟨rfl, rfl, rfl, rfl, rfl⟩, ?_, ?_, ?_⟩
      · intro group
        rw [after]
        exact Archive.headers_store _ _ _
      · intro mid
        rw [after]
        exact Archive.text?_store _ _ _
      · rw [after]
        exact ⟨rfl, rfl, rfl, rfl⟩
    · -- The write failed.
      rw [Plan.carryOut, hw] at status after
      refine ⟨fun _ => after, fun w => ?_⟩
      exact absurd ((Context.status_toResponse failed).symm.trans (status.symm.trans w.2.2)) hf

end PeerPost.Http
