import PeerPost.Proofs.Conversations
import PeerPost.Proofs.Numerals

/-! # Writing to contacts that are not there

The body of a write is read before the contact is looked up, and the size of its text is checked after that. So
a write to a number that no contact has is refused for its body if that gives no text, and for the number
whatever the text is. -/

namespace PeerPost.Http

variable {node : Node} {now : Timestamp} {request : Request} {segment : List Char} {name : String} {id : ContactId}

theorem serve_hold_fail {dialogue : Dialogue Context} (hp : plan request = .hold dialogue)
    (method : request.method ≠ "HEAD") {ctx : Context} {status : Nat} {failure : Failure}
    (h : node.hold now dialogue = (ctx.fail status failure, node)) (origins : Origins) :
    ((serve origins node now request).1.status = status ∧
      (serve origins node now request).1.body = failure.toJson.text) ∧ (serve origins node now request).2 = node := by
  rw [serve_hold hp method, h]
  exact ⟨⟨status_dress _ _ _, body_dress _ _ _⟩, rfl⟩

namespace Controller

variable {ctx : Context} (named : contactId ctx = .ok id) (unknown : node.contacts.find? id = none)

include named

theorem hold_writeMessage_malformed (draft : ctx.draft? = none) (node : Node) (now : Timestamp) :
    node.hold now (writeMessage ctx) = (ctx.fail 400 (.badRequest "Malformed JSON body"), node) := by
  simp only [writeMessage, named, draft]
  rfl

theorem hold_writeMessage_wordless (draft : ctx.draft? = some ⟨none⟩) (node : Node) (now : Timestamp) :
    node.hold now (writeMessage ctx) = (ctx.fail 400 (.badRequest "Expected text"), node) := by
  simp only [writeMessage, named, draft]
  rfl

include unknown

theorem hold_writeMessage_unknown {text : String} (draft : ctx.draft? = some ⟨some text⟩) (now : Timestamp) :
    node.hold now (writeMessage ctx) = (ctx.fail 404 (.notFound "Contact" id.display), node) := by
  simp only [writeMessage, named, draft, Node.hold_bind, Node.hold_write_unknown unknown]
  rfl

end Controller

/-- A write to a contact that is not there is answered with status 404 and the code of this exactly if its body gives a
text, of whatever size. Without a text, or with a body that is no JSON object of this form, it is answered with status
400 and the code of that. The node stays as it was. -/
theorem unknown_refused_after_body (post : request.method = "POST")
    (route : request.route? = some (.conversation segment)) (given : segmentText? segment = some name)
    (number : ContactId.ofText name = .ok id) (unknown : node.contacts.find? id = none)
    (size : request.body.length ≤ maxBodySize) (origins : Origins) (now : Timestamp) :
    let response := (serve origins node now request).1
    let refused := fun (status : Nat) (code message : String) =>
      let body := (⟨code, message, none⟩ : Failure).record
      (response.status = status ∧ response.body = (Json.object body.entries).text) ∧ body.ShowsFailure code message
    (serve origins node now request).2 = node ∧
      (response.status = 404 ↔ ∃ text, Draft.decode? request.body = some ⟨some text⟩) ∧
      (∀ text, Draft.decode? request.body = some ⟨some text⟩ →
        refused 404 "NOT_FOUND" ("Contact not found: " ++ toString id.value)) ∧
      (Draft.decode? request.body = none → refused 400 "BAD_REQUEST" "Malformed JSON body") ∧
      (Draft.decode? request.body = some ⟨none⟩ → refused 400 "BAD_REQUEST" "Expected text") := by
  intro response refused
  have shown {status : Nat} {code message : String} (h : response.status = status ∧
      response.body = (⟨code, message, none⟩ : Failure).toJson.text) : refused status code message :=
    ⟨h, Failure.shows_record code message⟩
  have planned := plan_write post route given
  rw [if_neg (Nat.not_lt.mpr size)] at planned
  have other : request.method ≠ "HEAD" := post.trans_ne (by decide)
  have named : Controller.contactId ((contactContext name).withBody request.body) = .ok id :=
    Controller.contactId_contactContext.mpr number
  cases draft : Draft.decode? request.body with
  | none =>
    obtain ⟨answered, same⟩ :=
      serve_hold_fail planned other (Controller.hold_writeMessage_malformed named draft node now) origins
    have status : response.status = 400 := answered.1
    exact ⟨same, by simp [status], nofun, fun _ => shown answered, nofun⟩
  | some draft? =>
    obtain ⟨_ | text⟩ := draft?
    · obtain ⟨answered, same⟩ :=
        serve_hold_fail planned other (Controller.hold_writeMessage_wordless named draft node now) origins
      have status : response.status = 400 := answered.1
      exact ⟨same, by simp [status], nofun, nofun, fun _ => shown answered⟩
    · obtain ⟨answered, same⟩ :=
        serve_hold_fail planned other (Controller.hold_writeMessage_unknown named unknown draft now) origins
      have status : response.status = 404 := answered.1
      refine ⟨same, by simp [status], fun _ _ => ?_, nofun, nofun⟩
      rw [← id.display_eq]
      exact shown answered

/-- A text that is too short for a message is not what a write to an unknown contact is refused for. -/
theorem unknown_refused_with_empty_text :
    let id : ContactId := ⟨7, by decide, by decide⟩
    let request : Request := ⟨"POST", conversationTarget id, [], writeBody ""⟩
    (Node.plainNode.contacts.find? id = none ∧ request.body.length ≤ maxBodySize) ∧
      (serve .any Node.plainNode ⟨0⟩ request).1.status = 404 ∧
      (serve .any Node.plainNode ⟨0⟩ request).1.body =
        "\x7b\"code\":\"NOT_FOUND\",\"message\":\"Contact not found: 7\"\x7d" := by
  intro id request
  have post : request.method = "POST" := rfl
  have route : request.route? = some (.conversation (Decimal.digits id.value)) := route?_conversation rfl
  have unknown : Node.plainNode.contacts.find? id = none := rfl
  have size : request.body.length ≤ maxBodySize := by decide +kernel
  obtain ⟨-, -, refused, -⟩ := unknown_refused_after_body post route (segmentText?_display id)
    (ContactId.ofText_display id) unknown size .any ⟨0⟩
  obtain ⟨⟨status, body⟩, -⟩ := refused "" (Draft.decode?_writeBody "")
  exact ⟨⟨unknown, size⟩, status, body.trans (by decide +kernel)⟩

/-- A write without a text to a contact that is not there is refused for its body: the contact is not looked up
first. -/
theorem unknown_with_wordless_body :
    let id : ContactId := ⟨7, by decide, by decide⟩
    let request : Request := ⟨"POST", "/v1/messages/7", [], Text.utf8 "\x7b\x7d"⟩
    Reached Node.plainNode [] ∧
      (request.route? = some (.conversation ['7']) ∧ segmentText? ['7'] = some "7" ∧ ContactId.ofText "7" = .ok id ∧
        Node.plainNode.contacts.find? id = none ∧ request.body.length ≤ maxBodySize) ∧
      (serve .any Node.plainNode ⟨0⟩ request).1.status = 400 ∧
      (serve .any Node.plainNode ⟨0⟩ request).1.body =
        "\x7b\"code\":\"BAD_REQUEST\",\"message\":\"Expected text\"\x7d" := by
  refine ⟨.start _ _, ⟨by decide +kernel, by decide +kernel, by decide +kernel, rfl, by decide +kernel⟩, ?_, ?_⟩
  · decide +kernel
  · decide +kernel

end PeerPost.Http
