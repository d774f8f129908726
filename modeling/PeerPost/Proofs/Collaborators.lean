import PeerPost.Proofs.Conversations
import PeerPost.Proofs.Numerals

/-! # Writing with any collaborators

Collaborators may answer every call as they like: with any value, with any failure, and differently each time.
`Dialogue.Ends` says which calls a dialogue makes with them and what it ends with. A write ends with the response
to the first thing that is wrong, and makes no call after it, except that it ends the turn that it has. -/

namespace PeerPost

namespace Dialogue

variable {α β σ : Type} {answer : (c : Call) → σ → c.Answer × σ} {s s' : σ}

theorem calls_bind (answer : (c : Call) → σ → c.Answer × σ) (k : α → Dialogue β) (d : Dialogue α) (s : σ) :
    (d.bind k).calls answer s = d.calls answer s ++ (k (d.run answer s).1).calls answer (d.run answer s).2 := by
  induction d generalizing s with
  | done a => rfl
  | ask call next ih => exact congrArg (call :: ·) (ih _ _)

/-- With these collaborators, which are in this state, a dialogue makes these calls and ends with this result. -/
structure Ends (answer : (c : Call) → σ → c.Answer × σ) (d : Dialogue α) (s : σ) (made : List Call) (result : α) :
    Prop where
  calls : d.calls answer s = made
  result : (d.run answer s).1 = result

theorem ends_done (a : α) (s : σ) : (done a).Ends answer s [] a := ⟨rfl, rfl⟩

theorem ends_ask {call : Call} {next : call.Answer → Dialogue α} {a : call.Answer} {made : List Call} {result : α}
    (answered : answer call s = (a, s')) (rest : (next a).Ends answer s' made result) :
    (ask call next).Ends answer s (call :: made) result where
  calls := by rw [Dialogue.calls, answered, rest.calls]
  result := by rw [run, answered, rest.result]

theorem Ends.bind {d : Dialogue α} {made : List Call} {a : α} {k : α → Dialogue β} {b : β}
    (h : d.Ends answer s made a) (last : k a = done b) : (d.bind k).Ends answer s made b where
  calls := by rw [calls_bind, h.result, last, h.calls, Dialogue.calls, List.append_nil]
  result := by rw [run_bind, h.result, last, run]

end Dialogue

open Dialogue

/-! ### The stages of a write -/

namespace Writing

variable {σ : Type} {answer : (c : Call) → σ → c.Answer × σ} {s s' : σ} {id : ContactId} {text : String}
  {contact : Contact} {checked : MessageText} {group : GroupId} {made : List Call}
  {result : Except WriteError WrittenMessage}

theorem ends_finish (group : GroupId) (result : Except WriteError WrittenMessage) (s : σ) :
    (finish group result).Ends answer s [.endTurn group] result := ⟨rfl, rfl⟩

theorem ends_write_error {e : DomainError} (looked : answer (.contact id) s = (.error e, s')) :
    (write id text).Ends answer s [.contact id]
      (.error (if e.code.isNotFound then .contactNotFound id else .collaborator e)) :=
  ends_ask looked (ends_done _ _)

theorem ends_write_invalid {e : ValidationError} (looked : answer (.contact id) s = (.ok contact, s'))
    (invalid : MessageText.ofString text = .error e) :
    (write id text).Ends answer s [.contact id] (.error (.invalidText e)) := by
  refine ends_ask looked ?_
  simp only [invalid]
  exact ends_done _ _

theorem ends_write_valid (looked : answer (.contact id) s = (.ok contact, s'))
    (valid : MessageText.ofString text = .ok checked) (rest : (toContact contact checked).Ends answer s' made result) :
    (write id text).Ends answer s (.contact id :: made) result := by
  refine ends_ask looked ?_
  simp only [valid]
  exact rest

theorem ends_toContact (named : answer (.group contact) s = (.ok group, s'))
    (rest : (inTurn contact group checked).Ends answer (answer (.takeTurn group) s').2 made result) :
    (toContact contact checked).Ends answer s (.group contact :: .takeTurn group :: made) result :=
  ends_ask named (ends_ask rfl rest)

theorem ends_inTurn {count : MessageCount} (counted : answer (.count contact.id) s = (.ok count, s'))
    (rest : (send contact ⟨group, count.nextTime (answer .now s').1, checked⟩).Ends answer (answer .now s').2 made
      result) :
    (inTurn contact group checked).Ends answer s (.count contact.id :: .now :: made) result :=
  ends_ask counted (ends_ask rfl rest)

end Writing

theorem ErrorCode.isNotFound_iff {code : ErrorCode} :
    code.isNotFound = true ↔ code = .contactNotFound ∨ code = .messageNotFound := by
  cases code <;> simp [isNotFound]

theorem MessageText.ofString_of_empty {text : String} (h : Text.size text = 0) :
    ofString text = .error (.emptyField "text") := by
  rw [ofString, dif_pos h]

theorem MessageText.ofString_of_long {text : String} (h : maxMessageSize < Text.size text) :
    ofString text = .error (.tooLong "text" maxMessageSize (Text.size text)) := by
  rw [ofString, dif_neg (by omega), dif_neg (by omega)]

theorem ValidationError.message_tooLong (size : Nat) : (tooLong "text" maxMessageSize size).message =
    "Field 'text' exceeds 31744 bytes (got " ++ toString size ++ ")" := by
  have start : "Field '" ++ "text" ++ "' exceeds " ++ String.ofList (Decimal.digits maxMessageSize) ++ " bytes (got " =
      "Field 'text' exceeds 31744 bytes (got " := by decide +kernel
  rw [message, start, Decimal.toString_eq]

namespace Http.Controller

variable {σ : Type} {answer : (c : Call) → σ → c.Answer × σ} {s : σ} {ctx : Context} {id : ContactId} {text : String}
  {made : List Call}

theorem ends_writeMessage_unnamed {failure : Failure} (unnamed : contactId ctx = .error failure) :
    (writeMessage ctx).Ends answer s [] (ctx.fail 400 failure) := by
  rw [writeMessage, unnamed]
  exact ends_done _ _

theorem contactId_of_ofText {name : String} (named : ctx.param? contactParam = some name)
    (number : ContactId.ofText name = .ok id) : contactId ctx = .ok id := by
  simp only [contactId, named, number]

/-- A context with the response to a write that came to this. -/
def answerWrite (ctx : Context) : Except WriteError WrittenMessage → Context
  | .ok written => ctx.json (written.header.record written.contactId (some written.text.text)).toJson
  | .error e => failWriting ctx e

theorem ends_writeMessage {result : Except WriteError WrittenMessage} (named : contactId ctx = .ok id)
    (draft : ctx.draft? = some ⟨some text⟩) (h : (Writing.write id text).Ends answer s made result) :
    (writeMessage ctx).Ends answer s made (answerWrite ctx result) := by
  simp only [writeMessage, named, draft]
  refine h.bind ?_
  cases result <;> rfl

/-- A write is answered by the first check that fails, with its code and message, and by the record of its message if
none fails. The checks are made in this order: the number of the contact, the body, the look-up of the contact, the
size of the text, its group, the counters, and the sending. No collaborator is called after the one that fails; only a
turn that was taken is ended. -/
theorem write_answered_by_first_failure {σ : Type} (answer : (c : Call) → σ → c.Answer × σ) (s : σ) (ctx : Context) :
    let fails := fun (made : List Call) (status : Nat) (code message : String) =>
      let body := (⟨code, message, none⟩ : Failure).record
      (writeMessage ctx).Ends answer s made { ctx with status := status, response? := some (.object body.entries) } ∧
        body.ShowsFailure code message
    (ctx.param? contactParam = none → fails [] 400 "BAD_REQUEST" "Missing contactId") ∧
    ∀ name, ctx.param? contactParam = some name →
      (∀ e, ContactId.ofText name = .error e → fails [] 400 "BAD_REQUEST" ("Invalid contactId: " ++ e.message)) ∧
      ∀ id, ContactId.ofText name = .ok id →
        (Draft.decode? ctx.body = none → fails [] 400 "BAD_REQUEST" "Malformed JSON body") ∧
        (Draft.decode? ctx.body = some ⟨none⟩ → fails [] 400 "BAD_REQUEST" "Expected text") ∧
        ∀ text, Draft.decode? ctx.body = some ⟨some text⟩ →
          (∀ e s₁, answer (.contact id) s = (.error e, s₁) →
            (e.code = .contactNotFound ∨ e.code = .messageNotFound →
              fails [.contact id] 404 "NOT_FOUND" ("Contact not found: " ++ toString id.value)) ∧
            (¬(e.code = .contactNotFound ∨ e.code = .messageNotFound) →
              fails [.contact id] 500 "INTERNAL_ERROR" e.message)) ∧
          ∀ contact s₁, answer (.contact id) s = (.ok contact, s₁) →
            (Text.size text = 0 → fails [.contact id] 400 "BAD_REQUEST" "Field 'text' cannot be empty") ∧
            (31744 < Text.size text → fails [.contact id] 400 "BAD_REQUEST"
              ("Field 'text' exceeds 31744 bytes (got " ++ toString (Text.size text) ++ ")")) ∧
            (0 < Text.size text → Text.size text ≤ 31744 → ∃ checked : MessageText, checked.text = text ∧
              (∀ e s₂, answer (.group contact) s₁ = (.error e, s₂) →
                fails [.contact id, .group contact] 500 "INTERNAL_ERROR" e.message) ∧
              ∀ group s₂, answer (.group contact) s₁ = (.ok group, s₂) →
                let s₃ := (answer (.takeTurn group) s₂).2
                (∀ e s₄, answer (.count contact.id) s₃ = (.error e, s₄) →
                  fails [.contact id, .group contact, .takeTurn group, .count contact.id, .endTurn group] 500
                    "INTERNAL_ERROR" e.message) ∧
                ∀ count s₄, answer (.count contact.id) s₃ = (.ok count, s₄) →
                  let message : OutgoingMessage := ⟨group, count.nextTime (answer .now s₄).1, checked⟩
                  let made := [.contact id, .group contact, .takeTurn group, .count contact.id, .now, .send message,
                    .endTurn group]
                  let s₅ := (answer .now s₄).2
                  (∀ e s₆, answer (.send message) s₅ = (.error e, s₆) → fails made 500 "INTERNAL_ERROR" e.message) ∧
                  ∀ header s₆, answer (.send message) s₅ = (.ok header, s₆) →
                    let record := header.record contact.id (some text)
                    (writeMessage ctx).Ends answer s made { ctx with
                      status := 200
                      response? := some (.object record.entries) } ∧
                      record.ShowsMessage header contact.id (some text)) := by
  intro fails
  have failed {made : List Call} {status : Nat} {code message : String}
      (h : (writeMessage ctx).Ends answer s made (ctx.fail status ⟨code, message, none⟩)) :
      fails made status code message := ⟨h, Failure.shows_record code message⟩
  refine ⟨fun missing => failed (ends_writeMessage_unnamed (by rw [contactId, missing]; rfl)),
    fun name given => ⟨fun e refused => failed (ends_writeMessage_unnamed ?_), fun id number => ?_⟩⟩
  · simp only [contactId, given, refused]
    rfl
  have named := contactId_of_ofText given number
  refine ⟨fun malformed => ?_, fun wordless => ?_, fun text draft => ⟨fun e s₁ looked => ⟨fun unknown => ?_,
    fun broken => ?_⟩, fun contact s₁ looked => ⟨fun empty => ?_, fun long => ?_, fun least most => ?_⟩⟩⟩
  · refine failed ?_
    simp only [writeMessage, named, Context.draft?, malformed]
    exact ends_done _ _
  · refine failed ?_
    simp only [writeMessage, named, Context.draft?, wordless]
    exact ends_done _ _
  · have ended := ends_writeMessage named draft (Writing.ends_write_error looked)
    rw [if_pos (ErrorCode.isNotFound_iff.mpr unknown)] at ended
    rw [← id.display_eq]
    exact failed ended
  · have ended := ends_writeMessage named draft (Writing.ends_write_error looked)
    rw [if_neg (mt ErrorCode.isNotFound_iff.mp broken)] at ended
    exact failed ended
  · exact failed (ends_writeMessage named draft
      (Writing.ends_write_invalid looked (MessageText.ofString_of_empty empty)))
  · rw [← ValidationError.message_tooLong]
    exact failed (ends_writeMessage named draft
      (Writing.ends_write_invalid looked (MessageText.ofString_of_long long)))
  -- The text is valid, so the group is asked for, then the counters and the time, and the message is sent.
  let checked : MessageText := ⟨text, by omega, most⟩
  have written {made : List Call} {result : Except WriteError WrittenMessage}
      (rest : (Writing.toContact contact checked).Ends answer s₁ made result) :=
    ends_writeMessage named draft (Writing.ends_write_valid looked (MessageText.ofString_text checked) rest)
  refine ⟨checked, rfl, fun e s₂ unnamed => failed (written (ends_ask unnamed (ends_done _ _))), fun group s₂ grouped => ?_⟩
  intro s₃
  refine ⟨fun e s₄ uncounted => ?_, fun count s₄ counted => ?_⟩
  · exact failed (written (Writing.ends_toContact grouped (ends_ask uncounted (Writing.ends_finish _ _ _))))
  intro message made s₅
  refine ⟨fun e s₆ unsent => ?_, fun header s₆ sent => ?_⟩
  · exact failed (written (Writing.ends_toContact grouped (Writing.ends_inTurn counted
      (ends_ask unsent (Writing.ends_finish _ _ _)))))
  · exact ⟨written (Writing.ends_toContact grouped (Writing.ends_inTurn counted
      (ends_ask sent (Writing.ends_finish _ _ _)))), header.shows_record contact.id (some text)⟩

end Http.Controller

end PeerPost
