import PeerPost.Proofs.Collaborators
import PeerPost.Proofs.Records

/-! # Listing with any collaborators

The handlers that only read ask the collaborators for one thing after the other. Whatever these answer, the first
failure of an answer is the outcome, and without a failure the outcome is a record for each thing asked about.
Messages are asked about in the order of their times, not in the order in which their headers came
(`Chronological`). -/

namespace PeerPost

/-! ### The order of times -/

namespace Listing

variable {headers headers' sorted : List MessageHeader}

/-- These headers are put in the order of their times, and those of the same time stand as they stood. -/
structure Chronological (headers sorted : List MessageHeader) : Prop where
  perm : sorted.Perm headers
  ordered : sorted.Pairwise fun a b => a.timestamp ≤ b.timestamp
  stable : ∀ time, sorted.filter (·.timestamp = time) = headers.filter (·.timestamp = time)

theorem filter_inOrder (headers : List MessageHeader) (time : Timestamp) :
    (inOrder headers).filter (·.timestamp = time) = headers.filter (·.timestamp = time) := by
  -- Headers of the same time are in order as they stand, so sorting keeps them as a sublist.
  have same : (headers.filter (·.timestamp = time)).Pairwise fun a b => a.timestamp.notAfter b.timestamp := by
    refine List.pairwise_of_forall_mem_list fun a ha b hb => ?_
    have hat : a.timestamp = time := by simpa using (List.mem_filter.mp ha).2
    have hbt : b.timestamp = time := by simpa using (List.mem_filter.mp hb).2
    rw [Timestamp.notAfter_iff, hat, hbt]
  have kept : (headers.filter (·.timestamp = time)).Sublist (inOrder headers) :=
    List.sublist_mergeSort notAfter_trans notAfter_total same List.filter_sublist
  have filtered := kept.filter (·.timestamp = time)
  rw [List.filter_filter] at filtered
  simp only [Bool.and_self] at filtered
  exact (filtered.eq_of_length ((List.mergeSort_perm _ _).filter _).length_eq.symm).symm

theorem chronological_inOrder (headers : List MessageHeader) : Chronological headers (inOrder headers) where
  perm := List.mergeSort_perm _ _
  ordered := sorted_inOrder headers
  stable := filter_inOrder headers

theorem inOrder_eq_of_perm (perm : headers'.Perm headers) (distinct : (headers.map (·.timestamp)).Nodup) :
    inOrder headers' = inOrder headers := by
  have both : (inOrder headers').Perm (inOrder headers) :=
    ((List.mergeSort_perm _ _).trans perm).trans (List.mergeSort_perm _ _).symm
  refine both.eq_of_pairwise ?_ (sorted_inOrder headers') (sorted_inOrder headers)
  intro a b ha hb hab hba
  have ma : a ∈ headers := perm.mem_iff.mp (mem_inOrder.mp ha)
  exact List.inj_on_of_nodup_map distinct ma (mem_inOrder.mp hb) (le_antisymm hab hba)

end Listing

/-! ### Loops that stop at the first failure -/

/-- The answers to questions that are asked one after the other. -/
def answersTo {ι γ σ : Type} (ask : ι → σ → γ × σ) : List ι → σ → List γ
  | [], _ => []
  | x :: rest, s => (ask x s).1 :: answersTo ask rest (ask x s).2

theorem length_of_answersTo {ι ε γ σ : Type} {ask : ι → σ → Except ε γ × σ} {xs : List ι} {s : σ} {values : List γ}
    (given : answersTo ask xs s = values.map .ok) : values.length = xs.length := by
  have asked : (answersTo ask xs s).length = xs.length := by
    clear given
    induction xs generalizing s with
    | nil => rfl
    | cons x rest ih => exact congrArg (· + 1) ih
  rw [← asked, given, List.length_map]

theorem all_ok_or_first_error {ε α : Type} (given : List (Except ε α)) :
    (∃ values : List α, given = values.map .ok) ∨
      ∃ (before : List α) (e : ε) (later : List (Except ε α)), given = before.map .ok ++ .error e :: later := by
  induction given with
  | nil => exact Or.inl ⟨[], rfl⟩
  | cons first rest ih =>
    cases first with
    | error e => exact Or.inr ⟨[], e, rest, rfl⟩
    | ok value =>
      rcases ih with ⟨values, rfl⟩ | ⟨before, e, later, rfl⟩
      · exact Or.inl ⟨value :: values, rfl⟩
      · exact Or.inr ⟨value :: before, e, later, rfl⟩

section Loop

variable {ι γ δ τ σ : Type} {answer : (c : Call) → σ → c.Answer × σ} {ask : ι → σ → Except DomainError γ × σ}
  {loop : List ι → List δ → Dialogue (Except ListError τ)} {item : ι → γ → δ} {finish : List δ → τ}

/-- A loop asks about one thing after the other, collects what it is told, and stops at the first failure. -/
structure Loops (answer : (c : Call) → σ → c.Answer × σ) (ask : ι → σ → Except DomainError γ × σ)
    (loop : List ι → List δ → Dialogue (Except ListError τ)) (item : ι → γ → δ) (finish : List δ → τ) : Prop where
  stop : ∀ found s, ((loop [] found).run answer s).1 = .ok (finish found.reverse)
  step : ∀ x rest found s value, (ask x s).1 = .ok value →
    ((loop (x :: rest) found).run answer s).1 = ((loop rest (item x value :: found)).run answer (ask x s).2).1
  fail : ∀ x rest found s e, (ask x s).1 = .error e →
    ((loop (x :: rest) found).run answer s).1 = .error (.collaborator e)

theorem Loops.run_ok (h : Loops answer ask loop item finish) {xs : List ι} {found : List δ} {s : σ} {values : List γ}
    (given : answersTo ask xs s = values.map .ok) :
    ((loop xs found).run answer s).1 = .ok (finish (found.reverse ++ List.zipWith item xs values)) := by
  induction xs generalizing found s values with
  | nil => rw [h.stop, List.zipWith_nil_left, List.append_nil]
  | cons x rest ih =>
    cases values with
    | nil => cases given
    | cons value values =>
      obtain ⟨first, later⟩ := List.cons.inj given
      rw [h.step x rest found s value first, ih later, List.reverse_cons, List.append_assoc]
      rfl

theorem Loops.run_error (h : Loops answer ask loop item finish) {xs : List ι} {found : List δ} {s : σ}
    {before : List γ} {e : DomainError} {later : List (Except DomainError γ)}
    (given : answersTo ask xs s = before.map .ok ++ .error e :: later) :
    ((loop xs found).run answer s).1 = .error (.collaborator e) := by
  induction xs generalizing found s before with
  | nil => cases before <;> cases given
  | cons x rest ih =>
    cases before with
    | nil => exact h.fail x rest found s e (List.cons.inj given).1
    | cons value before =>
      obtain ⟨first, tail⟩ := List.cons.inj given
      rw [h.step x rest found s value first]
      exact ih tail

end Loop

namespace Listing

variable {σ : Type} (answer : (c : Call) → σ → c.Answer × σ)

/-- What is answered for the texts of these messages, one after the other. -/
def textsGiven (headers : List MessageHeader) (s : σ) : List (Except DomainError (Option String)) :=
  answersTo (fun header s => answer (.text header.id) s) headers s

/-- What is answered for the counters of these contacts, one after the other. -/
def countsGiven (contacts : List Contact) (s : σ) : List (Except DomainError MessageCount) :=
  answersTo (fun contact s => answer (.count contact.id) s) contacts s

theorem loops_loadTexts (id : ContactId) :
    Loops answer (fun (header : MessageHeader) s => answer (.text header.id) s) (loadTexts id) LoadedMessage.mk
      (MessageList.mk id) where
  stop _ _ := rfl
  step _ _ _ _ _ given := by rw [loadTexts, Dialogue.run, given]
  fail _ _ _ _ _ given := by rw [loadTexts, Dialogue.run, given, Dialogue.run]

variable {answer} in
theorem run_loadTexts_congr {answer' : (c : Call) → σ → c.Answer × σ} {id : ContactId}
    (same : ∀ i, answer' (.text i) = answer (.text i)) {headers : List MessageHeader} {loaded : List LoadedMessage}
    {s : σ} : (loadTexts id headers loaded).run answer' s = (loadTexts id headers loaded).run answer s := by
  induction headers generalizing loaded s with
  | nil => rfl
  | cons header rest ih =>
    rw [loadTexts, Dialogue.run, Dialogue.run, same]
    cases (answer (.text header.id) s).1 with
    | error e => rfl
    | ok text => exact ih

theorem loops_activities :
    Loops answer (fun (contact : Contact) s => answer (.count contact.id) s) activities
      (fun contact (count : MessageCount) => ⟨contact, count.latest⟩) id where
  stop _ _ := rfl
  step _ _ _ _ _ given := by rw [activities, Dialogue.run, given]
  fail _ _ _ _ _ given := by rw [activities, Dialogue.run, given, Dialogue.run]

end Listing

namespace Http.Controller

open Listing

variable {σ τ : Type} {answer : (c : Call) → σ → c.Answer × σ} {s s₁ s₂ : σ} {ctx : Context} {id : ContactId}
  {contact : Contact} {headers : List MessageHeader} {contacts : List Contact} {e : DomainError}

/-! ### Messages -/

/-- A context with the response to a listing that came to this. -/
def answerListing (ctx : Context) (records : τ → Json) : Except ListError τ → Context
  | .ok list => ctx.json (records list)
  | .error e => failListing ctx e

theorem run_listMessages (named : contactId ctx = .ok id) : ((listMessages ctx).run answer s).1 =
    answerListing ctx messageRecords ((messages id).run answer s).1 := by
  simp only [listMessages, named]
  rw [Dialogue.run_bind]
  cases ((messages id).run answer s).1 <;> rfl

theorem run_messages_error (looked : answer (.contact id) s = (.error e, s₁)) : ((messages id).run answer s).1 =
    .error (if e.code.isNotFound then .contactNotFound id else .collaborator e) := by
  rw [messages, Dialogue.run, looked, Dialogue.run]

theorem run_messages_headers_error (looked : answer (.contact id) s = (.ok contact, s₁))
    (read : answer (.headers contact.id) s₁ = (.error e, s₂)) :
    ((messages id).run answer s).1 = .error (.collaborator e) := by
  rw [messages, Dialogue.run, looked, Dialogue.run, read, Dialogue.run]

theorem run_messages_headers (looked : answer (.contact id) s = (.ok contact, s₁))
    (read : answer (.headers contact.id) s₁ = (.ok headers, s₂)) :
    ((messages id).run answer s).1 = ((loadTexts contact.id (inOrder headers) []).run answer s₂).1 := by
  rw [messages, Dialogue.run, looked, Dialogue.run, read]

theorem status_answerListing {records : τ → Json} {result : Except ListError τ} :
    ((answerListing ctx records result).status = 200 ↔ ∃ list, result = .ok list) ∧
      ((answerListing ctx records result).status = 404 ↔ ∃ id, result = .error (.contactNotFound id)) := by
  rcases result with (id | e) | list
  · exact ⟨⟨nofun, nofun⟩, ⟨fun _ => ⟨id, rfl⟩, fun _ => rfl⟩⟩
  · exact ⟨⟨nofun, nofun⟩, ⟨nofun, nofun⟩⟩
  · exact ⟨⟨fun _ => ⟨list, rfl⟩, fun _ => rfl⟩, ⟨nofun, nofun⟩⟩

theorem run_messages_ok_iff : (∃ list, ((messages id).run answer s).1 = .ok list) ↔
    ∃ contact s₁ headers s₂, ∃ texts : List (Option String), answer (.contact id) s = (.ok contact, s₁) ∧
      answer (.headers contact.id) s₁ = (.ok headers, s₂) ∧
      textsGiven answer (inOrder headers) s₂ = texts.map .ok := by
  constructor
  · rintro ⟨list, listed⟩
    rcases looked : answer (.contact id) s with ⟨e | contact, s₁⟩
    · cases (run_messages_error looked).symm.trans listed
    rcases read : answer (.headers contact.id) s₁ with ⟨e | headers, s₂⟩
    · cases (run_messages_headers_error looked read).symm.trans listed
    rcases all_ok_or_first_error (textsGiven answer (inOrder headers) s₂) with
      ⟨texts, given⟩ | ⟨before, e, later, given⟩
    · exact ⟨contact, s₁, headers, s₂, texts, rfl, read, given⟩
    · rw [run_messages_headers looked read, (loops_loadTexts answer contact.id).run_error given] at listed
      cases listed
  · rintro ⟨contact, s₁, headers, s₂, texts, looked, read, given⟩
    exact ⟨_, (run_messages_headers looked read).trans ((loops_loadTexts answer contact.id).run_ok given)⟩

theorem run_messages_unknown_iff : (∃ k, ((messages id).run answer s).1 = .error (.contactNotFound k)) ↔
    ∃ e s₁, answer (.contact id) s = (.error e, s₁) ∧ (e.code = .contactNotFound ∨ e.code = .messageNotFound) := by
  simp only [← ErrorCode.isNotFound_iff]
  constructor
  · rintro ⟨k, missed⟩
    rcases looked : answer (.contact id) s with ⟨e | contact, s₁⟩
    · refine ⟨e, s₁, rfl, ?_⟩
      rw [run_messages_error looked] at missed
      by_contra broken
      rw [if_neg broken] at missed
      cases missed
    rcases read : answer (.headers contact.id) s₁ with ⟨e | headers, s₂⟩
    · cases (run_messages_headers_error looked read).symm.trans missed
    rw [run_messages_headers looked read] at missed
    rcases all_ok_or_first_error (textsGiven answer (inOrder headers) s₂) with
      ⟨texts, given⟩ | ⟨before, e, later, given⟩
    · cases ((loops_loadTexts answer contact.id).run_ok given).symm.trans missed
    · cases ((loops_loadTexts answer contact.id).run_error given).symm.trans missed
  · rintro ⟨e, s₁, looked, unknown⟩
    exact ⟨id, by rw [run_messages_error looked, if_pos unknown]⟩

/-! ### Contacts -/

theorem run_listContacts : ((listContacts ctx).run answer s).1 =
    answerListing ctx contactRecords ((Listing.contacts).run answer s).1 := by
  rw [listContacts, Dialogue.run_bind]
  cases ((Listing.contacts).run answer s).1 <;> rfl

theorem run_contacts_error (asked : answer .contacts s = (.error e, s₁)) :
    ((Listing.contacts).run answer s).1 = .error (.collaborator e) := by
  rw [Listing.contacts, Dialogue.run, asked, Dialogue.run]

theorem run_contacts (asked : answer .contacts s = (.ok contacts, s₁)) :
    ((Listing.contacts).run answer s).1 = ((activities contacts []).run answer s₁).1 := by
  rw [Listing.contacts, Dialogue.run, asked]

theorem run_contacts_known (k : ContactId) : ((Listing.contacts).run answer s).1 ≠ .error (.contactNotFound k) := by
  intro missed
  rcases asked : answer .contacts s with ⟨e | contacts, s₁⟩
  · cases (run_contacts_error asked).symm.trans missed
  rw [run_contacts asked] at missed
  rcases all_ok_or_first_error (countsGiven answer contacts s₁) with ⟨counts, given⟩ | ⟨before, e, later, given⟩
  · cases ((loops_activities answer).run_ok given).symm.trans missed
  · cases ((loops_activities answer).run_error given).symm.trans missed

theorem run_contacts_ok_iff : (∃ list, ((Listing.contacts).run answer s).1 = .ok list) ↔
    ∃ contacts s₁, ∃ counts : List MessageCount, answer .contacts s = (.ok contacts, s₁) ∧
      countsGiven answer contacts s₁ = counts.map .ok := by
  constructor
  · rintro ⟨list, listed⟩
    rcases asked : answer .contacts s with ⟨e | contacts, s₁⟩
    · cases (run_contacts_error asked).symm.trans listed
    rcases all_ok_or_first_error (countsGiven answer contacts s₁) with ⟨counts, given⟩ | ⟨before, e, later, given⟩
    · exact ⟨contacts, s₁, counts, rfl, given⟩
    · rw [run_contacts asked, (loops_activities answer).run_error given] at listed
      cases listed
  · rintro ⟨contacts, s₁, counts, asked, given⟩
    exact ⟨_, (run_contacts asked).trans ((loops_activities answer).run_ok given)⟩

/-- A list of messages has the records of all of them in the order of their times, or is a failure with the message of
what failed first in that order. A list of contacts has the records of all of them as they came, or is a failure with
the message of what failed first. -/
theorem lists_answered {σ : Type} (answer : (c : Call) → σ → c.Answer × σ) (s : σ) (ctx : Context) :
    (∀ name id, ctx.param? contactParam = some name → ContactId.ofText name = .ok id →
      let final := ((listMessages ctx).run answer s).1
      let fails := fun (status : Nat) (code message : String) =>
        let body := (⟨code, message, none⟩ : Failure).record
        final = { ctx with status := status, response? := some (.object body.entries) } ∧
          body.ShowsFailure code message
      (final.status = 200 ↔ ∃ contact s₁ headers s₂, ∃ texts : List (Option String),
        answer (.contact id) s = (.ok contact, s₁) ∧ answer (.headers contact.id) s₁ = (.ok headers, s₂) ∧
          textsGiven answer (inOrder headers) s₂ = texts.map .ok) ∧
      (final.status = 404 ↔
        ∃ e s₁, answer (.contact id) s = (.error e, s₁) ∧ (e.code = .contactNotFound ∨ e.code = .messageNotFound)) ∧
      (∀ e s₁, answer (.contact id) s = (.error e, s₁) →
        (e.code = .contactNotFound ∨ e.code = .messageNotFound →
          fails 404 "NOT_FOUND" ("Contact not found: " ++ toString id.value)) ∧
        (¬(e.code = .contactNotFound ∨ e.code = .messageNotFound) → fails 500 "INTERNAL_ERROR" e.message)) ∧
      ∀ contact s₁, answer (.contact id) s = (.ok contact, s₁) →
        (∀ e s₂, answer (.headers contact.id) s₁ = (.error e, s₂) → fails 500 "INTERNAL_ERROR" e.message) ∧
        ∀ headers s₂, answer (.headers contact.id) s₁ = (.ok headers, s₂) →
          let sorted := inOrder headers
          let given := textsGiven answer sorted s₂
          let record := fun (header : MessageHeader) text => header.record contact.id text
          Chronological headers sorted ∧
          (∀ texts : List (Option String), given = texts.map .ok → texts.length = sorted.length ∧
            final = { ctx with
              status := 200
              response? := some (.array
                (List.zipWith (fun header text => .object (record header text).entries) sorted texts)) }) ∧
          (∀ header text, (record header text).ShowsMessage header contact.id text) ∧
          (∀ (before : List (Option String)) e later, given = before.map .ok ++ .error e :: later →
            fails 500 "INTERNAL_ERROR" e.message) ∧
          ∀ (answer' : (c : Call) → σ → c.Answer × σ) (headers' : List MessageHeader),
            (∀ call, (∀ i, call ≠ .headers i) → answer' call = answer call) →
            answer' (.headers contact.id) s₁ = (.ok headers', s₂) → headers'.Perm headers →
            (headers.map (·.timestamp)).Nodup → ((listMessages ctx).run answer' s).1 = final) ∧
    (let final := ((listContacts ctx).run answer s).1
      let fails := fun (message : String) =>
        let body := (⟨"INTERNAL_ERROR", message, none⟩ : Failure).record
        final = { ctx with status := 500, response? := some (.object body.entries) } ∧
          body.ShowsFailure "INTERNAL_ERROR" message
      (final.status = 200 ↔ ∃ contacts s₁, ∃ counts : List MessageCount,
        answer .contacts s = (.ok contacts, s₁) ∧ countsGiven answer contacts s₁ = counts.map .ok) ∧
      final.status ≠ 404 ∧
      (∀ e s₁, answer .contacts s = (.error e, s₁) → fails e.message) ∧
      ∀ contacts s₁, answer .contacts s = (.ok contacts, s₁) →
        let given := countsGiven answer contacts s₁
        let record := fun (contact : Contact) (count : MessageCount) => contact.record count.latest
        (∀ counts : List MessageCount, given = counts.map .ok → counts.length = contacts.length ∧
          final = { ctx with
            status := 200
            response? := some (.array
              (List.zipWith (fun contact count => .object (record contact count).entries) contacts counts)) }) ∧
        (∀ contact count, (record contact count).ShowsContact contact count.latest) ∧
        ∀ (before : List MessageCount) e later, given = before.map .ok ++ .error e :: later → fails e.message) := by
  refine ⟨fun name id given number => ?_, ?_⟩
  · intro final fails
    have named := contactId_of_ofText given number
    have final_eq : final = _ := run_listMessages named
    have failed {status : Nat} {code message : String} (h : final = ctx.fail status ⟨code, message, none⟩) :
        fails status code message := ⟨h, Failure.shows_record code message⟩
    rw [final_eq]
    refine ⟨status_answerListing.1.trans run_messages_ok_iff, status_answerListing.2.trans run_messages_unknown_iff,
      fun e s₁ looked => ⟨fun unknown => ?_, fun broken => ?_⟩, fun contact s₁ looked =>
      ⟨fun e s₂ unread => ?_, fun headers s₂ read => ⟨chronological_inOrder headers, fun texts given => ⟨?_, ?_⟩,
      fun header text => header.shows_record contact.id text, fun before e later given => ?_,
      fun answer' headers' same read' perm distinct => ?_⟩⟩⟩
    · refine failed ?_
      rw [final_eq, run_messages_error looked, if_pos (ErrorCode.isNotFound_iff.mpr unknown), ← id.display_eq]
      rfl
    · refine failed ?_
      rw [final_eq, run_messages_error looked, if_neg (mt ErrorCode.isNotFound_iff.mp broken)]
      rfl
    · refine failed ?_
      rw [final_eq, run_messages_headers_error looked unread]
      rfl
    · exact length_of_answersTo given
    · rw [run_messages_headers looked read, (loops_loadTexts answer contact.id).run_ok given, answerListing,
        messageRecords, List.reverse_nil, List.nil_append, List.map_zipWith]
      rfl
    · refine failed ?_
      rw [final_eq, run_messages_headers looked read, (loops_loadTexts answer contact.id).run_error given]
      rfl
    · have looked' : answer' (.contact id) s = (.ok contact, s₁) := by rw [same (.contact id) (by simp), looked]
      rw [run_listMessages named, run_messages_headers looked' read', run_messages_headers looked read,
        inOrder_eq_of_perm perm distinct, run_loadTexts_congr fun i => same (.text i) (by simp)]
  · intro final fails
    have final_eq : final = _ := run_listContacts
    have failed {message : String} (h : final = ctx.fail 500 (.internal message)) : fails message :=
      ⟨h, Failure.shows_record _ message⟩
    rw [final_eq]
    refine ⟨status_answerListing.1.trans run_contacts_ok_iff, fun missed => ?_, fun e s₁ unread => ?_,
      fun contacts s₁ asked => ⟨fun counts given => ⟨?_, ?_⟩, fun contact count => contact.shows_record count.latest,
      fun before e later given => ?_⟩⟩
    · obtain ⟨k, unknown⟩ := status_answerListing.2.mp missed
      exact run_contacts_known k unknown
    · refine failed ?_
      rw [final_eq, run_contacts_error unread]
      rfl
    · exact length_of_answersTo given
    · rw [run_contacts asked, (loops_activities answer).run_ok given, answerListing, contactRecords, List.reverse_nil,
        List.nil_append, id, List.map_zipWith]
      rfl
    · refine failed ?_
      rw [final_eq, run_contacts asked, (loops_activities answer).run_error given]
      rfl

end Http.Controller

end PeerPost
