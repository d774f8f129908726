import PeerPost.Http.Failure
import PeerPost.Wire

/-! # Records and their text

A record gives back the value that was last put under a name, and its text lists its members in order. With
this the members of the records that are answered are told, and the frame that announces a contact is spelled
out. -/

namespace PeerPost

namespace Json

theorem memberChars_eq_map (members : List (String × Json)) : memberChars members = members.map memberText := by
  induction members with
  | nil => rw [memberChars, List.map_nil]
  | cons member rest ih => rw [memberChars, ih, List.map_cons]

theorem memberText_eq (key : String) (value : Json) :
    memberText (key, value) = quote key.toList ++ ':' :: value.chars := by
  rw [memberText]

theorem chars_object (members : List (String × Json)) :
    (object members).chars = '{' :: (separated (members.map memberText) ++ ['}']) := by
  rw [chars, memberChars_eq_map]

end Json

theorem Entries.names_put {κ α : Type} [DecidableEq κ] (name : κ) (value : α) (entries : List (κ × α)) :
    (put name value entries).map Prod.fst =
      if name ∈ entries.map Prod.fst then entries.map Prod.fst else entries.map Prod.fst ++ [name] := by
  induction entries with
  | nil => simp [put]
  | cons entry rest ih =>
    obtain ⟨n, v⟩ := entry
    rw [put]
    by_cases here : n = name
    · simp [here]
    · rw [if_neg here, List.map_cons, ih]
      by_cases there : name ∈ rest.map Prod.fst <;> simp [there, Ne.symm here]

namespace Record

@[simp]
theorem get?_empty (name : String) : empty.get? name = none := rfl

theorem get?_put (record : Record) (name : String) (value : Json) (other : String) :
    (record.put name value).get? other = if other = name then some value else record.get? other :=
  Entries.get?_put name value record.entries other

/-- A value that is missing leaves what was under its name. -/
theorem get?_putIfPresent (record : Record) (name : String) (value? : Option Json) (other : String) :
    (record.putIfPresent name value?).get? other =
      if other = name then value?.or (record.get? other) else record.get? other := by
  cases value? with
  | none => simp [putIfPresent]
  | some value => simp [putIfPresent, get?_put]

theorem keys_put (record : Record) (name : String) (value : Json) :
    (record.put name value).keys = if name ∈ record.keys then record.keys else record.keys ++ [name] :=
  Entries.names_put name value record.entries

end Record

/-! ### What the records of contacts, messages and failures show -/

namespace Record

/-- A record has the members of a contact whose latest activity was at this time. -/
structure ShowsContact (record : Record) (contact : Contact) (latest : Timestamp) : Prop where
  contactId : record.get? "contactId" = some (.number contact.id.value)
  author : record.get? "author" = some (.object contact.author.record.entries)
  verified : record.get? "verified" = some (.bool contact.verified)
  lastChatActivity : record.get? "lastChatActivity" = some (.number latest.millis.toInt)
  alias? : record.get? "alias" = contact.alias?.map .string
  handshakeKey? : record.get? "handshakePublicKey" = contact.handshakeKey?.map fun key => .string (Base64.encode key)

/-- A record has the members of a message of a contact, and its text if that is there. -/
structure ShowsMessage (record : Record) (header : MessageHeader) (contactId : ContactId) (text? : Option String) :
    Prop where
  kind : record.get? "type" = some (.string "PrivateMessage")
  contactId : record.get? "contactId" = some (.number contactId.value)
  timestamp : record.get? "timestamp" = some (.number header.timestamp.millis.toInt)
  read : record.get? "read" = some (.bool header.read)
  seen : record.get? "seen" = some (.bool header.seen)
  sent : record.get? "sent" = some (.bool header.sent)
  isLocal : record.get? "local" = some (.bool header.isLocal)
  id : record.get? "id" = some (.string header.id.display)
  groupId : record.get? "groupId" = some (.string header.groupId.display)
  text : record.get? "text" = text?.map .string

/-- A record has this code and this message of a failure, and no details. -/
structure ShowsFailure (record : Record) (code message : String) : Prop where
  code : record.get? "code" = some (.string code)
  message : record.get? "message" = some (.string message)
  details : record.get? "details" = none

end Record

theorem Contact.shows_record (contact : Contact) (latest : Timestamp) :
    (contact.record latest).ShowsContact contact latest := by
  constructor <;> simp [record, Record.get?_put, Record.get?_putIfPresent, ContactId.toJson, Timestamp.toJson,
    Record.toJson]

/-- Only the latest activity in the record of a contact depends on the conversation. -/
theorem Contact.get?_record_later (contact : Contact) (latest later : Timestamp) (name : String) :
    (contact.record later).get? name =
      if name = "lastChatActivity" then some (.number later.millis.toInt)
      else (contact.record latest).get? name := by
  split
  · next named => rw [named, (contact.shows_record later).lastChatActivity]
  · next other => simp [record, Record.get?_put, Record.get?_putIfPresent, other]

theorem Contact.keys_record (contact : Contact) (latest later : Timestamp) :
    (contact.record later).keys = (contact.record latest).keys := by
  unfold record
  cases contact.alias? <;> cases contact.handshakeKey? <;> simp [Record.putIfPresent, Record.keys_put]

theorem MessageHeader.shows_record (header : MessageHeader) (id : ContactId) (text? : Option String) :
    (header.record id text?).ShowsMessage header id text? := by
  constructor <;> simp [record, Record.get?_put, Record.get?_putIfPresent, ContactId.toJson, Timestamp.toJson]

theorem Http.Failure.get?_record (failure : Failure) :
    failure.record.get? "code" = some (.string failure.code) ∧
      failure.record.get? "message" = some (.string failure.message) ∧
      failure.record.get? "details" = failure.details? := by
  simp [record, Record.get?_put, Record.get?_putIfPresent]

theorem Http.Failure.shows_record (code message : String) :
    (⟨code, message, none⟩ : Failure).record.ShowsFailure code message := by
  obtain ⟨code, message, details⟩ := get?_record ⟨code, message, none⟩
  exact ⟨code, message, details⟩

/-! ### The announcement of a contact -/

theorem ContactId.chars_toJson (id : ContactId) : id.toJson.chars = id.display.toList := by
  rw [toJson, Json.chars, display, String.toList_ofList]
  rfl

theorem ContactAdded.frame_eq (event : ContactAdded) : event.frame =
    "\x7b\"type\":\"event\",\"name\":\"ContactAddedEvent\",\"data\":\x7b\"contactId\":" ++ event.contactId.display ++
      ",\"verified\":" ++ (if event.verified then "true" else "false") ++ "\x7d\x7d" := by
  have entries : eventRecord eventName event.record.toJson = ⟨[("type", .string "event"),
      ("name", .string "ContactAddedEvent"),
      ("data", .object [("contactId", event.contactId.toJson), ("verified", .bool event.verified)])]⟩ := rfl
  have flag : (Json.bool event.verified).chars = (if event.verified then "true" else "false").toList := by
    cases event.verified <;> rfl
  rw [frame, entries, Record.text, Record.toJson, Json.text, ← String.toList_inj, String.toList_ofList]
  simp only [Json.chars_object, Json.memberText_eq, List.map_cons, List.map_nil, Json.separated, List.flatMap_cons,
    List.flatMap_nil, ContactId.chars_toJson, flag, String.toList_append, List.append_assoc, List.cons_append,
    List.append_nil]
  rfl

end PeerPost
