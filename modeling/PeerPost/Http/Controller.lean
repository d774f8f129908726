import PeerPost.Handler.Listing
import PeerPost.Handler.Writing
import PeerPost.Http.Context
import PeerPost.Wire

/-!
# Controllers

The three operations on a context: list the contacts, list the messages of a contact, and write a
message to a contact. Each reads what it needs from the context, holds the dialogue of its handler, and
writes the outcome into the context.
-/

namespace PeerPost.Http.Controller

def contactParam : String := "contactId"

/-- The contact number that a context names. -/
def contactId (ctx : Context) : Except Failure ContactId :=
  match ctx.param? contactParam with
  | none => .error (.badRequest "Missing contactId")
  | some text =>
    match ContactId.ofText text with
    | .ok id => .ok id
    | .error e => .error (.badRequest ("Invalid contactId: " ++ e.message))

/-- The records of contacts with their latest activity. -/
def contactRecords (items : List ContactActivity) : Json :=
  .array (items.map fun item => (item.contact.record item.latest).toJson)

/-- The records of the messages of a contact. -/
def messageRecords (list : MessageList) : Json :=
  .array (list.items.map fun item => (item.header.record list.contactId item.text?).toJson)

def failListing (ctx : Context) : ListError → Context
  | .contactNotFound id => ctx.fail 404 (.notFound "Contact" id.display)
  | .collaborator e => ctx.fail 500 (.internal e.message)

def failWriting (ctx : Context) : WriteError → Context
  | .contactNotFound id => ctx.fail 404 (.notFound "Contact" id.display)
  | .invalidText e => ctx.fail 400 (.badRequest e.message)
  | .collaborator e => ctx.fail 500 (.internal e.message)

def listContacts (ctx : Context) : Dialogue Context :=
  Listing.contacts.bind fun
    | .ok items => .done (ctx.json (contactRecords items))
    | .error e => .done (failListing ctx e)

/-- Lists the messages of the contact that the context names. -/
def listMessages (ctx : Context) : Dialogue Context :=
  match contactId ctx with
  | .error failure => .done (ctx.fail 400 failure)
  | .ok id =>
    (Listing.messages id).bind fun
      | .ok list => .done (ctx.json (messageRecords list))
      | .error e => .done (failListing ctx e)

/-- Writes the message in the body to the contact that the context names. -/
def writeMessage (ctx : Context) : Dialogue Context :=
  match contactId ctx with
  | .error failure => .done (ctx.fail 400 failure)
  | .ok id =>
    match ctx.draft? with
    | none => .done (ctx.fail 400 (.badRequest "Malformed JSON body"))
    | some ⟨none⟩ => .done (ctx.fail 400 (.badRequest "Expected text"))
    | some ⟨some text⟩ =>
      (Writing.write id text).bind fun
        | .ok written => .done (ctx.json (written.header.record written.contactId (some written.text.text)).toJson)
        | .error e => .done (failWriting ctx e)

end PeerPost.Http.Controller
