import PeerPost.Contact

/-!
# The address book

The contacts of one local author, in the order of their numbers. Numbers are given out one after the
other from 1 and are never used again. Contacts are kept as a list and not as a map from their numbers:
whatever puts a contact there puts it under its own number, and nothing changes that number, so the keys
of such a map would say nothing that the contacts do not say themselves.
-/

namespace PeerPost

/-- The contacts of a local author, each under the number that it has itself. `nextId` is empty once every number
has been given out. -/
structure AddressBook where
  localAuthorId : AuthorId
  contacts : List Contact
  nextId : Option ContactId

namespace AddressBook

def empty (localAuthorId : AuthorId) : AddressBook :=
  ⟨localAuthorId, [], some .first⟩

def find? (book : AddressBook) (id : ContactId) : Option Contact :=
  book.contacts.find? fun c => c.id = id

/-- The error for a number that no contact has. -/
def unknown (id : ContactId) : DomainError :=
  (DomainError.plain .contactNotFound ("Contact not found: " ++ id.display)).withDetail "contactId" id.display

/-- The contact with a number, or the error that there is none. -/
def get (book : AddressBook) (id : ContactId) : Except DomainError Contact :=
  match book.find? id with
  | some contact => .ok contact
  | none => .error (unknown id)

def knows (book : AddressBook) (author : AuthorId) : Bool :=
  book.contacts.any fun c => c.author.id = author

/-- What a contact starts with besides its author. -/
structure Entry where
  verified : Bool
  alias? : Option String
  handshakeKey? : Option Bytes

/-- Adds an author under the next number. The local author and an author that is already a contact are
refused. -/
def add (book : AddressBook) (author : Author) (entry : Entry) : Except DomainError (ContactAdded × AddressBook) :=
  if author.id = book.localAuthorId then
    .error (.validation "author" "Cannot add the local identity as a contact")
  else if book.knows author.id then
    .error (.validation "author" "Contact already exists")
  else
    match book.nextId with
    | none => .error (.plain .storageError "No contact ids left")
    | some id =>
      let contact := ⟨id, author, book.localAuthorId, entry.alias?, entry.handshakeKey?, entry.verified⟩
      .ok (⟨id, entry.verified⟩, { book with contacts := book.contacts ++ [contact], nextId := id.next? })

/-- Sets or clears the alias of a contact. -/
def setAlias (book : AddressBook) (id : ContactId) (alias? : Option String) : Except DomainError AddressBook :=
  match book.find? id with
  | none => .error (unknown id)
  | some _ =>
    .ok { book with contacts := book.contacts.map fun c => if c.id = id then { c with alias? := alias? } else c }

end AddressBook

end PeerPost
