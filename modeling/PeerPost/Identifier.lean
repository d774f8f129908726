import PeerPost.Error
import PeerPost.Text.Base64
import PeerPost.Text.Blank

/-!
# Identifiers

A contact has a small positive number that the node gives out. Authors, conversations and messages
have identifiers of 32 bytes, which are hashes; the three kinds are different types.
-/

namespace PeerPost

/-- The number of a contact. It is at least 1 and fits a signed 32-bit integer. -/
structure ContactId where
  value : Nat
  pos : 0 < value
  le_greatest : value ≤ 2147483647
deriving DecidableEq

namespace ContactId

def greatest : Nat := 2147483647

/-- The contact number with this value. -/
def ofInt (value : Int) : Except ValidationError ContactId :=
  if h : 0 < value ∧ value ≤ 2147483647 then .ok ⟨value.toNat, by omega, by omega⟩
  else .error (.outOfRange "contactId" 1 greatest value)

def first : ContactId := ⟨1, by decide, by decide⟩

/-- The number after this one, unless this is the greatest. -/
def next? (id : ContactId) : Option ContactId :=
  if h : id.value < 2147483647 then some ⟨id.value + 1, by omega, by omega⟩ else none

def display (id : ContactId) : String :=
  String.ofList (Decimal.digits id.value)

/-- Reads a contact number. White space at the two ends is ignored; an integer of 32 bits that is not
positive is out of range, and every other text has a wrong format. -/
def ofText (text : String) : Except ValidationError ContactId :=
  match Decimal.readIntWithin? (-2147483648) 2147483647 (Text.trim text.toList) with
  | some n => ofInt n
  | none => .error (.invalidFormat "contactId" "not an integer")

end ContactId

/-- An identifier of 32 bytes. -/
structure UniqueId where
  bytes : Vector UInt8 32
deriving DecidableEq

namespace UniqueId

def toBytes (id : UniqueId) : Bytes :=
  id.bytes.toList

/-- The identifier with these bytes, which must be 32. -/
def ofBytes (bytes : Bytes) : Except ValidationError UniqueId :=
  if h : bytes.length = 32 then .ok ⟨⟨bytes.toArray, by simpa using h⟩⟩
  else .error (.invalidFormat "id" ("expected 32 bytes, got " ++ String.ofList (Decimal.digits bytes.length)))

def display (id : UniqueId) : String :=
  Base64.encode id.toBytes

/-- The form of an identifier in diagnostic texts. -/
def debug (id : UniqueId) : String :=
  "UniqueId(" ++ id.display ++ ")"

/-- Identifiers are ordered byte by byte. -/
def order (a b : UniqueId) : Ordering :=
  if a.toBytes < b.toBytes then .lt else if b.toBytes < a.toBytes then .gt else .eq

end UniqueId

structure AuthorId where
  id : UniqueId
deriving DecidableEq

/-- The identifier of the group of messages exchanged with one contact. -/
structure GroupId where
  id : UniqueId
deriving DecidableEq

structure MessageId where
  id : UniqueId
deriving DecidableEq

def AuthorId.display (a : AuthorId) : String := a.id.display

def GroupId.display (g : GroupId) : String := g.id.display

def MessageId.display (m : MessageId) : String := m.id.display

end PeerPost
