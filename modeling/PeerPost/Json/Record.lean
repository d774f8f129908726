import PeerPost.Entries
import PeerPost.Json.Value

/-!
# Records

An ordered list of named JSON values. A name keeps the place where it was first put, and a later value
takes the place of an earlier one.
-/

namespace PeerPost

/-- A list of named values. -/
structure Record where
  entries : List (String × Json)

namespace Record

def empty : Record := ⟨[]⟩

/-- Puts a value under a name. A name that is there keeps its place. -/
def put (record : Record) (name : String) (value : Json) : Record :=
  ⟨Entries.put name value record.entries⟩

def putIfPresent (record : Record) (name : String) : Option Json → Record
  | some value => record.put name value
  | none => record

def get? (record : Record) (name : String) : Option Json :=
  Entries.get? record.entries name

def contains (record : Record) (name : String) : Bool :=
  record.entries.any fun e => e.1 = name

def keys (record : Record) : List String :=
  record.entries.map Prod.fst

def size (record : Record) : Nat :=
  record.entries.length

def isEmpty (record : Record) : Bool :=
  record.entries.isEmpty

def toJson (record : Record) : Json :=
  .object record.entries

def text (record : Record) : String :=
  record.toJson.text

end Record

end PeerPost
