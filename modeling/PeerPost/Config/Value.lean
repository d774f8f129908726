import PeerPost.Entries
import PeerPost.Number.Shortest
import PeerPost.Text.Lowercase

/-!
# Configuration values

A configuration is a tree: tables of named values, lists, and scalars. A scalar comes from the text of
an environment variable, and a place in the tree is a name followed by steps into it. What stands in the
way of a step is replaced, and a list that is too short is filled up with nothing.
-/

namespace PeerPost.Config

/-- What the text of a variable stands for. -/
inductive Scalar where
  | bool (value : Bool)
  | integer (value : Int)
  | float (value : Binary64)
  | text (value : String)
deriving DecidableEq

/-- A configuration value. `nothing` is a place that has not been set. -/
inductive Value where
  | nothing
  | scalar (value : Scalar)
  | list (items : List Value)
  | table (entries : List (String × Value))

/-- A step from a value into it. A negative index counts from the end of the list. -/
inductive Step where
  | name (name : String)
  | index (index : Int)
deriving DecidableEq

/-- Why an index has no place in a list: it leads before the start of the list, or the list up to it would
not fit into memory. -/
inductive PlaceFault where
  | beforeStart
  | beyondMemory
deriving DecidableEq

def PlaceFault.message : PlaceFault → String
  | .beforeStart => "attempt to subtract with overflow"
  | .beyondMemory => "capacity overflow"

namespace Scalar

def readInteger? (text : List Char) : Option Int :=
  Decimal.readIntWithin? (-9223372036854775808) 9223372036854775807 text

/-- The scalar that a text stands for: a truth value, an integer, a binary64 number, or else the text
itself. -/
def ofText (text : String) : Scalar :=
  let small := text.toList.map Text.lowerAscii
  if small = "true".toList then .bool true
  else if small = "false".toList then .bool false
  else
    match readInteger? text.toList with
    | some n => .integer n
    | none =>
      match Binary64.ofChars? text.toList with
      | some x => .float x
      | none => .text text

def display : Scalar → String
  | .bool true => "true"
  | .bool false => "false"
  | .integer n => String.ofList (Decimal.ofInt n)
  | .float x => String.ofList x.chars
  | .text s => s

end Scalar

namespace Value

/-- The entries of a table; another value has none. -/
def entries : Value → List (String × Value)
  | .table entries => entries
  | _ => []

/-- The items of a list; another value has none. -/
def items : Value → List Value
  | .list items => items
  | _ => []

/-- The memory that a value takes in a list, in bytes. -/
def size : Nat := 96

/-- The greatest memory that a list can take, in bytes. -/
def maxMemory : Nat := 9223372036854775807

/-- The place of an index in a list of some length. -/
def position (length : Nat) : Int → Except PlaceFault Nat
  | .ofNat n => if maxMemory < (n + 1) * size then .error .beyondMemory else .ok n
  | .negSucc n => if n < length then .ok (length - (n + 1)) else .error .beforeStart

/-- Sets the place that some steps lead to. -/
def set (scalar : Scalar) : List Step → Value → Except PlaceFault Value
  | [], _ => .ok (.scalar scalar)
  | .name name :: rest, value =>
    let entries := value.entries
    (set scalar rest ((Entries.get? entries name).getD .nothing)).map fun inner =>
      .table (Entries.put name inner entries)
  | .index index :: rest, value =>
    match position value.items.length index with
    | .error fault => .error fault
    | .ok place =>
      let items := value.items ++ List.replicate (place + 1 - value.items.length) .nothing
      (set scalar rest (items.getD place .nothing)).map fun inner => .list (items.set place inner)

end Value

namespace Step

def isNameChar (c : Char) : Bool :=
  ('a' ≤ c && c ≤ 'z') || ('A' ≤ c && c ≤ 'Z') || Decimal.isDigit c || c = ' ' || c = '_' || c = '-'

/-- Reads a name at the start of a text. -/
def readName? (text : List Char) : Option (Step × List Char) :=
  let name := text.takeWhile isNameChar
  if name.isEmpty then none else some (.name (String.ofList name), text.dropWhile isNameChar)

/-- A text without the spaces and tabs at its start. -/
def skipSpaces (text : List Char) : List Char :=
  text.dropWhile fun c => c = ' ' || c = '\t'

/-- Reads an integer in square brackets after the opening one. Spaces may stand around it. -/
def readIndex? (text : List Char) : Option (Step × List Char) :=
  let text := skipSpaces text
  let (sign, digits) := match text with
    | '-' :: rest => (['-'], rest)
    | rest => ([], rest)
  match Scalar.readInteger? (sign ++ digits.takeWhile Decimal.isDigit), skipSpaces (digits.dropWhile Decimal.isDigit) with
  | some n, ']' :: rest => some (.index n, rest)
  | _, _ => none

/-- Reads the steps after the first name of a path: names after a dot, and indices. -/
def readRest? : Nat → List Char → Option (List Step)
  | _, [] => some []
  -- Every step takes at least one character, so the rounds do not run out before the path.
  | 0, _ => none
  | rounds + 1, c :: rest =>
    let step? := if c = '.' then readName? rest else if c = '[' then readIndex? rest else none
    match step? with
    | some (step, rest) => (readRest? rounds rest).map fun steps => step :: steps
    | none => none

/-- The steps of a key. A key that is not a path is one name as it stands. -/
def ofKey (key : List Char) : List Step :=
  let steps? := (readName? key).bind fun (step, rest) =>
    (readRest? rest.length rest).map fun steps => step :: steps
  steps?.getD [.name (String.ofList key)]

end Step

end PeerPost.Config
