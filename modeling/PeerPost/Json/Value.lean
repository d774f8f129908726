import PeerPost.Text.Hexadecimal

/-!
# JSON values and their text

Values with members in order. The text of a value is compact: no white space, and in strings only the
quote, the backslash and the control characters are escaped. A number is an integer, or it is given as it
is written with a point or an exponent; the node writes only integers.
-/

namespace PeerPost

/-- A number with digits after a point, with an exponent of ten, or with both. -/
@[ext]
structure Json.Fractional where
  negative : Bool
  whole : Nat
  fraction : List (Fin 10)
  exponent? : Option Int
  fractional : fraction ≠ [] ∨ exponent?.isSome = true
deriving DecidableEq

/-- A JSON value. The members of an object are in the order in which they are written. -/
inductive Json where
  | null
  | bool (value : Bool)
  | number (value : Int)
  | fractional (value : Json.Fractional)
  | string (value : String)
  | array (items : List Json)
  | object (members : List (String × Json))

namespace Json

/-- How a character is written inside a string. -/
def escape (c : Char) : List Char :=
  if c = '"' then ['\\', '"']
  else if c = '\\' then ['\\', '\\']
  else if c = '\x08' then ['\\', 'b']
  else if c = '\t' then ['\\', 't']
  else if c = '\n' then ['\\', 'n']
  else if c = '\x0c' then ['\\', 'f']
  else if c = '\r' then ['\\', 'r']
  else if c.toNat < 0x20 then
    ['\\', 'u', '0', '0', Hexadecimal.digitChar (c.toNat / 16), Hexadecimal.digitChar (c.toNat % 16)]
  else [c]

/-- A string between quotes. -/
def quote (text : List Char) : List Char :=
  '"' :: (text.flatMap escape ++ ['"'])

namespace Fractional

def fractionChars : List (Fin 10) → List Char
  | [] => []
  | first :: rest => '.' :: (first :: rest).map fun d => Decimal.digitChar d.val

def exponentChars : Option Int → List Char
  | some exponent => 'e' :: Decimal.ofInt exponent
  | none => []

/-- How a number is written. -/
def chars (x : Fractional) : List Char :=
  Decimal.signed x.negative x.whole ++ (fractionChars x.fraction ++ exponentChars x.exponent?)

end Fractional

/-- Texts with commas between them. -/
def separated : List (List Char) → List Char
  | [] => []
  | first :: rest => first ++ rest.flatMap fun text => ',' :: text

mutual

/-- The characters of the text of a value. -/
def chars : Json → List Char
  | .null => ['n', 'u', 'l', 'l']
  | .bool true => ['t', 'r', 'u', 'e']
  | .bool false => ['f', 'a', 'l', 's', 'e']
  | .number n => Decimal.ofInt n
  | .fractional x => x.chars
  | .string s => quote s.toList
  | .array items => '[' :: (separated (itemChars items) ++ [']'])
  | .object members => '{' :: (separated (memberChars members) ++ ['}'])
termination_by structural value => value

def itemChars : List Json → List (List Char)
  | [] => []
  | item :: rest => item.chars :: itemChars rest
termination_by structural items => items

def memberChars : List (String × Json) → List (List Char)
  | [] => []
  | member :: rest => memberText member :: memberChars rest
termination_by structural members => members

/-- The text of one member. -/
def memberText : String × Json → List Char
  | (key, value) => quote key.toList ++ ':' :: value.chars
termination_by structural member => member

end

def text (value : Json) : String :=
  String.ofList value.chars

end Json

end PeerPost
