import PeerPost.Json.Integer
import PeerPost.Json.Record

/-!
# Reading JSON values

A whole JSON text as a value. Numbers must be integers. A member name that is repeated keeps its first
place and its last value.
-/

namespace PeerPost.Json

open Scanner

def readDigits1? (input : Bytes) : Option (Nat × Bytes) :=
  let digits := input.takeWhile isDigit
  if digits.isEmpty then none else some (Decimal.value (digitChars digits), input.dropWhile isDigit)

mutual

/-- Reads a value and the white space before it. -/
def readValue? : Nat → Bytes → Option (Json × Bytes)
  -- Every call takes at least one byte before the next one, so the steps do not run out before the text.
  | 0, _ => none
  | steps + 1, input =>
    match skipSpace input with
    | 0x22 :: rest => (readString? rest).map fun (s, rest) => (.string s, rest)
    | 0x5B :: rest =>
      match skipSpace rest with
      | 0x5D :: rest => some (.array [], rest)
      | rest => readItems? steps [] rest
    | 0x7B :: rest =>
      match skipSpace rest with
      | 0x7D :: rest => some (.object [], rest)
      | rest => readMembers? steps Record.empty rest
    | 0x6E :: rest => (skipLiteral? [0x75, 0x6C, 0x6C] rest).map fun rest => (.null, rest)
    | 0x74 :: rest => (skipLiteral? [0x72, 0x75, 0x65] rest).map fun rest => (.bool true, rest)
    | 0x66 :: rest => (skipLiteral? [0x61, 0x6C, 0x73, 0x65] rest).map fun rest => (.bool false, rest)
    | 0x2D :: rest => (readDigits1? rest).map fun (n, rest) => (.number (-(n : Int)), rest)
    | rest => (readDigits1? rest).map fun (n, rest) => (.number n, rest)

/-- Reads the items of an array up to and with its closing bracket. `done` has the items so far, the last
one first. -/
def readItems? : Nat → List Json → Bytes → Option (Json × Bytes)
  | 0, _, _ => none
  | steps + 1, done, input =>
    match readValue? steps input with
    | none => none
    | some (item, rest) =>
      match skipSpace rest with
      | 0x2C :: rest => readItems? steps (item :: done) rest
      | 0x5D :: rest => some (.array (item :: done).reverse, rest)
      | _ => none

/-- Reads the members of an object up to and with its closing bracket. -/
def readMembers? : Nat → Record → Bytes → Option (Json × Bytes)
  | 0, _, _ => none
  | steps + 1, done, input =>
    match skipSpace input with
    | 0x22 :: rest =>
      match readString? rest with
      | none => none
      | some (name, rest) =>
        match skipSpace rest with
        | 0x3A :: rest =>
          match readValue? steps rest with
          | none => none
          | some (value, rest) =>
            match skipSpace rest with
            | 0x2C :: rest => readMembers? steps (done.put name value) rest
            | 0x7D :: rest => some ((done.put name value).toJson, rest)
            | _ => none
        | _ => none
    | _ => none

end

/-- The value that a whole text is. -/
def ofBytes? (input : Bytes) : Option Json :=
  match readValue? (input.length + 1) input with
  | some (value, rest) => if atEnd rest then some value else none
  | none => none

end PeerPost.Json
