import PeerPost.Text.Utf8

/-! # JSON texts

The texts of JSON values, as trees that keep how a value is written: the white space around the tokens, the
escapes of strings, the parts of numbers, and all members of objects in their order. `Tree.bytes` is the text of
a tree, and every JSON text is that of a tree. -/

namespace PeerPost.Json.Grammar

/-- White space between tokens. -/
structure Gap where
  bytes : Bytes
  blank : ∀ b ∈ bytes, b = 0x20 ∨ b = 0x09 ∨ b = 0x0A ∨ b = 0x0D

def Gap.none : Gap := ⟨[], List.forall_mem_nil _⟩

/-- Something with the white space before and after it. -/
structure Spaced (α : Type) where
  before : Gap
  inner : α
  after : Gap

/-! ### Strings -/

/-- A hexadecimal digit. From ten on it is a letter of either case. -/
structure HexDigit where
  value : Fin 16
  capital : Bool

def HexDigit.byte (d : HexDigit) : UInt8 :=
  if d.value.val < 10 then (0x30 + d.value.val).toUInt8
  else ((if d.capital then 0x41 else 0x61) + (d.value.val - 10)).toUInt8

/-- A UTF-16 code unit, as the four digits of its escape. -/
structure CodeUnit where
  a : HexDigit
  b : HexDigit
  c : HexDigit
  d : HexDigit

namespace CodeUnit

def value (u : CodeUnit) : Nat :=
  u.a.value.val * 4096 + u.b.value.val * 256 + u.c.value.val * 16 + u.d.value.val

def bytes (u : CodeUnit) : Bytes :=
  [0x5C, 0x75, u.a.byte, u.b.byte, u.c.byte, u.d.byte]

def isHigh (u : CodeUnit) : Bool :=
  0xD800 ≤ u.value && u.value ≤ 0xDBFF

def isLow (u : CodeUnit) : Bool :=
  0xDC00 ≤ u.value && u.value ≤ 0xDFFF

/-- The character that two surrogates stand for together. -/
def joined (high low : CodeUnit) : Char :=
  Char.ofNat (0x10000 + (high.value - 0xD800) * 0x400 + (low.value - 0xDC00))

end CodeUnit

/-- The escapes of one letter. -/
inductive Escape where
  | quote
  | backslash
  | slash
  | backspace
  | formFeed
  | lineFeed
  | carriageReturn
  | tab

def Escape.letter : Escape → UInt8
  | .quote => 0x22
  | .backslash => 0x5C
  | .slash => 0x2F
  | .backspace => 0x62
  | .formFeed => 0x66
  | .lineFeed => 0x6E
  | .carriageReturn => 0x72
  | .tab => 0x74

def Escape.char : Escape → Char
  | .quote => '"'
  | .backslash => '\\'
  | .slash => '/'
  | .backspace => '\x08'
  | .formFeed => '\x0C'
  | .lineFeed => '\n'
  | .carriageReturn => '\r'
  | .tab => '\t'

/-- What stands between the quotes of a string: characters as they are, and escapes. -/
inductive Piece where
  | plain (c : Char) (stands : 0x20 ≤ c.toNat ∧ c ≠ '"' ∧ c ≠ '\\')
  | escape (e : Escape)
  | unit (u : CodeUnit)

namespace Piece

def bytes : Piece → Bytes
  | .plain c _ => String.utf8EncodeChar c
  | .escape e => [0x5C, e.letter]
  | .unit u => u.bytes

/-- The characters that pieces stand for. Surrogates stand for a character in pairs and for nothing alone. -/
def chars? : List Piece → Option (List Char)
  | [] => some []
  | .plain c _ :: rest => (chars? rest).map fun cs => c :: cs
  | .escape e :: rest => (chars? rest).map fun cs => e.char :: cs
  | .unit u :: rest =>
    if u.isHigh then
      match rest with
      | .unit low :: rest => if low.isLow then (chars? rest).map fun cs => u.joined low :: cs else none
      | _ => none
    else if u.isLow then none
    else (chars? rest).map fun cs => Char.ofNat u.value :: cs

/-- The string that pieces stand for. -/
def text? (pieces : List Piece) : Option String :=
  (chars? pieces).map String.ofList

end Piece

/-- The text of a string in its quotes. -/
def quoted (pieces : List Piece) : Bytes :=
  0x22 :: (pieces.flatMap Piece.bytes ++ [0x22])

/-! ### Numbers -/

/-- Decimal digits, at least one. -/
structure Digits where
  first : Fin 10
  rest : List (Fin 10)

def digitByte (d : Fin 10) : UInt8 :=
  (0x30 + d.val).toUInt8

def Digits.bytes (ds : Digits) : Bytes :=
  digitByte ds.first :: ds.rest.map digitByte

/-- The sign of an exponent, if it has one. -/
inductive Sign where
  | none
  | plus
  | minus

def Sign.bytes : Sign → Bytes
  | .none => []
  | .plus => [0x2B]
  | .minus => [0x2D]

structure Exponent where
  capital : Bool
  sign : Sign
  digits : Digits

def Exponent.bytes (e : Exponent) : Bytes :=
  (if e.capital then 0x45 else 0x65) :: (e.sign.bytes ++ e.digits.bytes)

/-- A number. Its whole part begins with a zero only where this is all of it. -/
structure Numeral where
  negative : Bool
  whole : Digits
  leading : whole.first = 0 → whole.rest = []
  fraction? : Option Digits
  exponent? : Option Exponent

namespace Numeral

def fractionBytes : Option Digits → Bytes
  | some ds => 0x2E :: ds.bytes
  | none => []

def exponentBytes : Option Exponent → Bytes
  | some e => e.bytes
  | none => []

def bytes (n : Numeral) : Bytes :=
  (if n.negative then [0x2D] else []) ++ (n.whole.bytes ++ (fractionBytes n.fraction? ++ exponentBytes n.exponent?))

end Numeral

/-! ### Values -/

/-- A member of an object. -/
structure Member (α : Type) where
  name : Spaced (List Piece)
  value : Spaced α

/-- A value as it is written. `gap` is the white space after an opening bracket. -/
inductive Tree where
  | null
  | bool (value : Bool)
  | number (numeral : Numeral)
  | string (pieces : List Piece)
  | list (gap : Gap) (items : List (Spaced Tree))
  | object (gap : Gap) (members : List (Member Tree))

/-- Whether a value is neither a list nor an object. -/
def Tree.IsScalar : Tree → Prop
  | .list .. | .object .. => False
  | _ => True

mutual

/-- The text of a value. -/
def Tree.bytes : Tree → Bytes
  | .null => [0x6E, 0x75, 0x6C, 0x6C]
  | .bool true => [0x74, 0x72, 0x75, 0x65]
  | .bool false => [0x66, 0x61, 0x6C, 0x73, 0x65]
  | .number n => n.bytes
  | .string pieces => quoted pieces
  -- The first item and the first member have no comma before them.
  | .list gap items => 0x5B :: (gap.bytes ++ ((itemBytes items).drop 1 ++ [0x5D]))
  | .object gap members => 0x7B :: (gap.bytes ++ ((memberBytes members).drop 1 ++ [0x7D]))

/-- The text of items, with a comma before each. -/
def itemBytes : List (Spaced Tree) → Bytes
  | [] => []
  | ⟨before, t, after⟩ :: rest => 0x2C :: (before.bytes ++ (t.bytes ++ (after.bytes ++ itemBytes rest)))

/-- The text of members, with a comma before each. -/
def memberBytes : List (Member Tree) → Bytes
  | [] => []
  | ⟨⟨b, name, a⟩, ⟨before, t, after⟩⟩ :: rest =>
    0x2C :: (b.bytes ++ (quoted name ++ (a.bytes ++ 0x3A ::
      (before.bytes ++ (t.bytes ++ (after.bytes ++ memberBytes rest))))))

end

/-- The text of a member before a rest. -/
def Member.bytesBefore (m : Member Tree) (rest : Bytes) : Bytes :=
  m.name.before.bytes ++ (quoted m.name.inner ++ (m.name.after.bytes ++ 0x3A ::
    (m.value.before.bytes ++ (m.value.inner.bytes ++ (m.value.after.bytes ++ rest)))))

theorem memberBytes_cons (m : Member Tree) (members : List (Member Tree)) :
    memberBytes (m :: members) = 0x2C :: m.bytesBefore (memberBytes members) :=
  memberBytes.eq_2 ..

theorem Member.bytesBefore_append (m : Member Tree) (rest tail : Bytes) :
    m.bytesBefore rest ++ tail = m.bytesBefore (rest ++ tail) := by
  simp only [bytesBefore, List.append_assoc, List.cons_append]

theorem Member.bytesBefore_pos (m : Member Tree) (rest : Bytes) : 0 < (m.bytesBefore rest).length := by
  simp only [bytesBefore, List.length_append, List.length_cons]
  omega

end PeerPost.Json.Grammar
