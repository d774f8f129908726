import PeerPost.Text.Hexadecimal

/-!
# Scanning JSON text

Scanners over the bytes of a JSON text. Each takes the bytes that are left and gives those after what
it has read, or nothing if the text is not JSON. `skipValue` goes over a whole value of any depth with
an explicit stack of open brackets. Strings that are skipped are checked for their quotes and escapes
only; strings that are read must be UTF-8 with paired surrogates.
-/

namespace PeerPost.Json.Scanner

/-- The white space between tokens: space, tab, line feed and carriage return. -/
def isSpace (b : UInt8) : Bool :=
  b == 0x20 || b == 0x09 || b == 0x0A || b == 0x0D

def skipSpace (input : Bytes) : Bytes :=
  input.dropWhile isSpace

def isDigit (b : UInt8) : Bool :=
  0x30 ≤ b && b ≤ 0x39

def skipDigits (input : Bytes) : Bytes :=
  input.dropWhile isDigit

def skipDigits1? : Bytes → Option Bytes
  | b :: rest => if isDigit b then some (skipDigits rest) else none
  | [] => none

/-- Skips the digits of an exponent with their optional sign. -/
def skipExponent? : Bytes → Option Bytes
  | b :: rest => if b == 0x2B || b == 0x2D then skipDigits1? rest else skipDigits1? (b :: rest)
  | [] => none

/-- Skips an exponent if there is one. -/
def skipOptionalExponent? : Bytes → Option Bytes
  | b :: rest => if b == 0x65 || b == 0x45 then skipExponent? rest else some (b :: rest)
  | [] => some []

/-- Skips a fraction and an exponent if they are there. -/
def skipFraction? : Bytes → Option Bytes
  | 0x2E :: rest => (skipDigits1? rest).bind skipOptionalExponent?
  | input => skipOptionalExponent? input

/-- Skips a number without its sign. A leading zero stands alone before the fraction. -/
def skipUnsigned? : Bytes → Option Bytes
  | 0x30 :: b :: rest => if isDigit b then none else skipFraction? (b :: rest)
  | b :: rest => if isDigit b then skipFraction? (skipDigits rest) else none
  | [] => none

/-- Reads four hexadecimal digits. -/
def readHex4? : Bytes → Option (Nat × Bytes)
  | a :: b :: c :: d :: rest => do
    let a ← Hexadecimal.byteValue? a
    let b ← Hexadecimal.byteValue? b
    let c ← Hexadecimal.byteValue? c
    let d ← Hexadecimal.byteValue? d
    some (a * 4096 + b * 256 + c * 16 + d, rest)
  | _ => none

/-- The byte that a one-letter escape stands for. -/
def plainEscape? (b : UInt8) : Option UInt8 :=
  if b == 0x22 || b == 0x5C || b == 0x2F then some b
  else if b == 0x62 then some 0x08
  else if b == 0x66 then some 0x0C
  else if b == 0x6E then some 0x0A
  else if b == 0x72 then some 0x0D
  else if b == 0x74 then some 0x09
  else none

/-- Skips the rest of a string up to and with the closing quote. -/
def skipString? : Bytes → Option Bytes
  | [] => none
  | 0x22 :: rest => some rest
  | 0x5C :: 0x75 :: a :: b :: c :: d :: rest =>
    if (readHex4? [a, b, c, d]).isSome then skipString? rest else none
  | 0x5C :: b :: rest => if (plainEscape? b).isSome then skipString? rest else none
  | b :: rest => if b < 0x20 then none else skipString? rest

/-- The UTF-8 bytes of a character number. -/
def codePointBytes (n : Nat) : Bytes :=
  String.utf8EncodeChar (Char.ofNat n)

/-- Reads the rest of a string up to and with the closing quote. `done` has the bytes so far, the last
one first. -/
def readStringBytes? (done : Bytes) : Bytes → Option (Bytes × Bytes)
  | [] => none
  | 0x22 :: rest => some (done.reverse, rest)
  | 0x5C :: 0x75 :: a :: b :: c :: d :: rest =>
    match readHex4? [a, b, c, d] with
    | none => none
    | some (high, _) =>
      if high < 0xD800 || 0xDFFF < high then readStringBytes? ((codePointBytes high).reverse ++ done) rest
      else if 0xDBFF < high then none
      else
        match rest with
        | 0x5C :: 0x75 :: e :: f :: g :: h :: rest =>
          match readHex4? [e, f, g, h] with
          | none => none
          | some (low, _) =>
            if low < 0xDC00 || 0xDFFF < low then none
            else
              let n := 0x10000 + (high - 0xD800) * 0x400 + (low - 0xDC00)
              readStringBytes? ((codePointBytes n).reverse ++ done) rest
        | _ => none
  | 0x5C :: b :: rest =>
    match plainEscape? b with
    | some c => readStringBytes? (c :: done) rest
    | none => none
  | b :: rest => if b < 0x20 then none else readStringBytes? (b :: done) rest

/-- Reads the rest of a string, which must be UTF-8, up to and with the closing quote. -/
def readString? (input : Bytes) : Option (String × Bytes) :=
  match readStringBytes? [] input with
  | some (bytes, rest) => (Text.ofUtf8? bytes).map fun text => (text, rest)
  | none => none

def skipLiteral? (literal input : Bytes) : Option Bytes :=
  literal.isPrefixOf? input

/-- A bracket that is still open. -/
inductive Bracket where
  | list
  | object
deriving DecidableEq

/-- What the scanner stands before: a value, or what may follow one. -/
inductive Expecting where
  | value
  | continuation

/-- Skips a member name with its colon and the white space before them. -/
def skipName? (input : Bytes) : Option Bytes :=
  match skipSpace input with
  | 0x22 :: rest =>
    match skipString? rest with
    | none => none
    | some rest =>
      match skipSpace rest with
      | 0x3A :: rest => some rest
      | _ => none
  | _ => none

/-- Skips a value that is neither a list nor an object. -/
def skipScalar? (input : Bytes) : Option Bytes :=
  match input with
  | 0x6E :: rest => skipLiteral? [0x75, 0x6C, 0x6C] rest
  | 0x74 :: rest => skipLiteral? [0x72, 0x75, 0x65] rest
  | 0x66 :: rest => skipLiteral? [0x61, 0x6C, 0x73, 0x65] rest
  | 0x2D :: rest => skipUnsigned? rest
  | 0x22 :: rest => skipString? rest
  | _ => skipUnsigned? input

/-- One step of skipping: the brackets open after it, what is expected next, and the bytes left. -/
def skipStep? (open_ : List Bracket) (expecting : Expecting) (input : Bytes) :
    Option (List Bracket × Expecting × Bytes) :=
  match expecting, skipSpace input with
  | .value, 0x5B :: rest =>
    match skipSpace rest with
    | 0x5D :: rest => some (open_, .continuation, rest)
    | rest => some (.list :: open_, .value, rest)
  | .value, 0x7B :: rest =>
    match skipSpace rest with
    | 0x7D :: rest => some (open_, .continuation, rest)
    | rest => (skipName? rest).map fun rest => (.object :: open_, .value, rest)
  | .value, rest => (skipScalar? rest).map fun rest => (open_, .continuation, rest)
  | .continuation, 0x2C :: rest =>
    match open_ with
    | .object :: _ => (skipName? rest).map fun rest => (open_, .value, rest)
    | _ => some (open_, .value, rest)
  | .continuation, 0x5D :: rest =>
    match open_ with
    | .list :: outer => some (outer, .continuation, rest)
    | _ => none
  | .continuation, 0x7D :: rest =>
    match open_ with
    | .object :: outer => some (outer, .continuation, rest)
    | _ => none
  | .continuation, _ => none

/-- Skips until all brackets are closed and a value is complete. -/
def skipSteps? : Nat → List Bracket → Expecting → Bytes → Option Bytes
  | _, [], .continuation, input => some input
  -- Every step takes at least one byte, so the steps do not run out before the value.
  | 0, _, _, _ => none
  | steps + 1, open_, expecting, input =>
    match skipStep? open_ expecting input with
    | some (open_, expecting, rest) => skipSteps? steps open_ expecting rest
    | none => none

/-- Skips a value with the white space before it. -/
def skipValue? (steps : Nat) (input : Bytes) : Option Bytes :=
  skipSteps? steps [] .value input

def atEnd (input : Bytes) : Bool :=
  (skipSpace input).isEmpty

end PeerPost.Json.Scanner
