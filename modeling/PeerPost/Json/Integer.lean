import PeerPost.Json.Scanner
import PeerPost.Text.Decimal

/-!
# JSON integers

An integer that stands alone as a JSON text. A fraction or an exponent makes a number no integer, and
so does the sign of minus zero.
-/

namespace PeerPost.Json

/-- The characters of a sequence of ASCII digits. -/
def digitChars (digits : Bytes) : List Char :=
  digits.map fun b => Char.ofNat b.toNat

/-- Reads digits without a leading zero to the end of the text. Their value counts up to a bound. -/
def readDigits? (bound : Nat) (input : Bytes) : Option Nat :=
  let digits := input.takeWhile Scanner.isDigit
  let rest := input.dropWhile Scanner.isDigit
  if !Scanner.atEnd rest || digits.isEmpty then none
  else if digits.head? = some 0x30 && digits.length ≠ 1 then none
  else some (Decimal.valueUpTo bound (digitChars digits))

/-- Reads an integer between two bounds. -/
def readInteger? (least greatest : Int) (input : Bytes) : Option Int :=
  let bound := least.natAbs + greatest.natAbs + 1
  let n? :=
    match Scanner.skipSpace input with
    | 0x2D :: rest => ((readDigits? bound rest).filter fun n => n ≠ 0).map fun n => -(n : Int)
    | rest => (readDigits? bound rest).map Int.ofNat
  n?.filter fun n => least ≤ n && n ≤ greatest

end PeerPost.Json
