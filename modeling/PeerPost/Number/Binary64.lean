import PeerPost.Text.Blank
import PeerPost.Text.Decimal

/-!
# Binary64 numbers

Numbers with 53 binary digits, as they are read from decimal text and written back. Reading rounds to
the nearest number, and of two that are equally near to the one with the even mantissa. All arithmetic
is exact.
-/

namespace PeerPost

/-- A binary64 number. A finite one is its mantissa, below 2 ^ 53, times the power of two with its
exponent, which is at least -1074. -/
inductive Binary64 where
  | nan
  | infinite (negative : Bool)
  | finite (negative : Bool) (mantissa : Nat) (exponent : Int)
deriving DecidableEq

namespace Binary64

def leastExponent : Int := -1074

def greatestExponent : Int := 971

/-- The numerator and the denominator of a quotient divided by a power of a base. -/
def scaleDown (base numerator denominator : Nat) (exponent : Int) : Nat × Nat :=
  (numerator * Nat.pow base (-exponent).toNat, denominator * Nat.pow base exponent.toNat)

/-- The nearest integer to a quotient, and of two that are equally near the even one. -/
def nearestEven (numerator denominator : Nat) : Nat :=
  let floor := numerator / denominator
  let twice := 2 * (numerator % denominator)
  if twice < denominator ∨ (twice = denominator ∧ floor % 2 = 0) then floor else floor + 1

/-- The number nearest to a quotient. -/
def ofQuotient (negative : Bool) (numerator denominator : Nat) : Binary64 :=
  if numerator = 0 then .finite negative 0 leastExponent
  else
    let low := max ((numerator.log2 : Int) - denominator.log2 - 53) leastExponent
    let (n, d) := scaleDown 2 numerator denominator low
    let exponent := if n / d < Nat.pow 2 53 then low else low + 1
    let (n, d) := scaleDown 2 numerator denominator exponent
    let mantissa := nearestEven n d
    -- Rounding up may take the mantissa to the next power of two.
    let (mantissa, exponent) := if mantissa = Nat.pow 2 53 then (Nat.pow 2 52, exponent + 1) else (mantissa, exponent)
    if greatestExponent < exponent then .infinite negative else .finite negative mantissa exponent

/-- The number nearest to the value of digits times a power of ten. -/
def ofDigits (negative : Bool) (digits : List Char) (exponent : Int) : Binary64 :=
  let digits := digits.dropWhile (· = '0')
  -- From 10 ^ 310 on everything is infinite, and below 10 ^ -325 everything is zero: the digits are valued
  -- only where the result depends on them.
  let magnitude := (digits.length : Int) + exponent
  if digits.isEmpty ∨ magnitude < -324 then .finite negative 0 leastExponent
  else if 310 < magnitude then .infinite negative
  else
    let (n, d) := scaleDown 10 (Decimal.valueByHalves digits.length.log2 digits) 1 (-exponent)
    ofQuotient negative n d

/-- Digits of an exponent count until their value reaches this bound. -/
def exponentBound : Nat := 65536

/-- The value of the digits of an exponent. The digits after the value has reached the bound are passed
over. -/
def exponentValue (digits : List Char) : Nat :=
  digits.foldl (fun n c => if n < exponentBound then 10 * n + Decimal.digitValue c else n) 0

/-- Reads an exponent to the end of a text; an empty text has exponent zero. -/
def readExponent? : List Char → Option Int
  | [] => some 0
  | c :: rest => if c = 'e' ∨ c = 'E' then Decimal.readSigned? exponentValue rest else none

/-- Reads the digits of a number without a sign. At least one digit stands before or after the point. -/
def readUnsigned? (negative : Bool) (text : List Char) : Option Binary64 :=
  let whole := text.takeWhile Decimal.isDigit
  let rest := text.dropWhile Decimal.isDigit
  let (fraction, rest) :=
    match rest with
    | '.' :: rest => (rest.takeWhile Decimal.isDigit, rest.dropWhile Decimal.isDigit)
    | rest => ([], rest)
  if whole.isEmpty && fraction.isEmpty then none
  else
    (readExponent? rest).map fun exponent =>
      ofDigits negative (whole ++ fraction) (exponent - fraction.length)

/-- Reads a number, infinity or NaN without a sign. -/
def readMagnitude? (negative : Bool) (text : List Char) : Option Binary64 :=
  let word := String.ofList (text.map Text.lowerAscii)
  if word = "nan" then some .nan
  else if word = "inf" ∨ word = "infinity" then some (.infinite negative)
  else readUnsigned? negative text

def ofChars? : List Char → Option Binary64
  | '+' :: rest => readMagnitude? false rest
  | '-' :: rest => readMagnitude? true rest
  | text => readMagnitude? false text

/-- Whether a number is zero, with either sign. -/
def isZero : Binary64 → Bool
  | .finite _ mantissa _ => mantissa = 0
  | _ => false

/-- The nearest natural number up to a bound; a half goes up. What is negative or NaN gives zero, and
what is too large gives the bound. -/
def toNatUpTo (greatest : Nat) : Binary64 → Nat
  | .nan => 0
  | .infinite negative => if negative then 0 else greatest
  | .finite true _ _ => 0
  | .finite false mantissa exponent =>
    let (n, d) := scaleDown 2 mantissa 1 (-exponent)
    min greatest ((2 * n + d) / (2 * d))

end Binary64

end PeerPost
