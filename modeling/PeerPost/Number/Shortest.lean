import PeerPost.Number.Binary64

/-!
# Shortest decimal text

A finite binary64 number is written with the fewest digits that read back as the same number, and of
those with the nearest. No exponent is written: large numbers are filled up with zeros and small ones
start with zeros after the point.
-/

namespace PeerPost.Binary64

/-- The reals that round to a number lie between two bounds, given in quarters of its last binary digit. -/
def bounds (mantissa : Nat) (exponent : Int) : Nat × Nat :=
  -- Below a power of two the distance to the next number is halved.
  (4 * mantissa - if mantissa = Nat.pow 2 52 ∧ leastExponent < exponent then 1 else 2, 4 * mantissa + 2)

/-- Whether digits times a power of ten round to a number. The bounds belong to it if its mantissa is
even. -/
def roundsTo (mantissa : Nat) (exponent : Int) (digits : Nat) (power : Int) : Bool :=
  let (low, high) := bounds mantissa exponent
  let quarter := exponent - 2
  let scale (n : Nat) := n * Nat.pow 2 quarter.toNat * Nat.pow 10 (-power).toNat
  let x := digits * Nat.pow 10 power.toNat * Nat.pow 2 (-quarter).toNat
  if mantissa % 2 = 0 then scale low ≤ x && x ≤ scale high else scale low < x && x < scale high

/-- The number of zeros after the point of a quotient below one. -/
def zerosAfterPoint : Nat → Nat → Nat → Nat
  | 0, _, _ => 0
  | steps + 1, n, d => if d ≤ 10 * n then 0 else zerosAfterPoint steps (10 * n) d + 1

/-- The place of the first digit: a number with place `e` is at least 10 ^ (e - 1) and below 10 ^ e. -/
def firstPlace (n d : Nat) : Int :=
  if d ≤ n then (Decimal.digits (n / d)).length else -(zerosAfterPoint 400 n d : Int)

/-- The decimal numbers with a given number of digits that are next to a number, the nearer first. -/
def neighbours (mantissa : Nat) (exponent power : Int) : List Nat :=
  let (n, d) := scaleDown 2 mantissa 1 (-exponent)
  let (n, d) := scaleDown 10 n d power
  let floor := n / d
  if d ≤ 2 * (n % d) then [floor + 1, floor] else [floor, floor + 1]

/-- The digits and the power of ten of the shortest decimal that rounds to a number, from a number of
digits on. Seventeen digits are always enough. -/
def shortestFrom : Nat → Nat → Nat → Int → Int → Nat × Int
  | 0, _, _, _, place => (0, place)
  | steps + 1, count, mantissa, exponent, place =>
    let power := place - count
    match (neighbours mantissa exponent power).find? fun digits => roundsTo mantissa exponent digits power with
    | some digits => (digits, power)
    | none => shortestFrom steps (count + 1) mantissa exponent place

/-- The digits and the power of ten of the shortest decimal that rounds to a number. -/
def shortest (mantissa : Nat) (exponent : Int) : Nat × Int :=
  let (n, d) := scaleDown 2 mantissa 1 (-exponent)
  shortestFrom 17 1 mantissa exponent (firstPlace n d)

/-- Digits without the zeros at their end, and the power of ten of the last one. -/
def withoutTrailingZeros (digits : List Char) (power : Int) : List Char × Int :=
  let kept := (digits.reverse.dropWhile fun c => c = '0').reverse
  (kept, power + (digits.length - kept.length : Nat))

/-- Digits times a power of ten without an exponent. -/
def positional (digits : List Char) (power : Int) : List Char :=
  if 0 ≤ power then digits ++ List.replicate power.toNat '0'
  else
    let places := (-power).toNat
    if places < digits.length then
      digits.take (digits.length - places) ++ '.' :: digits.drop (digits.length - places)
    else '0' :: '.' :: List.replicate (places - digits.length) '0' ++ digits

def chars : Binary64 → List Char
  | .nan => ['N', 'a', 'N']
  | .infinite negative => (if negative then ['-'] else []) ++ ['i', 'n', 'f']
  | .finite negative mantissa exponent =>
    let magnitude :=
      if mantissa = 0 then ['0']
      else
        let (digits, power) := shortest mantissa exponent
        let (digits, power) := withoutTrailingZeros (Decimal.digits digits) power
        positional digits power
    if negative then '-' :: magnitude else magnitude

end PeerPost.Binary64
