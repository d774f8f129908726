/-!
# Decimal integers

How integers are written in base ten, and how they are read: an optional sign and at least one ASCII
digit, leading zeros allowed. The value of very many digits costs little in two ways: by halves
(`valueByHalves_eq`), and up to a bound (`valueUpTo_eq`).
-/

namespace PeerPost.Decimal

def isDigit (c : Char) : Bool :=
  '0' ≤ c && c ≤ '9'

def digitValue (c : Char) : Nat :=
  c.toNat - '0'.toNat

def digitChar (d : Nat) : Char :=
  Char.ofNat ('0'.toNat + d)

/-- The digits of a natural number, without leading zeros. -/
def digits (n : Nat) : List Char :=
  if n < 10 then [digitChar n] else digits (n / 10) ++ [digitChar (n % 10)]
termination_by n

/-- The digits of a natural number, with leading zeros up to a width. -/
def padded (width n : Nat) : List Char :=
  List.replicate (width - (digits n).length) '0' ++ digits n

/-- The digits of a natural number, after a minus if there is one. -/
def signed (negative : Bool) (n : Nat) : List Char :=
  if negative then '-' :: digits n else digits n

/-- The text of an integer: its digits, after a minus if it is negative. -/
def ofInt : Int → List Char
  | .ofNat n => digits n
  | .negSucc n => '-' :: digits (n + 1)

def value (ds : List Char) : Nat :=
  ds.foldl (fun n c => 10 * n + digitValue c) 0

/-- The value of a sequence of digits, found from the values of its halves, and so on to a depth. -/
def valueByHalves : Nat → List Char → Nat
  | 0, ds => value ds
  | depth + 1, ds =>
    let half := ds.length / 2
    valueByHalves depth (ds.take half) * Nat.pow 10 (ds.length - half) + valueByHalves depth (ds.drop half)

/-- The value of a sequence of digits, or a bound if that is less. -/
def valueUpTo (bound : Nat) (ds : List Char) : Nat :=
  ds.foldl (fun n c => min bound (10 * n + digitValue c)) 0

/-- Whether a text is one or more digits. -/
def isDigits (text : List Char) : Bool :=
  !text.isEmpty && text.all isDigit

/-- Reads an optional sign and one or more digits, which are valued by `valueOf`. -/
def readSigned? (valueOf : List Char → Nat) : List Char → Option Int
  | '+' :: rest => if isDigits rest then some (valueOf rest) else none
  | '-' :: rest => if isDigits rest then some (-(valueOf rest : Int)) else none
  | text => if isDigits text then some (valueOf text) else none

def readInt? (text : List Char) : Option Int :=
  readSigned? value text

/-- Reads an integer between two bounds. -/
def readIntWithin? (least greatest : Int) (text : List Char) : Option Int :=
  (readSigned? (valueUpTo (least.natAbs + greatest.natAbs + 1)) text).filter fun n => least ≤ n && n ≤ greatest

/-- Digits that follow others are valued from the value of those. -/
theorem foldl_value (ds : List Char) (n : Nat) :
    ds.foldl (fun n c => 10 * n + digitValue c) n = n * Nat.pow 10 ds.length + value ds := by
  induction ds generalizing n with
  | nil =>
    show n = n * 1 + 0
    omega
  | cons c ds ih =>
    have power : Nat.pow 10 (ds.length + 1) = Nat.pow 10 ds.length * 10 := rfl
    rw [value, List.foldl_cons, List.foldl_cons, ih, ih (10 * 0 + digitValue c), List.length_cons, power]
    grind

/-- The value of two sequences of digits in a row. -/
theorem value_append (high low : List Char) : value (high ++ low) = value high * Nat.pow 10 low.length + value low := by
  rw [value, List.foldl_append, foldl_value]
  rfl

theorem valueByHalves_eq (depth : Nat) (ds : List Char) : valueByHalves depth ds = value ds := by
  induction depth generalizing ds with
  | zero => rfl
  | succ depth ih =>
    have h := value_append (ds.take (ds.length / 2)) (ds.drop (ds.length / 2))
    rw [List.take_append_drop, List.length_drop] at h
    rw [valueByHalves, ih, ih, h]

/-- A bound on the way is a bound on the result. -/
theorem foldl_valueUpTo (bound : Nat) (ds : List Char) (n : Nat) :
    ds.foldl (fun n c => min bound (10 * n + digitValue c)) (min bound n) =
      min bound (ds.foldl (fun n c => 10 * n + digitValue c) n) := by
  induction ds generalizing n with
  | nil => rfl
  | cons c ds ih =>
    have h : min bound (10 * min bound n + digitValue c) = min bound (10 * n + digitValue c) := by omega
    rw [List.foldl_cons, List.foldl_cons, h, ih]

/-- A bounded value is the lesser of the value and the bound. -/
theorem valueUpTo_eq (bound : Nat) (ds : List Char) : valueUpTo bound ds = min bound (value ds) := by
  have h := foldl_valueUpTo bound ds 0
  rwa [Nat.min_zero] at h

/-- An integer between two bounds is read whenever the integer read lies between them. -/
theorem readIntWithin?_eq (least greatest : Int) (text : List Char) :
    readIntWithin? least greatest text = (readInt? text).filter fun n => least ≤ n && n ≤ greatest := by
  have filter_eq {a b : Int} (h : a = b ∨ (greatest < a ∧ greatest < b) ∨ (a < least ∧ b < least)) :
      (some a).filter (fun n => least ≤ n && n ≤ greatest) = (some b).filter fun n => least ≤ n && n ≤ greatest := by
    grind
  have value_eq (ds : List Char) := valueUpTo_eq (least.natAbs + greatest.natAbs + 1) ds
  unfold readIntWithin? readInt? readSigned?
  split
  next rest =>
    split
    · exact filter_eq (by have := value_eq rest; omega)
    · rfl
  next rest =>
    split
    · exact filter_eq (by have := value_eq rest; omega)
    · rfl
  next =>
    split
    · exact filter_eq (by have := value_eq text; omega)
    · rfl

end PeerPost.Decimal
