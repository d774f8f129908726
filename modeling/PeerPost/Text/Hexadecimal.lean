import PeerPost.Text.Decimal
import PeerPost.Text.Utf8

/-!
# Hexadecimal digits

Numbers are written with small letters and read with letters of either case.
-/

namespace PeerPost.Hexadecimal

def digitChar (d : Nat) : Char :=
  if d < 10 then Char.ofNat ('0'.toNat + d) else Char.ofNat ('a'.toNat + (d - 10))

/-- The digits of a natural number, without leading zeros. -/
def digits (n : Nat) : List Char :=
  if n < 16 then [digitChar n] else digits (n / 16) ++ [digitChar (n % 16)]
termination_by n

/-- The value of an ASCII byte that is a digit. -/
def byteValue? (b : UInt8) : Option Nat :=
  if 0x30 ≤ b && b ≤ 0x39 then some (b.toNat - 0x30)
  else if 0x61 ≤ b && b ≤ 0x66 then some (b.toNat - 0x61 + 10)
  else if 0x41 ≤ b && b ≤ 0x46 then some (b.toNat - 0x41 + 10)
  else none

def charValue? (c : Char) : Option Nat :=
  if c.toNat < 128 then byteValue? c.toNat.toUInt8 else none

def isDigit (c : Char) : Bool :=
  (charValue? c).isSome

def value (ds : List Char) : Nat :=
  ds.foldl (fun n c => 16 * n + (charValue? c).getD 0) 0

/-- The bytes that pairs of digits stand for. -/
def decode? : Bytes → Option Bytes
  | [] => some []
  | [_] => none
  | a :: b :: rest =>
    match byteValue? a, byteValue? b, decode? rest with
    | some x, some y, some bytes => some ((x * 16 + y).toUInt8 :: bytes)
    | _, _, _ => none

end PeerPost.Hexadecimal
