/-!
# Ranges of characters

A property of characters is given by the ranges of the numbers of the characters that have it, in
ascending order.
-/

namespace PeerPost.Text

/-- Whether a character lies in one of these ranges. Both ends of a range belong to it. -/
def inRanges : List (Nat × Nat) → Char → Bool
  | [], _ => false
  -- No later range can have a character that comes before the start of this one.
  | (first, last) :: rest, c => if c.toNat < first then false else c.toNat ≤ last || inRanges rest c

end PeerPost.Text
