import PeerPost.Calendar

/-!
# Timestamps

A timestamp is a number of milliseconds since the start of 1970, in 64 bits with a sign. Zero also
stands for "no activity yet".
-/

namespace PeerPost

/-- Milliseconds since the start of 1970. -/
structure Timestamp where
  millis : Int64
deriving DecidableEq

namespace Timestamp

/-- No activity yet. -/
def none : Timestamp := ⟨0⟩

def isNone (t : Timestamp) : Bool :=
  t == none

/-- The millisecond after this one; the last one has itself as successor. -/
def next (t : Timestamp) : Timestamp :=
  if t.millis = Int64.maxValue then t else ⟨t.millis + 1⟩

/-- The later of two timestamps. -/
def latest (a b : Timestamp) : Timestamp :=
  if a.millis ≤ b.millis then b else a

def notAfter (a b : Timestamp) : Bool :=
  a.millis ≤ b.millis

/-- This timestamp moved by an offset; the count wraps around at the ends. -/
def advance (t : Timestamp) (offset : Int64) : Timestamp :=
  ⟨t.millis + offset⟩

/-- The timestamp some milliseconds earlier, if there is one. -/
def before? (t : Timestamp) (offset : Nat) : Option Timestamp :=
  let earlier := t.millis.toInt - offset
  if Int64.minValue.toInt ≤ earlier then some ⟨Int64.ofInt earlier⟩ else Option.none

/-- The moment of a timestamp, if its year has a text. -/
def moment? (t : Timestamp) : Option Calendar.Moment :=
  let m := Calendar.Moment.ofMillis t.millis.toInt
  if Calendar.firstYear ≤ m.date.year ∧ m.date.year ≤ Calendar.lastYear then some m else Option.none

/-- The text of a timestamp: the date and time, or the bare number of milliseconds where the calendar
ends. -/
def display (t : Timestamp) : String :=
  match t.moment? with
  | some m => String.ofList m.text
  | Option.none => String.ofList (Decimal.ofInt t.millis.toInt ++ ['m', 's'])

end Timestamp

end PeerPost
