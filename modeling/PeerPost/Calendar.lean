import PeerPost.Text.Decimal

/-!
# The proleptic Gregorian calendar

Days are counted from 1 March of the year 0, so that a leap day is the last day of its year and the
months have fixed starts. `Date.ofDay` finds the date of a day by taking off whole cycles of 400, 100,
4 and 1 years; `Date.day` goes back.
-/

namespace PeerPost.Calendar

/-- A calendar date. The year 0 precedes the year 1. -/
structure Date where
  year : Int
  month : Nat
  dayOfMonth : Nat
deriving DecidableEq

/-- A date and a time of day in milliseconds. -/
structure Moment where
  date : Date
  hour : Nat
  minute : Nat
  second : Nat
  milli : Nat
deriving DecidableEq

/-- The number of days from 1 March of the year 0 to 1 January 1970. -/
def epochDay : Int := 719468

/-- The days before the month that is `m` months after March, in a year that starts with March. -/
def daysBeforeMonth (m : Nat) : Nat :=
  (153 * m + 2) / 5

/-- The date of the day `n` days after 1 March of the year 0. -/
def Date.ofDay (n : Int) : Date :=
  let cycle := n / 146097
  let inCycle := (n % 146097).toNat
  let century := min (inCycle / 36524) 3
  let inCentury := inCycle - century * 36524
  let olympiad := inCentury / 1461
  let inOlympiad := inCentury - olympiad * 1461
  let single := min (inOlympiad / 365) 3
  let inYear := inOlympiad - single * 365
  let fromMarch := (5 * inYear + 2) / 153
  let year := cycle * 400 + century * 100 + olympiad * 4 + single
  ⟨if fromMarch < 10 then year else year + 1,
   if fromMarch < 10 then fromMarch + 3 else fromMarch - 9,
   inYear - daysBeforeMonth fromMarch + 1⟩

/-- The number of days from 1 March of the year 0 to a date. -/
def Date.day (d : Date) : Int :=
  let fromMarch := if 3 ≤ d.month then d.month - 3 else d.month + 9
  let year := if 3 ≤ d.month then d.year else d.year - 1
  365 * year + year / 4 - year / 100 + year / 400 + (daysBeforeMonth fromMarch + d.dayOfMonth - 1 : Nat)

def dayMillis : Int := 86400000

/-- The date and time that is `millis` milliseconds after the start of 1970. -/
def Moment.ofMillis (millis : Int) : Moment :=
  let inDay := (millis % dayMillis).toNat
  ⟨.ofDay (millis / dayMillis + epochDay), inDay / 3600000, inDay / 60000 % 60, inDay / 1000 % 60, inDay % 1000⟩

/-- The milliseconds from the start of 1970 to a date and time. -/
def Moment.millis (m : Moment) : Int :=
  (m.date.day - epochDay) * dayMillis + (m.hour * 3600000 + m.minute * 60000 + m.second * 1000 + m.milli : Nat)

/-- The text of a year: four digits from 0 to 9999, a sign and at least four digits otherwise. -/
def yearText (year : Int) : List Char :=
  if 0 ≤ year ∧ year ≤ 9999 then Decimal.padded 4 year.toNat
  else (if year < 0 then '-' else '+') :: Decimal.padded 4 year.natAbs

/-- The text of a moment in universal time, with three digits of milliseconds unless they are zero. -/
def Moment.text (m : Moment) : List Char :=
  yearText m.date.year ++ '-' :: Decimal.padded 2 m.date.month ++ '-' :: Decimal.padded 2 m.date.dayOfMonth ++
    'T' :: Decimal.padded 2 m.hour ++ ':' :: Decimal.padded 2 m.minute ++ ':' :: Decimal.padded 2 m.second ++
    (if m.milli = 0 then [] else '.' :: Decimal.padded 3 m.milli) ++ ['+', '0', '0', ':', '0', '0']

/-- The first and the last year whose moments have a text. -/
def firstYear : Int := -262143

def lastYear : Int := 262142

end PeerPost.Calendar
