import PeerPost.Proofs.Calendar
import PeerPost.Proofs.Legibility
import PeerPost.Proofs.Numerals
import PeerPost.Proofs.Times

/-! # The texts of timestamps

A moment is written as RFC 3339 has it for universal time: every field in its number of digits between its
separators, years beyond four digits with a sign, and milliseconds only if there are any. The fields can be told
from the text, so it is the text of one moment only. A timestamp that the calendar does not reach is written as a
number with a unit, and no moment is written like this. So the text of a timestamp shows which one it is. -/

namespace PeerPost

/-! ### Digits of a width -/

namespace Decimal

/-- Whether a text is so many digits that stand for a number. -/
structure Field (width n : Nat) (ds : List Char) : Prop where
  length : ds.length = width
  digits : ∀ c ∈ ds, c.isDigit = true
  value : Nat.ofDigitChars 10 ds 0 = n

theorem Field.append_inj {width n n' : Nat} {ds ds' rest rest' : List Char} (h : Field width n ds)
    (h' : Field width n' ds') (same : ds ++ rest = ds' ++ rest') : n = n' ∧ rest = rest' := by
  obtain ⟨rfl, tail⟩ := List.append_inj same (h.length.trans h'.length.symm)
  exact ⟨h.value.symm.trans h'.value, tail⟩

theorem head?_digits {n : Nat} (pos : 0 < n) : (digits n).head? ≠ some '0' := by
  induction n using digits.induct with
  | case1 n small =>
    have nonzero : ∀ d < 10, 0 < d → some (digitChar d) ≠ some '0' := by decide
    rw [digits, if_pos small]
    exact nonzero n small pos
  | case2 n large ih =>
    rw [digits, if_neg large, List.head?_append_of_ne_nil _ (digits_ne_nil _)]
    exact ih (by omega)

theorem length_digits_le_iff {width n : Nat} (pos : 0 < width) : (digits n).length ≤ width ↔ n < 10 ^ width := by
  rw [digits_eq_toDigits]
  exact Nat.length_toDigits_le_iff (by decide) pos

theorem length_padded (width n : Nat) : (padded width n).length = max width (digits n).length := by
  rw [padded, List.length_append, List.length_replicate]
  omega

theorem field_padded (width n : Nat) : Field (padded width n).length n (padded width n) where
  length := rfl
  digits c hc := by
    rcases List.mem_append.mp hc with hc | hc
    · rw [List.eq_of_mem_replicate hc]
      rfl
    · exact isDigit_of_mem_digits n c hc
  value := (value_zeros _ (fun _ hc => List.eq_of_mem_replicate hc) _).trans (value_digits n)

theorem field_padded_of_lt {width n : Nat} (pos : 0 < width) (lt : n < 10 ^ width) :
    Field width n (padded width n) := by
  have field := field_padded width n
  rwa [length_padded, Nat.max_eq_left ((length_digits_le_iff pos).mpr lt)] at field

end Decimal

namespace Calendar

open Decimal

/-! ### Texts of moments -/

/-- Whether a sign and digits are a year: from 0 to 9999 four digits without a sign, else a sign and at least four
digits, more than four without a leading zero. -/
structure IsYear (year : Int) (sign ds : List Char) : Prop where
  sign : sign = if year < 0 then ['-'] else if year ≤ 9999 then [] else ['+']
  field : Field ds.length year.natAbs ds
  four : 4 ≤ ds.length
  plain : 0 ≤ year → year ≤ 9999 → ds.length = 4
  tight : 4 < ds.length → ds.head? ≠ some '0'

/-- Whether a text is a fraction of a second: nothing for a whole second, else a point and three digits. -/
def IsFraction (milli : Nat) (text : List Char) : Prop :=
  milli = 0 ∧ text = [] ∨ milli ≠ 0 ∧ ∃ ds, text = '.' :: ds ∧ Field 3 milli ds

/-- The parts of a date and a time of day as RFC 3339 writes them. -/
structure Stamp where
  sign : List Char
  year : List Char
  month : List Char
  dayOfMonth : List Char
  hour : List Char
  minute : List Char
  second : List Char
  fraction : List Char

namespace Stamp

/-- The parts put together, for universal time. -/
def chars (s : Stamp) : List Char :=
  s.sign ++ s.year ++ '-' :: s.month ++ '-' :: s.dayOfMonth ++ 'T' :: s.hour ++ ':' :: s.minute ++ ':' :: s.second ++
    s.fraction ++ ['+', '0', '0', ':', '0', '0']

/-- Whether the parts are those of a moment. -/
structure Shows (s : Stamp) (m : Moment) : Prop where
  year : IsYear m.date.year s.sign s.year
  month : Field 2 m.date.month s.month
  dayOfMonth : Field 2 m.date.dayOfMonth s.dayOfMonth
  hour : Field 2 m.hour s.hour
  minute : Field 2 m.minute s.minute
  second : Field 2 m.second s.second
  fraction : IsFraction m.milli s.fraction

end Stamp

/-- Whether a text is a moment in universal time as RFC 3339 writes it, with a sign for a year that four digits do
not hold. -/
def IsRfc3339 (text : String) (m : Moment) : Prop :=
  ∃ s : Stamp, text.toList = s.chars ∧ s.Shows m

/-! ### What a text shows -/

theorem IsYear.sign_eq_minus_iff {year : Int} {sign ds : List Char} (h : IsYear year sign ds) :
    sign = ['-'] ↔ year < 0 := by
  rw [h.sign]
  split
  · simp [*]
  · split <;> simp [*]

theorem IsYear.append_inj {year year' : Int} {sign sign' ds ds' rest rest' : List Char} (h : IsYear year sign ds)
    (h' : IsYear year' sign' ds') (same : sign ++ (ds ++ '-' :: rest) = sign' ++ (ds' ++ '-' :: rest')) :
    year = year' ∧ rest = rest' := by
  have signs {year : Int} {sign ds : List Char} (h : IsYear year sign ds) : ∀ c ∈ sign, (!c.isDigit) = true := by
    rw [h.sign]
    split
    · exact List.forall_mem_singleton.mpr rfl
    · split
      · exact List.forall_mem_nil _
      · exact List.forall_mem_singleton.mpr rfl
  have starts {year : Int} {sign ds : List Char} (h : IsYear year sign ds) (rest : List Char) :
      ∀ c ∈ (ds ++ rest).head?, (!c.isDigit) = false := by
    cases ds with
    | nil => exact absurd h.four (by decide)
    | cons d ds =>
      rintro c ⟨⟩
      rw [h.field.digits d List.mem_cons_self]
      rfl
  have stops (rest : List Char) : ∀ c ∈ ('-' :: rest).head?, c.isDigit = false := by
    rintro c ⟨⟩
    rfl
  -- The sign ends at the first digit, and the digits at the separator.
  obtain ⟨rfl, unsigned⟩ := run_inj (signs h) (signs h') (starts h _) (starts h' _) same
  obtain ⟨rfl, tails⟩ := run_inj h.field.digits h'.field.digits (stops rest) (stops rest') unsigned
  have size : year.natAbs = year'.natAbs := h.field.value.symm.trans h'.field.value
  have negative : year < 0 ↔ year' < 0 := h.sign_eq_minus_iff.symm.trans h'.sign_eq_minus_iff
  exact ⟨by omega, (List.cons.inj tails).2⟩

theorem IsFraction.unique {milli milli' : Nat} {text : List Char} (h : IsFraction milli text)
    (h' : IsFraction milli' text) : milli = milli' := by
  rcases h with ⟨zero, rfl⟩ | ⟨-, ds, rfl, field⟩
  · rcases h' with ⟨zero', -⟩ | ⟨-, _, point, -⟩
    · exact zero.trans zero'.symm
    · cases point
  · rcases h' with ⟨-, point⟩ | ⟨-, ds', point, field'⟩
    · cases point
    · cases point
      exact field.value.symm.trans field'.value

/-- A text is the text of one moment only. -/
theorem Stamp.Shows.unique {s s' : Stamp} {m m' : Moment} (h : s.Shows m) (h' : s'.Shows m')
    (same : s.chars = s'.chars) : m = m' := by
  simp only [chars, List.append_assoc, List.cons_append] at same
  obtain ⟨year, same⟩ := h.year.append_inj h'.year same
  obtain ⟨month, same⟩ := h.month.append_inj h'.month same
  obtain ⟨dayOfMonth, same⟩ := h.dayOfMonth.append_inj h'.dayOfMonth (List.cons.inj same).2
  obtain ⟨hour, same⟩ := h.hour.append_inj h'.hour (List.cons.inj same).2
  obtain ⟨minute, same⟩ := h.minute.append_inj h'.minute (List.cons.inj same).2
  obtain ⟨second, same⟩ := h.second.append_inj h'.second (List.cons.inj same).2
  -- The fraction has no width of its own, but the rest of the text is the same for all moments.
  have fraction := h.fraction
  rw [List.append_cancel_right same] at fraction
  have milli := fraction.unique h'.fraction
  obtain ⟨⟨_, _, _⟩, _, _, _, _⟩ := m
  obtain ⟨⟨_, _, _⟩, _, _, _, _⟩ := m'
  simp only at year month dayOfMonth hour minute second milli
  simp only [year, month, dayOfMonth, hour, minute, second, milli]

theorem IsRfc3339.unique {text : String} {m m' : Moment} (h : IsRfc3339 text m) (h' : IsRfc3339 text m') :
    m = m' := by
  obtain ⟨s, chars, shows⟩ := h
  obtain ⟨s', chars', shows'⟩ := h'
  exact shows.unique shows' (chars.symm.trans chars')

/-! ### What is written for a moment -/

theorem isYear_yearText (year : Int) : ∃ sign ds, yearText year = sign ++ ds ∧ IsYear year sign ds := by
  by_cases plain : 0 ≤ year ∧ year ≤ 9999
  · have small : year.toNat < 10 ^ 4 := by omega
    have size : year.toNat = year.natAbs := by omega
    have field := field_padded_of_lt (by decide) small
    refine ⟨[], padded 4 year.toNat, if_pos plain, ?_, ?_, ?_, ?_, ?_⟩
    · rw [if_neg (by omega), if_pos plain.2]
    · rwa [field.length, ← size]
    · rw [field.length]
    · exact fun _ _ => field.length
    · intro long
      rw [field.length] at long
      exact absurd long (by decide)
  · refine ⟨[if year < 0 then '-' else '+'], padded 4 year.natAbs, if_neg plain, ?_, field_padded _ _, ?_, ?_, ?_⟩
    · split
      · rfl
      · rw [if_neg (by omega)]
    · rw [length_padded]
      exact Nat.le_max_left _ _
    · exact fun least most => absurd ⟨least, most⟩ plain
    · intro long
      rw [length_padded] at long
      have none : 4 - (digits year.natAbs).length = 0 := by omega
      rw [padded, none]
      exact head?_digits (by omega)

theorem isRfc3339_text {m : Moment} (h : m.Valid) : IsRfc3339 (String.ofList m.text) m := by
  obtain ⟨sign, ds, written, year⟩ := isYear_yearText m.date.year
  have two {n : Nat} (lt : n < 100) : Field 2 n (padded 2 n) := field_padded_of_lt (by decide) lt
  have dayOfMonth_lt : m.date.dayOfMonth < 100 := by
    have length := (monthLength_bounds m.date.year m.date.month).2
    have le := h.date.dayOfMonth_le
    omega
  have month_le := h.date.month_le
  have hour_lt := h.hour_lt
  have minute_lt := h.minute_lt
  have second_lt := h.second_lt
  refine ⟨⟨sign, ds, padded 2 m.date.month, padded 2 m.date.dayOfMonth, padded 2 m.hour, padded 2 m.minute,
    padded 2 m.second, if m.milli = 0 then [] else '.' :: padded 3 m.milli⟩, ?_,
    ⟨year, two (by omega), two dayOfMonth_lt, two (by omega), two (by omega), two (by omega), ?_⟩⟩
  · rw [String.toList_ofList, Moment.text, written]
    rfl
  · by_cases whole : m.milli = 0
    · exact Or.inl ⟨whole, if_pos whole⟩
    · exact Or.inr ⟨whole, _, if_neg whole, field_padded_of_lt (by decide) h.milli_lt⟩

theorem not_isRfc3339_append_ms (text : String) (m : Moment) : ¬IsRfc3339 (text ++ "ms") m := by
  rintro ⟨s, chars, -⟩
  have last : (text ++ "ms").toList.getLast? = some 's' := by simp
  have zero : s.chars.getLast? = some '0' := by
    rw [Stamp.chars, List.getLast?_append]
    rfl
  rw [chars, zero] at last
  exact absurd last (by decide)

end Calendar

namespace Timestamp

open Calendar

/-! ### Texts of timestamps -/

/-- Whether the calendar reaches a timestamp. -/
def InCalendar (t : Timestamp) : Prop :=
  -8334601228800000 ≤ t.millis.toInt ∧ t.millis.toInt ≤ 8210266876799999

variable {a b t : Timestamp}

/-- The calendar reaches from the start of its first year to the end of its last year. -/
theorem inCalendar_iff : t.InCalendar ↔
    firstYear ≤ (Moment.ofMillis t.millis.toInt).date.year ∧
      (Moment.ofMillis t.millis.toInt).date.year ≤ lastYear := by
  have valid := (Moment.valid_ofMillis t.millis.toInt).date
  have day : (Moment.ofMillis t.millis.toInt).date.day = t.millis.toInt / dayMillis + epochDay := Date.day_ofDay _
  have start : (⟨firstYear, 1, 1⟩ : Date).day = -95745824 := rfl
  have stop : (⟨lastYear + 1, 1, 1⟩ : Date).day = 95745705 := rfl
  have first := valid.le_year_iff firstYear
  have last := valid.le_year_iff (lastYear + 1)
  rw [day, start, epochDay, dayMillis] at first
  rw [day, stop, epochDay, dayMillis] at last
  unfold InCalendar
  omega

theorem isRfc3339_display (within : t.InCalendar) : IsRfc3339 t.display (Moment.ofMillis t.millis.toInt) := by
  have found : t.moment? = some (Moment.ofMillis t.millis.toInt) := if_pos (inCalendar_iff.mp within)
  rw [display, found]
  exact isRfc3339_text (Moment.valid_ofMillis _)

theorem display_beyond (beyond : ¬t.InCalendar) : t.display = toString t.millis.toInt ++ "ms" := by
  have none : t.moment? = Option.none := if_neg fun years => beyond (inCalendar_iff.mpr years)
  rw [display, none, Decimal.toString_eq_ofInt, String.ofList_append]

theorem display_within_ne_beyond (within : a.InCalendar) (beyond : ¬b.InCalendar) : a.display ≠ b.display := by
  intro same
  have written := isRfc3339_display within
  rw [same, display_beyond beyond] at written
  exact not_isRfc3339_append_ms _ _ written

theorem display_inj (same : a.display = b.display) : a = b := by
  apply eq_of_toInt
  by_cases ha : a.InCalendar
  · by_cases hb : b.InCalendar
    · have moments := (same ▸ isRfc3339_display ha).unique (isRfc3339_display hb)
      rw [← Moment.millis_ofMillis a.millis.toInt, moments, Moment.millis_ofMillis]
    · exact absurd same (display_within_ne_beyond ha hb)
  · by_cases hb : b.InCalendar
    · exact absurd same.symm (display_within_ne_beyond hb ha)
    · rw [display_beyond ha, display_beyond hb, Decimal.toString_eq_ofInt, Decimal.toString_eq_ofInt] at same
      have chars := congrArg String.toList same
      simp only [String.toList_append, String.toList_ofList] at chars
      exact (Decimal.ofInt_inj (stops_cons rfl _) (stops_cons rfl _) chars).1

/-- The text of a timestamp shows which one it is. Between the start of the year -262143 and the end of the year
262142 it is written by RFC 3339 in universal time, as the text of the one moment that is so many milliseconds
after the start of 1970, or before it, counted day by day on the calendar. Beyond these years it is the number of
milliseconds with a unit, which is the text of no moment. -/
theorem display_lossless :
    (∀ a b : Timestamp, a.display = b.display ↔ a = b) ∧
    (∀ t : Timestamp,
      if -8334601228800000 ≤ t.millis.toInt ∧ t.millis.toInt ≤ 8210266876799999 then
        ∃ m : Moment, m.Denotes t.millis.toInt ∧ ∀ m', IsRfc3339 t.display m' ↔ m' = m
      else t.display = toString t.millis.toInt ++ "ms") ∧
    (⟨⟨-262143, 1, 1⟩, 0, 0, 0, 0⟩ : Moment).Denotes (-8334601228800000) ∧
    (⟨⟨262142, 12, 31⟩, 23, 59, 59, 999⟩ : Moment).Denotes 8210266876799999 ∧
    ∀ (n : Int) (m : Moment), ¬IsRfc3339 (toString n ++ "ms") m := by
  refine ⟨fun a b => ⟨display_inj, congrArg display⟩, fun t => ?_, Moment.denotes_iff.mpr (by decide),
    Moment.denotes_iff.mpr (by decide), fun n m => not_isRfc3339_append_ms _ m⟩
  split
  · next within =>
    have written := isRfc3339_display within
    refine ⟨Moment.ofMillis t.millis.toInt, Moment.denotes_iff.mpr rfl, fun m' => ?_⟩
    constructor
    · exact fun other => other.unique written
    · rintro rfl
      exact written
  · next beyond => exact display_beyond beyond

example : (⟨-1⟩ : Timestamp).display = "1969-12-31T23:59:59.999+00:00" := by cbv

end Timestamp

end PeerPost
