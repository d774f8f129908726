import Mathlib.Logic.Function.Iterate
import Mathlib.Tactic.IntervalCases
import PeerPost.Calendar

/-! # The days of the calendar

The months have their lengths, and February has one day more in a leap year. So every date has a next one: the
next day of the month, the first day of the next month, or the first day of the next year. The date of a day is
the one that is reached from the first day of 1970 by counting day by day, forwards or backwards, and a moment is
found for every number of milliseconds whose date and time of day amount to just this number. -/

namespace PeerPost.Calendar

/-! ### Dates -/

/-- A leap year is divisible by 4, and if it is divisible by 100, also by 400. -/
def IsLeap (year : Int) : Prop :=
  year % 4 = 0 ∧ (year % 100 ≠ 0 ∨ year % 400 = 0)

instance (year : Int) : Decidable (IsLeap year) :=
  inferInstanceAs (Decidable (_ ∧ _))

/-- The number of days of a month. -/
def monthLength (year : Int) (month : Nat) : Nat :=
  if month = 2 then if IsLeap year then 29 else 28
  else if month = 4 ∨ month = 6 ∨ month = 9 ∨ month = 11 then 30
  else 31

namespace Date

/-- Whether the calendar has a date. -/
structure Valid (d : Date) : Prop where
  month_pos : 1 ≤ d.month
  month_le : d.month ≤ 12
  dayOfMonth_pos : 1 ≤ d.dayOfMonth
  dayOfMonth_le : d.dayOfMonth ≤ monthLength d.year d.month

/-- The next date. -/
def tomorrow (d : Date) : Date :=
  if d.dayOfMonth < monthLength d.year d.month then ⟨d.year, d.month, d.dayOfMonth + 1⟩
  else if d.month < 12 then ⟨d.year, d.month + 1, 1⟩
  else ⟨d.year + 1, 1, 1⟩

end Date

theorem monthLength_bounds (year : Int) (month : Nat) : 1 ≤ monthLength year month ∧ monthLength year month ≤ 31 := by
  unfold monthLength
  split
  · split <;> decide
  · split <;> decide

/-! ### Years from March -/

/-- The number of days from 1 March of the year 0 to 1 March of a year. -/
def daysBeforeMarch (year : Int) : Int :=
  365 * year + year / 4 - year / 100 + year / 400

/-- A year from March has a leap day at its end if the year in which it ends is a leap year. -/
theorem daysBeforeMarch_succ (year : Int) :
    daysBeforeMarch (year + 1) = daysBeforeMarch year + if IsLeap (year + 1) then 366 else 365 := by
  unfold daysBeforeMarch
  split
  · next leap =>
    unfold IsLeap at leap
    omega
  · next common =>
    unfold IsLeap at common
    omega

theorem daysBeforeMarch_add_le (year : Int) : daysBeforeMarch year + 365 ≤ daysBeforeMarch (year + 1) := by
  rw [daysBeforeMarch_succ]
  split <;> omega

theorem daysBeforeMarch_mono {year year' : Int} (h : year ≤ year') :
    daysBeforeMarch year ≤ daysBeforeMarch year' := by
  unfold daysBeforeMarch
  omega

/-- Whole cycles of years have fixed numbers of days. -/
theorem daysBeforeMarch_cycles (cycle : Int) {century olympiad single : Nat} (hc : century ≤ 3) (ho : olympiad ≤ 24)
    (hs : single ≤ 3) : daysBeforeMarch (cycle * 400 + century * 100 + olympiad * 4 + single) =
      cycle * 146097 + century * 36524 + olympiad * 1461 + single * 365 := by
  unfold daysBeforeMarch
  omega

/-- Whether a year from March has a day with this number, counted from zero. -/
def HasDay (year : Int) (n : Nat) : Prop :=
  daysBeforeMarch year + n < daysBeforeMarch (year + 1)

section

variable {year year' : Int} {n n' : Nat}

/-- Days are in the order of their years from March, and in each year in the order of their numbers. -/
theorem HasDay.le_iff (h : HasDay year n) (h' : HasDay year' n') :
    daysBeforeMarch year + n ≤ daysBeforeMarch year' + n' ↔ year < year' ∨ year = year' ∧ n ≤ n' := by
  unfold HasDay at h h'
  rcases Int.lt_trichotomy year year' with less | rfl | more
  · have far := daysBeforeMarch_mono (Int.add_one_le_of_lt less)
    omega
  · omega
  · have far := daysBeforeMarch_mono (Int.add_one_le_of_lt more)
    omega

theorem HasDay.unique (h : HasDay year n) (h' : HasDay year' n')
    (same : daysBeforeMarch year + n = daysBeforeMarch year' + n') : year = year' ∧ n = n' := by
  have le := (h.le_iff h').mp (Int.le_of_eq same)
  have ge := (h'.le_iff h).mp (Int.le_of_eq same.symm)
  omega

end

/-! ### Months from March -/

theorem daysBeforeMonth_le_iff {m n : Nat} : daysBeforeMonth m ≤ n ↔ m ≤ (5 * n + 2) / 153 := by
  unfold daysBeforeMonth
  omega

/-- The months partition the days of a year from March. -/
theorem fromMarch_eq_iff {m n : Nat} :
    (5 * n + 2) / 153 = m ↔ daysBeforeMonth m ≤ n ∧ n < daysBeforeMonth (m + 1) := by
  rw [← Nat.not_le, daysBeforeMonth_le_iff, daysBeforeMonth_le_iff]
  omega

/-- Whether a year from March has such a day in such a month, both counted from zero. -/
structure HasDate (year : Int) (m k : Nat) : Prop where
  month_le : m ≤ 11
  inMonth : daysBeforeMonth m + k < daysBeforeMonth (m + 1)
  inYear : HasDay year (daysBeforeMonth m + k)

namespace Date

/-- The date of a day in a month of a year from March, month and day counted from zero. -/
def ofMarch (year : Int) (m k : Nat) : Date :=
  ⟨if m < 10 then year else year + 1, if m < 10 then m + 3 else m - 9, k + 1⟩

variable {d : Date} {year : Int} {m k : Nat}

theorem exists_ofMarch (h : d.Valid) : ∃ year m k, d = ofMarch year m k ∧ m ≤ 11 := by
  obtain ⟨year, month, dayOfMonth⟩ := d
  obtain ⟨month_pos, month_le, dayOfMonth_pos, -⟩ := h
  dsimp only at month_pos month_le dayOfMonth_pos
  by_cases late : 3 ≤ month
  · refine ⟨year, month - 3, dayOfMonth - 1, ?_, by omega⟩
    rw [ofMarch, if_pos (by omega), if_pos (by omega), Nat.sub_add_cancel late, Nat.sub_add_cancel dayOfMonth_pos]
  · refine ⟨year - 1, month + 9, dayOfMonth - 1, ?_, by omega⟩
    rw [ofMarch, if_neg (by omega), if_neg (by omega), Int.sub_add_cancel, Nat.add_sub_cancel,
      Nat.sub_add_cancel dayOfMonth_pos]

theorem day_ofMarch (le : m ≤ 11) : (ofMarch year m k).day = daysBeforeMarch year + (daysBeforeMonth m + k : Nat) := by
  simp only [day, ofMarch, daysBeforeMarch]
  by_cases early : m < 10
  · have month : 3 ≤ m + 3 := Nat.le_add_left 3 m
    simp only [if_pos early, if_pos month, Nat.add_sub_cancel]
    omega
  · have month : ¬3 ≤ m - 9 := by omega
    have back : m - 9 + 9 = m := by omega
    simp only [if_neg early, if_neg month, back, Int.add_sub_cancel]
    omega

/-- Every month but February is as long as the starts of the months say. -/
theorem monthLength_ofMarch (year : Int) (k : Nat) (lt : m < 11) :
    daysBeforeMonth m + monthLength (ofMarch year m k).year (ofMarch year m k).month = daysBeforeMonth (m + 1) := by
  unfold ofMarch monthLength daysBeforeMonth
  interval_cases m <;> rfl

theorem monthLength_february :
    monthLength (ofMarch year 11 k).year (ofMarch year 11 k).month = if IsLeap (year + 1) then 29 else 28 := rfl

theorem valid_ofMarch_iff (le : m ≤ 11) : (ofMarch year m k).Valid ↔ HasDate year m k := by
  have valid : (ofMarch year m k).Valid ↔ k < monthLength (ofMarch year m k).year (ofMarch year m k).month := by
    refine ⟨fun h => h.dayOfMonth_le, fun short => ⟨?_, ?_, Nat.le_add_left 1 k, short⟩⟩
    · simp only [ofMarch]
      split <;> omega
    · simp only [ofMarch]
      split <;> omega
  have date : HasDate year m k ↔
      daysBeforeMonth m + k < daysBeforeMonth (m + 1) ∧ HasDay year (daysBeforeMonth m + k) :=
    ⟨fun h => ⟨h.inMonth, h.inYear⟩, fun h => ⟨le, h.1, h.2⟩⟩
  rw [valid, date, HasDay, daysBeforeMarch_succ]
  rcases Nat.lt_or_eq_of_le le with lt | rfl
  · have length := monthLength_ofMarch year k lt
    have bound : daysBeforeMonth (m + 1) ≤ 337 := by
      unfold daysBeforeMonth
      omega
    split <;> omega
  · rw [monthLength_february]
    unfold daysBeforeMonth
    split <;> omega

/-- The date of a day is found in two parts: the year from March, and the day in it. -/
theorem ofDay_inv (n : Int) : ∃ year m k, ofDay n = ofMarch year m k ∧ HasDate year m k ∧
    n = daysBeforeMarch year + (daysBeforeMonth m + k : Nat) := by
  let cycle := n / 146097
  let inCycle := (n % 146097).toNat
  let century := min (inCycle / 36524) 3
  let inCentury := inCycle - century * 36524
  let olympiad := inCentury / 1461
  let inOlympiad := inCentury - olympiad * 1461
  let single := min (inOlympiad / 365) 3
  let inYear := inOlympiad - single * 365
  let fromMarch := (5 * inYear + 2) / 153
  let year := cycle * 400 + century * 100 + olympiad * 4 + single
  -- Only the last century of a cycle and the last year of an olympiad can have one day more.
  have hcycle : n = cycle * 146097 + inCycle ∧ inCycle < 146097 := by omega
  have hcentury : century ≤ 3 ∧ inCycle = century * 36524 + inCentury ∧
      (inCentury < 36524 ∨ century = 3 ∧ inCentury = 36524) := by omega
  have holympiad : olympiad ≤ 24 ∧ inCentury = olympiad * 1461 + inOlympiad ∧ inOlympiad < 1461 := by omega
  have hsingle : single ≤ 3 ∧ inOlympiad = single * 365 + inYear ∧
      (inYear < 365 ∨ single = 3 ∧ inYear = 365) := by omega
  have start : daysBeforeMarch year = cycle * 146097 + century * 36524 + olympiad * 1461 + single * 365 :=
    daysBeforeMarch_cycles cycle hcentury.1 holympiad.1 hsingle.1
  have has : HasDay year inYear := by
    rw [HasDay, daysBeforeMarch_succ]
    split
    · omega
    · next common =>
      unfold IsLeap at common
      omega
  obtain ⟨least, most⟩ := fromMarch_eq_iff.mp (rfl : _ = fromMarch)
  have whole : daysBeforeMonth fromMarch + (inYear - daysBeforeMonth fromMarch) = inYear := Nat.add_sub_of_le least
  have month_le : fromMarch ≤ 11 := by omega
  refine ⟨year, fromMarch, inYear - daysBeforeMonth fromMarch, rfl, ⟨month_le, ?_, ?_⟩, ?_⟩
  · rwa [whole]
  · rwa [whole]
  · rw [whole]
    omega

theorem valid_ofDay (n : Int) : (ofDay n).Valid := by
  obtain ⟨year, m, k, found, date, -⟩ := ofDay_inv n
  rw [found]
  exact (valid_ofMarch_iff date.month_le).mpr date

theorem day_ofDay (n : Int) : (ofDay n).day = n := by
  obtain ⟨year, m, k, found, date, sum⟩ := ofDay_inv n
  rw [found, day_ofMarch date.month_le, sum]

/-- No two dates are the same day. -/
theorem Valid.eq_of_day {d' : Date} (h : d.Valid) (h' : d'.Valid) (same : d.day = d'.day) : d = d' := by
  obtain ⟨year, m, k, rfl, le⟩ := exists_ofMarch h
  obtain ⟨year', m', k', rfl, le'⟩ := exists_ofMarch h'
  have date := (valid_ofMarch_iff le).mp h
  have date' := (valid_ofMarch_iff le').mp h'
  rw [day_ofMarch le, day_ofMarch le'] at same
  obtain ⟨rfl, days⟩ := date.inYear.unique date'.inYear same
  have month := fromMarch_eq_iff.mpr ⟨Nat.le_add_right _ k, date.inMonth⟩
  rw [days, fromMarch_eq_iff.mpr ⟨Nat.le_add_right _ k', date'.inMonth⟩] at month
  subst month
  rw [Nat.add_left_cancel days]

theorem ofDay_day (h : d.Valid) : ofDay d.day = d :=
  (valid_ofDay d.day).eq_of_day h (day_ofDay d.day)

/-- A date is in a year or later if its day is the first of this year or later. -/
theorem Valid.le_year_iff (h : d.Valid) (year : Int) : year ≤ d.year ↔ (⟨year, 1, 1⟩ : Date).day ≤ d.day := by
  have first : (⟨year, 1, 1⟩ : Date) = ofMarch (year - 1) 10 0 := by
    rw [ofMarch, if_neg (by decide), if_neg (by decide), Int.sub_add_cancel]
  have newYear : HasDay (year - 1) (daysBeforeMonth 10 + 0) := by
    have long := daysBeforeMarch_add_le (year - 1)
    unfold HasDay daysBeforeMonth
    omega
  obtain ⟨start, m, k, rfl, le⟩ := exists_ofMarch h
  obtain ⟨-, inMonth, inYear⟩ := (valid_ofMarch_iff le).mp h
  rw [first, day_ofMarch (by decide), day_ofMarch le, newYear.le_iff inYear]
  show year ≤ (if m < 10 then start else start + 1) ↔ _
  unfold daysBeforeMonth at inMonth ⊢
  split <;> omega

/-! ### Counting day by day -/

theorem valid_tomorrow (h : d.Valid) : d.tomorrow.Valid := by
  unfold tomorrow
  split
  · next within => exact ⟨h.month_pos, h.month_le, Nat.le_add_left 1 _, within⟩
  · split
    · next early => exact ⟨Nat.le_add_left 1 _, early, Nat.le_refl 1, (monthLength_bounds _ _).1⟩
    · exact ⟨Nat.le_refl 1, (by decide : 1 ≤ 12), Nat.le_refl 1, (monthLength_bounds _ _).1⟩

/-- After the last day of a month from March comes the first day of the next month, and after the last of them
the next year from March. -/
theorem tomorrow_ofMarch (year : Int) (k : Nat) (le : m ≤ 11) : (ofMarch year m k).tomorrow =
    if k + 1 < monthLength (ofMarch year m k).year (ofMarch year m k).month then ofMarch year m (k + 1)
    else if m < 11 then ofMarch year (m + 1) 0
    else ofMarch (year + 1) 0 0 := by
  interval_cases m <;> rfl

theorem day_tomorrow (h : d.Valid) : d.tomorrow.day = d.day + 1 := by
  obtain ⟨year, m, k, rfl, le⟩ := exists_ofMarch h
  have within : k + 1 ≤ monthLength (ofMarch year m k).year (ofMarch year m k).month := h.dayOfMonth_le
  rw [tomorrow_ofMarch year k le, day_ofMarch le]
  split
  · rw [day_ofMarch le]
    omega
  next last =>
  split
  · next lt =>
    have length := monthLength_ofMarch year k lt
    have next_le : m + 1 ≤ 11 := lt
    rw [day_ofMarch next_le]
    omega
  · next february =>
    obtain rfl : m = 11 := by omega
    rw [monthLength_february] at within last
    rw [day_ofMarch (Nat.zero_le 11), daysBeforeMarch_succ]
    unfold daysBeforeMonth
    by_cases leap : IsLeap (year + 1)
    · rw [if_pos leap] at within last ⊢
      omega
    · rw [if_neg leap] at within last ⊢
      omega

theorem tomorrow_iterate (h : d.Valid) (n : Nat) : (tomorrow^[n] d).Valid ∧ (tomorrow^[n] d).day = d.day + n := by
  induction n with
  | zero => exact ⟨h, (Int.add_zero _).symm⟩
  | succ n ih =>
    obtain ⟨valid, day⟩ := ih
    rw [Function.iterate_succ_apply']
    refine ⟨valid_tomorrow valid, ?_⟩
    rw [day_tomorrow valid, day]
    omega

/-- The first day of 1970. -/
def epoch : Date := ⟨1970, 1, 1⟩

/-- Whether a date is so many days after the first day of 1970, or before it if the number is negative, counted
day by day. -/
def IsDay (d : Date) : Int → Prop
  | .ofNat n => tomorrow^[n] epoch = d
  | .negSucc n => tomorrow^[n + 1] d = epoch

theorem isDay_iff (h : d.Valid) (days : Int) : d.IsDay days ↔ d.day = epochDay + days := by
  have valid_epoch : epoch.Valid := ⟨by decide, by decide, by decide, by decide⟩
  have day_epoch : epoch.day = epochDay := rfl
  cases days with
  | ofNat n =>
    obtain ⟨valid, day⟩ := tomorrow_iterate valid_epoch n
    rw [day_epoch] at day
    constructor
    · rintro rfl
      exact day
    · intro same
      exact valid.eq_of_day h (day.trans same.symm)
  | negSucc n =>
    obtain ⟨valid, day⟩ := tomorrow_iterate h (n + 1)
    constructor
    · intro reached
      rw [show tomorrow^[n + 1] d = epoch from reached, day_epoch] at day
      omega
    · intro same
      refine valid.eq_of_day valid_epoch ?_
      rw [day, day_epoch]
      omega

end Date

/-! ### Moments -/

namespace Moment

/-- Whether a moment has a date of the calendar and a time of day. -/
structure Valid (m : Moment) : Prop where
  date : m.date.Valid
  hour_lt : m.hour < 24
  minute_lt : m.minute < 60
  second_lt : m.second < 60
  milli_lt : m.milli < 1000

/-- Whether a moment is so many milliseconds after the start of 1970, or before it if the number is negative. -/
structure Denotes (m : Moment) (millis : Int) : Prop where
  valid : m.Valid
  counted : ∃ days, m.date.IsDay days ∧
    millis = days * (24 * 60 * 60 * 1000) + (((m.hour * 60 + m.minute) * 60 + m.second) * 1000 + m.milli : Nat)

variable {m : Moment} {millis : Int}

theorem valid_ofMillis (millis : Int) : (ofMillis millis).Valid where
  date := Date.valid_ofDay _
  hour_lt := by
    simp only [ofMillis, dayMillis]
    omega
  minute_lt := Nat.mod_lt _ (by decide)
  second_lt := Nat.mod_lt _ (by decide)
  milli_lt := Nat.mod_lt _ (by decide)

theorem millis_ofMillis (millis : Int) : (ofMillis millis).millis = millis := by
  simp only [Moment.millis, ofMillis, Date.day_ofDay, dayMillis]
  omega

theorem ofMillis_millis (h : m.Valid) : ofMillis m.millis = m := by
  obtain ⟨date, hour, minute, second, milli⟩ := m
  obtain ⟨hdate, hhour, hminute, hsecond, hmilli⟩ := h
  dsimp only at hdate hhour hminute hsecond hmilli
  have day : (Moment.mk date hour minute second milli).millis / dayMillis + epochDay = date.day := by
    simp only [Moment.millis, dayMillis]
    omega
  have inDay : ((Moment.mk date hour minute second milli).millis % dayMillis).toNat =
      hour * 3600000 + minute * 60000 + second * 1000 + milli := by
    simp only [Moment.millis, dayMillis]
    omega
  rw [ofMillis, day, inDay, Date.ofDay_day hdate]
  simp only [mk.injEq, true_and]
  omega

theorem denotes_iff : m.Denotes millis ↔ m = ofMillis millis := by
  constructor
  · rintro ⟨valid, days, isDay, sum⟩
    have day := (Date.isDay_iff valid.date days).mp isDay
    rw [← ofMillis_millis valid, Moment.millis, day, sum, dayMillis]
    congr 1
    omega
  · rintro rfl
    have valid := valid_ofMillis millis
    refine ⟨valid, (ofMillis millis).date.day - epochDay, ?_, ?_⟩
    · rw [Date.isDay_iff valid.date]
      omega
    · conv_lhs => rw [← millis_ofMillis millis]
      rw [Moment.millis, dayMillis]
      omega

end Moment

end PeerPost.Calendar
