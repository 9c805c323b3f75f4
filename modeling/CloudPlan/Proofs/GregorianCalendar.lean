import CloudPlan.Calendar
import Mathlib.Order.Monotone.Basic
import Mathlib.Tactic.IntervalCases

/-!
# Dates and numbers of days

The Gregorian calendar, extended to all years: `Date.Valid` says which dates there are, and
`Date.dayNumber` counts the days from 1970-01-01 to a date by the lengths of years and months. A later
date has a greater number (`Date.dayNumber_lt_iff`). The date of a number is valid and has that number
(`Date.valid_ofDays`, `Date.dayNumber_ofDays`): a number is split into eras, centuries, cycles of four
years, years and days, all of which begin in March.
-/

set_option autoImplicit false

namespace CloudPlan.Date

/-! ## Years and months -/

/-- A year with a leap day. -/
def IsLeap (year : Int) : Prop :=
  4 ∣ year ∧ (100 ∣ year → 400 ∣ year)

instance : DecidablePred IsLeap :=
  fun year => inferInstanceAs (Decidable (4 ∣ year ∧ (100 ∣ year → 400 ∣ year)))

/-- The number of days of a month. -/
def monthLength (year : Int) (month : Nat) : Nat :=
  if month = 2 then if IsLeap year then 29 else 28
  else if month ∈ [4, 6, 9, 11] then 30 else 31

/-- The number of days of a year. -/
def yearLength (year : Int) : Nat :=
  if IsLeap year then 366 else 365

/-- A date that the calendar has. -/
structure Valid (d : Date) : Prop where
  month : 1 ≤ d.month ∧ d.month ≤ 12
  day : 1 ≤ d.day ∧ d.day ≤ monthLength d.year d.month

instance : DecidablePred Valid := fun d =>
  decidable_of_iff
    ((1 ≤ d.month ∧ d.month ≤ 12) ∧ 1 ≤ d.day ∧ d.day ≤ monthLength d.year d.month)
    ⟨fun bounds => ⟨bounds.1, bounds.2⟩, fun valid => ⟨valid.month, valid.day⟩⟩

/-- A month from 1 to 12 and a day within its length make a date of the calendar. -/
theorem Valid.of_bounds {year : Int} {month day : Nat} (month_pos : 1 ≤ month)
    (month_le : month ≤ 12) (day_pos : 1 ≤ day) (day_le : day ≤ monthLength year month) :
    Valid ⟨year, month, day⟩ :=
  ⟨⟨month_pos, month_le⟩, ⟨day_pos, day_le⟩⟩

/-- The number of leap days from the first year on to a year, which for earlier years is negative. -/
def leapDaysBefore (year : Int) : Int :=
  (year - 1) / 4 - (year - 1) / 100 + (year - 1) / 400

/-- The number of days from 1970-01-01 to the first day of a year. -/
def daysBeforeYear (year : Int) : Int :=
  365 * (year - 1970) + (leapDaysBefore year - leapDaysBefore 1970)

/-- The number of days from the first day of a year to the first day of a month. -/
def daysBeforeMonth (year : Int) (month : Nat) : Nat :=
  ((List.range' 1 (month - 1)).map (monthLength year)).sum

/-- The number of days from 1970-01-01 to a date. -/
def dayNumber (d : Date) : Int :=
  daysBeforeYear d.year + daysBeforeMonth d.year d.month + (d.day - 1)

/-- Each leap year adds a leap day for the years after it. -/
theorem leapDaysBefore_succ (year : Int) :
    leapDaysBefore (year + 1) = leapDaysBefore year + if IsLeap year then 1 else 0 := by
  by_cases leap : IsLeap year
  · rw [if_pos leap]
    unfold leapDaysBefore IsLeap at *
    omega
  · rw [if_neg leap]
    unfold leapDaysBefore IsLeap at *
    omega

/-- A year begins as many days after the previous one as that one is long. -/
theorem daysBeforeYear_succ (year : Int) :
    daysBeforeYear (year + 1) = daysBeforeYear year + yearLength year := by
  unfold daysBeforeYear yearLength
  rw [leapDaysBefore_succ]
  split <;> omega

/-- A month begins as many days after the previous one as that one is long. -/
theorem daysBeforeMonth_succ (year : Int) {month : Nat} (first : 1 ≤ month) :
    daysBeforeMonth year (month + 1) = daysBeforeMonth year month + monthLength year month := by
  obtain ⟨m, rfl⟩ := Nat.exists_eq_add_of_le' first
  simp [daysBeforeMonth, List.range'_1_concat, Nat.add_comm 1]

/-- The months of a year are the year. -/
theorem daysBeforeMonth_thirteen (year : Int) : daysBeforeMonth year 13 = yearLength year := by
  unfold yearLength
  split <;> simp [daysBeforeMonth, monthLength, List.range', *]

/-! ## Earlier and later dates -/

/-- A date that comes before another one in the calendar. -/
def Before (a b : Date) : Prop :=
  a.year < b.year ∨ a.year = b.year ∧ (a.month < b.month ∨ a.month = b.month ∧ a.day < b.day)

/-- A later year does not begin before the earlier one is over. -/
theorem daysBeforeYear_le {year later : Int} (before : year < later) :
    daysBeforeYear year + yearLength year ≤ daysBeforeYear later := by
  have mono : Monotone daysBeforeYear := by
    apply monotone_int_of_le_succ
    intro y
    rw [daysBeforeYear_succ]
    omega
  rw [← daysBeforeYear_succ]
  exact mono before

/-- A later month of a year does not begin before the earlier one is over. -/
theorem daysBeforeMonth_le (year : Int) {month later : Nat} (first : 1 ≤ month)
    (before : month < later) :
    daysBeforeMonth year month + monthLength year month ≤ daysBeforeMonth year later := by
  induction later, before using Nat.le_induction with
  | base => rw [daysBeforeMonth_succ year first]
  | succ m reached ih =>
    rw [daysBeforeMonth_succ year (by omega)]
    omega

/-- A date of the calendar lies in its month: not before the first day of the month, and before the
first day of the next. -/
theorem Valid.dayNumber_mem {d : Date} (valid : d.Valid) :
    daysBeforeYear d.year + daysBeforeMonth d.year d.month ≤ d.dayNumber ∧
      d.dayNumber < daysBeforeYear d.year + daysBeforeMonth d.year d.month +
        monthLength d.year d.month := by
  obtain ⟨first, last⟩ := valid.day
  unfold dayNumber
  omega

/-- Of two dates of the calendar the earlier one has the smaller number. -/
theorem Before.dayNumber_lt {a b : Date} (before : a.Before b) (valid : a.Valid)
    (valid' : b.Valid) : a.dayNumber < b.dayNumber := by
  have inA := valid.dayNumber_mem
  have inB := valid'.dayNumber_mem
  obtain ⟨first, last⟩ := valid.month
  -- the later year, month or day begins when the earlier one has ended
  rcases before with year | ⟨year, month | ⟨month, day⟩⟩
  · have years := daysBeforeYear_le year
    have months := daysBeforeMonth_le a.year first (Nat.lt_succ_of_le last)
    rw [daysBeforeMonth_thirteen] at months
    omega
  · have months := daysBeforeMonth_le a.year first month
    rw [← year] at inB
    omega
  · unfold dayNumber
    rw [year, month]
    omega

/-- Of two different dates one comes before the other. -/
theorem before_or_eq_or_before (a b : Date) : a.Before b ∨ a = b ∨ b.Before a := by
  rw [Date.mk.injEq]
  unfold Before
  omega

/-- The later of two dates has the greater number. -/
theorem dayNumber_lt_iff {a b : Date} (valid : a.Valid) (valid' : b.Valid) :
    a.dayNumber < b.dayNumber ↔ a.Before b := by
  refine ⟨fun lt => ?_, fun before => before.dayNumber_lt valid valid'⟩
  rcases before_or_eq_or_before a b with before | rfl | after
  · exact before
  · omega
  · have gt := after.dayNumber_lt valid' valid
    omega

/-- No two dates of the calendar have the same number. -/
theorem eq_of_dayNumber_eq {a b : Date} (valid : a.Valid) (valid' : b.Valid)
    (same : a.dayNumber = b.dayNumber) : a = b := by
  rcases before_or_eq_or_before a b with before | rfl | after
  · have lt := before.dayNumber_lt valid valid'
    omega
  · rfl
  · have gt := after.dayNumber_lt valid' valid
    omega

/-! ## The date of a number -/

/-- The date that comes a number of days after the first of March of a year. -/
def ofMarch (year : Int) (days : Nat) : Date :=
  let month := (5 * days + 2) / 153
  let calendarMonth := if month < 10 then month + 3 else month - 9
  ⟨year + if calendarMonth ≤ 2 then 1 else 0, calendarMonth, days - (153 * month + 2) / 5 + 1⟩

/-- The number of days from 0000-03-01 to the first of March of a year. -/
def daysBeforeMarch (year : Int) : Int :=
  365 * year + year / 4 - year / 100 + year / 400

/-- A day of an era by its century, cycle of four years, year and day in the year. The last year of a
cycle is longer by a day, and so is the last cycle of the last century. -/
structure Cycles (dayOfEra century cycle year day : Nat) : Prop where
  centuries : century ≤ 3
  cycles : cycle ≤ 24
  years : year ≤ 3
  days : day ≤ 365
  last : day = 365 → year = 3 ∧ (cycle < 24 ∨ century = 3)
  sum : dayOfEra = 36524 * century + 1461 * cycle + 365 * year + day

/-- Each of the 146097 days of an era has a century, a cycle, a year and a day in the year. -/
theorem exists_cycles {dayOfEra : Nat} (inside : dayOfEra < 146097) :
    ∃ century cycle year day, Cycles dayOfEra century cycle year day := by
  obtain ⟨century, whole⟩ : ∃ century, century = min (dayOfEra / 36524) 3 := ⟨_, rfl⟩
  obtain ⟨dayOfCentury, rest⟩ : ∃ d, d = dayOfEra - 36524 * century := ⟨_, rfl⟩
  obtain ⟨year, whole'⟩ : ∃ year, year = min (dayOfCentury % 1461 / 365) 3 := ⟨_, rfl⟩
  refine ⟨century, dayOfCentury / 1461, year, dayOfCentury % 1461 - 365 * year, ?_⟩
  constructor <;> omega

namespace Cycles

variable {dayOfEra century cycle year day : Nat}

/-- The division by 365 gives the year, after one day has been taken off for each leap day so far. -/
theorem yearOfEra (split : Cycles dayOfEra century cycle year day) :
    (dayOfEra - dayOfEra / 1460 + dayOfEra / 36524 - dayOfEra / 146096) / 365 =
      100 * century + 4 * cycle + year := by
  obtain ⟨centuries, cycles, years, days, last, sum⟩ := split
  have leapYears : dayOfEra / 1460 = 25 * century + cycle ∨
      dayOfEra / 1460 = 25 * century + cycle + 1 ∧ 1364 ≤ 365 * year + day := by omega
  have leapCenturies : dayOfEra / 36524 - dayOfEra / 146096 = century := by omega
  have fewer : dayOfEra / 146096 ≤ dayOfEra / 36524 := by omega
  have leaps : dayOfEra - dayOfEra / 1460 + dayOfEra / 36524 - dayOfEra / 146096 =
      dayOfEra - dayOfEra / 1460 + century := by omega
  rw [leaps]
  omega

/-- What is left of the days of the era after the days of its full years is the day in the year. -/
theorem dayOfYear (split : Cycles dayOfEra century cycle year day) :
    dayOfEra - (365 * (100 * century + 4 * cycle + year) + (100 * century + 4 * cycle + year) / 4 -
      (100 * century + 4 * cycle + year) / 100) = day := by
  obtain ⟨centuries, cycles, years, days, last, sum⟩ := split
  omega

/-- The date of a number is the one that its era, century, cycle and year give, a day counted from
March. -/
theorem ofDays_eq (split : Cycles dayOfEra century cycle year day) {days : Int}
    (inEra : (dayOfEra : Int) = (days + 719468) % 146097) :
    ofDays days =
      ofMarch (100 * century + 4 * cycle + year + (days + 719468) / 146097 * 400) day := by
  have era : (days + 719468).fdiv 146097 = (days + 719468) / 146097 :=
    Int.fdiv_eq_ediv_of_nonneg _ (by omega)
  have rest : ((days + 719468).fmod 146097).toNat = dayOfEra := by
    rw [Int.fmod_eq_emod_of_nonneg _ (by omega), ← inEra, Int.toNat_natCast]
  simp only [ofDays, era, rest, split.yearOfEra, split.dayOfYear, ofMarch]
  push_cast
  rfl

end Cycles

/-- The number of a day in its era. -/
theorem exists_dayOfEra (days : Int) :
    ∃ dayOfEra : Nat, (dayOfEra : Int) = (days + 719468) % 146097 ∧ dayOfEra < 146097 := by
  obtain ⟨dayOfEra, inEra⟩ :=
    Int.eq_ofNat_of_zero_le (Int.emod_nonneg (days + 719468) (b := 146097) (by omega))
  exact ⟨dayOfEra, inEra.symm, by omega⟩

/-- The date of a number lies in the year that begins with a March before it. -/
theorem exists_ofMarch (days : Int) : ∃ year day, ofDays days = ofMarch year day ∧
    daysBeforeMarch year + day = days + 719468 ∧ day ≤ 365 ∧ (day = 365 → IsLeap (year + 1)) := by
  obtain ⟨dayOfEra, inEra, inside⟩ := exists_dayOfEra days
  obtain ⟨century, cycle, year, day, split⟩ := exists_cycles inside
  have date := split.ofDays_eq inEra
  obtain ⟨centuries, cycles, years, days', last, sum⟩ := split
  refine ⟨_, day, date, ?_, days', ?_⟩
  · have fours : (100 * century + 4 * cycle + year + (days + 719468) / 146097 * 400 : Int) / 4 =
        100 * ((days + 719468) / 146097) + 25 * century + cycle := by omega
    have hundreds : (100 * century + 4 * cycle + year + (days + 719468) / 146097 * 400 : Int) / 100 =
        4 * ((days + 719468) / 146097) + century := by omega
    have eras : (100 * century + 4 * cycle + year + (days + 719468) / 146097 * 400 : Int) / 400 =
        (days + 719468) / 146097 := by omega
    rw [daysBeforeMarch, fours, hundreds, eras]
    omega
  · unfold IsLeap
    omega

/-- From March to December the months of a year begin at multiples of 153 fifths of a day. -/
theorem daysBeforeMonth_march (year : Int) {month : Nat} (late : month < 10) :
    daysBeforeMonth year (month + 3) = (153 * month + 2) / 5 + if IsLeap year then 60 else 59 := by
  interval_cases month <;> simp [daysBeforeMonth, monthLength, List.range'] <;> split <;> rfl

/-- The division by 153 has the lengths of the months from March to December. -/
theorem monthLength_march (year : Int) {month : Nat} (late : month < 10) :
    (153 * month + 2) / 5 + monthLength year (month + 3) = (153 * (month + 1) + 2) / 5 := by
  interval_cases month <;> rfl

/-- A year ends 306 days after the first of its March. -/
theorem daysBeforeYear_march (year : Int) :
    daysBeforeYear (year + 1) + 719468 = daysBeforeMarch year + 306 := by
  have before_1970 : leapDaysBefore 1970 = 477 := by decide
  rw [daysBeforeYear, before_1970, leapDaysBefore, daysBeforeMarch, Int.add_sub_cancel]
  omega

/-- The first of March is the sixtieth day of its year, or the one after it. -/
theorem daysBeforeMarch_eq (year : Int) :
    daysBeforeMarch year = daysBeforeYear year + (if IsLeap year then 60 else 59) + 719468 := by
  have turn := daysBeforeYear_march year
  rw [daysBeforeYear_succ, yearLength] at turn
  by_cases leap : IsLeap year
  · rw [if_pos leap] at turn ⊢
    omega
  · rw [if_neg leap] at turn ⊢
    omega

/-- A day of a year that begins in March is a date of the calendar, with the expected number. -/
theorem ofMarch_spec {year : Int} {day : Nat} (inside : day ≤ 365)
    (last : day = 365 → IsLeap (year + 1)) :
    (ofMarch year day).Valid ∧
      (ofMarch year day).dayNumber + 719468 = daysBeforeMarch year + day := by
  obtain ⟨month, same⟩ : ∃ month, month = (5 * day + 2) / 153 := ⟨_, rfl⟩
  have turn := daysBeforeYear_march year
  obtain late | rfl | rfl : month < 10 ∨ month = 10 ∨ month = 11 := by omega
  · -- from March to December
    have length := monthLength_march year late
    have before := daysBeforeMonth_march year late
    have march := daysBeforeMarch_eq year
    have date : ofMarch year day = ⟨year, month + 3, day - (153 * month + 2) / 5 + 1⟩ := by
      simp only [ofMarch, ← same, if_pos late]
      rw [if_neg (by omega), Int.add_zero]
    rw [date]
    refine ⟨.of_bounds (by omega) (by omega) (by omega) (by omega), ?_⟩
    simp only [dayNumber, before]
    by_cases leap : IsLeap year
    · rw [if_pos leap] at march ⊢
      omega
    · rw [if_neg leap] at march ⊢
      omega
  · -- January of the next year
    have date : ofMarch year day = ⟨year + 1, 1, day - 306 + 1⟩ := by
      simp [ofMarch, ← same]
    rw [date]
    refine ⟨.of_bounds (by omega) (by omega) (by omega) ?_, ?_⟩
    · show day - 306 + 1 ≤ 31
      omega
    · show daysBeforeYear (year + 1) + (0 : Nat) + ((day - 306 + 1 : Nat) - 1) + 719468 = _
      omega
  · -- February of the next year
    have date : ofMarch year day = ⟨year + 1, 2, day - 337 + 1⟩ := by
      simp [ofMarch, ← same]
    rw [date]
    refine ⟨.of_bounds (by omega) (by omega) (by omega) ?_, ?_⟩
    · show day - 337 + 1 ≤ if IsLeap (year + 1) then 29 else 28
      split
      · omega
      · rename_i common
        have earlier : day ≠ 365 := mt last common
        omega
    · show daysBeforeYear (year + 1) + (31 : Nat) + ((day - 337 + 1 : Nat) - 1) + 719468 = _
      omega

/-- The date of a number is one that the calendar has. -/
theorem valid_ofDays (days : Int) : (ofDays days).Valid := by
  obtain ⟨year, day, date, _, inside, last⟩ := exists_ofMarch days
  rw [date]
  exact (ofMarch_spec inside last).1

/-- The date of a number has that number. -/
theorem dayNumber_ofDays (days : Int) : (ofDays days).dayNumber = days := by
  obtain ⟨year, day, date, count, inside, last⟩ := exists_ofMarch days
  have number := (ofMarch_spec inside last).2
  rw [date]
  omega

end CloudPlan.Date
