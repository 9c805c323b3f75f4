import CloudPlan.Proofs.GregorianCalendar

/-!
# One day after another

`Date.next` is the day after a date by the lengths of months. It has the next number, so the dates of
successive numbers are successive days. `Date.ofDaysInWords?` goes through the conversion of a number
with checked arithmetic, in which every result has to fit its machine word: whatever number of seconds
fills a word of 64 bits, the conversion of its day never leaves the words (`ofDays_gregorian`).
-/

set_option autoImplicit false

namespace CloudPlan

/-! ## Checked arithmetic -/

namespace Word

/-- A result that has to fit a signed word of 64 bits. -/
def signed? (n : Int) : Option Int :=
  if -2 ^ 63 ≤ n ∧ n < 2 ^ 63 then some n else none

/-- A result that has to fit an unsigned word of 32 bits. -/
def unsigned? (n : Int) : Option Nat :=
  if 0 ≤ n ∧ n < 2 ^ 32 then some n.toNat else none

def add? (a b : Int) : Option Int :=
  signed? (a + b)

def sub? (a b : Int) : Option Int :=
  signed? (a - b)

def mul? (a b : Int) : Option Int :=
  signed? (a * b)

/-- The quotient without its fraction. -/
def quot? (a b : Int) : Option Int :=
  signed? (a.tdiv b)

section Fits

variable {n : Int}

/-- A number that fits a signed word is kept. -/
theorem signed?_of_fits (low : -2 ^ 63 ≤ n) (high : n < 2 ^ 63) : signed? n = some n :=
  if_pos ⟨low, high⟩

/-- A calculation goes on with the result that there is. -/
theorem bind_of_eq {α β : Type} {result : Option α} {a : α} (there : result = some a)
    (next : α → Option β) : (result >>= next) = next a := by
  rw [there]
  rfl

/-- A calculation goes on with a number that fits a signed word. -/
theorem signed?_bind {α : Type} (low : -2 ^ 63 ≤ n) (high : n < 2 ^ 63) (next : Int → Option α) :
    (signed? n >>= next) = next n :=
  bind_of_eq (signed?_of_fits low high) next

/-- It goes on with one that fits an unsigned word. -/
theorem unsigned?_bind {α : Type} (low : 0 ≤ n) (high : n < 2 ^ 32) (next : Nat → Option α) :
    (unsigned? n >>= next) = next n.toNat :=
  bind_of_eq (if_pos ⟨low, high⟩) next

end Fits

end Word

namespace Date

open Word

/-- The year of a day in an era of 400 years. -/
def yearOfEraInWords? (dayOfEra : Int) : Option Int := do
  let fewer ← sub? dayOfEra (← quot? dayOfEra 1460)
  let more ← add? fewer (← quot? dayOfEra 36524)
  quot? (← sub? more (← quot? dayOfEra 146096)) 365

/-- The day in its year of a day in an era. -/
def dayOfYearInWords? (dayOfEra yearOfEra : Int) : Option Int := do
  let whole ← add? (← mul? 365 yearOfEra) (← quot? yearOfEra 4)
  sub? dayOfEra (← sub? whole (← quot? yearOfEra 100))

/-- The date of a day in a year that begins in March. -/
def ofMarchInWords? (year dayOfYear : Int) : Option Date := do
  let month ← quot? (← add? (← mul? 5 dayOfYear) 2) 153
  let before ← quot? (← add? (← mul? 153 month) 2) 5
  let day ← unsigned? (← add? (← sub? dayOfYear before) 1)
  let calendarMonth ← unsigned? (← if month < 10 then add? month 3 else sub? month 9)
  let calendarYear ← add? year (if calendarMonth ≤ 2 then 1 else 0)
  return ⟨calendarYear, calendarMonth, day⟩

/-- The date of a number of days. -/
def ofDaysInWords? (days : Int) : Option Date := do
  let shifted ← add? (← signed? days) 719468
  let era ← signed? (shifted / 146097)
  let dayOfEra ← signed? (shifted % 146097)
  let yearOfEra ← yearOfEraInWords? dayOfEra
  let dayOfYear ← dayOfYearInWords? dayOfEra yearOfEra
  ofMarchInWords? (← add? yearOfEra (← mul? era 400)) dayOfYear

section Words

variable {dayOfEra yearOfEra day : Nat}

/-- The year of the era is calculated without an overflow. -/
theorem yearOfEraInWords?_eq (inside : dayOfEra < 146097) :
    yearOfEraInWords? dayOfEra = some
      (((dayOfEra - dayOfEra / 1460 + dayOfEra / 36524 - dayOfEra / 146096) / 365 : Nat) : Int) := by
  simp (disch := omega) only [yearOfEraInWords?, add?, sub?, quot?, Int.tdiv_eq_ediv_of_nonneg,
    signed?_bind]
  rw [signed?_of_fits (by omega) (by omega), Option.some.injEq]
  omega

/-- So is the day in the year. -/
theorem dayOfYearInWords?_eq (inside : dayOfEra < 146097) (years : yearOfEra ≤ 399)
    (reached : 365 * yearOfEra + yearOfEra / 4 - yearOfEra / 100 ≤ dayOfEra) :
    dayOfYearInWords? dayOfEra yearOfEra = some
      ((dayOfEra - (365 * yearOfEra + yearOfEra / 4 - yearOfEra / 100) : Nat) : Int) := by
  simp (disch := omega) only [dayOfYearInWords?, add?, sub?, mul?, quot?, Int.tdiv_eq_ediv_of_nonneg,
    signed?_bind]
  rw [signed?_of_fits (by omega) (by omega), Option.some.injEq]
  omega

/-- So is the date of a day in a year that begins in March. -/
theorem ofMarchInWords?_eq {year : Int} (low : -2 ^ 63 ≤ year) (high : year + 1 < 2 ^ 63)
    (inside : day ≤ 365) : ofMarchInWords? year day = some (ofMarch year day) := by
  obtain ⟨month, same⟩ : ∃ month, month = (5 * day + 2) / 153 := ⟨_, rfl⟩
  have month' : (5 * (day : Int) + 2) / 153 = month := by omega
  have before : ((day : Int) - (153 * month + 2) / 5 + 1).toNat = day - (153 * month + 2) / 5 + 1 := by
    omega
  simp (disch := omega) only [ofMarchInWords?, add?, sub?, mul?, quot?, Int.tdiv_eq_ediv_of_nonneg,
    signed?_bind, unsigned?_bind, month', before]
  simp only [ofMarch, ← same]
  by_cases late : month < 10
  · have calendarMonth : ((month : Int) + 3).toNat = month + 3 := by omega
    rw [if_pos (by omega), if_pos late, calendarMonth]
    rfl
  · have calendarMonth : ((month : Int) - 9).toNat = month - 9 := by omega
    rw [if_neg (by omega), if_neg late, calendarMonth]
    rfl

end Words

section Cycles

variable {dayOfEra century cycle year day : Nat}

/-- In machine words, too, the year of the era is that of the century, the cycle and the year in it. -/
theorem Cycles.yearOfEraInWords? (split : Cycles dayOfEra century cycle year day) :
    Date.yearOfEraInWords? dayOfEra = some ((100 * century + 4 * cycle + year : Nat) : Int) := by
  have year := split.yearOfEra
  obtain ⟨centuries, cycles, years, days, last, sum⟩ := split
  rw [yearOfEraInWords?_eq (by omega), year]

/-- So is the day in the year. -/
theorem Cycles.dayOfYearInWords? (split : Cycles dayOfEra century cycle year day) :
    Date.dayOfYearInWords? dayOfEra (100 * century + 4 * cycle + year : Nat) = some (day : Int) := by
  have day := split.dayOfYear
  obtain ⟨centuries, cycles, years, days, last, sum⟩ := split
  rw [dayOfYearInWords?_eq (by omega) (by omega) (by omega), day]

end Cycles

/-- Every result fits if the number and the shifted number do. -/
theorem ofDaysInWords?_eq {days : Int} (low : -2 ^ 63 ≤ days) (high : days + 719468 < 2 ^ 63) :
    ofDaysInWords? days = some (ofDays days) := by
  obtain ⟨dayOfEra, inEra, inside⟩ := exists_dayOfEra days
  obtain ⟨century, cycle, year, day, split⟩ := exists_cycles inside
  have date := split.ofDays_eq inEra
  have yearOfEra := split.yearOfEraInWords?
  have dayOfYear := split.dayOfYearInWords?
  obtain ⟨centuries, cycles, years, days', last, sum⟩ := split
  rw [ofDaysInWords?, signed?_bind (by omega) (by omega), add?, signed?_bind (by omega) (by omega),
    signed?_bind (by omega) (by omega), signed?_bind (by omega) (by omega), ← inEra,
    bind_of_eq yearOfEra, bind_of_eq dayOfYear, mul?, signed?_bind (by omega) (by omega), add?,
    signed?_bind (by omega) (by omega), ofMarchInWords?_eq (by omega) (by omega) days', date]
  push_cast
  rfl

/-! ## The next day -/

/-- The day after a date. -/
def next (d : Date) : Date :=
  if d.day < monthLength d.year d.month then ⟨d.year, d.month, d.day + 1⟩
  else if d.month < 12 then ⟨d.year, d.month + 1, 1⟩
  else ⟨d.year + 1, 1, 1⟩

/-- Every month has a first day. -/
theorem monthLength_pos (year : Int) (month : Nat) : 1 ≤ monthLength year month := by
  unfold monthLength
  split_ifs <;> decide

/-- The day after a date of the calendar is one of the calendar. -/
theorem Valid.next {d : Date} (valid : d.Valid) : d.next.Valid := by
  obtain ⟨first, last⟩ := valid.month
  unfold Date.next
  split_ifs with inMonth inYear
  · exact .of_bounds first last (by omega) inMonth
  · exact .of_bounds (by omega) inYear le_rfl (monthLength_pos _ _)
  · exact .of_bounds le_rfl (by omega) le_rfl (monthLength_pos _ _)

/-- The day after a date has the next number. -/
theorem Valid.dayNumber_next {d : Date} (valid : d.Valid) : d.next.dayNumber = d.dayNumber + 1 := by
  obtain ⟨firstMonth, lastMonth⟩ := valid.month
  obtain ⟨firstDay, lastDay⟩ := valid.day
  unfold Date.next
  split_ifs with inMonth inYear
  · simp only [dayNumber]
    omega
  · have months := daysBeforeMonth_succ d.year firstMonth
    simp only [dayNumber, months]
    omega
  · have december : d.month = 12 := by omega
    have months := daysBeforeMonth_succ d.year firstMonth
    rw [december, daysBeforeMonth_thirteen] at months
    have january : daysBeforeMonth (d.year + 1) 1 = 0 := rfl
    simp only [dayNumber, daysBeforeYear_succ, january, december, months]
    rw [december] at inMonth lastDay
    omega

/-- The next number is that of the next day. -/
theorem ofDays_succ (days : Int) : ofDays (days + 1) = (ofDays days).next := by
  have valid := valid_ofDays days
  apply eq_of_dayNumber_eq (valid_ofDays _) valid.next
  rw [dayNumber_ofDays, valid.dayNumber_next, dayNumber_ofDays]

end Date

/-- **Numbers of days are dates of the Gregorian calendar.** Every number has a valid date, number 0 is
1970-01-01, and the next number is the next day. For the day of any number of seconds that a word of 64
bits holds, the conversion gets by with words: no result on the way is too large or too small. -/
theorem ofDays_gregorian (days : Int) (seconds : UInt64) :
    (Date.ofDays days).Valid ∧ Date.ofDays 0 = ⟨1970, 1, 1⟩ ∧
      Date.ofDays (days + 1) = (Date.ofDays days).next ∧
      Date.ofDaysInWords? (seconds.toNat / 86400 : Nat) =
        some (Date.ofDays (seconds.toNat / 86400 : Nat)) := by
  have bound : seconds.toNat < 2 ^ 64 := seconds.toNat_lt
  refine ⟨Date.valid_ofDays days, by decide, Date.ofDays_succ days, ?_⟩
  apply Date.ofDaysInWords?_eq
  · omega
  · omega

end CloudPlan
