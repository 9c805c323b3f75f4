/-!
# Dates and times

Days are counted from 1970-01-01 in the Gregorian calendar. Years are counted from March, so that
the leap day is the last one of its year, and days within eras of 400 years.
-/

set_option autoImplicit false

namespace CloudPlan

/-- A day of the calendar. -/
structure Date where
  year : Int
  month : Nat
  day : Nat
deriving DecidableEq, Repr

/-- The day with the given number, 1970-01-01 being number 0. -/
def Date.ofDays (days : Int) : Date :=
  let shifted := days + 719468
  let era := shifted.fdiv 146097
  let dayOfEra := (shifted.fmod 146097).toNat
  let yearOfEra := (dayOfEra - dayOfEra / 1460 + dayOfEra / 36524 - dayOfEra / 146096) / 365
  let dayOfYear := dayOfEra - (365 * yearOfEra + yearOfEra / 4 - yearOfEra / 100)
  let month := (5 * dayOfYear + 2) / 153
  let day := dayOfYear - (153 * month + 2) / 5 + 1
  let calendarMonth := if month < 10 then month + 3 else month - 9
  ⟨yearOfEra + era * 400 + (if calendarMonth ≤ 2 then 1 else 0), calendarMonth, day⟩

/-- Decimal digits with zeros before them up to a width. -/
def padded (width n : Nat) : List Char :=
  let digits := Nat.toDigits 10 n
  List.replicate (width - digits.length) '0' ++ digits

/-- The year of a time that is not before the first year. -/
def yearDigits (year : Int) : List Char :=
  padded 4 year.toNat

/-- The time a number of seconds after the start of 1970, as `YYYY-MM-DDThh:mm:ssZ`. -/
def utcTimestamp (seconds : Nat) : String :=
  let date := Date.ofDays (seconds / 86400 : Nat)
  let rest := seconds % 86400
  String.ofList (yearDigits date.year ++ '-' :: padded 2 date.month ++ '-' :: padded 2 date.day ++
    'T' :: padded 2 (rest / 3600) ++ ':' :: padded 2 (rest % 3600 / 60) ++
    ':' :: padded 2 (rest % 60) ++ ['Z'])

end CloudPlan
