import CloudPlan.Proofs.GregorianCalendar
import CloudPlan.Text.Hex
import Mathlib.Data.List.Forall2

/-!
# Timestamps sort by time

A timestamp is made of numbers of fixed widths, each with a character behind it. Texts of one layout
have the same length, compare like the lists of their numbers and can be read back
(`length_written`, `written_lt_iff`, `readFields?_written`). The numbers of a time compare like the
time itself, since a later day has a later date. So up to the year 9999 timestamps are in the order
of time, octet by octet, and each names its time (`timestamps_sort`).
-/

set_option autoImplicit false

namespace CloudPlan

/-! ## Octets of ASCII texts -/

/-- The octets of a text. -/
def Text.octets (s : String) : List UInt8 :=
  s.toUTF8.data.toList

section Octets

variable {cs ds : List Char}

/-- The octets of an ASCII text are the numbers of its characters. -/
theorem Text.octets_ofList (ascii : ∀ c ∈ cs, c.toNat < 128) :
    octets (String.ofList cs) = cs.map fun c => UInt8.ofNat c.toNat := by
  rw [octets, String.toUTF8_eq_toByteArray, String.toByteArray_ofList, List.utf8Encode,
    List.toList_data_toByteArray]
  induction cs with
  | nil => rfl
  | cons c rest ih =>
    obtain ⟨first, later⟩ := List.forall_mem_cons.mp ascii
    have single : String.utf8EncodeChar c = [UInt8.ofNat c.toNat] := if_pos (Nat.le_of_lt_succ first)
    rw [List.flatMap_cons, single, ih later]
    rfl

/-- The number of an ASCII character has room in an octet. -/
theorem toNat_octet {c : Char} (ascii : c.toNat < 128) : (UInt8.ofNat c.toNat).toNat = c.toNat :=
  UInt8.toNat_ofNat_of_lt' (Nat.lt_trans ascii (by decide))

/-- Octets of ASCII characters are ordered like the characters. -/
theorem octet_lt_iff {c d : Char} (ascii : c.toNat < 128) (ascii' : d.toNat < 128) :
    UInt8.ofNat c.toNat < UInt8.ofNat d.toNat ↔ c < d := by
  rw [UInt8.lt_iff_toNat_lt, toNat_octet ascii, toNat_octet ascii']
  exact Iff.rfl

/-- Different ASCII characters have different octets. -/
theorem octet_inj {c d : Char} (ascii : c.toNat < 128) (ascii' : d.toNat < 128) :
    UInt8.ofNat c.toNat = UInt8.ofNat d.toNat ↔ c = d := by
  rw [← UInt8.toNat_inj, toNat_octet ascii, toNat_octet ascii', Char.toNat_inj]

/-- ASCII texts compare octet by octet as they do character by character. -/
theorem Text.octets_lt_iff (ascii : ∀ c ∈ cs, c.toNat < 128) (ascii' : ∀ c ∈ ds, c.toNat < 128) :
    octets (String.ofList cs) < octets (String.ofList ds) ↔ cs < ds := by
  rw [octets_ofList ascii, octets_ofList ascii']
  induction cs generalizing ds with
  | nil => cases ds <;> simp
  | cons c rest ih =>
    cases ds with
    | nil => simp
    | cons d rest' =>
      obtain ⟨first, later⟩ := List.forall_mem_cons.mp ascii
      obtain ⟨first', later'⟩ := List.forall_mem_cons.mp ascii'
      rw [List.map_cons, List.map_cons, List.cons_lt_cons_iff, List.cons_lt_cons_iff,
        octet_lt_iff first first', octet_inj first first', ih later later']

end Octets

/-! ## Numbers of fixed width -/

/-- Behind beginnings of one length the ends decide, and only if the beginnings are the same. -/
theorem append_lt_append_iff {a b c d : List Char} (same : a.length = b.length) :
    a ++ c < b ++ d ↔ a < b ∨ a = b ∧ c < d := by
  induction a generalizing b with
  | nil =>
    obtain rfl := List.length_eq_zero_iff.mp same.symm
    simp
  | cons x xs ih =>
    cases b with
    | nil => cases same
    | cons y ys =>
      rw [List.cons_append, List.cons_append, List.cons_lt_cons_iff, ih (Nat.succ.inj same),
        List.cons_lt_cons_iff, List.cons.injEq]
      tauto

section Padded

variable {width m n : Nat}

/-- A number with room in its width is written at that width. -/
theorem length_padded (pos : 0 < width) (fits : n < 10 ^ width) :
    (padded width n).length = width := by
  have short := (Nat.length_toDigits_le_iff (by decide) pos).mpr fits
  rw [padded, List.length_append, List.length_replicate]
  omega

/-- The last digit stands behind the others. -/
theorem padded_succ (pos : 0 < width) (n : Nat) :
    padded (width + 1) n = padded width (n / 10) ++ [Nat.digitChar (n % 10)] := by
  by_cases small : n < 10
  · rw [padded, padded, Nat.toDigits_of_lt_base small, Nat.div_eq_of_lt small,
      Nat.mod_eq_of_lt small, Nat.toDigits_zero]
    show List.replicate width '0' ++ _ = List.replicate (width - 1) '0' ++ ['0'] ++ _
    rw [← List.replicate_succ', Nat.sub_add_cancel pos]
  · simp only [padded, Nat.toDigits_of_base_le (by decide) (Nat.le_of_not_lt small),
      List.length_append, List.length_singleton, Nat.add_sub_add_right, List.append_assoc]

/-- A number of one digit is that digit. -/
theorem padded_one (fits : n < 10) : padded 1 n = [Nat.digitChar n] := by
  rw [padded, Nat.toDigits_of_lt_base fits]
  rfl

/-- A digit is read back. -/
theorem digitOf?_digitChar : ∀ d < 10, Text.digitOf? 10 (Nat.digitChar d) = some d := by
  decide

/-- Digits are ordered like the numbers that they stand for. -/
theorem digitChar_lt_iff : ∀ d < 10, ∀ e < 10, Nat.digitChar d < Nat.digitChar e ↔ d < e := by
  decide

/-- Digits are read from left to right, each one after ten times what stands before it. -/
theorem digits?_eq_foldlM {cs : List Char} (nonempty : cs ≠ []) :
    Text.digits? 10 cs =
      cs.foldlM (fun n c => (Text.digitOf? 10 c).map fun d => n * 10 + d) 0 := by
  cases cs with
  | nil => exact absurd rfl nonempty
  | cons c rest => rfl

/-- Written numbers are ASCII. -/
theorem ascii_padded {c : Char} (there : c ∈ padded width n) : c.toNat < 128 := by
  rcases List.mem_append.mp there with zero | digit
  · obtain rfl := List.eq_of_mem_replicate zero
    decide
  · have digit := Nat.isDigit_of_mem_toDigits (by decide) (by decide) digit
    simp only [Char.isDigit, Bool.and_eq_true, decide_eq_true_eq] at digit
    exact Nat.lt_of_le_of_lt digit.2 (by decide)

/-- A padded number is read back. -/
theorem digits?_padded (pos : 0 < width) (fits : n < 10 ^ width) :
    Text.digits? 10 (padded width n) = some n := by
  have nonempty : padded width n ≠ [] := by
    rw [← List.length_pos_iff, length_padded pos fits]
    exact pos
  rw [digits?_eq_foldlM nonempty]
  clear nonempty
  -- reading the last digit adds it to ten times what stands before it
  induction width, pos using Nat.le_induction generalizing n with
  | base =>
    rw [padded_one fits, List.foldlM_cons, digitOf?_digitChar n fits]
    simp
  | succ width pos ih =>
    have front : n / 10 < 10 ^ width := by omega
    rw [padded_succ pos, List.foldlM_append, ih front]
    simp [digitOf?_digitChar _ (Nat.mod_lt n (by decide)), Nat.div_add_mod']

/-- Hence padded numbers of one width are the same only if the numbers are. -/
theorem padded_inj (pos : 0 < width) (fits : m < 10 ^ width) (fits' : n < 10 ^ width) :
    padded width m = padded width n ↔ m = n := by
  refine ⟨fun same => ?_, fun same => by rw [same]⟩
  have read := digits?_padded pos fits
  rw [same, digits?_padded pos fits'] at read
  exact (Option.some.inj read).symm

/-- They are ordered like the numbers. -/
theorem padded_lt_iff (pos : 0 < width) (fits : m < 10 ^ width) (fits' : n < 10 ^ width) :
    padded width m < padded width n ↔ m < n := by
  induction width, pos using Nat.le_induction generalizing m n with
  | base =>
    rw [padded_one fits, padded_one fits', List.cons_lt_cons_iff, digitChar_lt_iff m fits n fits']
    simp
  | succ width pos ih =>
    -- the digits in front decide unless they are the same
    have front : m / 10 < 10 ^ width := by omega
    have front' : n / 10 < 10 ^ width := by omega
    have lengths := (length_padded pos front).trans (length_padded pos front').symm
    have last := digitChar_lt_iff _ (Nat.mod_lt m (by decide)) _ (Nat.mod_lt n (by decide))
    rw [padded_succ pos, padded_succ pos, append_lt_append_iff lengths, ih front front',
      padded_inj pos front front', List.cons_lt_cons_iff, last]
    simp only [List.not_lt_nil, and_false, or_false]
    omega

end Padded

/-! ## Texts of numbers -/

/-- A number in a text: its width and the character behind it. -/
structure NumberField where
  width : Nat
  last : Char

/-- Numbers written one after another. -/
def written : List NumberField → List Nat → List Char
  | field :: fields, n :: numbers =>
    padded field.width n ++ field.last :: written fields numbers
  | _, _ => []

/-- A number that has room in its field. -/
def NumberField.Fits (field : NumberField) (n : Nat) : Prop :=
  0 < field.width ∧ n < 10 ^ field.width

/-- The numbers of a text, each of the width of its field and with the character behind it. -/
def readFields? : List NumberField → List Char → Option (List Nat)
  | [], [] => some []
  | [], _ :: _ => none
  | field :: fields, cs =>
    match cs.drop field.width with
    | [] => none
    | c :: rest =>
      if c = field.last then do
        let n ← Text.digits? 10 (cs.take field.width)
        let numbers ← readFields? fields rest
        return n :: numbers
      else none

section Written

variable {fields : List NumberField} {numbers others : List Nat}

/-- A written layout is as long as its fields with the characters behind them. -/
theorem length_written (fit : List.Forall₂ NumberField.Fits fields numbers) :
    (written fields numbers).length = (fields.map fun field => field.width + 1).sum := by
  induction fit with
  | nil => rfl
  | cons first _ ih =>
    rw [written, List.length_append, length_padded first.1 first.2, List.length_cons, ih,
      List.map_cons, List.sum_cons]
    omega

/-- Texts of one layout compare like the lists of their numbers. -/
theorem written_lt_iff (fit : List.Forall₂ NumberField.Fits fields numbers)
    (fit' : List.Forall₂ NumberField.Fits fields others) :
    written fields numbers < written fields others ↔ numbers < others := by
  induction fit generalizing others with
  | nil =>
    cases fit'
    simp [written]
  | cons first _ ih =>
    cases fit' with
    | cons first' later' =>
      have lengths := (length_padded first.1 first.2).trans (length_padded first'.1 first'.2).symm
      rw [written, written, append_lt_append_iff lengths, padded_lt_iff first.1 first.2 first'.2,
        padded_inj first.1 first.2 first'.2, List.cons_lt_cons_self, ih later',
        List.cons_lt_cons_iff]

/-- Numbers that have room in their fields are read back. -/
theorem readFields?_written (fit : List.Forall₂ NumberField.Fits fields numbers) :
    readFields? fields (written fields numbers) = some numbers := by
  induction fit with
  | nil => rfl
  | @cons field n fields numbers first _ ih =>
    have width := length_padded first.1 first.2
    have front : (written (field :: fields) (n :: numbers)).take field.width =
        padded field.width n :=
      List.take_left' width
    have behind : (written (field :: fields) (n :: numbers)).drop field.width =
        field.last :: written fields numbers :=
      List.drop_left' width
    rw [readFields?, behind, front, digits?_padded first.1 first.2]
    simp [ih]

/-- A layout with ASCII characters behind its fields is ASCII as a whole. -/
theorem ascii_written (ascii : ∀ field ∈ fields, field.last.toNat < 128)
    (fit : List.Forall₂ NumberField.Fits fields numbers) :
    ∀ c ∈ written fields numbers, c.toNat < 128 := by
  induction fit with
  | nil => nofun
  | @cons field n fields numbers first _ ih =>
    obtain ⟨behind, later⟩ := List.forall_mem_cons.mp ascii
    intro c there
    rcases List.mem_append.mp there with digit | there
    · exact ascii_padded digit
    · rcases List.mem_cons.mp there with rfl | there
      · exact behind
      · exact ih later c there

end Written

/-! ## The numbers of a time -/

/-- The layout `YYYY-MM-DDThh:mm:ssZ`. -/
def timestampFields : List NumberField :=
  [⟨4, '-'⟩, ⟨2, '-'⟩, ⟨2, 'T'⟩, ⟨2, ':'⟩, ⟨2, ':'⟩, ⟨2, 'Z'⟩]

/-- The date of a number of seconds after the start of 1970. -/
def dateAt (seconds : Nat) : Date :=
  .ofDays (seconds / 86400 : Nat)

/-- Year, month, day, hour, minute and second. -/
def timeNumbers (seconds : Nat) : List Nat :=
  let date := dateAt seconds
  let rest := seconds % 86400
  [date.year.toNat, date.month, date.day, rest / 3600, rest % 3600 / 60, rest % 60]

/-- The time of a text, which must name a date of the calendar and a time of a day: the number of
seconds after the start of 1970. -/
def readTimestamp? (text : String) : Option Int := do
  match ← readFields? timestampFields text.toList with
  | [year, month, day, hour, minute, second] =>
    if Date.Valid ⟨year, month, day⟩ ∧ hour < 24 ∧ minute < 60 ∧ second < 60 then
      some (86400 * Date.dayNumber ⟨year, month, day⟩ + (3600 * hour + 60 * minute + second : Nat))
    else none
  | _ => none

/-- The layout of a timestamp, written out. -/
theorem written_timestampFields (year month day hour minute second : Nat) :
    written timestampFields [year, month, day, hour, minute, second] =
      padded 4 year ++ '-' :: padded 2 month ++ '-' :: padded 2 day ++ 'T' :: padded 2 hour ++
        ':' :: padded 2 minute ++ ':' :: padded 2 second ++ ['Z'] := by
  simp [timestampFields, written]

/-- A timestamp writes its six numbers in that layout. -/
theorem utcTimestamp_eq (seconds : Nat) :
    utcTimestamp seconds = String.ofList (written timestampFields (timeNumbers seconds)) := by
  rw [timeNumbers, written_timestampFields, utcTimestamp, dateAt, yearDigits]

section Times

variable {s t : Nat}

/-- The date of a time is a date of the calendar. -/
theorem valid_dateAt (s : Nat) : (dateAt s).Valid :=
  Date.valid_ofDays _

/-- The number of its day is the number of days that have passed. -/
theorem dayNumber_dateAt (s : Nat) : (dateAt s).dayNumber = (s / 86400 : Nat) :=
  Date.dayNumber_ofDays _

/-- Times before the year 10000 have years of four digits. -/
theorem year_dateAt (fits : s < 253402300800) : 0 ≤ (dateAt s).year ∧ (dateAt s).year < 10000 := by
  have valid := valid_dateAt s
  have first : Date.Valid ⟨1970, 1, 1⟩ := .of_bounds (by decide) (by decide) (by decide) (by decide)
  have last : Date.Valid ⟨10000, 1, 1⟩ := .of_bounds (by decide) (by decide) (by decide) (by decide)
  have firstNumber : Date.dayNumber ⟨1970, 1, 1⟩ = 0 := by decide
  have lastNumber : Date.dayNumber ⟨10000, 1, 1⟩ = 2932897 := by decide
  have number := dayNumber_dateAt s
  have notBefore := mt (Date.dayNumber_lt_iff valid first).mpr (by omega)
  have before := (Date.dayNumber_lt_iff valid last).mp (by omega)
  simp only [Date.Before] at notBefore before
  have month := valid.month
  have day := valid.day
  omega

/-- Before the year 10000 all six numbers have room in their fields. -/
theorem fits_timeNumbers (fits : s < 253402300800) :
    List.Forall₂ NumberField.Fits timestampFields (timeNumbers s) := by
  have valid := valid_dateAt s
  have year := year_dateAt fits
  have month := valid.month
  have day := valid.day
  have length : Date.monthLength (dateAt s).year (dateAt s).month ≤ 31 := by
    unfold Date.monthLength
    split_ifs <;> omega
  simp only [timestampFields, timeNumbers, NumberField.Fits, List.forall₂_cons,
    List.forall₂_nil_left_iff, and_true]
  omega

/-- An earlier date is that of an earlier day. -/
theorem dateAt_before_iff : (dateAt s).Before (dateAt t) ↔ s / 86400 < t / 86400 := by
  rw [← Date.dayNumber_lt_iff (valid_dateAt s) (valid_dateAt t), dayNumber_dateAt, dayNumber_dateAt,
    Int.ofNat_lt]

/-- The six numbers, from the year to the second, are ordered like the times. -/
theorem timeNumbers_lt_iff (fits : s < 253402300800) (fits' : t < 253402300800) :
    timeNumbers s < timeNumbers t ↔ s < t := by
  have year := year_dateAt fits
  have year' := year_dateAt fits'
  simp only [timeNumbers, List.cons_lt_cons_iff, List.not_lt_nil, and_false, or_false]
  -- either the dates decide, or the day is the same and the clock decides
  rcases Nat.lt_trichotomy (s / 86400) (t / 86400) with before | same | after
  · have earlier := dateAt_before_iff.mpr before
    unfold Date.Before at earlier
    omega
  · have sameDate : dateAt s = dateAt t := by rw [dateAt, dateAt, same]
    rw [sameDate]
    omega
  · have later := dateAt_before_iff.mpr after
    unfold Date.Before at later
    omega

/-- Written numbers that make a time are read back as the seconds up to that time. -/
theorem readTimestamp?_written {date : Date} {hour minute second : Nat} (era : 0 ≤ date.year)
    (fit : List.Forall₂ NumberField.Fits timestampFields
      [date.year.toNat, date.month, date.day, hour, minute, second])
    (valid : date.Valid) (clock : hour < 24 ∧ minute < 60 ∧ second < 60) :
    readTimestamp? (String.ofList (written timestampFields
        [date.year.toNat, date.month, date.day, hour, minute, second])) =
      some (86400 * date.dayNumber + (3600 * hour + 60 * minute + second : Nat)) := by
  obtain ⟨year, month, day⟩ := date
  have same : ((year.toNat : Nat) : Int) = year := Int.toNat_of_nonneg era
  simp only [readTimestamp?, String.toList_ofList, readFields?_written fit, Option.bind_eq_bind,
    Option.bind_some, same, if_pos (And.intro valid clock)]

/-- So a timestamp is read back. -/
theorem readTimestamp?_utcTimestamp (fits : s < 253402300800) :
    readTimestamp? (utcTimestamp s) = some (s : Int) := by
  have clock : s % 86400 / 3600 < 24 ∧ s % 86400 % 3600 / 60 < 60 ∧ s % 86400 % 60 < 60 := by omega
  have number := dayNumber_dateAt s
  rw [utcTimestamp_eq, timeNumbers, readTimestamp?_written (year_dateAt fits).1
    (fits_timeNumbers fits) (valid_dateAt s) clock, number, Option.some.injEq]
  omega

end Times

/-- **Timestamps sort by time.** Up to the year 9999 all timestamps have twenty characters, the earlier
of two times has the timestamp that comes first in the order of octets, and the date and time of day
that a timestamp shows are those of its time. -/
theorem timestamps_sort (s t : Nat) (fits : s < 253402300800) (fits' : t < 253402300800) :
    (utcTimestamp s).length = 20 ∧
      (s < t ↔ Text.octets (utcTimestamp s) < Text.octets (utcTimestamp t)) ∧
      readTimestamp? (utcTimestamp s) = some (s : Int) := by
  have numbers := fits_timeNumbers fits
  have numbers' := fits_timeNumbers fits'
  have ascii : ∀ field ∈ timestampFields, field.last.toNat < 128 := by decide
  refine ⟨?_, ?_, readTimestamp?_utcTimestamp fits⟩
  · rw [utcTimestamp_eq, String.length_ofList, length_written numbers]
    rfl
  · rw [utcTimestamp_eq, utcTimestamp_eq,
      Text.octets_lt_iff (ascii_written ascii numbers) (ascii_written ascii numbers'),
      written_lt_iff numbers numbers', timeNumbers_lt_iff fits fits']

/-- The last second before a leap day and the first one of it. -/
theorem timestamps_sort_leap_day :
    utcTimestamp 951782399 = "2000-02-28T23:59:59Z" ∧
      utcTimestamp 951782400 = "2000-02-29T00:00:00Z" ∧
      (utcTimestamp 951782399).length = 20 ∧
      (951782399 < 951782400 ↔
        Text.octets (utcTimestamp 951782399) < Text.octets (utcTimestamp 951782400)) ∧
      readTimestamp? (utcTimestamp 951782399) = some 951782399 := by
  refine ⟨?_, ?_, timestamps_sort 951782399 951782400 (by decide) (by decide)⟩
  · decide
  · decide

end CloudPlan
