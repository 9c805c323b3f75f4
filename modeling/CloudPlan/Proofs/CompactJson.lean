import CloudPlan.Json.Printer
import CloudPlan.Json.Reader
import CloudPlan.Proofs.TwoReadings

/-!
# Compact JSON text is unambiguous

The first character of a compact text tells the kind of the value, and the value ends where its kind
says: a string at the first quote that is not escaped, an integer before the first character that is
no digit, an array or an object at its closing bracket. So two values without doubles that are
written alike are the same, with the entries of objects in the same order (`compact_inj`).
-/

set_option autoImplicit false

namespace CloudPlan.Json

/-! ## Strings -/

/-- The two digits of a control character are read as its number. -/
theorem hexValue4?_control : ∀ n < 32,
    hexValue4? '0' '0' (Text.hexDigit (n / 16)) (Text.hexDigit (n % 16)) = some n := by
  decide

/-- An escaped character is read as the character. -/
theorem readStringChars_escapedChar (done : List Char) (c : Char) (rest : List Char) :
    readStringChars done (escapedChar c ++ rest) = readStringChars (c :: done) rest := by
  by_cases short : c = '"' ∨ c = '\\' ∨ c = '\n' ∨ c = '\r' ∨ c = '\t' ∨ c = '\x08' ∨ c = '\x0c'
  · -- These have escapes of their own.
    rcases short with rfl | rfl | rfl | rfl | rfl | rfl | rfl <;>
      simp [escapedChar, readStringChars, escapeValue?]
  · push Not at short
    obtain ⟨quote, backslash, lineFeed, carriageReturn, tab, backspace, formFeed⟩ := short
    by_cases control : c.toNat < 0x20
    · have number : hexValue4? '0' '0' (Text.hexDigit (c.toNat / 16))
          (Text.hexDigit (c.toNat % 16)) = some c.toNat := hexValue4?_control _ control
      have plain : ¬ (0xD800 ≤ c.toNat && c.toNat < 0xDC00) = true := by simp; omega
      have plain' : ¬ (0xDC00 ≤ c.toNat && c.toNat < 0xE000) = true := by simp; omega
      rw [escapedChar, if_neg quote, if_neg backslash, if_neg lineFeed, if_neg carriageReturn,
        if_neg tab, if_neg backspace, if_neg formFeed, if_pos control]
      simp only [List.cons_append, List.nil_append, readStringChars, number, if_neg plain,
        if_neg plain', Char.ofNat_toNat]
    · rw [escapedChar, if_neg quote, if_neg backslash, if_neg lineFeed, if_neg carriageReturn,
        if_neg tab, if_neg backspace, if_neg formFeed, if_neg control, List.singleton_append,
        readStringChars]
      · rw [if_neg control]
      · exact quote
      · rintro a b c' d rest' rfl
        exact absurd rfl backslash
      · rintro c' rest' rfl
        exact absurd rfl backslash

/-- Hence an escaped text is read up to the quote at its end. -/
theorem readStringChars_escaped (cs done rest : List Char) :
    readStringChars done (cs.flatMap escapedChar ++ '"' :: rest) =
      some (String.ofList (done.reverse ++ cs), rest) := by
  induction cs generalizing done with
  | nil => simp [readStringChars]
  | cons c cs ih =>
    rw [List.flatMap_cons, List.append_assoc, readStringChars_escapedChar, ih]
    simp

/-- A string ends at its closing quote. -/
theorem stringChars_append_inj {s t : String} {rest rest' : List Char}
    (same : stringChars s ++ rest = stringChars t ++ rest') : s = t ∧ rest = rest' := by
  have opened : s.toList.flatMap escapedChar ++ '"' :: rest =
      t.toList.flatMap escapedChar ++ '"' :: rest' := by
    simpa [stringChars] using same
  have read := congrArg (readStringChars []) opened
  rw [readStringChars_escaped, readStringChars_escaped] at read
  simpa using read

/-! ## Integers -/

/-- A text that does not go on with a digit. -/
def Closed (rest : List Char) : Prop :=
  ∀ c ∈ rest.head?, c.isDigit = false

/-- The end of the text does not go on with a digit. -/
theorem closed_nil : Closed [] := nofun

/-- Neither does a text that starts with another character. -/
theorem closed_cons {c : Char} {rest : List Char} (other : c.isDigit = false) :
    Closed (c :: rest) := by
  rintro d ⟨⟩
  exact other

/-- The digits of a number are digits. -/
theorem isDigit_of_mem_digits {n : Nat} {c : Char} (digit : c ∈ digits n) : c.isDigit = true :=
  Nat.isDigit_of_mem_toDigits (by decide) (by decide) digit

/-- There is at least one. -/
theorem exists_digits (n : Nat) : ∃ c rest, digits n = c :: rest ∧ c.isDigit = true := by
  obtain ⟨c, rest, starts⟩ := List.exists_cons_of_ne_nil (Nat.toDigits_ne_nil (n := n) (b := 10))
  exact ⟨c, rest, starts, isDigit_of_mem_digits (starts ▸ List.mem_cons_self)⟩

/-- A number without a sign does not start like anything else. -/
theorem digits_append_ne {n : Nat} {rest later : List Char} {c : Char}
    (other : c.isDigit = false) : digits n ++ rest ≠ c :: later := by
  intro same
  obtain ⟨d, tail, starts, digit⟩ := exists_digits n
  rw [starts, List.cons_append, List.cons.injEq] at same
  rw [same.1, other] at digit
  cases digit

/-- The digits at the front of a written number are all of its digits. -/
theorem takeWhile_digits_append {n : Nat} {rest : List Char} (closed : Closed rest) :
    (digits n ++ rest).takeWhile Char.isDigit = digits n := by
  rw [List.takeWhile_append_of_pos fun c => isDigit_of_mem_digits]
  cases rest with
  | nil => simp
  | cons c rest =>
    rw [List.takeWhile_cons_of_neg (by simp [closed c rfl]), List.append_nil]

/-- So two texts that start with numbers are the same only if the numbers and what follows them are. -/
theorem digits_append_inj {m n : Nat} {rest rest' : List Char} (closed : Closed rest)
    (closed' : Closed rest') (same : digits m ++ rest = digits n ++ rest') :
    m = n ∧ rest = rest' := by
  have written : digits m = digits n := by
    rw [← takeWhile_digits_append closed, same, takeWhile_digits_append closed']
  refine ⟨?_, List.append_cancel_left (written ▸ same)⟩
  calc m = Nat.ofDigitChars 10 (digits m) 0 := Nat.ofDigitChars_ten_toDigits.symm
    _ = Nat.ofDigitChars 10 (digits n) 0 := by rw [written]
    _ = n := Nat.ofDigitChars_ten_toDigits

/-- An integer ends before the first character that is no digit. -/
theorem intChars_append_inj {i k : Int} {rest rest' : List Char} (closed : Closed rest)
    (closed' : Closed rest') (same : intChars i ++ rest = intChars k ++ rest') :
    i = k ∧ rest = rest' := by
  cases i with
  | ofNat m =>
    cases k with
    | ofNat n =>
      obtain ⟨rfl, tails⟩ := digits_append_inj closed closed' same
      exact ⟨rfl, tails⟩
    | negSucc n => exact absurd same (digits_append_ne (by decide))
  | negSucc m =>
    cases k with
    | ofNat n => exact absurd same.symm (digits_append_ne (by decide))
    | negSucc n =>
      obtain ⟨next, tails⟩ := digits_append_inj closed closed' (List.cons.inj same).2
      exact ⟨by rw [Nat.succ.inj next], tails⟩

/-! ## Kinds of values -/

/-- What the first character of a text tells of its value. -/
inductive Kind where
  | null
  | bool (value : Bool)
  | number
  | string
  | array
  | object
deriving DecidableEq

/-- The kind of a value. -/
def kind : Json → Kind
  | .null => .null
  | .bool b => .bool b
  | .number _ => .number
  | .string _ => .string
  | .array _ => .array
  | .object _ => .object

/-- The kind of value that a character starts. -/
def kindOf? (c : Char) : Option Kind :=
  if c = 'n' then some .null
  else if c = 't' then some (.bool true)
  else if c = 'f' then some (.bool false)
  else if c = '"' then some .string
  else if c = '[' then some .array
  else if c = '\x7b' then some .object
  else if c = '-' || c.isDigit then some .number
  else none

/-- A digit starts a number. -/
theorem kindOf?_of_isDigit {c : Char} (digit : c.isDigit = true) : kindOf? c = some .number := by
  have other : ∀ d : Char, d.isDigit = false → c ≠ d := by
    rintro d no rfl
    rw [digit] at no
    cases no
  rw [kindOf?, if_neg (other _ (by decide)), if_neg (other _ (by decide)),
    if_neg (other _ (by decide)), if_neg (other _ (by decide)), if_neg (other _ (by decide)),
    if_neg (other _ (by decide)), digit, Bool.or_true, if_pos rfl]

/-- A value without doubles: every number in it, at any depth, is an integer. -/
def Integral (j : Json) : Prop :=
  ∀ x, .number (.real x) ∉ j.parts

/-- An array holds integers only if every item does. -/
theorem integral_array_iff {items : List Json} :
    Integral (.array items) ↔ ∀ j ∈ items, j.Integral := by
  simp only [Integral, parts, List.mem_cons, reduceCtorEq, false_or, mem_partsOfItems]
  exact ⟨fun none j there x inner => none x ⟨j, there, inner⟩,
    fun each x ⟨j, there, inner⟩ => each j there x inner⟩

/-- An object holds integers only if every value in it does. -/
theorem integral_object_iff {entries : List (String × Json)} :
    Integral (.object entries) ↔ ∀ e ∈ entries, e.2.Integral := by
  simp only [Integral, parts, List.mem_cons, reduceCtorEq, false_or, mem_partsOfEntries]
  exact ⟨fun none e there x inner => none x ⟨e, there, inner⟩,
    fun each x ⟨e, there, inner⟩ => each e there x inner⟩

/-- A number without doubles is an integer. -/
theorem Integral.exists_int {n : JsonNumber} (integral : Integral (.number n)) :
    ∃ i, n = .int i := by
  cases n with
  | int i => exact ⟨i, rfl⟩
  | real x => exact absurd (List.mem_singleton_self _) (integral x)

/-- The first character of a written value tells its kind. -/
theorem exists_chars {j : Json} (integral : j.Integral) :
    ∃ c rest, j.chars = c :: rest ∧ kindOf? c = some j.kind := by
  cases j with
  | null => exact ⟨_, _, rfl, rfl⟩
  | bool b => cases b <;> exact ⟨_, _, rfl, rfl⟩
  | number n =>
    obtain ⟨i, rfl⟩ := integral.exists_int
    cases i with
    | ofNat n =>
      obtain ⟨c, rest, starts, digit⟩ := exists_digits n
      exact ⟨c, rest, starts, kindOf?_of_isDigit digit⟩
    | negSucc n => exact ⟨'-', _, rfl, rfl⟩
  | string s => exact ⟨_, _, rfl, rfl⟩
  | array items => exact ⟨_, _, rfl, rfl⟩
  | object entries => exact ⟨_, _, rfl, rfl⟩

/-- So texts that are the same start with values of one kind. -/
theorem kind_eq_of_chars {j k : Json} {rest rest' : List Char} (integral : j.Integral)
    (integral' : k.Integral) (same : j.chars ++ rest = k.chars ++ rest') : j.kind = k.kind := by
  obtain ⟨c, cs, starts, told⟩ := exists_chars integral
  obtain ⟨d, ds, starts', told'⟩ := exists_chars integral'
  rw [starts, starts', List.cons_append, List.cons_append, List.cons.injEq] at same
  rw [same.1] at told
  exact Option.some.inj (told.symm.trans told')

/-- No written value starts with a bracket that closes, or a comma. -/
theorem chars_append_ne {j : Json} {c : Char} {rest rest' : List Char} (integral : j.Integral)
    (starts : kindOf? c = none) : j.chars ++ rest ≠ c :: rest' := by
  intro same
  obtain ⟨d, ds, first, told⟩ := exists_chars integral
  rw [first, List.cons_append, List.cons.injEq] at same
  rw [same.1, starts] at told
  cases told

/-! ## Arrays, objects and all values -/

/-- What follows the first item of an array. -/
def afterItem (later : List Json) (rest : List Char) : List Char :=
  match later with
  | [] => ']' :: rest
  | _ :: _ => ',' :: (itemsChars later ++ ']' :: rest)

/-- What follows the first entry of an object. -/
def afterEntry (later : List (String × Json)) (rest : List Char) : List Char :=
  match later with
  | [] => '\x7d' :: rest
  | _ :: _ => ',' :: (entriesChars later ++ '\x7d' :: rest)

/-- What follows an item does not go on with a digit. -/
theorem closed_afterItem (later : List Json) (rest : List Char) :
    Closed (afterItem later rest) := by
  cases later <;> exact closed_cons (by decide)

/-- What follows an entry does not either. -/
theorem closed_afterEntry (later : List (String × Json)) (rest : List Char) :
    Closed (afterEntry later rest) := by
  cases later <;> exact closed_cons (by decide)

/-- Items with the bracket behind them are the first item and what follows it. -/
theorem itemsChars_cons_append (j : Json) (later : List Json) (rest : List Char) :
    itemsChars (j :: later) ++ ']' :: rest = j.chars ++ afterItem later rest := by
  cases later <;> simp [itemsChars, afterItem]

/-- Entries with the bracket behind them are the first key, its value and what follows it. -/
theorem entriesChars_cons_append (k : String) (j : Json) (later : List (String × Json))
    (rest : List Char) :
    entriesChars ((k, j) :: later) ++ '\x7d' :: rest =
      stringChars k ++ ':' :: (j.chars ++ afterEntry later rest) := by
  cases later <;> simp [entriesChars, afterEntry]

mutual

/-- A value and what follows it can be told from their text. -/
theorem chars_append_inj : (j k : Json) → j.Integral → k.Integral → {rest rest' : List Char} →
    Closed rest → Closed rest' → j.chars ++ rest = k.chars ++ rest' → j = k ∧ rest = rest'
  | j, k, integral, integral', rest, rest', closed, closed', same => by
    -- What follows is carried along: only with it the items of an array can be told one by one.
    have kinds := kind_eq_of_chars integral integral' same
    cases j with
    | null =>
      cases k with
      | null => simpa [chars] using same
      | _ => cases kinds
    | bool b =>
      cases k with
      | bool b' =>
        cases kinds
        exact ⟨rfl, List.append_cancel_left same⟩
      | _ => cases kinds
    | number n =>
      cases k with
      | number n' =>
        obtain ⟨i, rfl⟩ := integral.exists_int
        obtain ⟨i', rfl⟩ := integral'.exists_int
        obtain ⟨rfl, tails⟩ := intChars_append_inj closed closed' same
        exact ⟨rfl, tails⟩
      | _ => cases kinds
    | string s =>
      cases k with
      | string t =>
        obtain ⟨rfl, tails⟩ := stringChars_append_inj same
        exact ⟨rfl, tails⟩
      | _ => cases kinds
    | array items =>
      cases k with
      | array others =>
        have opened : itemsChars items ++ ']' :: rest = itemsChars others ++ ']' :: rest' := by
          simpa [chars] using same
        obtain ⟨rfl, tails⟩ := itemsChars_append_inj items others
          (integral_array_iff.mp integral) (integral_array_iff.mp integral') opened
        exact ⟨rfl, tails⟩
      | _ => cases kinds
    | object entries =>
      cases k with
      | object others =>
        have opened : entriesChars entries ++ '\x7d' :: rest =
            entriesChars others ++ '\x7d' :: rest' := by
          simpa [chars] using same
        obtain ⟨rfl, tails⟩ := entriesChars_append_inj entries others
          (integral_object_iff.mp integral) (integral_object_iff.mp integral') opened
        exact ⟨rfl, tails⟩
      | _ => cases kinds

/-- Items are told apart by their text, up to the closing bracket. -/
theorem itemsChars_append_inj : (items others : List Json) → (∀ j ∈ items, j.Integral) →
    (∀ j ∈ others, j.Integral) → {rest rest' : List Char} →
    itemsChars items ++ ']' :: rest = itemsChars others ++ ']' :: rest' →
    items = others ∧ rest = rest'
  | [], [], _, _, _, _, same => ⟨rfl, (List.cons.inj same).2⟩
  | [], k :: later', _, integral', _, _, same => by
    rw [itemsChars_cons_append] at same
    exact absurd same.symm (chars_append_ne (integral' k List.mem_cons_self) (by decide))
  | j :: later, [], integral, _, _, _, same => by
    rw [itemsChars_cons_append] at same
    exact absurd same (chars_append_ne (integral j List.mem_cons_self) (by decide))
  | j :: later, k :: later', integral, integral', rest, rest', same => by
    rw [itemsChars_cons_append, itemsChars_cons_append] at same
    obtain ⟨rfl, after⟩ := chars_append_inj j k (integral j List.mem_cons_self)
      (integral' k List.mem_cons_self) (closed_afterItem later rest)
      (closed_afterItem later' rest') same
    match later, later' with
    | [], [] => exact ⟨rfl, (List.cons.inj after).2⟩
    | [], _ :: _ => exact absurd (List.cons.inj after).1 (by decide)
    | _ :: _, [] => exact absurd (List.cons.inj after).1 (by decide)
    | i :: later, i' :: later' =>
      obtain ⟨items, tails⟩ := itemsChars_append_inj (i :: later) (i' :: later')
        (fun k there => integral k (List.mem_cons_of_mem _ there))
        (fun k there => integral' k (List.mem_cons_of_mem _ there)) (List.cons.inj after).2
      exact ⟨by rw [items], tails⟩

/-- So are entries. -/
theorem entriesChars_append_inj : (entries others : List (String × Json)) →
    (∀ e ∈ entries, e.2.Integral) → (∀ e ∈ others, e.2.Integral) → {rest rest' : List Char} →
    entriesChars entries ++ '\x7d' :: rest = entriesChars others ++ '\x7d' :: rest' →
    entries = others ∧ rest = rest'
  | [], [], _, _, _, _, same => ⟨rfl, (List.cons.inj same).2⟩
  | [], (_, _) :: _, _, _, _, _, same => by
    rw [entriesChars_cons_append] at same
    exact absurd (List.cons.inj same).1 (by decide)
  | (_, _) :: _, [], _, _, _, _, same => by
    rw [entriesChars_cons_append] at same
    exact absurd (List.cons.inj same).1 (by decide)
  | (key, j) :: later, (key', k) :: later', integral, integral', rest, rest', same => by
    rw [entriesChars_cons_append, entriesChars_cons_append] at same
    obtain ⟨rfl, values⟩ := stringChars_append_inj same
    obtain ⟨rfl, after⟩ := chars_append_inj j k (integral _ List.mem_cons_self)
      (integral' _ List.mem_cons_self) (closed_afterEntry later rest)
      (closed_afterEntry later' rest') (List.cons.inj values).2
    match later, later' with
    | [], [] => exact ⟨rfl, (List.cons.inj after).2⟩
    | [], _ :: _ => exact absurd (List.cons.inj after).1 (by decide)
    | _ :: _, [] => exact absurd (List.cons.inj after).1 (by decide)
    | i :: later, i' :: later' =>
      obtain ⟨entries, tails⟩ := entriesChars_append_inj (i :: later) (i' :: later')
        (fun e there => integral e (List.mem_cons_of_mem _ there))
        (fun e there => integral' e (List.mem_cons_of_mem _ there)) (List.cons.inj after).2
      exact ⟨by rw [entries], tails⟩

end

/-- Values without doubles that have the same compact text are the same. -/
theorem compact_inj {j k : Json} (integral : j.Integral) (integral' : k.Integral)
    (same : j.compact = k.compact) : j = k := by
  have texts : j.chars ++ [] = k.chars ++ [] := by
    rw [List.append_nil, List.append_nil]
    exact String.ofList_injective same
  exact (chars_append_inj j k integral integral' closed_nil closed_nil texts).1

end CloudPlan.Json
