import CloudPlan.Proofs.CompactJson

/-!
# Compact JSON text is read back

The reader takes the compact text of a value for that value: what is written for a string, an integer
of 64 bits or a name is read as such, and the items of an array and the entries of an object are read
one by one, for as many levels of nesting as the reader allows (`read?_compact`). Compact text stands
on one line, since every control character in a string is escaped (`newline_notMem_chars`).
-/

set_option autoImplicit false

namespace CloudPlan.Json

/-! ## Numbers -/

/-- A text that can follow a value: nothing, a comma or a closing bracket. -/
def Follows (rest : List Char) : Prop :=
  ∀ c ∈ rest.head?, c ∈ [',', ']', '\x7d']

/-- The end of the text can follow a value. -/
theorem follows_nil : Follows [] := nofun

/-- So can a text that starts with a comma or a closing bracket. -/
theorem follows_cons {c : Char} (ends : c ∈ [',', ']', '\x7d']) (rest : List Char) :
    Follows (c :: rest) := by
  rintro d ⟨⟩
  exact ends

/-- What can follow a value does not go on with a digit. -/
theorem Follows.closed {rest : List Char} (follows : Follows rest) : Closed rest := by
  intro c first
  have ends := follows c first
  simp only [List.mem_cons, List.not_mem_nil, or_false] at ends
  rcases ends with rfl | rfl | rfl <;> rfl

/-- A number that is not zero does not start with a zero. -/
theorem head?_digits_ne_zero {n : Nat} (positive : 0 < n) : (digits n).head? ≠ some '0' := by
  induction n using Nat.strongRecOn with
  | ind n ih =>
    by_cases short : n < 10
    · have first : ∀ d < 10, 0 < d → Nat.digitChar d ≠ '0' := by decide
      rw [digits, Nat.toDigits_of_lt_base short]
      exact fun zero => first n short positive (Option.some.inj zero)
    · have fewer : digits n = digits (n / 10) ++ [Nat.digitChar (n % 10)] :=
        Nat.toDigits_of_base_le (by decide) (Nat.le_of_not_lt short)
      obtain ⟨c, rest, starts, _⟩ := exists_digits (n / 10)
      have ih := ih (n / 10) (by omega) (by omega)
      rw [fewer]
      rw [starts] at ih ⊢
      exact ih

/-- Behind the digits of a number the reader is where it should be. -/
theorem dropWhile_digits_append {n : Nat} {rest : List Char} (closed : Closed rest) :
    (digits n ++ rest).dropWhile Char.isDigit = rest := by
  have split := List.takeWhile_append_dropWhile (p := Char.isDigit) (l := digits n ++ rest)
  rw [takeWhile_digits_append closed] at split
  exact List.append_cancel_left split

/-- The digits of a number are read to their end, and no fraction is looked for behind them. -/
theorem readUnsigned?_digits (negative : Bool) (n : Nat) {rest : List Char}
    (follows : Follows rest) :
    readUnsigned? negative (digits n ++ rest) =
      (wholeNumber? negative (digits n)).map fun number => (number, rest) := by
  obtain ⟨c, later, starts, _⟩ := exists_digits n
  have plain : ((digits n).isEmpty ||
      ((digits n).length > 1 && (digits n).head? == some '0')) = false := by
    rcases Nat.eq_zero_or_pos n with rfl | positive
    · decide
    · have first := head?_digits_ne_zero positive
      rw [starts] at first ⊢
      have other : c ≠ '0' := fun zero => first (congrArg some zero)
      simp [other]
  simp only [readUnsigned?, takeWhile_digits_append follows.closed,
    dropWhile_digits_append follows.closed, plain]
  cases rest with
  | nil => rfl
  | cons d later =>
    have ends := follows d rfl
    simp only [List.mem_cons, List.not_mem_nil, or_false] at ends
    rcases ends with rfl | rfl | rfl <;> rfl

/-- The digits of a number stand for that number. -/
theorem foldl_digits (n : Nat) :
    (digits n).foldl (fun n c => n * 10 + digitValue c) 0 = n := by
  calc (digits n).foldl (fun n c => n * 10 + digitValue c) 0
    _ = Nat.ofDigitChars 10 (digits n) 0 := by
      simp only [Nat.ofDigitChars, Nat.mul_comm 10]
      rfl
    _ = n := Nat.ofDigitChars_ten_toDigits

/-- The integers that are read as integers, of 64 bits with or without a sign. -/
def IsWord (i : Int) : Prop :=
  -0x8000000000000000 ≤ i ∧ i ≤ maxWord

/-- An integer of 64 bits is read back, and what follows it is left. -/
theorem readScalar_intChars {i : Int} (word : IsWord i) {rest : List Char}
    (follows : Follows rest) : readScalar (intChars i ++ rest) = some (.number (.int i), rest) := by
  obtain ⟨low, high⟩ := word
  cases i with
  | ofNat n =>
    have fits : n ≤ maxWord := Int.ofNat_le.mp high
    have number : wholeNumber? false (digits n) = some (.int n) := by
      simp [wholeNumber?, foldl_digits, fits]
    show readScalar (digits n ++ rest) = _
    rw [readScalar, readUnsigned?_digits false n follows, number]
    · rfl
    all_goals exact fun _ => digits_append_ne (by decide)
  | negSucc n =>
    have fits : n + 1 ≤ 0x8000000000000000 := by omega
    have number : wholeNumber? true (digits (n + 1)) = some (.int (.negSucc n)) := by
      rw [wholeNumber?, foldl_digits]
      simp [fits, Int.negSucc_eq]
    show readScalar ('-' :: (digits (n + 1) ++ rest)) = _
    rw [readScalar, readUnsigned?_digits true (n + 1) follows, number]
    rfl

/-- A written text with something behind it: a quote, the escaped characters, a quote and the rest. -/
theorem stringChars_append (s : String) (rest : List Char) :
    stringChars s ++ rest = '"' :: (s.toList.flatMap escapedChar ++ '"' :: rest) := by
  simp [stringChars]

/-- A text is read back, and what follows it is left. -/
theorem readScalar_stringChars (s : String) (rest : List Char) :
    readScalar (stringChars s ++ rest) = some (.string s, rest) := by
  rw [stringChars_append, readScalar, readStringChars_escaped]
  simp

/-! ## Values -/

/-- A value that the reader gives back: every number in it, at any depth, is an integer of 64 bits. -/
def Readable (j : Json) : Prop :=
  ∀ n, .number n ∈ j.parts → ∃ i, n = .int i ∧ IsWord i

/-- The reader gives back an array if it gives back every item. -/
theorem readable_array_iff {items : List Json} :
    Readable (.array items) ↔ ∀ j ∈ items, j.Readable := by
  simp only [Readable, parts, List.mem_cons, reduceCtorEq, false_or, mem_partsOfItems]
  constructor
  · exact fun each j there n inner => each n ⟨j, there, inner⟩
  · rintro each n ⟨j, there, inner⟩
    exact each j there n inner

/-- The reader gives back an object if it gives back every value in it. -/
theorem readable_object_iff {entries : List (String × Json)} :
    Readable (.object entries) ↔ ∀ e ∈ entries, e.2.Readable := by
  simp only [Readable, parts, List.mem_cons, reduceCtorEq, false_or, mem_partsOfEntries]
  constructor
  · exact fun each e there n inner => each n ⟨e, there, inner⟩
  · rintro each n ⟨e, there, inner⟩
    exact each e there n inner

/-- A value that is given back holds integers only. -/
theorem Readable.integral {j : Json} (readable : j.Readable) : j.Integral := by
  intro x there
  obtain ⟨i, no, _⟩ := readable _ there
  cases no

mutual

/-- How many arrays and objects stand around the innermost part of a value. -/
def depth : Json → Nat
  | .null | .bool _ | .number _ | .string _ => 0
  | .array items => itemsDepth items + 1
  | .object entries => entriesDepth entries + 1

/-- The depth of the deepest item. -/
def itemsDepth : List Json → Nat
  | [] => 0
  | j :: rest => max j.depth (itemsDepth rest)

/-- The depth of the deepest value of an entry. -/
def entriesDepth : List (String × Json) → Nat
  | [] => 0
  | (_, j) :: rest => max j.depth (entriesDepth rest)

end

/-- Where a visible character stands nothing is skipped. -/
theorem skipSpace_cons {c : Char} (visible : isSpace c = false) (rest : List Char) :
    skipSpace (c :: rest) = c :: rest :=
  List.dropWhile_cons_of_neg (by simp [visible])

/-- No value starts with white space. -/
theorem isSpace_of_kindOf? {c : Char} {k : Kind} (starts : kindOf? c = some k) :
    isSpace c = false := by
  cases space : isSpace c with
  | false => rfl
  | true =>
    simp only [isSpace, Bool.or_eq_true, beq_iff_eq] at space
    obtain ((rfl | rfl) | rfl) | rfl := space <;> cases starts

/-- So nothing is skipped in front of a value. -/
theorem skipSpace_chars_append {j : Json} (integral : j.Integral) (rest : List Char) :
    skipSpace (j.chars ++ rest) = j.chars ++ rest := by
  obtain ⟨c, cs, starts, told⟩ := exists_chars integral
  rw [starts]
  exact skipSpace_cons (isSpace_of_kindOf? told) _

/-- Nor in front of the key of an entry. -/
theorem skipSpace_stringChars_append (s : String) (rest : List Char) :
    skipSpace (stringChars s ++ rest) = stringChars s ++ rest :=
  skipSpace_cons (by decide) _

/-- Nor between an item and what follows it. -/
theorem skipSpace_afterItem (later : List Json) (rest : List Char) :
    skipSpace (afterItem later rest) = afterItem later rest := by
  cases later <;> exact skipSpace_cons (by decide) _

/-- Nor between an entry and what follows it. -/
theorem skipSpace_afterEntry (later : List (String × Json)) (rest : List Char) :
    skipSpace (afterEntry later rest) = afterEntry later rest := by
  cases later <;> exact skipSpace_cons (by decide) _

/-- What is written behind an item can follow a value. -/
theorem follows_afterItem (later : List Json) (rest : List Char) :
    Follows (afterItem later rest) := by
  cases later <;> exact follows_cons (by decide) _

/-- So can what is written behind an entry. -/
theorem follows_afterEntry (later : List (String × Json)) (rest : List Char) :
    Follows (afterEntry later rest) := by
  cases later <;> exact follows_cons (by decide) _

/-- A text that starts neither an array nor an object is read as a scalar at any depth. -/
theorem readValue_eq_readScalar (depth : Nat) {c : Char} {rest : List Char} (array : c ≠ '[')
    (object : c ≠ '\x7b') : readValue depth (c :: rest) = readScalar (c :: rest) := by
  cases depth with
  | zero => simp [readValue, array, object]
  | succ depth =>
    rw [readValue]
    · rintro _ ⟨⟩
      exact array rfl
    · rintro _ ⟨⟩
      exact object rfl

/-- There is enough fuel for the items of an array, since each is followed by a character. -/
theorem length_le_itemsChars (items : List Json) (rest : List Char) :
    items.length ≤ (itemsChars items ++ ']' :: rest).length := by
  induction items with
  | nil => exact Nat.zero_le _
  | cons j later ih =>
    rw [itemsChars_cons_append]
    cases later with
    | nil =>
      simp only [afterItem, List.length_append, List.length_cons, List.length_nil]
      omega
    | cons i later =>
      simp only [List.length_append, List.length_cons, afterItem] at ih ⊢
      omega

/-- There are no more entries than characters, so that the length of a text is fuel enough. -/
theorem length_le_entriesChars (entries : List (String × Json)) (rest : List Char) :
    entries.length ≤ (entriesChars entries ++ '\x7d' :: rest).length := by
  induction entries with
  | nil => exact Nat.zero_le _
  | cons e later ih =>
    rw [entriesChars_cons_append]
    cases later with
    | nil =>
      simp only [afterEntry, List.length_append, List.length_cons, List.length_nil]
      omega
    | cons e' later =>
      simp only [List.length_append, List.length_cons, afterEntry] at ih ⊢
      omega

mutual

/-- A value is read from its text, and what follows is left. -/
theorem readValue_chars : (j : Json) → j.Readable → {level : Nat} → j.depth ≤ level →
    {rest : List Char} → Follows rest → readValue level (j.chars ++ rest) = some (j, rest)
  | .null, _, level, _, _, _ => readValue_eq_readScalar level (by decide) (by decide)
  | .bool true, _, level, _, _, _ => readValue_eq_readScalar level (by decide) (by decide)
  | .bool false, _, level, _, _, _ => readValue_eq_readScalar level (by decide) (by decide)
  | .number n, readable, level, _, rest, follows => by
    obtain ⟨i, rfl, word⟩ := readable n (List.mem_singleton_self _)
    obtain ⟨c, cs, starts, told⟩ := exists_chars readable.integral
    have scalar := readScalar_intChars word follows
    change chars (.number (.int i)) = _ at starts
    change readScalar (chars (.number (.int i)) ++ rest) = _ at scalar
    rw [starts, List.cons_append] at scalar ⊢
    rw [readValue_eq_readScalar level, scalar]
    · rintro rfl
      cases told
    · rintro rfl
      cases told
  | .string s, _, level, _, rest, _ =>
    (readValue_eq_readScalar level (by decide) (by decide)).trans (readScalar_stringChars s rest)
  | .array [], _, level + 1, _, rest, _ => by
    show readValue (level + 1) ('[' :: ']' :: rest) = _
    simp only [readValue, skipSpace_cons (by decide : isSpace ']' = false)]
  | .array (j :: later), readable, level + 1, deep, rest, _ => by
    have each := readable_array_iff.mp readable
    have items := readItems_chars (j :: later) each (Nat.le_of_succ_le_succ deep)
      (List.cons_ne_nil _ _) [] rest (length_le_itemsChars _ rest)
    have integral := (each j List.mem_cons_self).integral
    have opened : chars (.array (j :: later)) ++ rest =
        '[' :: (itemsChars (j :: later) ++ ']' :: rest) := by
      simp [chars]
    rw [itemsChars_cons_append] at opened items
    rw [opened]
    -- no value starts with the closing bracket that the reader looks for first
    simp only [readValue, skipSpace_chars_append integral]
    split
    · rename_i same
      exact absurd same (chars_append_ne integral (by decide))
    · exact items
  | .object [], _, level + 1, _, rest, _ => by
    show readValue (level + 1) ('\x7b' :: '\x7d' :: rest) = _
    simp only [readValue, skipSpace_cons (by decide : isSpace '\x7d' = false)]
  | .object ((k, j) :: later), readable, level + 1, deep, rest, _ => by
    have entries := readEntries_chars ((k, j) :: later) (readable_object_iff.mp readable)
      (Nat.le_of_succ_le_succ deep) (List.cons_ne_nil _ _) [] rest (length_le_entriesChars _ rest)
    have opened : chars (.object ((k, j) :: later)) ++ rest =
        '\x7b' :: (entriesChars ((k, j) :: later) ++ '\x7d' :: rest) := by
      simp [chars]
    rw [entriesChars_cons_append] at opened entries
    rw [opened]
    simp only [readValue, skipSpace_stringChars_append]
    exact entries

/-- The items of an array are read back, with those read before in front of them, if there is fuel
for each. -/
theorem readItems_chars : (items : List Json) → (∀ j ∈ items, j.Readable) → {level : Nat} →
    itemsDepth items ≤ level → items ≠ [] → (done : List Json) → (rest : List Char) →
    {fuel : Nat} → items.length ≤ fuel →
    readItems (readValue level) done fuel (itemsChars items ++ ']' :: rest) =
      some (.array (done.reverse ++ items), rest)
  | [], _, _, _, nonempty, _, _, _, _ => absurd rfl nonempty
  | j :: later, each, level, deep, _, done, rest, fuel + 1, enough => by
    obtain ⟨first, others⟩ := List.forall_mem_cons.mp each
    obtain ⟨deep, deep'⟩ := Nat.max_le.mp deep
    -- what follows the first item is a comma and the others, or the end
    rw [itemsChars_cons_append, readItems, skipSpace_chars_append first.integral,
      readValue_chars j first deep (follows_afterItem later rest)]
    simp only [skipSpace_afterItem]
    match later with
    | [] => simp [afterItem]
    | i :: later =>
      simp only [afterItem]
      rw [readItems_chars (i :: later) others deep' (List.cons_ne_nil _ _) _ _
        (Nat.le_of_succ_le_succ enough)]
      simp

/-- The entries of an object are read back in the same way. -/
theorem readEntries_chars : (entries : List (String × Json)) → (∀ e ∈ entries, e.2.Readable) →
    {level : Nat} → entriesDepth entries ≤ level → entries ≠ [] → (done : List (String × Json)) →
    (rest : List Char) → {fuel : Nat} → entries.length ≤ fuel →
    readEntries (readValue level) done fuel (entriesChars entries ++ '\x7d' :: rest) =
      some (.object (done.reverse ++ entries), rest)
  | [], _, _, _, nonempty, _, _, _, _ => absurd rfl nonempty
  | (k, j) :: later, each, level, deep, _, done, rest, fuel + 1, enough => by
    obtain ⟨first, others⟩ := List.forall_mem_cons.mp each
    obtain ⟨deep, deep'⟩ := Nat.max_le.mp deep
    have value := readValue_chars j first deep (follows_afterEntry later rest)
    rw [entriesChars_cons_append, readEntries, skipSpace_stringChars_append, stringChars_append]
    simp only [readStringChars_escaped, skipSpace_cons (by decide : isSpace ':' = false),
      skipSpace_chars_append first.integral, value, skipSpace_afterEntry]
    match later with
    | [] => simp [afterEntry]
    | e :: later =>
      simp only [afterEntry]
      rw [readEntries_chars (e :: later) others deep' (List.cons_ne_nil _ _) _ _
        (Nat.le_of_succ_le_succ enough)]
      simp

end

/-- Compact text is read back, at any depth that the reader allows. -/
theorem read?_compact {j : Json} (readable : j.Readable) (deep : j.depth ≤ maxDepth) :
    read? j.compact = some j := by
  have read := readValue_chars j readable deep follows_nil
  rw [List.append_nil] at read
  have start := skipSpace_chars_append readable.integral []
  rw [List.append_nil] at start
  rw [read?, compact, String.toList_ofList, start, read]
  rfl

/-! ## One line -/

/-- A line break is escaped like every control character. -/
theorem newline_notMem_escapedChar (c : Char) : '\n' ∉ escapedChar c := by
  have digit : ∀ n < 16, Text.hexDigit n ≠ '\n' := by decide
  unfold escapedChar
  split_ifs with _ _ lineFeed _ _ _ _ control
  · decide
  · decide
  · decide
  · decide
  · decide
  · decide
  · decide
  · have high := (digit (c.toNat / 16) (by omega)).symm
    have low := (digit (c.toNat % 16) (by omega)).symm
    simp [high, low]
  · simpa using Ne.symm lineFeed

/-- So no written text has a line break. -/
theorem newline_notMem_stringChars (s : String) : '\n' ∉ stringChars s := by
  have inside : '\n' ∉ s.toList.flatMap escapedChar := by
    rw [List.mem_flatMap]
    rintro ⟨c, _, there⟩
    exact newline_notMem_escapedChar c there
  simp [stringChars, inside]

/-- Nor has a written number. -/
theorem newline_notMem_digits (n : Nat) : '\n' ∉ digits n :=
  fun there => absurd (isDigit_of_mem_digits there) (by decide)

mutual

/-- Compact text stands on one line. -/
theorem newline_notMem_chars : (j : Json) → j.Integral → '\n' ∉ j.chars
  | .null, _ => by decide
  | .bool true, _ => by decide
  | .bool false, _ => by decide
  | .number n, integral => by
    obtain ⟨i, rfl⟩ := integral.exists_int
    cases i with
    | ofNat n => exact newline_notMem_digits n
    | negSucc n => exact List.not_mem_cons_of_ne_of_not_mem (by decide) (newline_notMem_digits _)
  | .string s, _ => newline_notMem_stringChars s
  | .array items, integral => by
    have inside := newline_notMem_itemsChars items (integral_array_iff.mp integral)
    simp [chars, inside]
  | .object entries, integral => by
    have inside := newline_notMem_entriesChars entries (integral_object_iff.mp integral)
    simp [chars, inside]

/-- So do the items of an array. -/
theorem newline_notMem_itemsChars : (items : List Json) → (∀ j ∈ items, j.Integral) →
    '\n' ∉ itemsChars items
  | [], _ => List.not_mem_nil
  | [j], each => newline_notMem_chars j (each j List.mem_cons_self)
  | j :: i :: later, each => by
    obtain ⟨first, others⟩ := List.forall_mem_cons.mp each
    simp [itemsChars, newline_notMem_chars j first, newline_notMem_itemsChars (i :: later) others]

/-- So do the entries of an object. -/
theorem newline_notMem_entriesChars : (entries : List (String × Json)) →
    (∀ e ∈ entries, e.2.Integral) → '\n' ∉ entriesChars entries
  | [], _ => List.not_mem_nil
  | [(k, j)], each => by
    have value := newline_notMem_chars j (each _ List.mem_cons_self)
    simp [entriesChars, newline_notMem_stringChars, value]
  | (k, j) :: e :: later, each => by
    obtain ⟨first, others⟩ := List.forall_mem_cons.mp each
    simp [entriesChars, newline_notMem_stringChars, newline_notMem_chars j first,
      newline_notMem_entriesChars (e :: later) others]

end

end CloudPlan.Json
