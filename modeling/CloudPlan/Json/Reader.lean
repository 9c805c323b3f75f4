import CloudPlan.Json.Basic
import CloudPlan.Text.Hex

/-!
# Reading JSON text

`Json.read?` accepts exactly one value, surrounded by blanks at most. Entries of an object are kept
as written, repeated keys included; `Json.normalize` sorts them and lets the last of a key win.
Arrays and objects nest at most 127 deep. An integer of 64 bits stays an integer; any other number
becomes a double: the digits that fit in 64 bits are rounded first and scaled by a power of ten
after that.
-/

set_option autoImplicit false

namespace CloudPlan.Json

/-- The characters that may stand between tokens. -/
def isSpace (c : Char) : Bool :=
  c == ' ' || c == '\t' || c == '\n' || c == '\r'

/-- The text after leading blanks. -/
def skipSpace (cs : List Char) : List Char :=
  cs.dropWhile isSpace

/-- The value of four hexadecimal digits. -/
def hexValue4? (a b c d : Char) : Option Nat :=
  Text.digits? 16 [a, b, c, d]

/-- The character that a one-letter escape stands for. -/
def escapeValue? (c : Char) : Option Char :=
  if c = '"' then some '"'
  else if c = '\\' then some '\\'
  else if c = '/' then some '/'
  else if c = 'b' then some '\x08'
  else if c = 'f' then some '\x0c'
  else if c = 'n' then some '\n'
  else if c = 'r' then some '\r'
  else if c = 't' then some '\t'
  else none

/-- The rest of a string after its opening quote; `done` holds the characters so far, last first. -/
def readStringChars (done : List Char) : List Char → Option (String × List Char)
  | [] => none
  | '"' :: rest => some (String.ofList done.reverse, rest)
  | '\\' :: 'u' :: a :: b :: c :: d :: rest =>
    match hexValue4? a b c d with
    | none => none
    | some n =>
      if 0xD800 ≤ n && n < 0xDC00 then
        match rest with
        | '\\' :: 'u' :: a' :: b' :: c' :: d' :: rest' =>
          match hexValue4? a' b' c' d' with
          | some m =>
            if 0xDC00 ≤ m && m < 0xE000 then
              let point := 0x10000 + (n - 0xD800) * 0x400 + (m - 0xDC00)
              readStringChars (Char.ofNat point :: done) rest'
            else none
          | none => none
        | _ => none
      else if 0xDC00 ≤ n && n < 0xE000 then none
      else readStringChars (Char.ofNat n :: done) rest
  | '\\' :: c :: rest =>
    match escapeValue? c with
    | some e => readStringChars (e :: done) rest
    | none => none
  | c :: rest => if c.toNat < 0x20 then none else readStringChars (c :: done) rest

/-- The largest integer of 64 bits. -/
def maxWord : Nat := 0xFFFFFFFFFFFFFFFF

/-- The value of a decimal digit. -/
def digitValue (c : Char) : Nat :=
  c.toNat - 48

/-- Digits gathered as long as they fit in 64 bits. -/
structure Significand where
  value : Nat
  exponent : Int
  full : Bool

/-- Adds a digit before the point. A digit that does not fit raises the exponent. -/
def Significand.addWhole (s : Significand) (c : Char) : Significand :=
  let value := s.value * 10 + digitValue c
  if s.full || maxWord < value then { s with exponent := s.exponent + 1, full := true }
  else { s with value := value }

/-- Adds a digit after the point. From the first digit that does not fit the rest is dropped. -/
def Significand.addFraction (s : Significand) (c : Char) : Significand :=
  let value := s.value * 10 + digitValue c
  if s.full || maxWord < value then { s with full := true }
  else { s with value := value, exponent := s.exponent - 1 }

/-- A number without fraction and exponent. -/
def wholeNumber? (negative : Bool) (digits : List Char) : Option JsonNumber :=
  let n := digits.foldl (fun n c => n * 10 + digitValue c) 0
  if !negative && n ≤ maxWord then some (.int n)
  else if negative && n ≠ 0 && n ≤ 0x8000000000000000 then some (.int (-(n : Int)))
  else
    let s := digits.foldl Significand.addWhole ⟨0, 0, false⟩
    (Binary64.ofScaled? negative s.value s.exponent).map .real

/-- A number with a fraction or an exponent. -/
def realNumber? (negative : Bool) (whole fraction : List Char) (exponent : Int) :
    Option JsonNumber :=
  let s := whole.foldl Significand.addWhole ⟨0, 0, false⟩
  let s := fraction.foldl Significand.addFraction { s with full := false }
  (Binary64.ofScaled? negative s.value (s.exponent + exponent)).map .real

/-- An exponent after its letter: sign, digits and rest. -/
def readExponent? (cs : List Char) : Option (Int × List Char) :=
  let (negative, cs) := match cs with
    | '-' :: rest => (true, rest)
    | '+' :: rest => (false, rest)
    | _ => (false, cs)
  let digits := cs.takeWhile Char.isDigit
  let value : Nat := min (digits.foldl (fun n c => min (n * 10 + digitValue c) 99999) 0) 99999
  if digits.isEmpty then none
  else some (if negative then -(value : Int) else value, cs.dropWhile Char.isDigit)

/-- A number after its sign. -/
def readUnsigned? (negative : Bool) (cs : List Char) : Option (JsonNumber × List Char) :=
  let whole := cs.takeWhile Char.isDigit
  let rest := cs.dropWhile Char.isDigit
  if whole.isEmpty || (whole.length > 1 && whole.head? == some '0') then none
  else
    match rest with
    | '.' :: rest =>
      let fraction := rest.takeWhile Char.isDigit
      let rest := rest.dropWhile Char.isDigit
      if fraction.isEmpty then none
      else
        match rest with
        | 'e' :: tail | 'E' :: tail => do
          let (exponent, rest) ← readExponent? tail
          return (← realNumber? negative whole fraction exponent, rest)
        | _ => (realNumber? negative whole fraction 0).map (·, rest)
    | 'e' :: tail | 'E' :: tail => do
      let (exponent, rest) ← readExponent? tail
      return (← realNumber? negative whole [] exponent, rest)
    | _ => (wholeNumber? negative whole).map (·, rest)

/-- The items of an array from the first one on; `done` holds the items so far, last first. -/
def readItems (read : List Char → Option (Json × List Char)) (done : List Json) :
    (fuel : Nat) → List Char → Option (Json × List Char)
  | 0, _ => none
  | fuel + 1, cs =>
    match read (skipSpace cs) with
    | none => none
    | some (j, rest) =>
      match skipSpace rest with
      | ',' :: rest => readItems read (j :: done) fuel rest
      | ']' :: rest => some (.array (j :: done).reverse, rest)
      | _ => none

/-- The entries of an object from the first one on; `done` holds the entries so far, last first. -/
def readEntries (read : List Char → Option (Json × List Char)) (done : List (String × Json)) :
    (fuel : Nat) → List Char → Option (Json × List Char)
  | 0, _ => none
  | fuel + 1, cs =>
    match skipSpace cs with
    | '"' :: rest =>
      match readStringChars [] rest with
      | none => none
      | some (key, rest) =>
        match skipSpace rest with
        | ':' :: rest =>
          match read (skipSpace rest) with
          | none => none
          | some (j, rest) =>
            match skipSpace rest with
            | ',' :: rest => readEntries read ((key, j) :: done) fuel rest
            | '\x7d' :: rest => some (.object ((key, j) :: done).reverse, rest)
            | _ => none
        | _ => none
    | _ => none

/-- A value that is neither an array nor an object, from its first character on. -/
def readScalar (cs : List Char) : Option (Json × List Char) :=
  match cs with
  | '"' :: rest => (readStringChars [] rest).map fun (s, rest) => (.string s, rest)
  | 'n' :: 'u' :: 'l' :: 'l' :: rest => some (.null, rest)
  | 't' :: 'r' :: 'u' :: 'e' :: rest => some (.bool true, rest)
  | 'f' :: 'a' :: 'l' :: 's' :: 'e' :: rest => some (.bool false, rest)
  | '-' :: rest => (readUnsigned? true rest).map fun (n, rest) => (.number n, rest)
  | _ => (readUnsigned? false cs).map fun (n, rest) => (.number n, rest)

/-- A value from its first character on, with at most `depth` levels of nesting. -/
def readValue : (depth : Nat) → List Char → Option (Json × List Char)
  | 0, cs => if cs.head? == some '[' || cs.head? == some '\x7b' then none else readScalar cs
  | depth + 1, cs =>
    match cs with
    | '[' :: rest =>
      match skipSpace rest with
      | ']' :: rest => some (.array [], rest)
      | rest => readItems (readValue depth) [] rest.length rest
    | '\x7b' :: rest =>
      match skipSpace rest with
      | '\x7d' :: rest => some (.object [], rest)
      | rest => readEntries (readValue depth) [] rest.length rest
    | _ => readScalar cs

/-- The greatest depth of nested arrays and objects. -/
def maxDepth : Nat := 127

/-- The value that a text holds, with entries as written. -/
def read? (text : String) : Option Json :=
  match readValue maxDepth (skipSpace text.toList) with
  | some (j, rest) => if (skipSpace rest).isEmpty then some j else none
  | none => none

mutual

/-- A value with the entries of every object sorted, the last entry of a key winning. -/
def normalize : Json → Json
  | .array items => .array (normalizeItems items)
  | .object entries => .object (Entries.sortedOfList (normalizeEntries entries))
  | j => j

/-- Normalizes every value of a list. -/
def normalizeItems : List Json → List Json
  | [] => []
  | j :: rest => j.normalize :: normalizeItems rest

/-- Normalizes the value of every entry. -/
def normalizeEntries : List (String × Json) → List (String × Json)
  | [] => []
  | (k, j) :: rest => (k, j.normalize) :: normalizeEntries rest

end

end CloudPlan.Json
