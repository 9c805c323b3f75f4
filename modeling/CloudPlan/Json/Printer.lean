import CloudPlan.Decimal.Shortest
import CloudPlan.Json.Basic
import CloudPlan.Text.Hex

/-!
# Written JSON

`Json.compact` writes a value on one line without blanks, `Json.pretty` with two blanks of
indentation for each level. Integers are written in full; a double is written with the fewest
digits that read back, always with a point or an exponent, positionally for decimal exponents from
-5 to 15. In strings only the quote, the backslash and the characters below the blank are escaped.
-/

set_option autoImplicit false

namespace CloudPlan

/-- How the digits of a double are laid out. -/
structure RealFormat where
  leastPositional : Int
  mostPositional : Int

/-- The least and the greatest decimal exponent that JSON text writes positionally. -/
def Json.realFormat : RealFormat := ⟨-5, 15⟩

namespace Json

/-- The decimal digits of a natural number. -/
def digits (n : Nat) : List Char :=
  Nat.toDigits 10 n

/-- An integer, with a sign when negative. -/
def intChars : Int → List Char
  | .ofNat n => digits n
  | .negSucc n => '-' :: digits (n + 1)

/-- The decimal `d * 10 ^ k` in the given format. -/
def decimalChars (format : RealFormat) (d : Nat) (k : Int) : List Char :=
  let ds := digits d
  let exponent := k + ds.length - 1
  if format.leastPositional ≤ exponent && exponent ≤ format.mostPositional then
    if 0 ≤ k then ds ++ List.replicate k.toNat '0' ++ ['.', '0']
    else if 0 ≤ exponent then ds.take (exponent + 1).toNat ++ '.' :: ds.drop (exponent + 1).toNat
    else ['0', '.'] ++ List.replicate (-exponent - 1).toNat '0' ++ ds
  else
    let fraction := if ds.length ≤ 1 then ds else ds.take 1 ++ '.' :: ds.drop 1
    fraction ++ ['e', if exponent < 0 then '-' else '+'] ++ digits exponent.natAbs

/-- A double. -/
def realChars (x : Binary64) : List Char :=
  let (d, k) := x.shortest
  let magnitude := decimalChars realFormat d k
  if x.isNegative then '-' :: magnitude else magnitude

/-- A number. -/
def numberChars : JsonNumber → List Char
  | .int i => intChars i
  | .real x => realChars x

/-- One character of a string. -/
def escapedChar (c : Char) : List Char :=
  if c = '"' then ['\\', '"']
  else if c = '\\' then ['\\', '\\']
  else if c = '\n' then ['\\', 'n']
  else if c = '\r' then ['\\', 'r']
  else if c = '\t' then ['\\', 't']
  else if c = '\x08' then ['\\', 'b']
  else if c = '\x0c' then ['\\', 'f']
  else if c.toNat < 0x20 then
    ['\\', 'u', '0', '0', Text.hexDigit (c.toNat / 16), Text.hexDigit (c.toNat % 16)]
  else [c]

/-- A string with its quotes. -/
def stringChars (s : String) : List Char :=
  '"' :: s.toList.flatMap escapedChar ++ ['"']

mutual

/-- A value without blanks. -/
def chars : Json → List Char
  | .null => ['n', 'u', 'l', 'l']
  | .bool true => ['t', 'r', 'u', 'e']
  | .bool false => ['f', 'a', 'l', 's', 'e']
  | .number n => numberChars n
  | .string s => stringChars s
  | .array items => '[' :: itemsChars items ++ [']']
  | .object entries => '{' :: entriesChars entries ++ ['}']

/-- The items of an array, with commas between them. -/
def itemsChars : List Json → List Char
  | [] => []
  | [j] => chars j
  | j :: rest => chars j ++ ',' :: itemsChars rest

/-- The entries of an object, with commas between them. -/
def entriesChars : List (String × Json) → List Char
  | [] => []
  | [(k, j)] => stringChars k ++ ':' :: chars j
  | (k, j) :: rest => stringChars k ++ ':' :: chars j ++ ',' :: entriesChars rest

end

/-- A value on one line without blanks. -/
def compact (j : Json) : String :=
  String.ofList j.chars

/-- A line end and the indentation of a level. -/
def newline (level : Nat) : List Char :=
  '\n' :: List.replicate (2 * level) ' '

mutual

/-- A value whose nested lines start at `level`. -/
def prettyChars (level : Nat) : Json → List Char
  | .array [] => ['[', ']']
  | .array (j :: rest) =>
    '[' :: newline (level + 1) ++ prettyChars (level + 1) j ++ prettyItems (level + 1) rest ++
      newline level ++ [']']
  | .object [] => ['{', '}']
  | .object ((k, j) :: rest) =>
    '{' :: newline (level + 1) ++ stringChars k ++ [':', ' '] ++ prettyChars (level + 1) j ++
      prettyEntries (level + 1) rest ++ newline level ++ ['}']
  | .null => ['n', 'u', 'l', 'l']
  | .bool true => ['t', 'r', 'u', 'e']
  | .bool false => ['f', 'a', 'l', 's', 'e']
  | .number n => numberChars n
  | .string s => stringChars s

/-- The items after the first, each on a line of its own. -/
def prettyItems (level : Nat) : List Json → List Char
  | [] => []
  | j :: rest => ',' :: newline level ++ prettyChars level j ++ prettyItems level rest

/-- The entries after the first, each on a line of its own. -/
def prettyEntries (level : Nat) : List (String × Json) → List Char
  | [] => []
  | (k, j) :: rest =>
    ',' :: newline level ++ stringChars k ++ [':', ' '] ++ prettyChars level j ++
      prettyEntries level rest

end

/-- A value over several lines, indented by two blanks for each level. -/
def pretty (j : Json) : String :=
  String.ofList (prettyChars 0 j)

end Json

end CloudPlan
