import CloudPlan.Json.Basic
import CloudPlan.Text.Hex
import CloudPlan.Yaml.Tree

/-!
# What scalars stand for

A quoted or block scalar is a text. A plain one may also be null, a truth value or a number, by its
look; a tag of the core schema demands one of these and refuses any other text. Numbers that JSON
does not have become null.
-/

set_option autoImplicit false

namespace CloudPlan.Yaml

/-- Whether a text is one of the words for null. -/
def isNullWord (text : String) : Bool :=
  ["~", "null", "Null", "NULL"].contains text

/-- The truth value that a text is a word for. -/
def truth? (text : String) : Option Bool :=
  if ["true", "True", "TRUE"].contains text then some true
  else if ["false", "False", "FALSE"].contains text then some false
  else none

/-- Whether there are several decimal digits of which the first is zero. -/
def isPadded (cs : List Char) : Bool :=
  cs.head? == some '0' && 1 < cs.length && cs.all Char.isDigit

/-- A whole number without sign: in base 16, 8 or 2 after a mark, else in base 10. -/
def magnitude? : List Char → Option Nat
  | '0' :: 'x' :: rest => Text.digits? 16 rest
  | '0' :: 'o' :: rest => Text.digits? 8 rest
  | '0' :: 'b' :: rest => Text.digits? 2 rest
  | cs => if isPadded cs then none else Text.digits? 10 cs

/-- A whole number of any size. -/
def int? : List Char → Option Int
  | '-' :: rest => (magnitude? rest).map fun n => -(n : Int)
  | '+' :: rest => (magnitude? rest).map fun n => (n : Int)
  | cs => (magnitude? cs).map fun n => (n : Int)

/-- Whether a whole number fits in 64 bits, with a sign if it is negative. -/
def fitsWord (i : Int) : Bool :=
  -0x8000000000000000 ≤ i && i < 0x10000000000000000

/-- Whether a whole number fits in 128 bits, with a sign if it is negative. -/
def fitsDoubleWord (i : Int) : Bool :=
  -0x80000000000000000000000000000000 ≤ i && i < 0x100000000000000000000000000000000

/-- A decimal exponent, at the end of a number. -/
def exponent? : List Char → Option Int
  | [] => some 0
  | e :: rest =>
    if e == 'e' || e == 'E' then
      match rest with
      | '-' :: digits => (Text.digits? 10 digits).map fun n => -(n : Int)
      | '+' :: digits => (Text.digits? 10 digits).map fun n => (n : Int)
      | digits => (Text.digits? 10 digits).map fun n => (n : Int)
    else none

/-- The digits before and after a decimal point, and what follows them. -/
def mantissa (cs : List Char) : List Char × List Char × List Char :=
  let whole := cs.takeWhile Char.isDigit
  match cs.dropWhile Char.isDigit with
  | '.' :: rest => (whole, rest.takeWhile Char.isDigit, rest.dropWhile Char.isDigit)
  | rest => (whole, [], rest)

/-- The double nearest to a decimal without sign. -/
def decimal? (negative : Bool) (cs : List Char) : Option Binary64 := do
  let (whole, fraction, rest) := mantissa cs
  let m ← Text.digits? 10 (whole ++ fraction)
  let e ← exponent? rest
  Binary64.ofDecimal? negative m (e - fraction.length)

/-- Whether a text names an infinity or no number at all. -/
def isNonFinite (text : String) : Bool :=
  [".inf", ".Inf", ".INF", "+.inf", "+.Inf", "+.INF", "-.inf", "-.Inf", "-.INF", ".nan", ".NaN",
    ".NAN"].contains text

/-- A number with a point or an exponent, or one that JSON does not have. -/
def real? (text : String) : Option Json :=
  if isNonFinite text then some .null
  else
    let read := match text.toList with
      | '-' :: cs => decimal? true cs
      | '+' :: cs => decimal? false cs
      | cs => decimal? false cs
    read.map fun x => .number (.real x)

/-- Whether the digits of a number, after a sign, start with a zero that keeps it a text. -/
def isPaddedText (text : String) : Bool :=
  match text.toList with
  | '-' :: cs => isPadded cs
  | '+' :: cs => isPadded cs
  | cs => isPadded cs

/-- A number that is none of the whole ones, or a text. -/
def realOrText (text : String) : Json :=
  if isPaddedText text then .string text else (real? text).getD (.string text)

/-- A plain scalar without tag. A whole number that needs between 64 and 128 bits is refused. -/
def plainValue? (text : String) : Option Json :=
  if text == "" || isNullWord text then some .null
  else
    match truth? text, int? text.toList with
    | some b, _ => some (.bool b)
    | none, some i =>
      if fitsWord i then some (.number (.int i))
      else if fitsDoubleWord i then none
      else some (realOrText text)
    | none, none => some (realOrText text)

/-- A scalar of any form. -/
def scalarValue? (tag : Option Tag) (plain : Bool) (text : String) : Option Json :=
  match tag with
  | some .truth => (truth? text).map .bool
  | some .int => ((int? text.toList).filter fitsWord).map fun i => .number (.int i)
  | some .real => real? text
  | some .null => if isNullWord text then some .null else none
  | some (.variant _) => none
  | some .other => some (.string text)
  | some .unnamed | none => if plain then plainValue? text else some (.string text)

end CloudPlan.Yaml
