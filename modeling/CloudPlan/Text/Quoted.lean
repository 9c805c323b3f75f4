import CloudPlan.Text.HiddenRanges
import CloudPlan.Text.Ranges

/-!
# Quoted text

The notation in which diagnostics show a text: between double quotes, with backslash escapes for
the quote, the backslash, NUL, tab and line ends, and with the code point in braces for every other
character that has no shape of its own.
-/

set_option autoImplicit false

namespace CloudPlan.Text

/-- Whether quoted text shows a character by its number. -/
def isHidden (c : Char) : Bool :=
  if 0x20 ≤ c.toNat && c.toNat < 0x7F then false else inRanges hiddenRanges c.toNat

/-- The digits of `n` in base sixteen, without leading zeros. -/
def hexDigits (n : Nat) : List Char :=
  Nat.toDigits 16 n

/-- One character of a quoted text. -/
def quotedChar (c : Char) : List Char :=
  if c = '\x00' then ['\\', '0']
  else if c = '\t' then ['\\', 't']
  else if c = '\r' then ['\\', 'r']
  else if c = '\n' then ['\\', 'n']
  else if c = '\\' then ['\\', '\\']
  else if c = '"' then ['\\', '"']
  else if isHidden c then ['\\', 'u', '{'] ++ hexDigits c.toNat ++ ['}']
  else [c]

/-- A text between double quotes, with escapes. -/
def quoted (s : String) : String :=
  String.ofList ('"' :: s.toList.flatMap quotedChar ++ ['"'])

end CloudPlan.Text
