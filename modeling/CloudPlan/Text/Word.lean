import CloudPlan.Text.Ranges
import CloudPlan.Text.WordRanges

/-!
# Word characters

The characters that words are made of, as word boundaries see them.
-/

set_option autoImplicit false

namespace CloudPlan.Text

/-- ASCII letters, digits and the underscore. -/
def isAsciiWord (c : Char) : Bool :=
  c.isAlphanum || c == '_'

/-- Alphabetic characters, marks, decimal digits, connectors and join controls. -/
def isWord (c : Char) : Bool :=
  if c.toNat < 0x80 then isAsciiWord c else inRanges wordRanges c.toNat

end CloudPlan.Text
