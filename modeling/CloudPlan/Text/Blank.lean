/-!
# Blank characters

`isBlank` is the Unicode property `White_Space`. `trim` drops blanks at both ends of a text, and a
text is blank when nothing is left of it.
-/

set_option autoImplicit false

namespace CloudPlan.Text

/-- The characters that Unicode calls white space. -/
def isBlank (c : Char) : Bool :=
  let n := c.toNat
  (0x09 ≤ n && n ≤ 0x0D) || n == 0x20 || n == 0x85 || n == 0xA0 || n == 0x1680 ||
    (0x2000 ≤ n && n ≤ 0x200A) || n == 0x2028 || n == 0x2029 || n == 0x202F || n == 0x205F ||
    n == 0x3000

/-- The characters without the blanks at either end. -/
def trimChars (cs : List Char) : List Char :=
  ((cs.dropWhile isBlank).reverse.dropWhile isBlank).reverse

/-- A text without the blanks at either end. -/
def trim (s : String) : String :=
  String.ofList (trimChars s.toList)

/-- A text that holds blanks only. -/
def isBlankText (s : String) : Bool :=
  s.toList.all isBlank

end CloudPlan.Text
