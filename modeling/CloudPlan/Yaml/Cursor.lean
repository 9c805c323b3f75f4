/-!
# Places in a YAML text

A cursor is the part of a text that is still to be read, with the position at which it starts. Lines
end at a line feed, a carriage return, both, or one of three other characters of Unicode; the first
ones are read as a line feed.
-/

set_option autoImplicit false

namespace CloudPlan.Yaml

/-- The characters that a YAML text may hold. -/
def isAllowed (c : Char) : Bool :=
  let n := c.toNat
  n == 0x09 || n == 0x0A || n == 0x0D || (0x20 ≤ n && n ≤ 0x7E) || n == 0x85 ||
    (0xA0 ≤ n && n ≤ 0xD7FF) || (0xE000 ≤ n && n ≤ 0xFFFD) || 0x10000 ≤ n

/-- The characters that end a line. -/
def isBreak (c : Char) : Bool :=
  c == '\n' || c == '\r' || c.toNat == 0x85 || c.toNat == 0x2028 || c.toNat == 0x2029

/-- The blank and the tab. -/
def isBlank (c : Char) : Bool :=
  c == ' ' || c == '\t'

/-- Blanks, tabs and the characters that end a line. -/
def isSpace (c : Char) : Bool :=
  isBlank c || isBreak c

/-- The characters of anchors and tag handles. -/
def isNameChar (c : Char) : Bool :=
  c.isAlphanum || c == '_' || c == '-'

/-- The indicators of flow collections. -/
def isFlowIndicator (c : Char) : Bool :=
  c == ',' || c == '[' || c == ']' || c == '\x7b' || c == '\x7d'

/-- The mark that may start a line without being part of it. -/
def byteOrderMark : Char := Char.ofNat 0xFEFF

/-- The number of octets that characters take in UTF-8. -/
def octetSize (cs : List Char) : Nat :=
  cs.foldl (fun n x => n + x.utf8Size) 0

/-- A place in a text. `offset` counts the octets before it, `column` the characters before it on
its line. `size` is the number of characters in the whole text, which bounds every loop over the
rest. -/
structure Cursor where
  rest : List Char
  offset : Nat
  line : Nat
  column : Nat
  size : Nat

namespace Cursor

/-- The start of a text. -/
def ofText (cs : List Char) : Cursor := ⟨cs, 0, 0, 0, cs.length⟩

/-- Whether nothing is left. -/
def atEnd (c : Cursor) : Bool := c.rest.isEmpty

/-- The next character. -/
def next? (c : Cursor) : Option Char := c.rest.head?

/-- Whether the next character is the given one. -/
def isAt (c : Cursor) (x : Char) : Bool := c.rest.head? == some x

/-- Whether the next character satisfies a test. -/
def test (c : Cursor) (p : Char → Bool) : Bool := c.rest.head?.any p

/-- Whether there is white space or nothing at all after `n` characters. -/
def endsAfter (c : Cursor) (n : Nat) : Bool :=
  match c.rest[n]? with
  | none => true
  | some x => isSpace x

/-- The cursor some characters of the same line further. -/
def skip (c : Cursor) (n : Nat) : Cursor :=
  { c with
    rest := c.rest.drop n
    offset := c.offset + octetSize (c.rest.take n)
    column := c.column + n }

/-- The characters of this line up to the first that fails a test, and the cursor after them. -/
def takeWhile (c : Cursor) (p : Char → Bool) : List Char × Cursor :=
  let taken := c.rest.takeWhile p
  (taken, c.skip taken.length)

/-- The cursor after the characters that satisfy a test. -/
def skipWhile (c : Cursor) (p : Char → Bool) : Cursor :=
  (c.takeWhile p).2

/-- The cursor at the start of the next line, after a line end of `n` characters. -/
def nextLine (c : Cursor) (n : Nat) : Cursor :=
  { c with
    rest := c.rest.drop n
    offset := c.offset + octetSize (c.rest.take n)
    line := c.line + 1
    column := 0 }

/-- The text of a line end and the cursor after it; nothing when there is no line end. -/
def readBreak (c : Cursor) : List Char × Cursor :=
  match c.rest with
  | '\r' :: '\n' :: _ => (['\n'], c.nextLine 2)
  | x :: _ =>
    if isBreak x then
      let text := if x.toNat == 0x2028 || x.toNat == 0x2029 then x else '\n'
      ([text], c.nextLine 1)
    else ([], c)
  | [] => ([], c)

/-- The cursor after a line end, if there is one. -/
def skipBreak (c : Cursor) : Cursor := c.readBreak.2

/-- Whether a line starts with three of the given character and white space after them. -/
def startsMarker (c : Cursor) (x : Char) : Bool :=
  c.column == 0 && c.rest.take 3 == [x, x, x] && c.endsAfter 3

/-- Whether a line that starts or ends a document begins here. -/
def atDocumentMarker (c : Cursor) : Bool :=
  c.startsMarker '-' || c.startsMarker '.'

/-- The cursor at the end of a line that holds at most blanks and a comment; `none` if the line
holds anything else. The comment needs no blank before it. -/
def endOfLine? (c : Cursor) : Option Cursor :=
  let c := c.skipWhile isBlank
  let c := if c.isAt '#' then c.skipWhile fun x => !isBreak x else c
  if c.atEnd || c.test isBreak then some c.skipBreak else none

end Cursor

end CloudPlan.Yaml
