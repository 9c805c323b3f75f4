import CloudPlan.Text.Word

/-!
# Patterns

A pattern describes a stretch of text without regard to case: letters, one character of any kind
except a line feed, a word boundary, and sequences and alternatives of patterns. `Pattern.ends`
gives every place at which a match can end, and `Pattern.occursIn` says whether a text contains one.
-/

set_option autoImplicit false

namespace CloudPlan.Text

/-- A pattern. Its characters are in lower case. -/
inductive Pattern where
  | empty
  | char (c : Char)
  | any
  | boundary
  | seq (first second : Pattern)
  | alt (first second : Pattern)
deriving DecidableEq, Repr

/-- A place in a text: the character before it, if there is one, and the characters after it. -/
structure Place where
  before : Option Char
  after : List Char
deriving DecidableEq, Repr

/-- Whether a character is the given lower-case one in either case. The Kelvin sign counts as a
`k`, and the long s as an `s`. -/
def equalsFolded (c d : Char) : Bool :=
  d == c || d == c.toUpper || (c == 'k' && d.toNat == 0x212A) || (c == 's' && d.toNat == 0x17F)

/-- Whether one side of a place is a word character and the other is not. -/
def Place.atBoundary (p : Place) : Bool :=
  (match p.before with | some c => isWord c | none => false) !=
    (match p.after with | c :: _ => isWord c | [] => false)

namespace Pattern

/-- The places at which a match that starts at the given place can end. -/
def ends : Pattern → Place → List Place
  | empty, p => [p]
  | char c, ⟨_, d :: rest⟩ => if equalsFolded c d then [⟨some d, rest⟩] else []
  | char _, ⟨_, []⟩ => []
  | any, ⟨_, d :: rest⟩ => if d = '\n' then [] else [⟨some d, rest⟩]
  | any, ⟨_, []⟩ => []
  | boundary, p => if p.atBoundary then [p] else []
  | seq a b, p => (ends a p).flatMap (ends b)
  | alt a b, p => ends a p ++ ends b p

/-- Whether a match starts somewhere after a given character. -/
def occursAfter (pattern : Pattern) (before : Option Char) : List Char → Bool
  | [] => !(pattern.ends ⟨before, []⟩).isEmpty
  | c :: rest =>
    !(pattern.ends ⟨before, c :: rest⟩).isEmpty || occursAfter pattern (some c) rest

/-- Whether a text contains a match. -/
def occursIn (pattern : Pattern) (s : String) : Bool :=
  pattern.occursAfter none s.toList

/-- One pattern after the other. -/
def inOrder : List Pattern → Pattern
  | [] => empty
  | [a] => a
  | a :: rest => seq a (inOrder rest)

/-- One of several patterns. -/
def oneOf : List Pattern → Pattern
  | [] => empty
  | [a] => a
  | a :: rest => alt a (oneOf rest)

/-- The letters of a text. -/
def text (s : String) : Pattern :=
  inOrder (s.toList.map char)

/-- A pattern that may be left out. -/
def optional (a : Pattern) : Pattern :=
  alt a empty

end Pattern

end CloudPlan.Text
