import CloudPlan.Yaml.Scalar
import CloudPlan.Yaml.Token

/-!
# From text to tokens

`Token.scan` splits a YAML text into tokens. Whether something is a key is known only when the colon
after it is found: the place of a possible key is remembered, and the tokens that mark the key, and
the mapping if it starts one, are put there later. A key without an indicator of its own has to end
on its line and within 1024 octets.
-/

set_option autoImplicit false

namespace CloudPlan.Yaml

/-- A place where a key may have started: the number of tokens before it, and its position. -/
structure PossibleKey where
  required : Bool
  tokens : Nat
  offset : Nat
  line : Nat
  column : Nat

/-- The state between two tokens. `tokens` holds those read so far, last first. `keys` holds a
possible key for the block context and for every open flow collection, the innermost first. `indent`
is the column of the innermost block collection, or -1, and `indents` holds those around it. -/
structure Lexer where
  cursor : Cursor
  tokens : List Token
  count : Nat
  keys : List (Option PossibleKey)
  keyAllowed : Bool
  indent : Int
  indents : List Int

namespace Lexer

/-- The state before the first token. -/
def ofText (cs : List Char) : Lexer :=
  ⟨.ofText cs, [], 0, [none], true, -1, []⟩

/-- Whether a flow collection is open. -/
def inFlow (s : Lexer) : Bool :=
  1 < s.keys.length

/-- Adds a token. -/
def push (s : Lexer) (t : Token) : Lexer :=
  { s with tokens := t :: s.tokens, count := s.count + 1 }

/-- Adds a token before those that were read after the first `n`. -/
def insertAt (s : Lexer) (n : Nat) (t : Token) : Lexer :=
  let later := s.count - n
  { s with
    tokens := s.tokens.take later ++ t :: s.tokens.drop later
    count := s.count + 1 }

/-- Moves on. -/
def moveTo (s : Lexer) (cursor : Cursor) : Lexer :=
  { s with cursor }

/-- Allows or forbids that a key starts at the next token. -/
def allowKey (s : Lexer) (allowed : Bool) : Lexer :=
  { s with keyAllowed := allowed }

/-- The possible key of the innermost context. -/
def key? (s : Lexer) : Option PossibleKey :=
  s.keys.head?.join

/-- Replaces the possible key of the innermost context. -/
def setKey (s : Lexer) (key : Option PossibleKey) : Lexer :=
  { s with keys := key :: s.keys.drop 1 }

/-- Gives up the possible key of the innermost context, unless a key is required there. -/
def dropKey? (s : Lexer) : Option Lexer :=
  if s.key?.any PossibleKey.required then none else some (s.setKey none)

/-- Remembers that a key may start here. -/
def saveKey? (s : Lexer) : Option Lexer :=
  if s.keyAllowed then
    let c := s.cursor
    let required := !s.inFlow && s.indent == c.column
    s.dropKey?.map fun s => s.setKey (some ⟨required, s.count, c.offset, c.line, c.column⟩)
  else some s

/-- Whether a possible key is too far behind to become a key. -/
def isStale (c : Cursor) (key : PossibleKey) : Bool :=
  key.line < c.line || key.offset + 1024 < c.offset

/-- Gives up the possible keys that are too far behind. -/
def dropStaleKeys? (s : Lexer) : Option Lexer :=
  let stale (key : Option PossibleKey) : Bool := key.any (isStale s.cursor)
  if s.keys.any fun key => stale key && key.any PossibleKey.required then none
  else some { s with keys := s.keys.map fun key => if stale key then none else key }

/-- Opens a block collection at a column that is further right than the innermost one; its start is
put after the first `n` tokens. -/
def openBlock (s : Lexer) (column n : Nat) (start : Token) : Lexer :=
  if !s.inFlow && s.indent < column then
    { s.insertAt n start with indent := column, indents := s.indent :: s.indents }
  else s

/-- Closes the block collections that are further right than a column. -/
def closeBlocks (s : Lexer) (column : Int) : (outer : List Int) → Lexer
  | [] => { s with indents := [] }
  | i :: rest =>
    if column < s.indent then
      closeBlocks { s.push .blockEnd with indent := i } column rest
    else { s with indents := i :: rest }

/-- Closes the block collections that are further right than a column, outside flow collections. -/
def closeTo (s : Lexer) (column : Int) : Lexer :=
  if s.inFlow then s else s.closeBlocks column s.indents

/-- Skips blanks, comments and line ends. Tabs separate tokens only where no key can start. -/
def skipToToken (s : Lexer) : (fuel : Nat) → Lexer
  | 0 => s
  | fuel + 1 =>
    let c := s.cursor
    let c := if c.column == 0 && c.isAt byteOrderMark then c.skip 1 else c
    let tabs := s.inFlow || !s.keyAllowed
    let c := c.skipWhile fun x => x == ' ' || (tabs && x == '\t')
    let c := if c.isAt '#' then c.skipWhile fun x => !isBreak x else c
    if c.test isBreak then
      let s := s.moveTo c.skipBreak
      skipToToken (if s.inFlow then s else s.allowKey true) fuel
    else s.moveTo c

/-- The characters of a tag's text besides those of names. -/
def isTagChar (verbatim : Bool) (c : Char) : Bool :=
  isNameChar c || ";/?:@&=+$.!~*'()".toList.contains c ||
    (verbatim && (c == ',' || c == '[' || c == ']'))

/-- The number of octets of a character of UTF-8 that starts with the given one. -/
def octetCount? (octet : Nat) : Option Nat :=
  if octet < 0x80 then some 1
  else if octet / 0x20 == 6 then some 2
  else if octet / 0x10 == 14 then some 3
  else if octet / 8 == 30 then some 4
  else none

/-- An octet written as a percent sign and two digits. -/
def escapedOctet? : List Char → Option Nat
  | '%' :: a :: b :: _ => Text.digits? 16 [a, b]
  | _ => none

/-- A number of further octets of one character. -/
def readOctets (c : Cursor) : Nat → Option (List UInt8 × Cursor)
  | 0 => some ([], c)
  | n + 1 =>
    match escapedOctet? c.rest with
    | none => none
    | some octet =>
      if octet / 0x40 == 2 then
        (readOctets (c.skip 3) n).map fun (rest, c) => (octet.toUInt8 :: rest, c)
      else none

/-- A character written by escaped octets. -/
def readEscapedChar (c : Cursor) : Option (List UInt8 × Cursor) := do
  let octet ← escapedOctet? c.rest
  let n ← octetCount? octet
  let (rest, c) ← readOctets (c.skip 3) (n - 1)
  return (octet.toUInt8 :: rest, c)

/-- The octets of a character. -/
def octets (c : Char) : List UInt8 :=
  (String.singleton c).toUTF8.toList

/-- The text of a tag. -/
def readTagText (verbatim : Bool) (done : List UInt8) (c : Cursor) :
    (fuel : Nat) → Option (List UInt8 × Cursor)
  | 0 => some (done, c)
  | fuel + 1 =>
    match c.next? with
    | none => some (done, c)
    | some x =>
      if x == '%' then
        match readEscapedChar c with
        | none => none
        | some (text, c) => readTagText verbatim (done ++ text) c fuel
      else if isTagChar verbatim x then
        readTagText verbatim (done ++ octets x) (c.skip 1) fuel
      else some (done, c)

/-- The part of a tag's text that counts: NUL ends it. -/
def beforeNul (text : List UInt8) : List UInt8 :=
  text.takeWhile (· != 0)

/-- The text of a tag, which is not empty, as far as it counts. -/
def readTagText? (verbatim : Bool) (c : Cursor) : Option (List UInt8 × Cursor) :=
  match readTagText verbatim [] c c.size with
  | some (text, c) => if text.isEmpty then none else some (beforeNul text, c)
  | none => none

/-- The characters of a handle: an exclamation mark, a name, and perhaps a second mark. -/
def readHandle (c : Cursor) : List Char × Cursor :=
  let (name, c) := (c.skip 1).takeWhile isNameChar
  if c.isAt '!' then ('!' :: name ++ ['!'], c.skip 1) else ('!' :: name, c)

/-- Whether the characters of a handle are closed by a second exclamation mark. -/
def isClosedHandle (handle : List Char) : Bool :=
  1 < handle.length && handle.getLast? == some '!'

/-- A tag without regard to what follows it. -/
def readTagBody (c : Cursor) : Option (RawTag × Cursor) :=
  if c.rest[1]? == some '<' then do
    let (suffix, c) ← readTagText? true (c.skip 2)
    if c.isAt '>' then return (⟨"", suffix⟩, c.skip 1) else none
  else
    let (handle, c) := readHandle c
    if isClosedHandle handle then
      (readTagText? false c).map fun (suffix, c) => (⟨String.ofList handle, suffix⟩, c)
    else do
      let (text, c) ← readTagText false ((handle.drop 1).flatMap octets) c c.size
      let suffix := beforeNul text
      if suffix.isEmpty then return (⟨"", octets '!'⟩, c) else return (⟨"!", suffix⟩, c)

/-- A tag, which ends before white space or, in a flow collection, before a comma. -/
def readTag (inFlow : Bool) (c : Cursor) : Option (RawTag × Cursor) :=
  (readTagBody c).filter fun (_, c) => (inFlow && c.isAt ',') || c.endsAfter 0

/-- The name of an anchor or an alias, after its indicator. -/
def readAnchorName (c : Cursor) : Option (String × Cursor) :=
  let (name, c) := (c.skip 1).takeWhile isNameChar
  let ends := c.endsAfter 0 || c.test fun x => "?:,]\x7d%@`".toList.contains x
  if name.isEmpty || !ends then none else some (String.ofList name, c)

/-- A number of a version. -/
def readVersionNumber (c : Cursor) : Option (Nat × Cursor) :=
  let (digits, c) := c.takeWhile Char.isDigit
  if digits.isEmpty || 9 < digits.length then none
  else some (digits.foldl (fun n d => n * 10 + (d.toNat - 48)) 0, c)

/-- The directive that states the version. -/
def readVersion (c : Cursor) : Option (Token × Cursor) := do
  let (major, c) ← readVersionNumber (c.skipWhile isBlank)
  if c.isAt '.' then
    let (minor, c) ← readVersionNumber (c.skip 1)
    return (.versionDirective major minor, c)
  else none

/-- The directive that declares a handle. -/
def readTagDirective (c : Cursor) : Option (Token × Cursor) :=
  let c := c.skipWhile isBlank
  if c.isAt '!' then
    let (handle, c) := readHandle c
    if (isClosedHandle handle || handle == ['!']) && c.test isBlank then do
      let (expansion, c) ← readTagText? true (c.skipWhile isBlank)
      if c.endsAfter 0 then return (.tagDirective (String.ofList handle) expansion, c) else none
    else none
  else none

/-- A directive with the rest of its line. -/
def readDirective (c : Cursor) : Option (Token × Cursor) := do
  let (name, c) := (c.skip 1).takeWhile isNameChar
  if !c.endsAfter 0 then none
  else
    let (token, c) ← if name == ['Y', 'A', 'M', 'L'] then readVersion c
      else if name == ['T', 'A', 'G'] then readTagDirective c
      else none
    return (token, ← c.endOfLine?)

/-- A directive. -/
def directive (s : Lexer) : Option Lexer := do
  let s ← (s.closeTo (-1)).dropKey?
  let (token, c) ← readDirective s.cursor
  return ((s.allowKey false).push token).moveTo c

/-- The marker at the start or the end of a document. -/
def documentMarker (s : Lexer) (t : Token) : Option Lexer := do
  let s ← (s.closeTo (-1)).dropKey?
  return ((s.allowKey false).push t).moveTo (s.cursor.skip 3)

/-- The start of a flow collection. -/
def flowStart (s : Lexer) (t : Token) : Option Lexer := do
  let s ← s.saveKey?
  return ({ s.allowKey true with keys := none :: s.keys }.push t).moveTo (s.cursor.skip 1)

/-- The end of a flow collection. -/
def flowEnd (s : Lexer) (t : Token) : Option Lexer := do
  let s ← s.dropKey?
  let keys := if s.inFlow then s.keys.drop 1 else s.keys
  return ({ s.allowKey false with keys }.push t).moveTo (s.cursor.skip 1)

/-- The comma between the items of a flow collection. -/
def flowEntry (s : Lexer) : Option Lexer := do
  let s ← s.dropKey?
  return ((s.allowKey true).push .flowEntry).moveTo (s.cursor.skip 1)

/-- The dash before an item of a block sequence. -/
def blockEntry (s : Lexer) : Option Lexer :=
  if !s.inFlow && !s.keyAllowed then none
  else do
    let s ← (s.openBlock s.cursor.column s.count .blockSequenceStart).dropKey?
    return ((s.allowKey true).push .blockEntry).moveTo (s.cursor.skip 1)

/-- The question mark before a key. -/
def explicitKey (s : Lexer) : Option Lexer :=
  if !s.inFlow && !s.keyAllowed then none
  else do
    let s ← (s.openBlock s.cursor.column s.count .blockMappingStart).dropKey?
    return ((s.allowKey (!s.inFlow)).push .key).moveTo (s.cursor.skip 1)

/-- The colon before a value. What stands at the remembered place becomes a key. -/
def value (s : Lexer) : Option Lexer :=
  match s.key? with
  | some key =>
    let s := (s.insertAt key.tokens .key).openBlock key.column key.tokens .blockMappingStart
    some ((((s.setKey none).allowKey false).push .value).moveTo (s.cursor.skip 1))
  | none =>
    if !s.inFlow && !s.keyAllowed then none
    else
      let s := s.openBlock s.cursor.column s.count .blockMappingStart
      some (((s.allowKey (!s.inFlow)).push .value).moveTo (s.cursor.skip 1))

/-- An anchor or an alias. -/
def anchor (s : Lexer) (t : String → Token) : Option Lexer := do
  let s ← s.saveKey?
  let (name, c) ← readAnchorName s.cursor
  return ((s.allowKey false).push (t name)).moveTo c

/-- A tag. -/
def tag (s : Lexer) : Option Lexer := do
  let s ← s.saveKey?
  let (t, c) ← readTag s.inFlow s.cursor
  return ((s.allowKey false).push (.tag t)).moveTo c

/-- A block scalar. -/
def block (s : Lexer) (folded : Bool) : Option Lexer := do
  let s ← s.dropKey?
  let read ← readBlock folded s.indent s.cursor
  return ((s.allowKey true).push (.scalar false (String.ofList read.text))).moveTo read.cursor

/-- A quoted scalar. -/
def quoted (s : Lexer) (single : Bool) : Option Lexer := do
  let s ← s.saveKey?
  let read ← readQuoted single s.cursor
  return ((s.allowKey false).push (.scalar false (String.ofList read.text))).moveTo read.cursor

/-- A plain scalar. After a line end that follows it a key can start. -/
def plain (s : Lexer) : Option Lexer := do
  let s ← s.saveKey?
  let read ← readPlain s.inFlow (s.indent + 1) s.cursor
  return ((s.allowKey read.broken).push (.scalar true (String.ofList read.text))).moveTo read.cursor

/-- The characters that start no plain scalar. -/
def isIndicator (c : Char) : Bool :=
  "-?:,[]\x7b\x7d#&*!|>'\"%@`".toList.contains c

/-- Whether a plain scalar can start at the next character. -/
def startsPlain (s : Lexer) (x : Char) : Bool :=
  !(isIndicator x || isBlank x) || (x == '-' && !(s.cursor.rest[1]?).any isBlank) ||
    (!s.inFlow && (x == '?' || x == ':') && !s.cursor.endsAfter 1)

/-- The next token, which starts with the given character. -/
def token (s : Lexer) (x : Char) : Option Lexer :=
  let c := s.cursor
  let apart := s.inFlow || c.endsAfter 1
  if c.column == 0 && x == '%' then s.directive
  else if c.startsMarker '-' then s.documentMarker .documentStart
  else if c.startsMarker '.' then s.documentMarker .documentEnd
  else if x == '[' then s.flowStart .flowSequenceStart
  else if x == '\x7b' then s.flowStart .flowMappingStart
  else if x == ']' then s.flowEnd .flowSequenceEnd
  else if x == '\x7d' then s.flowEnd .flowMappingEnd
  else if x == ',' then s.flowEntry
  else if x == '-' && c.endsAfter 1 then s.blockEntry
  else if x == '?' && apart then s.explicitKey
  else if x == ':' && apart then s.value
  else if x == '*' then s.anchor .alias
  else if x == '&' then s.anchor .anchor
  else if x == '!' then s.tag
  else if x == '|' && !s.inFlow then s.block false
  else if x == '>' && !s.inFlow then s.block true
  else if x == '\'' then s.quoted true
  else if x == '"' then s.quoted false
  else if s.startsPlain x then s.plain
  else none

/-- All tokens from a state on. -/
def run (s : Lexer) : (fuel : Nat) → Option (List Token)
  | 0 => none
  | fuel + 1 => do
    let s ← (s.skipToToken (s.cursor.size + 1)).dropStaleKeys?
    let s := s.closeTo s.cursor.column
    match s.cursor.next? with
    | none => (← (s.closeTo (-1)).dropKey?).tokens.reverse
    | some x => (← s.token x).run fuel

end Lexer

/-- The tokens of a YAML text, unless it is not well-formed. -/
def Token.scan (cs : List Char) : Option (List Token) :=
  if cs.all isAllowed then (Lexer.ofText cs).run (cs.length + 1) else none

end CloudPlan.Yaml
