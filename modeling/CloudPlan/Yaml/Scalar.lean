import CloudPlan.Text.Hex
import CloudPlan.Yaml.Cursor

/-!
# The text of scalars

Scalars are plain, quoted or blocks. In plain and quoted ones a single line end becomes a blank, and
of several the first is dropped. Blocks keep or fold their lines as their header says.
-/

set_option autoImplicit false

namespace CloudPlan.Yaml

/-- White space between two parts of a scalar: the blanks of one line, or the first line end and the
further ones. -/
structure Gap where
  blanks : List Char
  firstBreak : List Char
  moreBreaks : List Char
  broken : Bool

namespace Gap

/-- No white space. -/
def none : Gap := ⟨[], [], [], false⟩

/-- A line end that leaves nothing behind. -/
def escapedBreak : Gap := ⟨[], [], [], true⟩

/-- What white space stands for in the text of a scalar. -/
def text (g : Gap) : List Char :=
  if g.broken then
    if g.firstBreak == ['\n'] then
      if g.moreBreaks.isEmpty then [' '] else g.moreBreaks
    else g.firstBreak ++ g.moreBreaks
  else g.blanks

/-- Adds a blank, which counts only on the first line. -/
def addBlank (g : Gap) (x : Char) : Gap :=
  if g.broken then g else { g with blanks := g.blanks ++ [x] }

/-- Adds a line end. -/
def addBreak (g : Gap) (text : List Char) : Gap :=
  if g.broken then { g with moreBreaks := g.moreBreaks ++ text }
  else ⟨[], text, g.moreBreaks, true⟩

end Gap

/-- Reads white space into a gap. Where `indent` is given, a tab before that column is refused on
all lines but the first. -/
def readGap (indent : Option Int) (g : Gap) (c : Cursor) : (fuel : Nat) → Option (Gap × Cursor)
  | 0 => some (g, c)
  | fuel + 1 =>
    match c.rest with
    | [] => some (g, c)
    | x :: _ =>
      if isBlank x then
        if g.broken && x == '\t' && indent.any fun i => decide ((c.column : Int) < i) then none
        else readGap indent (g.addBlank x) (c.skip 1) fuel
      else if isBreak x then
        let (text, c) := c.readBreak
        readGap indent (g.addBreak text) c fuel
      else some (g, c)

/-- A scalar's text and the cursor after it. -/
structure ReadText where
  text : List Char
  cursor : Cursor

/-- The character that an escape of one letter stands for. -/
def simpleEscape? (c : Char) : Option Char :=
  match c with
  | '0' => some '\x00'
  | 'a' => some '\x07'
  | 'b' => some '\x08'
  | 't' => some '\t'
  | '\t' => some '\t'
  | 'n' => some '\n'
  | 'v' => some '\x0b'
  | 'f' => some '\x0c'
  | 'r' => some '\r'
  | 'e' => some '\x1b'
  | ' ' => some ' '
  | '"' => some '"'
  | '/' => some '/'
  | '\\' => some '\\'
  | 'N' => some (Char.ofNat 0x85)
  | '_' => some (Char.ofNat 0xA0)
  | 'L' => some (Char.ofNat 0x2028)
  | 'P' => some (Char.ofNat 0x2029)
  | _ => none

/-- The number of digits after the letter of a numeric escape. -/
def numericEscape? (c : Char) : Option Nat :=
  match c with
  | 'x' => some 2
  | 'u' => some 4
  | 'U' => some 8
  | _ => none

/-- The character of an escape after its backslash, and the number of characters that it takes. -/
def readEscape? (cs : List Char) : Option (Char × Nat) :=
  match cs with
  | [] => none
  | c :: rest =>
    match simpleEscape? c, numericEscape? c with
    | some e, _ => some (e, 1)
    | none, none => none
    | none, some width =>
      if rest.length < width then none
      else
        match Text.digits? 16 (rest.take width) with
        | none => none
        | some n => if n.isValidChar then some (Char.ofNat n, width + 1) else none

/-- How a stretch of a quoted scalar without white space ends. -/
structure QuotedChunk where
  text : List Char
  cursor : Cursor
  escapedBreak : Bool

/-- A stretch of a quoted scalar without white space; `done` holds it so far, last first. -/
def readQuotedChunk (single : Bool) (done : List Char) (c : Cursor) :
    (fuel : Nat) → Option QuotedChunk
  | 0 => none
  | fuel + 1 =>
    match c.rest with
    | [] => some ⟨done.reverse, c, false⟩
    | x :: rest =>
      if isSpace x then some ⟨done.reverse, c, false⟩
      else if single then
        if x == '\'' then
          if rest.head? == some '\'' then readQuotedChunk single ('\'' :: done) (c.skip 2) fuel
          else some ⟨done.reverse, c, false⟩
        else readQuotedChunk single (x :: done) (c.skip 1) fuel
      else if x == '"' then some ⟨done.reverse, c, false⟩
      else if x == '\\' then
        if rest.head?.any isBreak then some ⟨done.reverse, (c.skip 1).skipBreak, true⟩
        else
          match readEscape? rest with
          | none => none
          | some (e, width) => readQuotedChunk single (e :: done) (c.skip (width + 1)) fuel
      else readQuotedChunk single (x :: done) (c.skip 1) fuel

/-- The rest of a quoted scalar; `done` holds the text so far. -/
def readQuotedRest (single : Bool) (done : List Char) (c : Cursor) : (fuel : Nat) → Option ReadText
  | 0 => none
  | fuel + 1 =>
    if c.atDocumentMarker || c.atEnd then none
    else
      match readQuotedChunk single [] c (c.size + 1) with
      | none => none
      | some chunk =>
        let done := done ++ chunk.text
        let c := chunk.cursor
        if c.isAt (if single then '\'' else '"') then some ⟨done, c.skip 1⟩
        else
          let gap := if chunk.escapedBreak then Gap.escapedBreak else Gap.none
          match readGap none gap c c.size with
          | none => none
          | some (gap, c) => readQuotedRest single (done ++ gap.text) c fuel

/-- A quoted scalar, from its opening quote on. -/
def readQuoted (single : Bool) (c : Cursor) : Option ReadText :=
  readQuotedRest single [] (c.skip 1) (c.size + 1)

/-- Whether a plain scalar ends before the next character although it is no white space. -/
def plainEnds (inFlow : Bool) (c : Cursor) : Bool :=
  (c.isAt ':' && c.endsAfter 1) || (inFlow && c.test isFlowIndicator)

/-- Whether a colon stands where a flow collection does not allow it. -/
def plainRefused (inFlow : Bool) (c : Cursor) : Bool :=
  inFlow && c.isAt ':' && (c.rest[1]?).any fun x => isFlowIndicator x || x == '?'

/-- A stretch of a plain scalar without white space; `done` holds it so far, last first. -/
def readPlainChunk (inFlow : Bool) (done : List Char) (c : Cursor) :
    (fuel : Nat) → Option ReadText
  | 0 => some ⟨done.reverse, c⟩
  | fuel + 1 =>
    match c.rest with
    | [] => some ⟨done.reverse, c⟩
    | x :: _ =>
      if isSpace x then some ⟨done.reverse, c⟩
      else if plainRefused inFlow c then none
      else if plainEnds inFlow c then some ⟨done.reverse, c⟩
      else readPlainChunk inFlow (x :: done) (c.skip 1) fuel

/-- A plain scalar's text, the cursor after it and the white space that follows it, and whether a
line has ended since its last character. -/
structure ReadPlain where
  text : List Char
  cursor : Cursor
  broken : Bool

/-- The rest of a plain scalar; `done` holds the text so far and `gap` the white space after it. -/
def readPlainRest (inFlow : Bool) (indent : Int) (done : List Char) (gap : Gap) (c : Cursor) :
    (fuel : Nat) → Option ReadPlain
  | 0 => none
  | fuel + 1 =>
    if c.atDocumentMarker || c.isAt '#' then some ⟨done, c, gap.broken⟩
    else
      match readPlainChunk inFlow [] c c.size with
      | none => none
      | some ⟨chunk, c⟩ =>
        let (done, gap) := if chunk.isEmpty then (done, gap) else (done ++ gap.text ++ chunk, .none)
        if c.test isSpace then
          match readGap (some indent) gap c c.size with
          | none => none
          | some (gap, c) =>
            if !inFlow && decide ((c.column : Int) < indent) then some ⟨done, c, gap.broken⟩
            else readPlainRest inFlow indent done gap c fuel
        else some ⟨done, c, gap.broken⟩

/-- A plain scalar whose further lines are indented by at least `indent`. -/
def readPlain (inFlow : Bool) (indent : Int) (c : Cursor) : Option ReadPlain :=
  readPlainRest inFlow indent [] .none c (c.size + 1)

/-- What becomes of the line ends at the end of a block. -/
inductive Chomping where
  | strip
  | clip
  | keep
deriving DecidableEq, Repr

/-- The header of a block: chomping, and the indentation if it is given. -/
structure BlockHeader where
  chomping : Chomping
  indentation : Option Nat

/-- The chomping that a character stands for. -/
def chomping? (c : Char) : Option Chomping :=
  if c == '-' then some .strip else if c == '+' then some .keep else none

/-- The indicators of a block after its first one; `none` for an indentation of zero. -/
def readBlockHeader (c : Cursor) : Option (BlockHeader × Cursor) :=
  let readIndentation (c : Cursor) : Option (Option Nat × Cursor) :=
    match c.next? with
    | some x =>
      if x.isDigit then if x == '0' then none else some (some (x.toNat - 48), c.skip 1)
      else some (none, c)
    | none => some (none, c)
  match c.next?.bind chomping? with
  | some chomping => (readIndentation (c.skip 1)).map fun (i, c) => (⟨chomping, i⟩, c)
  | none => do
    let (i, c) ← readIndentation c
    match i, c.next?.bind chomping? with
    | some _, some chomping => return (⟨chomping, i⟩, c.skip 1)
    | _, _ => return (⟨.clip, i⟩, c)

/-- The line ends before a line of a block, and the greatest column met on the way. The indentation
is unknown while `indent` is zero. -/
def readBlockBreaks (indent : Nat) (greatest : Nat) (breaks : List Char) (c : Cursor) :
    (fuel : Nat) → Option (List Char × Nat × Cursor)
  | 0 => none
  | fuel + 1 =>
    let blanks := (c.rest.takeWhile (· == ' ')).length
    let c := c.skip (if indent = 0 then blanks else min blanks (indent - c.column))
    let greatest := max greatest c.column
    if (indent = 0 || c.column < indent) && c.isAt '\t' then none
    else if c.test isBreak then
      let (text, c) := c.readBreak
      readBlockBreaks indent greatest (breaks ++ text) c fuel
    else some (breaks, greatest, c)

/-- What has been read of a block. -/
structure BlockState where
  text : List Char
  lastBreak : List Char
  moreBreaks : List Char
  lastBlank : Bool

/-- The text with the next line added. A folded block joins lines that do not start with a blank. -/
def BlockState.addLine (s : BlockState) (folded : Bool) (line : List Char) : List Char :=
  let startsBlank := line.head?.any isBlank
  let joint :=
    if folded && s.lastBreak == ['\n'] && !s.lastBlank && !startsBlank then
      if s.moreBreaks.isEmpty then [' '] else []
    else s.lastBreak
  s.text ++ joint ++ s.moreBreaks ++ line

/-- The lines of a block from the next one on. -/
def readBlockLines (folded : Bool) (indent : Nat) (s : BlockState) (c : Cursor) :
    (fuel : Nat) → Option (BlockState × Cursor)
  | 0 => none
  | fuel + 1 =>
    if c.column == indent && !c.atEnd then
      let (line, after) := c.takeWhile fun x => !isBreak x
      let (lastBreak, after) := after.readBreak
      match readBlockBreaks indent 0 [] after (after.size + 1) with
      | none => none
      | some (moreBreaks, _, after) =>
        readBlockLines folded indent
          ⟨s.addLine folded line, lastBreak, moreBreaks, line.head?.any isBlank⟩ after fuel
    else some (s, c)

/-- A block, from its indicator on, inside a collection indented by `parent`. -/
def readBlock (folded : Bool) (parent : Int) (c : Cursor) : Option ReadText := do
  let (header, c) ← readBlockHeader (c.skip 1)
  let c ← c.endOfLine?
  let given := header.indentation.elim 0 fun i => (max parent 0).toNat + i
  let (breaks, greatest, c) ← readBlockBreaks given 0 [] c (c.size + 1)
  let indent := if given = 0 then max (max greatest (parent + 1).toNat) 1 else given
  let (s, c) ← readBlockLines folded indent ⟨[], [], breaks, false⟩ c (c.size + 1)
  let tail := match header.chomping with
    | .strip => []
    | .clip => s.lastBreak
    | .keep => s.lastBreak ++ s.moreBreaks
  return ⟨s.text ++ tail, c⟩

end CloudPlan.Yaml
