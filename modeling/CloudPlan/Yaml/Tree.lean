import CloudPlan.Yaml.Token

/-!
# YAML trees

A tree is what the tokens of a document stand for. Aliases are kept: they carry the number of an
anchor. A number is the count of names that have been declared before, so a name that is declared
again may share its new number with a later name; `Tree.anchored?` finds the tree that starts last
of those with a number.
-/

set_option autoImplicit false

namespace CloudPlan.Yaml

/-- What a tag says about the value that bears it. A tag that starts with an exclamation mark names
a variant, unless what follows is no text. -/
inductive Tag where
  | truth
  | int
  | real
  | null
  | variant (name : String)
  | unnamed
  | other
deriving DecidableEq, Repr

/-- The octets of a tag that consists of an exclamation mark alone. -/
def bareTag : List UInt8 := [33]

/-- The meaning of a tag, given its octets in full. -/
def Tag.ofOctets (octets : List UInt8) : Tag :=
  match String.fromUTF8? ⟨octets.toArray⟩ with
  | none => if octets.head? == bareTag.head? then .unnamed else .other
  | some text =>
    if text == "tag:yaml.org,2002:bool" then .truth
    else if text == "tag:yaml.org,2002:int" then .int
    else if text == "tag:yaml.org,2002:float" then .real
    else if text == "tag:yaml.org,2002:null" then .null
    else
      match text.toList with
      | ['!'] => .variant "!"
      | '!' :: name => .variant (String.ofList name)
      | _ => .other

/-- What may stand before a value: the number of its anchor, and its tag. -/
structure Marks where
  anchor : Option Nat
  tag : Option Tag
deriving DecidableEq, Repr

/-- No anchor and no tag. -/
def Marks.none : Marks := ⟨.none, .none⟩

/-- A value of a YAML document. -/
inductive Tree where
  | alias (target : Nat)
  | scalar (marks : Marks) (plain : Bool) (text : String)
  | sequence (marks : Marks) (items : List Tree)
  | mapping (marks : Marks) (entries : List (Tree × Tree))
deriving Repr, Inhabited

namespace Tree

/-- The value that stands where the text has none. -/
def empty (marks : Marks) : Tree := .scalar marks true ""

/-- What stands before a value. -/
def marks : Tree → Marks
  | .alias _ => .none
  | .scalar m _ _ => m
  | .sequence m _ => m
  | .mapping m _ => m

/-- Whether the anchor of a value has the given number. -/
def hasAnchor (target : Nat) (tree : Tree) : Bool :=
  tree.marks.anchor == some target

mutual

/-- The last value, in the order of the text, whose anchor has the given number. -/
def anchored? (target : Nat) (tree : Tree) : Option Tree :=
  let here := if tree.hasAnchor target then some tree else none
  match tree with
  | .alias _ => none
  | .scalar _ _ _ => here
  | .sequence _ items => (itemAnchored? target items).or here
  | .mapping _ entries => (entryAnchored? target entries).or here

/-- The last such value among the items of a sequence. -/
def itemAnchored? (target : Nat) : List Tree → Option Tree
  | [] => none
  | item :: rest => (itemAnchored? target rest).or (anchored? target item)

/-- The last such value among the entries of a mapping. -/
def entryAnchored? (target : Nat) : List (Tree × Tree) → Option Tree
  | [] => none
  | (key, value) :: rest =>
    ((entryAnchored? target rest).or (anchored? target value)).or (anchored? target key)

end

mutual

/-- The number of starts and ends of values: one for a scalar or an alias, two for a collection. -/
def eventCount : Tree → Nat
  | .alias _ => 1
  | .scalar _ _ _ => 1
  | .sequence _ items => itemEvents items + 2
  | .mapping _ entries => entryEvents entries + 2

/-- The number of starts and ends in the items of a sequence. -/
def itemEvents : List Tree → Nat
  | [] => 0
  | item :: rest => eventCount item + itemEvents rest

/-- The number of starts and ends in the entries of a mapping. -/
def entryEvents : List (Tree × Tree) → Nat
  | [] => 0
  | (key, value) :: rest => eventCount key + eventCount value + entryEvents rest

end

end Tree

/-- What is left to read, and what has been declared so far. -/
structure TreeReader where
  tokens : List Token
  handles : List (String × List UInt8)
  anchors : List (String × Nat)

/-- A reader of a part of a document. -/
abbrev Reading (α : Type) := StateT TreeReader Option α

namespace Reading

/-- A text that is not well-formed. -/
def refuse {α : Type} : Reading α := fun _ => none

/-- The next token. -/
def next? : Reading (Option Token) := do
  return (← get).tokens.head?

/-- Moves past the next token. -/
def skip : Reading Unit :=
  modify fun s => { s with tokens := s.tokens.drop 1 }

/-- Whether the next token is one of the given ones. -/
def isAt (tokens : List Token) : Reading Bool := do
  return (← next?).any tokens.contains

/-- Moves past the next token if it is the given one, and says whether it was. -/
def accept (t : Token) : Reading Bool := do
  if ← isAt [t] then
    skip
    return true
  else return false

/-- Moves past the next token, which has to be the given one. -/
def expect (t : Token) : Reading Unit := do
  if ← accept t then return () else refuse

/-- The number that an anchor's name gets where it is declared. -/
def declare (name : String) : Reading Nat := do
  let s ← get
  let number := s.anchors.length
  let others := s.anchors.filter fun a => a.1 != name
  set { s with anchors := (name, number) :: others }
  return number

/-- The number of a declared name. -/
def numberOf (name : String) : Reading Nat := do
  match (← get).anchors.lookup name with
  | some number => return number
  | none => refuse

/-- The octets of a tag in full. -/
def expand (tag : RawTag) : Reading (List UInt8) := do
  if tag.handle == "" then return tag.suffix
  else
    match (← get).handles.lookup tag.handle with
    | some expansion => return expansion ++ tag.suffix
    | none => refuse

/-- An anchor and a tag, in either order. -/
def properties : Reading (Option String × Option RawTag) := do
  match ← next? with
  | some (.anchor name) =>
    skip
    match ← next? with
    | some (.tag tag) =>
      skip
      return (some name, some tag)
    | _ => return (some name, none)
  | some (.tag tag) =>
    skip
    match ← next? with
    | some (.anchor name) =>
      skip
      return (some name, some tag)
    | _ => return (none, some tag)
  | _ => return (none, none)

/-- A value that is left out, which needs an anchor or a tag. -/
def omitted (name : Option String) (tag : Option RawTag) (marks : Reading Marks) :
    Reading Tree := do
  if name.isSome || tag.isSome then return .empty (← marks) else refuse

/-- The tokens before which a value in a block mapping may be left out. -/
def afterBlockKey : List Token := [.key, .value, .blockEnd]

mutual

/-- A value. Block collections are allowed where `inBlock` holds, and a sequence without a start of
its own where `indentless` does. -/
def tree (inBlock indentless : Bool) : (fuel : Nat) → Reading Tree
  | 0 => refuse
  | fuel + 1 => do
    if let some (.alias name) ← next? then
      skip
      return .alias (← numberOf name)
    let (name, rawTag) ← properties
    let octets ← rawTag.mapM expand
    let anchor : Reading (Option Nat) := name.mapM declare
    let marks : Reading Marks := do return ⟨← anchor, octets.map Tag.ofOctets⟩
    match ← next? with
    | some (.scalar plain text) =>
      skip
      return .scalar (← marks) plain text
    | some .flowSequenceStart =>
      skip
      let marks ← marks
      return .sequence marks (← flowItems true fuel)
    | some .flowMappingStart =>
      skip
      let marks ← marks
      return .mapping marks (← flowEntries true fuel)
    | some .blockSequenceStart =>
      if inBlock then
        skip
        let marks ← marks
        return .sequence marks (← blockItems fuel)
      else omitted name rawTag marks
    | some .blockMappingStart =>
      if inBlock then
        skip
        let marks ← marks
        return .mapping marks (← blockEntries fuel)
      else omitted name rawTag marks
    | some .blockEntry =>
      if indentless then
        let marks ← marks
        return .sequence marks (← indentlessItems fuel)
      else omitted name rawTag marks
    | _ => omitted name rawTag marks

/-- A value, unless the next token is one of those before which it may be left out. -/
def treeUnless (enders : List Token) (inBlock indentless : Bool) : (fuel : Nat) → Reading Tree
  | 0 => refuse
  | fuel + 1 => do
    if ← isAt enders then return .empty .none else tree inBlock indentless fuel

/-- The items of a block sequence after its start. -/
def blockItems : (fuel : Nat) → Reading (List Tree)
  | 0 => refuse
  | fuel + 1 => do
    if ← accept .blockEntry then
      let item ← treeUnless [.blockEntry, .blockEnd] true false fuel
      return item :: (← blockItems fuel)
    else
      expect .blockEnd
      return []

/-- The items of a sequence that is indented no further than the key before it. -/
def indentlessItems : (fuel : Nat) → Reading (List Tree)
  | 0 => refuse
  | fuel + 1 => do
    if ← accept .blockEntry then
      let item ← treeUnless [.blockEntry, .key, .value, .blockEnd] true false fuel
      return item :: (← indentlessItems fuel)
    else return []

/-- The entries of a block mapping after its start. -/
def blockEntries : (fuel : Nat) → Reading (List (Tree × Tree))
  | 0 => refuse
  | fuel + 1 => do
    if ← accept .key then
      let key ← treeUnless afterBlockKey true true fuel
      let value ← if ← accept .value then treeUnless afterBlockKey true true fuel
        else pure (.empty .none)
      return (key, value) :: (← blockEntries fuel)
    else
      expect .blockEnd
      return []

/-- The items of a flow sequence, of which the first has no comma before it. An item may be a
mapping of a single entry without braces. -/
def flowItems (first : Bool) : (fuel : Nat) → Reading (List Tree)
  | 0 => refuse
  | fuel + 1 => do
    if ← accept .flowSequenceEnd then return []
    unless first do expect .flowEntry
    if ← accept .flowSequenceEnd then return []
    let item ← if ← accept .key then singleEntry fuel else tree false false fuel
    return item :: (← flowItems false fuel)

/-- The single entry of a mapping without braces. Where its key is left out, the token that shows so
is skipped. -/
def singleEntry : (fuel : Nat) → Reading Tree
  | 0 => refuse
  | fuel + 1 => do
    let key ← if ← isAt [.value, .flowEntry, .flowSequenceEnd] then
        skip
        pure (.empty .none)
      else tree false false fuel
    let value ← if ← accept .value then
        treeUnless [.flowEntry, .flowSequenceEnd] false false fuel
      else pure (.empty .none)
    return .mapping .none [(key, value)]

/-- The entries of a flow mapping, of which the first has no comma before it. -/
def flowEntries (first : Bool) : (fuel : Nat) → Reading (List (Tree × Tree))
  | 0 => refuse
  | fuel + 1 => do
    if ← accept .flowMappingEnd then return []
    unless first do expect .flowEntry
    if ← accept .flowMappingEnd then return []
    let entry ← if ← accept .key then
        let key ← treeUnless [.value, .flowEntry, .flowMappingEnd] false false fuel
        let value ← if ← accept .value then
            treeUnless [.flowEntry, .flowMappingEnd] false false fuel
          else pure (.empty .none)
        pure (key, value)
      else
        let key ← tree false false fuel
        pure (key, .empty .none)
    return entry :: (← flowEntries false fuel)

end

/-- The directives before a document, each handle and the version at most once. -/
def directives (version : Bool) (handles : List (String × List UInt8)) :
    (fuel : Nat) → Reading (List (String × List UInt8))
  | 0 => refuse
  | fuel + 1 => do
    match ← next? with
    | some (.versionDirective major minor) =>
      if version || major != 1 || !(minor == 1 || minor == 2) then refuse
      else
        skip
        directives true handles fuel
    | some (.tagDirective handle expansion) =>
      if (handles.lookup handle).isSome then refuse
      else
        skip
        directives version ((handle, expansion) :: handles) fuel
    | _ => return handles

/-- The handles that need no directive. -/
def standardHandles : List (String × List UInt8) :=
  [("!", bareTag), ("!!", "tag:yaml.org,2002:".toUTF8.toList)]

/-- Whether a directive comes next. -/
def atDirective : Reading Bool := do
  match ← next? with
  | some (.versionDirective _ _) | some (.tagDirective _ _) => return true
  | _ => return false

/-- Whether a document ends here: at a directive, at a marker, or because nothing is left. -/
def atBoundary : Reading Bool := do
  if ← atDirective then return true
  else if (← next?).isNone then return true
  else isAt [.documentStart, .documentEnd]

/-- Moves past the markers at the end of a document, after which nothing may follow. -/
def finish : Reading Unit := do
  let rest := (← get).tokens.dropWhile (· == .documentEnd)
  if rest.isEmpty then return () else refuse

/-- A text that holds one document. After directives its start has to be marked. -/
def document (fuel : Nat) : Reading Tree := do
  let directed ← atDirective
  let handles ← directives false [] fuel
  modify fun s => { s with handles := handles ++ standardHandles }
  let marked ← accept .documentStart
  if directed && !marked then refuse
  let content ← if marked && (← atBoundary) then pure (.empty .none) else tree true false fuel
  finish
  return content

end Reading

/-- The value of the only document in a sequence of tokens, unless they are not well-formed. -/
def Tree.ofTokens? (tokens : List Token) : Option Tree :=
  ((Reading.document (4 * tokens.length + 8)).run ⟨tokens, [], []⟩).map Prod.fst

end CloudPlan.Yaml
