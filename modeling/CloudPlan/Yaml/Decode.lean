import CloudPlan.Yaml.Resolve

/-!
# Decoding YAML trees

Aliases are followed where a value is needed, and only so many times in one document that the work
stays in proportion to its size. An empty plain scalar stands for a collection without items. What
a record does not know is not looked at.
-/

set_option autoImplicit false

namespace CloudPlan.Yaml

/-- A computation over a document, given by its whole tree, that may follow some more aliases. -/
abbrev Decoding (α : Type) := ReaderT Tree (StateT Nat Option) α

namespace Decoding

variable {α : Type}

/-- A value that does not fit. -/
def refuse : Decoding α := fun _ _ => none

/-- A value that may not fit. -/
def ofOption : Option α → Decoding α
  | some a => pure a
  | none => refuse

/-- The value that a tree stands for, which is not an alias itself. -/
def follow (tree : Tree) : Decoding Tree := do
  match tree with
  | .alias target =>
    let left ← get
    if left = 0 then refuse
    else
      set (left - 1)
      ofOption ((← read).anchored? target)
  | _ => return tree

/-- A text, whatever its scalar looks like. -/
def text (tree : Tree) : Decoding String := do
  match ← follow tree with
  | .scalar _ _ text => return text
  | _ => refuse

/-- A value that may be null. -/
def nullable (decode : Tree → Decoding α) (tree : Tree) : Decoding (Option α) := do
  let tree ← follow tree
  match tree with
  | .scalar ⟨_, none⟩ true text =>
    if text == "" || isNullWord text then return none else some <$> decode tree
  | .scalar ⟨_, some .null⟩ true text => if isNullWord text then return none else refuse
  | _ => some <$> decode tree

/-- The items of a sequence. -/
def sequence (decode : Tree → Decoding α) (tree : Tree) : Decoding (List α) := do
  match ← follow tree with
  | .sequence _ items => items.mapM decode
  | .scalar _ true "" => return []
  | _ => refuse

/-- The entries of a mapping, with the texts of their keys. -/
def entries (tree : Tree) : Decoding (List (String × Tree)) := do
  match ← follow tree with
  | .mapping _ es =>
    es.mapM fun (entry : Tree × Tree) => do return (← text entry.1, entry.2)
  | .scalar _ true "" => return []
  | _ => refuse

/-- The decoded entries of a mapping; of several with one key the last counts, at the place of the
first. -/
def keyed (decode : Tree → Decoding α) (tree : Tree) : Decoding (Entries α) := do
  let es ← entries tree
  let decoded ← es.mapM fun (entry : String × Tree) => do return (entry.1, ← decode entry.2)
  return Entries.ofList decoded

/-- One of several names, as a text or as a tag of an empty value. -/
def choice (known : Entries α) (tree : Tree) : Decoding α := do
  match ← follow tree with
  | .scalar ⟨_, some (.variant name)⟩ plain text =>
    if plain && (text == "" || isNullWord text) then ofOption (Entries.get? known name) else refuse
  | .scalar _ _ text => ofOption (Entries.get? known text)
  | _ => refuse

/-- One level of a JSON value; `deeper` reads what is inside it, unless that is too deep. -/
def jsonLevel (deeper : Option (Tree → Decoding Json)) (tree : Tree) : Decoding Json := do
  match ← follow tree, deeper with
  | .scalar marks plain text, _ => ofOption (scalarValue? marks.tag plain text)
  | .sequence ⟨_, some (.variant _)⟩ _, _ => refuse
  | .mapping ⟨_, some (.variant _)⟩ _, _ => refuse
  | .sequence _ items, some deeper => return .array (← items.mapM deeper)
  | .mapping m es, some deeper =>
    return .object (Entries.sortedOfList (← keyed deeper (.mapping m es)))
  | _, _ => refuse

/-- A JSON value whose arrays and objects nest at most `depth` deep. -/
def json : (depth : Nat) → Tree → Decoding Json
  | 0 => jsonLevel none
  | depth + 1 => jsonLevel (some (json depth))

/-- The fields of a record, each at most once. -/
def fields (names : List String) (tree : Tree) : Decoding (Entries Tree) := do
  let known := (← entries tree).filter fun e => names.contains e.1
  if (known.map Prod.fst).Nodup then return known else refuse

/-- A field that has to be there. -/
def required (es : Entries Tree) (name : String) (decode : Tree → Decoding α) : Decoding α :=
  match Entries.get? es name with
  | some tree => decode tree
  | none => refuse

/-- A field with a default. -/
def withDefault (es : Entries Tree) (name : String) (decode : Tree → Decoding α) (default : α) :
    Decoding α :=
  match Entries.get? es name with
  | some tree => decode tree
  | none => pure default

/-- A field that may be left out or null. -/
def optional (es : Entries Tree) (name : String) (decode : Tree → Decoding α) :
    Decoding (Option α) :=
  withDefault es name (nullable decode) none

end Decoding

/-- A document decoded as a whole. Aliases may be followed a hundred times for each start or end of
a value in it. -/
def Tree.decode? {α : Type} (tree : Tree) (decode : Tree → Decoding α) : Option α :=
  (((decode tree).run tree).run (100 * tree.eventCount)).map Prod.fst

end CloudPlan.Yaml
