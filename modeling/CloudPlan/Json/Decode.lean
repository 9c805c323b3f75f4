import CloudPlan.Json.Printer
import CloudPlan.Text.Cut
import CloudPlan.Text.Quoted

/-!
# Decoding JSON values

A decoder turns a JSON value into a value of a domain type or says what stands in its way.
`DecodeError.message` words each cause. `Json.choice` reads one of several names, and the other
decoders here read the plain shapes that records are made of.
-/

set_option autoImplicit false

namespace CloudPlan

/-- What was found where something else was expected. -/
inductive Found where
  | null
  | bool (value : Bool)
  | int (value : Int)
  | real (value : Binary64)
  | string (value : String)
  | sequence
  | map
deriving DecidableEq, Repr

/-- The part of a value that a message shows. -/
def Found.ofJson : Json → Found
  | .null => .null
  | .bool b => .bool b
  | .number (.int i) => .int i
  | .number (.real x) => .real x
  | .string s => .string s
  | .array _ => .sequence
  | .object _ => .map

/-- The wording of what was found. -/
def Found.describe : Found → String
  | .null => "null"
  | .bool b => "boolean `" ++ (if b then "true" else "false") ++ "`"
  | .int i => "integer `" ++ String.ofList (Json.intChars i) ++ "`"
  | .real x => "floating point `" ++ String.ofList (Json.realChars x) ++ "`"
  | .string s => "string " ++ Text.quoted s
  | .sequence => "sequence"
  | .map => "map"

/-- Why a value could not be decoded. -/
inductive DecodeError where
  | missingField (name : String)
  | wrongType (found : Found) (expected : String)
  | wrongValue (found : Found) (expected : String)
  | wrongLength (length : Nat) (expected : String)
  | unknownName (name : String) (known : List String)
  | tagNotText (found : Json)
deriving DecidableEq, Repr

/-- Names as alternatives. -/
def alternatives : List String → String
  | [] => "nothing"
  | [a] => "`" ++ a ++ "`"
  | [a, b] => "`" ++ a ++ "` or `" ++ b ++ "`"
  | names => "one of " ++ Text.joinWith ", " (names.map fun name => "`" ++ name ++ "`")

/-- The wording of an error. -/
def DecodeError.message : DecodeError → String
  | .missingField name => "missing field `" ++ name ++ "`"
  | .wrongType found expected => "invalid type: " ++ found.describe ++ ", expected " ++ expected
  | .wrongValue found expected => "invalid value: " ++ found.describe ++ ", expected " ++ expected
  | .wrongLength n expected => "invalid length " ++ toString n ++ ", expected " ++ expected
  | .unknownName name known =>
    "unknown variant `" ++ name ++ "`, expected " ++ alternatives known
  | .tagNotText found => "intent type must be a string, got " ++ found.compact

/-- A reader of values of a type. -/
abbrev Decoder (α : Type) := Json → Except DecodeError α

namespace Json

/-- The error for a value of another type than the expected one. -/
def notA {α : Type} (expected : String) (j : Json) : Except DecodeError α :=
  .error (.wrongType (Found.ofJson j) expected)

/-- Any value, as it is. -/
def anything : Decoder Json := .ok

/-- A text. -/
def text : Decoder String
  | .string s => .ok s
  | j => notA "a string" j

/-- A truth value. -/
def truth : Decoder Bool
  | .bool b => .ok b
  | j => notA "a boolean" j

/-- A natural number below a bound; `name` names the range. -/
def natBelow (name : String) (bound : Nat) : Decoder Nat
  | .number (.int i) =>
    if 0 ≤ i ∧ i < bound then .ok i.toNat else .error (.wrongValue (.int i) name)
  | j => notA name j

/-- A natural number of 16 bits. -/
def nat16 : Decoder Nat := natBelow "u16" 0x10000

/-- A natural number of 64 bits. -/
def nat64 : Decoder Nat := natBelow "u64" 0x10000000000000000

/-- Null for none. -/
def nullable {α : Type} (decode : Decoder α) : Decoder (Option α)
  | .null => .ok none
  | j => (decode j).map some

/-- A sequence of values of one type. -/
def sequence {α : Type} (decode : Decoder α) : Decoder (List α)
  | .array items => items.mapM decode
  | j => notA "a sequence" j

/-- Keyed values of one type, in the order in which they stand. -/
def keyed {α : Type} (decode : Decoder α) : Decoder (Entries α)
  | .object entries =>
    entries.mapM fun (entry : String × Json) => (decode entry.2).map fun v => (entry.1, v)
  | j => notA "a map" j

/-- The value that a name stands for. -/
def named {α : Type} (known : Entries α) (name : String) : Except DecodeError α :=
  match Entries.get? known name with
  | some a => .ok a
  | none => .error (.unknownName name (Entries.keys known))

/-- One of several names: its text, or an object with the name as its only key and null as value.
Where `relaxed` holds, an empty object may stand for null. -/
def choice {α : Type} (known : Entries α) (relaxed : Bool) : Decoder α
  | .string s => named known s
  | .object [(name, value)] =>
    match named known name with
    | .error e => .error e
    | .ok a =>
      if value = .null || (relaxed && value = .object []) then .ok a else notA "unit" value
  | .object _ => .error (.wrongValue .map "map with a single key")
  | j => notA "string or map" j

end Json

end CloudPlan
