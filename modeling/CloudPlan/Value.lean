import CloudPlan.Json.Decode
import CloudPlan.Text.Cut

/-!
# Property values

A property of a resource is a JSON value in which a reference to another resource may stand
anywhere. `Value.json` writes a reference as an object with the single key `ref`. There are two ways
back: `Value.ofJson` takes exactly that shape for a reference, and `Value.decode` also an array of
exactly one text.
-/

set_option autoImplicit false

namespace CloudPlan

/-- A reference to a resource by name, or by name and field with a dot between them. -/
structure Reference where
  target : String
deriving DecidableEq, Repr, Inhabited

namespace Reference

/-- The name before the first dot. -/
def resource (r : Reference) : String :=
  match Text.cut '.' r.target with
  | some (name, _) => name
  | none => r.target

/-- The field after the first dot, unless it is empty. -/
def field? (r : Reference) : Option String :=
  match Text.cut '.' r.target with
  | some (_, field) => if field = "" then none else some field
  | none => none

/-- The reference to a field of a resource. -/
def toField (resource field : String) : Reference :=
  ⟨resource ++ "." ++ field⟩

end Reference

/-- A property value. -/
inductive Value where
  | ref (reference : Reference)
  | bool (value : Bool)
  | number (value : JsonNumber)
  | string (value : String)
  | list (items : List Value)
  | map (entries : List (String × Value))
  | null
deriving Inhabited, Repr

namespace Value

/-- The whole number `n`. -/
def ofNat (n : Nat) : Value := .number (.int n)

/-- A reference to a resource as a whole. -/
def refTo (resource : String) : Value := .ref ⟨resource⟩

/-- A reference to a field of a resource. -/
def refToField (resource field : String) : Value := .ref (.toField resource field)

/-- The text of a string value. -/
def asString? : Value → Option String
  | .string s => some s
  | _ => none

/-- The reference that a value consists of. -/
def asRef? : Value → Option Reference
  | .ref r => some r
  | _ => none

mutual

/-- A value as JSON. -/
def json : Value → Json
  | .ref r => .object [("ref", .string r.target)]
  | .bool b => .bool b
  | .number n => .number n
  | .string s => .string s
  | .list items => .array (jsonItems items)
  | .map entries => .object (jsonEntries entries)
  | .null => .null

/-- The items of a list as JSON. -/
def jsonItems : List Value → List Json
  | [] => []
  | v :: rest => v.json :: jsonItems rest

/-- The entries of a map as JSON. -/
def jsonEntries : List (String × Value) → List (String × Json)
  | [] => []
  | (k, v) :: rest => (k, v.json) :: jsonEntries rest

end

mutual

/-- A JSON value as a property value: an object whose only key is `ref`, with a text, is a
reference. -/
def ofJson : Json → Value
  | .null => .null
  | .bool b => .bool b
  | .number n => .number n
  | .string s => .string s
  | .array items => .list (ofJsonItems items)
  | .object [("ref", .string target)] => .ref ⟨target⟩
  | .object entries => .map (ofJsonEntries entries)

/-- The items of an array as property values. -/
def ofJsonItems : List Json → List Value
  | [] => []
  | j :: rest => ofJson j :: ofJsonItems rest

/-- The entries of an object as property values. -/
def ofJsonEntries : List (String × Json) → List (String × Value)
  | [] => []
  | (k, j) :: rest => (k, ofJson j) :: ofJsonEntries rest

end

mutual

/-- A JSON value as a property value, where an array of exactly one text is a reference too. -/
def decode : Json → Value
  | .null => .null
  | .bool b => .bool b
  | .number n => .number n
  | .string s => .string s
  | .array [.string target] => .ref ⟨target⟩
  | .array items => .list (decodeItems items)
  | .object [("ref", .string target)] => .ref ⟨target⟩
  | .object entries => .map (decodeEntries entries)

/-- The items of an array as property values. -/
def decodeItems : List Json → List Value
  | [] => []
  | j :: rest => decode j :: decodeItems rest

/-- The entries of an object as property values. -/
def decodeEntries : List (String × Json) → List (String × Value)
  | [] => []
  | (k, j) :: rest => (k, decode j) :: decodeEntries rest

end

mutual

/-- Decides equality of two values. -/
def decideEq : (a b : Value) → Decidable (a = b)
  | .null, .null => isTrue rfl
  | .ref a, .ref b => decidable_of_iff (a = b) (by simp)
  | .bool a, .bool b => decidable_of_iff (a = b) (by simp)
  | .number a, .number b => decidable_of_iff (a = b) (by simp)
  | .string a, .string b => decidable_of_iff (a = b) (by simp)
  | .list a, .list b =>
    match decideItemsEq a b with
    | isTrue h => isTrue (by rw [h])
    | isFalse h => isFalse (by simpa using h)
  | .map a, .map b =>
    match decideEntriesEq a b with
    | isTrue h => isTrue (by rw [h])
    | isFalse h => isFalse (by simpa using h)
  | .null, .ref _ | .null, .bool _ | .null, .number _ | .null, .string _ | .null, .list _
  | .null, .map _ | .ref _, .null | .ref _, .bool _ | .ref _, .number _ | .ref _, .string _
  | .ref _, .list _ | .ref _, .map _ | .bool _, .null | .bool _, .ref _ | .bool _, .number _
  | .bool _, .string _ | .bool _, .list _ | .bool _, .map _ | .number _, .null
  | .number _, .ref _ | .number _, .bool _ | .number _, .string _ | .number _, .list _
  | .number _, .map _ | .string _, .null | .string _, .ref _ | .string _, .bool _
  | .string _, .number _ | .string _, .list _ | .string _, .map _ | .list _, .null
  | .list _, .ref _ | .list _, .bool _ | .list _, .number _ | .list _, .string _
  | .list _, .map _ | .map _, .null | .map _, .ref _ | .map _, .bool _ | .map _, .number _
  | .map _, .string _ | .map _, .list _ => isFalse nofun

/-- Decides equality of two lists of values. -/
def decideItemsEq : (a b : List Value) → Decidable (a = b)
  | [], [] => isTrue rfl
  | [], _ :: _ | _ :: _, [] => isFalse nofun
  | a :: as, b :: bs =>
    match decideEq a b, decideItemsEq as bs with
    | isTrue h, isTrue h' => isTrue (by rw [h, h'])
    | isFalse h, _ => isFalse (by simp [h])
    | _, isFalse h => isFalse (by simp [h])

/-- Decides equality of two lists of entries. -/
def decideEntriesEq : (a b : List (String × Value)) → Decidable (a = b)
  | [], [] => isTrue rfl
  | [], _ :: _ | _ :: _, [] => isFalse nofun
  | (k, a) :: as, (l, b) :: bs =>
    match decideEq a b, decideEntriesEq as bs with
    | isTrue h, isTrue h' => decidable_of_iff (k = l) (by simp [h, h'])
    | isFalse h, _ => isFalse (by simp [h])
    | _, isFalse h => isFalse (by simp [h])

end

instance : DecidableEq Value := decideEq

end Value

/-- The named properties of a resource, in order. -/
abbrev Properties := Entries Value

/-- Properties from JSON. -/
def Properties.decode : Decoder Properties :=
  Json.keyed fun j => .ok (Value.decode j)

/-- Properties as JSON. -/
def Properties.json (properties : Properties) : Json :=
  .object (Value.jsonEntries properties)

end CloudPlan
