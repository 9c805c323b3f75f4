import CloudPlan.Decimal.Binary64
import CloudPlan.Entries

/-!
# JSON values

A number is an integer or a double, and the two never compare equal: `1` and `1.0` are different
values. The entries of an object keep their order.
-/

set_option autoImplicit false

namespace CloudPlan

/-- A JSON number. -/
inductive JsonNumber where
  | int (value : Int)
  | real (value : Binary64)
deriving DecidableEq, Repr, Inhabited

/-- A JSON value. -/
inductive Json where
  | null
  | bool (value : Bool)
  | number (value : JsonNumber)
  | string (value : String)
  | array (items : List Json)
  | object (entries : List (String × Json))
deriving Inhabited, Repr

namespace Json

/-- A whole number. -/
def ofNat (n : Nat) : Json := .number (.int n)

/-- A text, or null for none. -/
def ofString? : Option String → Json
  | some s => .string s
  | none => .null

/-- An array of texts. -/
def ofStrings (ss : List String) : Json := .array (ss.map .string)

/-- The text of a string value. -/
def asString? : Json → Option String
  | .string s => some s
  | _ => none

/-- The truth value of a boolean. -/
def asBool? : Json → Option Bool
  | .bool b => some b
  | _ => none

/-- The value of an integer that is not negative. -/
def asNat? : Json → Option Nat
  | .number (.int i) => if 0 ≤ i then some i.toNat else none
  | _ => none

/-- The value under a key, for an object that has it. -/
def get? (j : Json) (key : String) : Option Json :=
  match j with
  | .object es => Entries.get? es key
  | _ => none

mutual

/-- Decides equality of two values. -/
def decideEq : (a b : Json) → Decidable (a = b)
  | .null, .null => isTrue rfl
  | .bool a, .bool b => decidable_of_iff (a = b) (by simp)
  | .number a, .number b => decidable_of_iff (a = b) (by simp)
  | .string a, .string b => decidable_of_iff (a = b) (by simp)
  | .array a, .array b =>
    match decideItemsEq a b with
    | isTrue h => isTrue (by rw [h])
    | isFalse h => isFalse (by simpa using h)
  | .object a, .object b =>
    match decideEntriesEq a b with
    | isTrue h => isTrue (by rw [h])
    | isFalse h => isFalse (by simpa using h)
  | .null, .bool _ | .null, .number _ | .null, .string _ | .null, .array _ | .null, .object _
  | .bool _, .null | .bool _, .number _ | .bool _, .string _ | .bool _, .array _
  | .bool _, .object _ | .number _, .null | .number _, .bool _ | .number _, .string _
  | .number _, .array _ | .number _, .object _ | .string _, .null | .string _, .bool _
  | .string _, .number _ | .string _, .array _ | .string _, .object _ | .array _, .null
  | .array _, .bool _ | .array _, .number _ | .array _, .string _ | .array _, .object _
  | .object _, .null | .object _, .bool _ | .object _, .number _ | .object _, .string _
  | .object _, .array _ => isFalse nofun

/-- Decides equality of two lists of values. -/
def decideItemsEq : (a b : List Json) → Decidable (a = b)
  | [], [] => isTrue rfl
  | [], _ :: _ | _ :: _, [] => isFalse nofun
  | a :: as, b :: bs =>
    match decideEq a b, decideItemsEq as bs with
    | isTrue h, isTrue h' => isTrue (by rw [h, h'])
    | isFalse h, _ => isFalse (by simp [h])
    | _, isFalse h => isFalse (by simp [h])

/-- Decides equality of two lists of entries. -/
def decideEntriesEq : (a b : List (String × Json)) → Decidable (a = b)
  | [], [] => isTrue rfl
  | [], _ :: _ | _ :: _, [] => isFalse nofun
  | (k, a) :: as, (l, b) :: bs =>
    match decideEq a b, decideEntriesEq as bs with
    | isTrue h, isTrue h' => decidable_of_iff (k = l) (by simp [h, h'])
    | isFalse h, _ => isFalse (by simp [h])
    | _, isFalse h => isFalse (by simp [h])

end

instance : DecidableEq Json := decideEq

end Json

end CloudPlan
