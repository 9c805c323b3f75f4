import CloudPlan.Link.Object
import CloudPlan.Resource.Kind
import CloudPlan.Value

/-!
# Resolving references

A reference stands for a field of a live object: the field that it names, or else the one that its
consumer's type expects at the property, or else `id`. An output template `${name.field}`
names the object and the field.
-/

set_option autoImplicit false

namespace CloudPlan

/-- Why a program could not be executed. -/
inductive LinkError where
  | unresolvedRef (target resource property : String)
  | unresolvedField (target resource field : String)
  | unresolvedOutput (key resource field : String)
  | invalidTemplate (key template : String)
  | construction (resource type message : String)
deriving DecidableEq, Repr

/-- The wording of an error. -/
def LinkError.message : LinkError → String
  | .unresolvedRef target resource property =>
    "Unresolved ref \"" ++ target ++ "\" in " ++ resource ++ "." ++ property
  | .unresolvedField target resource field =>
    "Unresolved ref \"" ++ target ++ "\" in " ++ resource ++ ": no field '" ++ field ++ "'"
  | .unresolvedOutput key resource field =>
    "Unresolved output \"" ++ key ++ "\": " ++ resource ++ "." ++ field ++ " is not available"
  | .invalidTemplate key template =>
    "invalid output template for \"" ++ key ++ "\": " ++ template
  | .construction resource type message =>
    "failed to construct " ++ resource ++ " (" ++ type ++ "): " ++ message

/-- The field that a reference without a field means at a property of a kind of resources. -/
def ResourceKind.fieldAt : ResourceKind → String → String
  | .rolePolicyAttachment, "role" => "name"
  | .rolePolicyAttachment, "policyArn" => "arn"
  | .policyAttachment, "policyArn" => "arn"
  | .function, "role" => "arn"
  | .eventSourceMapping, "eventSourceArn" => "arn"
  | .eventSourceMapping, "functionName" => "name"
  | .permission, "function" => "name"
  | .permission, "sourceArn" => "executionArn"
  | .stage, "apiId" => "id"
  | .integration, "apiId" => "id"
  | .route, "apiId" => "id"
  | .integration, "integrationUri" => "invokeArn"
  | .route, "target" => "id"
  | .bucketVersioning, "bucket" => "id"
  | _, _ => "id"

/-- The field that a reference without a field means at a property of a type of resources. -/
def defaultField (type property : String) : String :=
  match ResourceKind.ofToken? type with
  | some kind => kind.fieldAt property
  | none => "id"

/-- The top-level property in which a value stands. -/
structure Site where
  resource : String
  type : String
  property : String
deriving DecidableEq, Repr

/-- The field that a reference at a site means. -/
def Site.fieldOf (site : Site) (r : Reference) : String :=
  r.field?.getD (defaultField site.type site.property)

/-- The objects constructed so far, by name. -/
abbrev LiveObjects := Entries LiveObject

/-- The value of a reference. -/
def Reference.resolve (r : Reference) (site : Site) (objects : LiveObjects) :
    Except LinkError Json :=
  match Entries.get? objects r.resource with
  | none => .error (.unresolvedRef r.target site.resource site.property)
  | some object =>
    match object.field? (site.fieldOf r) with
    | none => .error (.unresolvedField r.target site.resource (site.fieldOf r))
    | some j => .ok j

namespace Value

mutual

/-- A value with every reference replaced by what it stands for. -/
def resolve (site : Site) (objects : LiveObjects) : Value → Except LinkError Json
  | .ref r => r.resolve site objects
  | .bool b => .ok (.bool b)
  | .number n => .ok (.number n)
  | .string s => .ok (.string s)
  | .null => .ok .null
  | .list items => do
    return .array (← resolveItems site objects items)
  | .map entries => do
    return .object (Entries.sortedOfList (← resolveEntries site objects entries))

/-- The items of a list, resolved one after the other. -/
def resolveItems (site : Site) (objects : LiveObjects) :
    List Value → Except LinkError (List Json)
  | [] => .ok []
  | v :: rest => do
    let j ← resolve site objects v
    return j :: (← resolveItems site objects rest)

/-- The entries of a map, resolved one after the other. -/
def resolveEntries (site : Site) (objects : LiveObjects) :
    List (String × Value) → Except LinkError (List (String × Json))
  | [] => .ok []
  | (k, v) :: rest => do
    let j ← resolve site objects v
    return (k, j) :: (← resolveEntries site objects rest)

end

end Value

/-- The characters before a closing brace at the very end. -/
def beforeClosingBrace? (cs : List Char) : Option (List Char) :=
  match cs.reverse with
  | '\x7d' :: rest => some rest.reverse
  | _ => none

/-- The name and the field in an output template. -/
def parseTemplate? (template : String) : Option (String × String) :=
  match template.toList with
  | '$' :: '\x7b' :: rest =>
    match (beforeClosingBrace? rest).bind (Text.cutChars '.') with
    | some (n :: name, f :: field) => some (String.ofList (n :: name), String.ofList (f :: field))
    | _ => none
  | _ => none

end CloudPlan
