import CloudPlan.Lowering.Needs

/-!
# Tables and buckets

The keys of a table come from the node property `keySchema`, an object with a `hashKey` and perhaps
a `rangeKey`, each with a `name` and perhaps a `type`.
-/

set_option autoImplicit false

namespace CloudPlan

/-- A key attribute of a table. -/
structure KeyAttribute where
  name : String
  type : String
deriving DecidableEq, Repr

namespace KeyAttribute

/-- The key of a table without a schema. -/
def standard : KeyAttribute := ⟨"id", "S"⟩

/-- A key attribute from JSON; its type is text unless another is given. -/
def ofJson? (j : Json) : Option KeyAttribute :=
  ((j.get? "name").bind Json.asString?).map fun name =>
    ⟨name, ((j.get? "type").bind Json.asString?).getD "S"⟩

/-- A key attribute as a property value. -/
def value (key : KeyAttribute) : Value :=
  .map [("name", .string key.name), ("type", .string key.type)]

end KeyAttribute

/-- One key of the schema of a node, if it is given. -/
def schemaKey? (node : Node) (key : String) : Except LowerError (Option KeyAttribute) :=
  match (Entries.get? node.properties "keySchema").bind fun schema => schema.get? key with
  | none => .ok none
  | some j =>
    match KeyAttribute.ofJson? j with
    | some found => .ok (some found)
    | none => .error (.malformedKey node.id key)

/-- The table of a node, given its keys. -/
def tableOf (node : Node) (hash : KeyAttribute) (range : Option KeyAttribute) : Resource :=
  let name := Platform.keyValueTable.resourceName node.shortName
  let r := ((Resource.ofKind .table name node.id).setText "billingMode"
    ((node.string? "billingMode").getD "PAY_PER_REQUEST")).setText "hashKey" hash.name
  let r := r.set? "rangeKey" (range.map fun key => .string key.name)
  let r := r.set "attributes" (.list ((hash :: range.toList).map KeyAttribute.value))
  let r := if node.bool? "stream" = some true
    then (r.set "streamEnabled" (.bool true)).setText "streamViewType" "NEW_AND_OLD_IMAGES" else r
  r.set "tags" (nodeTags node Platform.keyValueTable.name)

/-- Lowers a table node. -/
def lowerTable (node : Node) : Lowered := do
  let hash ← schemaKey? node "hashKey"
  let range ← schemaKey? node "rangeKey"
  return [tableOf node (hash.getD .standard) range]

/-- The bucket of a node. -/
def bucketOf (node : Node) : Resource :=
  ((Resource.ofKind .bucket (Platform.objectStore.resourceName node.shortName) node.id).set?
    "forceDestroy" ((node.bool? "forceDestroy").map .bool)).set "tags"
    (nodeTags node Platform.objectStore.name)

/-- The versioning of the bucket of a node. -/
def versioningOf (node : Node) : Resource :=
  let bucket := Platform.objectStore.resourceName node.shortName
  (((Resource.ofKind .bucketVersioning (resourceName bucket "versioning") node.id).set "bucket"
    (.refTo bucket)).set "versioningConfiguration" (.map [("status", .string "Enabled")])).after
    [bucket]

/-- Lowers a bucket node. Only an explicit `true` turns versioning on. -/
def lowerBucket (node : Node) : Lowered :=
  .ok (bucketOf node :: if node.bool? "versioning" = some true then [versioningOf node] else [])

end CloudPlan
