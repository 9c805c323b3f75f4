import CloudPlan.Json.Record
import CloudPlan.Value

/-!
# Resources and plans

A resource has a name, a type, properties, the id of what it was made for and the names of the
resources that have to exist before it. A plan is a list of resources in order of construction and
a table of outputs, each a template that names a field of a resource.
-/

set_option autoImplicit false

namespace CloudPlan

/-- A resource as lowering yields it. -/
structure Resource where
  name : String
  type : String
  properties : Properties
  source : String
  dependsOn : List String
deriving DecidableEq, Repr

namespace Resource

/-- The record type of resources. -/
def recordType : RecordType :=
  ⟨"struct LoweredResource", ["name", "resource_type", "properties", "source_id", "depends_on"]⟩

/-- A resource from JSON. -/
def decode : Decoder Resource :=
  Json.record recordType fun r =>
    mk <$> r.required "name" Json.text <*> r.required "resource_type" Json.text
      <*> r.withDefault "properties" Properties.decode []
      <*> r.required "source_id" Json.text
      <*> r.withDefault "depends_on" (Json.sequence Json.text) []

/-- A resource as JSON. -/
def json (r : Resource) : Json :=
  .object [("name", .string r.name), ("resource_type", .string r.type),
    ("properties", Properties.json r.properties), ("source_id", .string r.source),
    ("depends_on", Json.ofStrings r.dependsOn)]

end Resource

/-- A resource of a plan. -/
structure PlannedResource where
  name : String
  type : String
  properties : Properties
  dependsOn : List String
deriving DecidableEq, Repr

namespace PlannedResource

/-- What a plan keeps of a resource. -/
def ofResource (r : Resource) : PlannedResource :=
  ⟨r.name, r.type, r.properties, r.dependsOn⟩

/-- The record type of planned resources. -/
def recordType : RecordType :=
  ⟨"struct PlannedResource", ["name", "resource_type", "properties", "depends_on"]⟩

/-- A planned resource from JSON. -/
def decode : Decoder PlannedResource :=
  Json.record recordType fun r =>
    mk <$> r.required "name" Json.text <*> r.required "resource_type" Json.text
      <*> r.withDefault "properties" Properties.decode []
      <*> r.withDefault "depends_on" (Json.sequence Json.text) []

/-- A planned resource as JSON. -/
def json (r : PlannedResource) : Json :=
  .object [("name", .string r.name), ("resource_type", .string r.type),
    ("properties", Properties.json r.properties), ("depends_on", Json.ofStrings r.dependsOn)]

end PlannedResource

/-- Resources in order of construction, and output templates by key. -/
structure Plan where
  resources : List PlannedResource
  outputs : Entries String
deriving DecidableEq, Repr

namespace Plan

/-- The record type of plans. -/
def recordType : RecordType := ⟨"struct ResourcePlan", ["resources", "outputs"]⟩

/-- A plan from JSON. -/
def decode : Decoder Plan :=
  Json.record recordType fun r =>
    mk <$> r.required "resources" (Json.sequence PlannedResource.decode)
      <*> r.withDefault "outputs" (Json.keyed Json.text) []

/-- A plan as JSON. -/
def json (plan : Plan) : Json :=
  .object [("resources", .array (plan.resources.map PlannedResource.json)),
    ("outputs", .object (Entries.mapValues Json.string plan.outputs))]

end Plan

end CloudPlan
