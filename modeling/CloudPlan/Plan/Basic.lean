import CloudPlan.Digest.Blake3
import CloudPlan.Lowering.Adapter
import CloudPlan.Plan.Order

/-!
# Plans from lowering results

`Plan.ofResult` puts resources in the order of construction and derives the output templates from
their kinds. `Plan.fingerprint` is a digest of the JSON text of a plan.
-/

set_option autoImplicit false

namespace CloudPlan

/-- The template that stands for a field of a resource. -/
def outputTemplate (name field : String) : String :=
  "$\x7b" ++ name ++ "." ++ field ++ "\x7d"

namespace PlannedResource

/-- The outputs of a resource: a key and a template for each output field of its kind. -/
def outputs (r : PlannedResource) : Entries String :=
  (ResourceKind.outputFieldsOf r.type).map fun (suffix, field) =>
    (r.name ++ "-" ++ suffix, outputTemplate r.name field)

end PlannedResource

namespace Plan

/-- The plan of the given resources, in order. -/
def ofOrdered (resources : List PlannedResource) : Plan :=
  ⟨resources, Entries.ofList (resources.flatMap PlannedResource.outputs)⟩

/-- The plan of a lowering result. -/
def ofResult (result : LoweringResult) : Plan :=
  ofOrdered ((constructionOrder result.resources).map PlannedResource.ofResource)

/-- The digest of a plan. -/
def fingerprint (plan : Plan) : String :=
  "blake3:" ++ Blake3.hexOfText plan.json.compact

end Plan

end CloudPlan
