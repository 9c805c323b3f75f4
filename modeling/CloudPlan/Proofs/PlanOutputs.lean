import CloudPlan.Proofs.ConstructionOrder
import CloudPlan.Proofs.Names
import Mathlib.Algebra.GroupWithZero.Nat
import Mathlib.Data.List.Permutation

/-!
# No output is lost

The key of an output is the name of its resource, a dash and a suffix without a dash. So the last dash
of a key tells where the name ends (`resourceName_eq_iff`), whatever the name looks like, and two
outputs have one key only if they are of one resource and one suffix. Plans name each resource once,
and no kind has a suffix twice; so all keys of a plan are distinct, and no insertion into the table of
outputs replaces another one (`ofResult_outputs`).
-/

set_option autoImplicit false

namespace CloudPlan

/-! ## Tables of output fields -/

namespace ResourceKind

/-- The outputs of a kind have names without dashes. -/
theorem undashed_outputFields {kind : ResourceKind} {e : String × String}
    (listed : e ∈ kind.outputFields) : '-' ∉ e.1.toList := by
  revert e
  cases kind <;> decide

/-- No two outputs of a kind have the same name. -/
theorem nodup_outputFields (kind : ResourceKind) : (Entries.keys kind.outputFields).Nodup := by
  cases kind <;> decide

/-- The outputs of a type have names without dashes. -/
theorem undashed_outputFieldsOf {type : String} {e : String × String}
    (listed : e ∈ outputFieldsOf type) : '-' ∉ e.1.toList := by
  unfold outputFieldsOf at listed
  split at listed
  · exact undashed_outputFields listed
  · cases listed

/-- No two outputs of a type have the same name. -/
theorem nodup_outputFieldsOf (type : String) : (Entries.keys (outputFieldsOf type)).Nodup := by
  unfold outputFieldsOf
  split
  · exact nodup_outputFields _
  · exact List.nodup_nil

end ResourceKind

/-! ## Keys of outputs -/

namespace PlannedResource

variable {r s : PlannedResource} {e f : String × String}

/-- The outputs of two resources have one key only if the names and the suffixes are the same. -/
theorem key_eq_iff (listed : e ∈ ResourceKind.outputFieldsOf r.type)
    (listed' : f ∈ ResourceKind.outputFieldsOf s.type) :
    resourceName r.name e.1 = resourceName s.name f.1 ↔ r.name = s.name ∧ e.1 = f.1 :=
  resourceName_eq_iff (ResourceKind.undashed_outputFieldsOf listed)
    (ResourceKind.undashed_outputFieldsOf listed')

/-- The output keys of a resource are its name followed by each of the outputs of its type. -/
theorem keys_outputs (r : PlannedResource) :
    Entries.keys r.outputs =
      (Entries.keys (ResourceKind.outputFieldsOf r.type)).map (resourceName r.name) := by
  unfold outputs Entries.keys
  rw [List.map_map, List.map_map]
  rfl

/-- No two outputs of a resource have the same key. -/
theorem nodup_keys_outputs (r : PlannedResource) : (Entries.keys r.outputs).Nodup := by
  rw [keys_outputs]
  apply List.Nodup.map_on _ (ResourceKind.nodup_outputFieldsOf r.type)
  intro x first y second same
  obtain ⟨e, listed, rfl⟩ := List.mem_map.mp first
  obtain ⟨f, listed', rfl⟩ := List.mem_map.mp second
  exact ((key_eq_iff listed listed').mp same).2

/-- A key is one of a resource exactly if it is its name followed by an output of its type. -/
theorem mem_keys_outputs {key : String} :
    key ∈ Entries.keys r.outputs ↔
      ∃ e ∈ ResourceKind.outputFieldsOf r.type, key = resourceName r.name e.1 := by
  rw [keys_outputs, List.mem_map]
  constructor
  · rintro ⟨x, present, rfl⟩
    obtain ⟨e, listed, rfl⟩ := List.mem_map.mp present
    exact ⟨e, listed, rfl⟩
  · rintro ⟨e, listed, rfl⟩
    exact ⟨e.1, List.mem_map_of_mem listed, rfl⟩

/-- Resources with different names have different keys of outputs. -/
theorem nodup_keys_flatMap_outputs {resources : List PlannedResource}
    (distinct : (resources.map name).Nodup) :
    (Entries.keys (resources.flatMap outputs)).Nodup := by
  rw [Entries.keys, List.map_flatMap, List.nodup_flatMap]
  refine ⟨fun r _ => nodup_keys_outputs r, ?_⟩
  refine (List.pairwise_map.mp distinct).imp ?_
  intro r s different key first second
  obtain ⟨e, listed, rfl⟩ := mem_keys_outputs.mp first
  obtain ⟨f, listed', same⟩ := mem_keys_outputs.mp second
  exact different ((key_eq_iff listed listed').mp same).1

end PlannedResource

namespace Plan

/-- No two resources of a plan have the same name. -/
theorem nodup_names_ofResult (result : LoweringResult) :
    ((ofResult result).resources.map PlannedResource.name).Nodup := by
  rw [names_ofResult]
  exact nodup_constructionOrder result.resources

/-- The outputs of a plan are those of its resources, none of which replaces another one. -/
theorem outputs_ofResult (result : LoweringResult) :
    (ofResult result).outputs = (ofResult result).resources.flatMap PlannedResource.outputs :=
  Entries.ofList_of_nodup (PlannedResource.nodup_keys_flatMap_outputs (nodup_names_ofResult result))

/-- Each resource of a plan has an output for each field of the table of its type. -/
theorem key_mem_outputs {result : LoweringResult} {r : PlannedResource} {e : String × String}
    (planned : r ∈ (ofResult result).resources) (listed : e ∈ ResourceKind.outputFieldsOf r.type) :
    resourceName r.name e.1 ∈ Entries.keys (ofResult result).outputs := by
  rw [outputs_ofResult, Entries.keys, List.map_flatMap, List.mem_flatMap]
  exact ⟨r, planned, PlannedResource.mem_keys_outputs.mpr ⟨e, listed, rfl⟩⟩

/-- **No output is lost.** A plan has, in the order of its resources and of the tables of their types,
one output for each resource and each field of its table; no two of them share a key, so that there
are as many outputs as the tables have fields. -/
theorem ofResult_outputs (result : LoweringResult) :
    (ofResult result).outputs = (ofResult result).resources.flatMap (fun r =>
        (ResourceKind.outputFieldsOf r.type).map fun e =>
          (r.name ++ "-" ++ e.1, "$\x7b" ++ r.name ++ "." ++ e.2 ++ "\x7d")) ∧
      (∀ r ∈ (ofResult result).resources, ∀ e ∈ ResourceKind.outputFieldsOf r.type,
        ∀ s ∈ (ofResult result).resources, ∀ f ∈ ResourceKind.outputFieldsOf s.type,
          r.name ++ "-" ++ e.1 = s.name ++ "-" ++ f.1 → r = s ∧ e = f) ∧
      (Entries.keys (ofResult result).outputs).Nodup ∧
      (ofResult result).outputs.length =
        ((ofResult result).resources.map fun r =>
          (ResourceKind.outputFieldsOf r.type).length).sum := by
  have names := nodup_names_ofResult result
  have keys := PlannedResource.nodup_keys_flatMap_outputs names
  have outputs := outputs_ofResult result
  refine ⟨outputs, ?_, ?_, ?_⟩
  · intro r planned e listed s planned' f listed' same
    obtain ⟨name, suffix⟩ := (PlannedResource.key_eq_iff listed listed').mp same
    obtain rfl := List.inj_on_of_nodup_map names planned planned' name
    exact ⟨rfl, List.inj_on_of_nodup_map (ResourceKind.nodup_outputFieldsOf r.type) listed listed'
      suffix⟩
  · rw [outputs]
    exact keys
  · rw [outputs, List.length_flatMap]
    simp only [PlannedResource.outputs, List.length_map]

/-- A queue and two resources that are called like its outputs. -/
def namedLikeOutputs : LoweringResult :=
  ⟨[⟨"jobs", "aws:sqs/queue:Queue", [], "platform:jobs", []⟩,
    ⟨"jobs-url", "aws:sns/topic:Topic", [], "platform:jobs-url", []⟩,
    ⟨"jobs-arn", "aws:sns/topic:Topic", [], "platform:jobs-arn", []⟩], [], [], true⟩

/-- Their outputs do not meet either. -/
theorem ofResult_outputs_namedLike :
    let plan := ofResult namedLikeOutputs
    let queue : PlannedResource := ⟨"jobs", "aws:sqs/queue:Queue", [], []⟩
    let topic : PlannedResource := ⟨"jobs-arn", "aws:sns/topic:Topic", [], []⟩
    plan.outputs =
        [("jobs-url", "$\x7bjobs.url\x7d"), ("jobs-arn", "$\x7bjobs.arn\x7d"),
          ("jobs-arn-arn", "$\x7bjobs-arn.arn\x7d"), ("jobs-url-arn", "$\x7bjobs-url.arn\x7d")] ∧
      queue ∈ plan.resources ∧ topic ∈ plan.resources ∧
      queue.name ++ "-" ++ "arn" ≠ topic.name ++ "-" ++ "arn" := by
  intro plan queue topic
  have order : plan.resources =
      [queue, topic, ⟨"jobs-url", "aws:sns/topic:Topic", [], []⟩] := by cbv
  have planned : queue ∈ plan.resources := by simp [order]
  have planned' : topic ∈ plan.resources := by simp [order]
  obtain ⟨outputs, distinct, _, _⟩ := ofResult_outputs namedLikeOutputs
  refine ⟨?_, planned, planned', ?_⟩
  · rw [outputs, order]
    rfl
  · intro same
    have arn : ("arn", "arn") ∈ ResourceKind.outputFieldsOf queue.type := by decide
    have arn' : ("arn", "arn") ∈ ResourceKind.outputFieldsOf topic.type := by decide
    have one := (distinct queue planned _ arn topic planned' _ arn' same).1
    exact absurd one (by decide)

end Plan

end CloudPlan
