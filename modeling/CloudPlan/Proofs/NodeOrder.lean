import CloudPlan.Proofs.KeptNodes
import CloudPlan.Proofs.OtherNodes
import CloudPlan.Proofs.PlanInput

/-!
# The order of nodes

Nodes of a document without problems have distinct ids, so a lookup by id is the same in any order
of them. If no two nodes of one platform share a short name either, then all nodes together become
resources with distinct names (`Context.nodup_names_nodes`), and the first resource of each name is
the same in any order. Therefore the order of nodes decides neither what is made nor whether it
succeeds (`lower_reordered`).
-/

set_option autoImplicit false

namespace CloudPlan

namespace Context

variable {ctx : Context} {nodes : List Node}

/-- No two nodes of one known platform share a short name. -/
def DistinctHosts (ctx : Context) : Prop :=
  ∀ n m p, ctx.Hosts n p → ctx.Hosts m p → n.shortName = m.shortName → n = m

/-- In another order every id has the same platform. -/
theorem keepsPlatforms_of_perm (valid : ctx.problems = [])
    (reordered : nodes.Perm ctx.graph.nodes) : ctx.KeepsPlatforms nodes := by
  intro id _
  have first : (ctx.withNodes nodes).graph.node? id = ctx.graph.node? id :=
    (find?_perm (nodup_ids valid) reordered.symm id).symm
  rw [platformOf?, Graph.platformOf?, first]
  rfl

/-- What two nodes become is named differently. -/
theorem disjoint_names (distinct : ctx.DistinctHosts) {n m : Node} (first : n ∈ ctx.graph.nodes)
    (second : m ∈ ctx.graph.nodes) (different : n ≠ m) :
    List.Disjoint ((n.becomes ctx).map Resource.name) ((m.becomes ctx).map Resource.name) := by
  intro name here there
  obtain ⟨r, member, rfl⟩ := List.mem_map.mp here
  obtain ⟨s, member', same⟩ := List.mem_map.mp there
  obtain ⟨p, platform, t, tail, name⟩ := Node.exists_tail member
  obtain ⟨q, platform', u, tail', name'⟩ := Node.exists_tail member'
  rw [name, name'] at same
  obtain ⟨rfl, short, _⟩ := Platform.append_tail_inj tail' tail same
  exact different (distinct n m q ⟨first, platform⟩ ⟨second, platform'⟩ short.symm)

/-- All nodes together become resources with distinct names. -/
theorem nodup_names_nodes (valid : ctx.problems = []) (distinct : ctx.DistinctHosts) :
    ((ctx.graph.nodes.flatMap fun n => n.becomes ctx).map Resource.name).Nodup := by
  have nodup : ctx.graph.nodes.Nodup := (nodup_ids valid).of_map _
  rw [List.map_flatMap, List.nodup_flatMap]
  constructor
  · intro n _
    exact n.nodup_names_becomes ctx
  · apply nodup.imp_of_mem
    intro n m first second different
    exact disjoint_names distinct first second different

end Context

/-- **The order of nodes does not matter.** For a document without problems in which no two nodes of
one platform share a short name, any order of the nodes yields the same resources, the same success,
and so the same plan and fingerprint. -/
theorem lower_reordered (mode : LookupMode) {ctx : Context} (valid : ctx.problems = [])
    (distinct : ctx.DistinctHosts) {nodes : List Node} (reordered : nodes.Perm ctx.graph.nodes) :
    ((Adapter.standard mode).lower (ctx.withNodes nodes)).resources =
        ((Adapter.standard mode).lower ctx).resources ∧
      ((Adapter.standard mode).lower (ctx.withNodes nodes)).success =
        ((Adapter.standard mode).lower ctx).success ∧
      Plan.ofResult ((Adapter.standard mode).lower (ctx.withNodes nodes)) =
        Plan.ofResult ((Adapter.standard mode).lower ctx) ∧
      (Plan.ofResult ((Adapter.standard mode).lower (ctx.withNodes nodes))).fingerprint =
        (Plan.ofResult ((Adapter.standard mode).lower ctx)).fingerprint := by
  have platforms := Context.keepsPlatforms_of_perm valid reordered
  have own := ctx.keepsPlatforms_self
  have resources : ((Adapter.standard mode).lower (ctx.withNodes nodes)).resources =
      ((Adapter.standard mode).lower ctx).resources := by
    refine Pass.finish_resources_eq_iff.mpr fun name => ?_
    -- the nodes' part is looked up on its own, where names are distinct
    have lookup := find?_perm (Context.nodup_names_nodes valid distinct)
      (reordered.symm.flatMap_right fun n => n.becomes ctx) name
    rw [Context.resources_withNodes platforms mode, List.find?_append, List.find?_append, ← lookup,
      ← List.find?_append, ← List.find?_append, ← Context.resources_withNodes own mode]
    rfl
  have success : ((Adapter.standard mode).lower (ctx.withNodes nodes)).success =
      ((Adapter.standard mode).lower ctx).success := by
    have reported : ∀ d, d ∈ ((Adapter.standard mode).lower (ctx.withNodes nodes)).diagnostics ↔
        d ∈ ((Adapter.standard mode).lower ctx).diagnostics := by
      intro d
      have here := Context.diagnostics_withNodes platforms mode
      have there : ((Adapter.standard mode).lower ctx).diagnostics = _ :=
        Context.diagnostics_withNodes own mode
      rw [here, there, List.mem_append, List.mem_append]
      exact or_congr_right (reordered.flatMap_right _).mem_iff
    apply Bool.eq_iff_iff.mpr
    exact Pass.success_finish_iff.trans ((forall_congr' fun d =>
      imp_congr_left (reported d)).trans Pass.success_finish_iff.symm)
  -- a plan is made from the resources alone
  have plan : Plan.ofResult ((Adapter.standard mode).lower (ctx.withNodes nodes)) =
      Plan.ofResult ((Adapter.standard mode).lower ctx) := by
    rw [Plan.ofResult_eq_iff, resources]
    exact fun _ => rfl
  exact ⟨resources, success, plan, congrArg Plan.fingerprint plan⟩

/-- An upload service: a gateway triggers a function, which reads a queue of the same short name and
writes to a bucket. -/
def uploads : Document where
  config := ⟨"eu-west-1", "uploads", none, none⟩
  intents := [.access ⟨"e1", "component:in", "platform:files", [.write], none⟩,
    .config ⟨"e2", "component:in", "TARGET", .reference "platform:files" none⟩]
  graph :=
    { nodes := [⟨"component:in", [("platform", .string "compute-function")]⟩,
        ⟨"platform:in", [("platform", .string "queue")]⟩,
        ⟨"platform:files", [("platform", .string "object-store"), ("versioning", .bool true)]⟩,
        ⟨"platform:web", [("platform", .string "http-gateway")]⟩]
      edges := [⟨"e3", .bindsTo, "component:in", "platform:in", []⟩,
        ⟨"e4", .triggers, "platform:web", "component:in", [("method", .string "post")]⟩] }

/-- Read backwards, the upload service has the same resources and the same plan, with the function,
the queue, the bucket and the route of the gateway in both. -/
theorem lower_uploads_reversed :
    uploads.problems = [] ∧ Context.DistinctHosts uploads ∧
      (∀ name ∈ ["in-function", "in-queue", "files-bucket", "web-in-route"],
        name ∈ ((Adapter.standard .registry).lower uploads).resources.map Resource.name ∧
        name ∈ (Plan.ofResult ((Adapter.standard .registry).lower uploads)).resources.map
          PlannedResource.name) ∧
      ((Adapter.standard .registry).lower
          (Context.withNodes uploads uploads.graph.nodes.reverse)).resources =
        ((Adapter.standard .registry).lower uploads).resources ∧
      Plan.ofResult ((Adapter.standard .registry).lower
          (Context.withNodes uploads uploads.graph.nodes.reverse)) =
        Plan.ofResult ((Adapter.standard .registry).lower uploads) := by
  have valid : uploads.problems = [] := by decide
  have distinct : Context.DistinctHosts uploads := by
    have shorts : (uploads.graph.nodes.map fun n => (n.knownPlatform?, n.shortName)).Nodup := by
      decide
    intro n m p host host' same
    apply List.inj_on_of_nodup_map shorts host.present host'.present
    rw [host.platform, host'.platform, same]
  have gathered : ∀ name ∈ ["in-function", "in-queue", "files-bucket", "web-in-route"],
      ∃ r ∈ ((Adapter.standard .registry).gather uploads).resources, r.name = name := by
    decide +kernel
  obtain ⟨resources, _, plan, _⟩ :=
    lower_reordered .registry valid distinct (List.reverse_perm uploads.graph.nodes)
  refine ⟨valid, distinct, fun name listed => ?_, resources, plan⟩
  obtain ⟨r, member, rfl⟩ := gathered name listed
  have kept : r.name ∈ ((Adapter.standard .registry).lower uploads).resources.map Resource.name :=
    List.mem_map.mpr (Pass.exists_mem_finish member)
  refine ⟨kept, ?_⟩
  rw [Plan.names_ofResult, mem_names_constructionOrder]
  exact kept

end CloudPlan
