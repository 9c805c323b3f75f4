import CloudPlan.Proofs.ConstructionOrder
import CloudPlan.Proofs.PlanOutputs
import CloudPlan.Proofs.Targets

/-!
# What lowers cleanly links cleanly

A document that is lowered without errors has a plan that the local provider can execute to the end,
provided that ids are plain, references name nodes of known platforms, `cors` holds no references and
dependencies do not run in circles (`execute_lowered`). Targets are kept (`Yields.target`) and
declared (`Yields.backed`), so the construction order has them first, and each resource is linkable
when its turn comes.
-/

set_option autoImplicit false

namespace CloudPlan

section Document

variable {mode : LookupMode} {ctx : Context} (plain : ctx.PlainIds) (nodes : ctx.ReferencesNodes)
  (cors : ∀ n, ctx.Hosts n .httpGateway → ¬ n.CorsRefers)
  (clean : ((Adapter.standard mode).gather ctx).Clean)
  (acyclic : ((Adapter.standard mode).lower ctx).Acyclic)

include plain nodes cors clean acyclic in
/-- Every resource is linkable after those before it in the construction order. -/
theorem linkable_of_order {before after : List Resource} {r : Resource}
    (order : constructionOrder ((Adapter.standard mode).lower ctx).resources =
      before ++ r :: after) :
    (PlannedResource.ofResource r).Linkable (before.map .ofResource) := by
  have ordered : ∀ s, s ∈ before ++ r :: after →
      s ∈ ((Adapter.standard mode).lower ctx).resources := by
    intro s member
    rw [← order] at member
    exact mem_of_mem_constructionOrder member
  have yields := Context.yields_of_mem_lower
    (ordered r (List.mem_append_right _ List.mem_cons_self))
  obtain ⟨kind, wellNamed⟩ := yields.wellNamed
  refine ⟨⟨kind, wellNamed.type⟩, ?_⟩
  intro e member ref inside
  have refers : r.Refers e.1 ref := ⟨e.2, member, inside⟩
  obtain ⟨t, kept, name, offers⟩ := yields.target clean plain nodes cors refers
  -- the target is declared, so it comes first
  have declared : ref.resource ∈ r.dependsOn :=
    yields.backed plain (fun n node _ => cors n node) _ _ refers
  have present : ref.resource ∈
      ((Adapter.standard mode).lower ctx).resources.map Resource.name :=
    List.mem_map.mpr ⟨t, kept, name⟩
  obtain ⟨s, early, same⟩ := List.mem_map.mp (acyclic.precedes order declared present)
  have kept' := ordered s (List.mem_append_left _ early)
  obtain rfl := Pass.eq_of_name_eq kept' kept (same.trans name.symm)
  exact ⟨_, List.mem_map_of_mem early, name, offers⟩

include plain in
/-- A resource with outputs has a plain name. -/
theorem plain_of_outputs {r : Resource} (yields : ctx.Yields r)
    (outputs : ResourceKind.outputFieldsOf r.type ≠ []) : Plain r.name := by
  cases yields with
  | role principal => exact plain.execRoleName principal
  | function node =>
    rw [name_functionOf]
    exact plain.primaryName node
  | queue node =>
    rw [name_queueOf]
    exact plain.primaryName node
  | table node =>
    rw [name_tableOf]
    exact plain.primaryName node
  | bucket node =>
    rw [name_bucketOf]
    exact plain.primaryName node
  | api node =>
    rw [name_apiOf]
    exact plain.primaryName node
  | topic node =>
    rw [name_topicOf]
    exact plain.primaryName node
  | _ => simp [ResourceKind.outputFieldsOf, ResourceKind.outputFields] at outputs

include plain in
/-- Every output template of the plan names a field that its resource offers. -/
theorem template_of_mem_outputs {key template : String}
    (output : (key, template) ∈ (Plan.ofResult ((Adapter.standard mode).lower ctx)).outputs) :
    ∃ name field, template = outputTemplate name field ∧ Plain name ∧ name ≠ "" ∧ field ≠ "" ∧
      Offered (Plan.ofResult ((Adapter.standard mode).lower ctx)).resources name field := by
  obtain ⟨p, planned, ⟨suffix, field⟩, listed, rfl⟩ := Plan.exists_of_mem_outputs output
  obtain ⟨r, ordered, rfl⟩ := List.mem_map.mp planned
  have yields := Context.yields_of_mem_lower (mem_of_mem_constructionOrder ordered)
  obtain ⟨kind, wellNamed⟩ := yields.wellNamed
  have plainName := plain_of_outputs plain yields (List.ne_nil_of_mem listed)
  have type : (PlannedResource.ofResource r).type = kind.token := wellNamed.type
  rw [type, ResourceKind.outputFieldsOf, ResourceKind.ofToken?_token] at listed
  obtain ⟨offers, nonempty⟩ := kind.offers_outputFields listed
  refine ⟨r.name, field, rfl, plainName, ?_, nonempty, _, planned, rfl, kind, type, offers⟩
  intro empty
  have known := wellNamed.name
  have unknown : Entries.get? endings (ending "") = none := by decide
  rw [empty, unknown] at known
  cases known

end Document

/-- **What lowers cleanly links cleanly.** Let the ids of a document be plain, references of config
intents name nodes of known platforms, no setting `cors` hold a reference, lowering report no error
and dependencies not run in circles. Then the local provider of any region executes the plan: there
is one live object for each planned resource, in order, nothing is skipped, and each output of the
plan has a value. -/
theorem execute_lowered {mode : LookupMode} {ctx : Context} (config : Config) (region : String)
    (plain : ctx.PlainIds) (nodes : ctx.ReferencesNodes)
    (cors : ∀ n, ctx.Hosts n .httpGateway → ¬ n.CorsRefers)
    (success : ((Adapter.standard mode).lower ctx).success = true)
    (acyclic : ((Adapter.standard mode).lower ctx).Acyclic) :
    ∃ linked,
      (Program.execute ⟨Plan.ofResult ((Adapter.standard mode).lower ctx), config,
        (LocalProvider.ofRegion region).provider⟩).result = .ok linked ∧
      linked.objects.map (fun o => (o.name, o.type)) =
        (Plan.ofResult ((Adapter.standard mode).lower ctx)).resources.map
          (fun r => (r.name, r.type)) ∧
      linked.skipped = [] ∧
      Entries.keys linked.outputs =
        Entries.keys (Plan.ofResult ((Adapter.standard mode).lower ctx)).outputs := by
  have clean := Pass.success_finish_iff.mp success
  have distinct : ((Plan.ofResult ((Adapter.standard mode).lower ctx)).resources.map
      PlannedResource.name).Nodup := by
    rw [Plan.names_ofResult]
    exact nodup_constructionOrder _
  -- what a resource refers to stands before it in the order, hence in the plan
  have linkable : ∀ before r after,
      (Plan.ofResult ((Adapter.standard mode).lower ctx)).resources = before ++ r :: after →
      r.Linkable before := by
    intro before r after split
    obtain ⟨before, rest, order, rfl, tail⟩ := List.map_eq_append_iff.mp split
    obtain ⟨r, after, rfl, rfl, rfl⟩ := List.map_eq_cons_iff.mp tail
    exact linkable_of_order plain nodes cors clean acyclic order
  obtain ⟨last, constructed, run⟩ :=
    construct_of_linkable region Progress.constructed_start _ distinct linkable
  -- outputs name fields of planned resources, and after the run all of these are live
  have each : ∀ e ∈ (Plan.ofResult ((Adapter.standard mode).lower ctx)).outputs,
      ∃ j, resolveOutput last.live e.1 e.2 = .ok j := by
    rintro ⟨key, template⟩ output
    obtain ⟨name, field, rfl, plainName, named, nonempty, offered⟩ :=
      template_of_mem_outputs plain output
    exact constructed.exists_output key plainName named nonempty offered
  obtain ⟨outputs, resolved, keys⟩ := exists_mapM_entries each
  refine ⟨⟨outputs, last.objects, last.skipped⟩, ?_, constructed.objects, constructed.skipped, keys⟩
  exact Program.execute_eq_ok run resolved

/-- A document in which a function reads a queue, is bound to it and is told its address. -/
def workerDocument : Document :=
  ⟨⟨"us-east-1", "orders", none, none⟩,
    [.access ⟨"e1", "component:worker", "platform:jobs", [.read], none⟩,
     .config ⟨"e2", "component:worker", "QUEUE_URL", .reference "platform:jobs" none⟩],
    ⟨[⟨"component:worker", [("platform", .string "compute-function")]⟩,
      ⟨"platform:jobs", [("platform", .string "queue")]⟩],
     [⟨"e3", .bindsTo, "component:worker", "platform:jobs", []⟩]⟩⟩

/-- Roles and queues first, then functions and policies, then the rest. -/
def workerRank (name : String) : Nat :=
  if ending name = "role" ∨ ending name = "queue" then 0
  else if ending name = "function" ∨ ending name = "policy" then 1
  else 2

/-- What is gathered under a name, and never as another type, is planned as that type. -/
theorem exists_planned {pass : Pass} {r : Resource} (gathered : r ∈ pass.resources)
    (typed : ∀ s ∈ pass.resources, s.name = r.name → s.type = r.type) :
    ∃ p ∈ (Plan.ofResult pass.finish).resources, p.name = r.name ∧ p.type = r.type := by
  obtain ⟨s, kept, name⟩ := Pass.exists_mem_finish gathered
  have ordered := (mem_constructionOrder_of_nodup pass.nodup_finish).mpr kept
  exact ⟨_, List.mem_map_of_mem ordered, name, typed s (Pass.mem_of_mem_finish kept) name⟩

set_option maxRecDepth 20000 in
/-- That document is lowered without errors, and its plan is executed: the queue is among the objects
and its address among the outputs. -/
theorem execute_worker :
    ((Adapter.standard .legacy).lower workerDocument).success = true ∧
    ∃ linked,
      (Program.execute ⟨Plan.ofResult ((Adapter.standard .legacy).lower workerDocument),
        workerDocument.config, (LocalProvider.ofRegion "eu-west-1").provider⟩).result = .ok linked ∧
      linked.skipped = [] ∧
      ("jobs-queue", ResourceKind.queue.token) ∈ linked.objects.map (fun o => (o.name, o.type)) ∧
      "jobs-queue-url" ∈ Entries.keys linked.outputs := by
  have success : ((Adapter.standard .legacy).lower workerDocument).success = true := by decide
  have plain : Context.PlainIds workerDocument := by
    constructor
    · decide
    · intro i intent
      simp only [workerDocument, List.mem_cons, Intent.access.injEq, reduceCtorEq, or_false,
        List.not_mem_nil] at intent
      subst intent
      decide
  have nodes : Context.ReferencesNodes workerDocument := by
    intro i intent node field source
    simp only [workerDocument, List.mem_cons, Intent.config.injEq, reduceCtorEq, false_or,
      List.not_mem_nil, or_false] at intent
    subst intent
    cases source
    exact ⟨rfl, by decide⟩
  have cors : ∀ n, Context.Hosts workerDocument n .httpGateway → ¬ n.CorsRefers := by
    intro n host
    have none : ∀ m ∈ workerDocument.graph.nodes, m.knownPlatform? ≠ some .httpGateway := by decide
    exact absurd host.platform (none n host.present)
  have acyclic : ((Adapter.standard .legacy).lower workerDocument).Acyclic := by
    apply LoweringResult.acyclic_of_rank workerRank
    intro r kept
    have falls : ∀ r ∈ ((Adapter.standard .legacy).gather workerDocument).resources,
        ∀ b ∈ r.dependsOn, workerRank b < workerRank r.name := by decide
    exact falls r (Pass.mem_of_mem_finish kept)
  refine ⟨success, ?_⟩
  obtain ⟨linked, result, objects, skipped, outputs⟩ :=
    execute_lowered workerDocument.config "eu-west-1" plain nodes cors success acyclic
  obtain ⟨queue, gathered, named⟩ : ∃ r ∈ ((Adapter.standard .legacy).gather
      workerDocument).resources, r.name = "jobs-queue" ∧ r.type = ResourceKind.queue.token := by
    decide
  obtain ⟨p, planned, name, type⟩ := exists_planned gathered (by rw [named.1, named.2]; decide)
  rw [named.1] at name
  rw [named.2] at type
  refine ⟨linked, result, skipped, ?_, ?_⟩
  · rw [objects, ← name, ← type]
    exact List.mem_map_of_mem planned
  · have listed : ("url", "url") ∈ ResourceKind.outputFieldsOf p.type := by
      rw [type]
      decide
    have key := Plan.key_mem_outputs planned listed
    rw [name] at key
    rw [outputs]
    exact key

end CloudPlan
