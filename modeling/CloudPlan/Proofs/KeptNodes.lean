import CloudPlan.Proofs.Kinds
import Mathlib.Data.List.Nodup

/-!
# Which nodes are kept

The primary resource of a node is named after the short name of the node's id and the platform. Ids of
two nodes may be different and their short names the same; then only the first of the two has its
primary resource in the result, and no error is reported. `primary_kept_iff` says which nodes have
one: those that are the first of their platform and short name. Therefore no node of a valid document
is dropped exactly if no two of one platform share a short name (`nodes_kept_iff`).
-/

set_option autoImplicit false

namespace CloudPlan

/-- The first node of a platform and a short name. -/
def Context.firstHost? (ctx : Context) (p : Platform) (short : String) : Option Node :=
  ctx.graph.nodes.find? fun n => n.knownPlatform? == some p && n.shortName == short

namespace Context

variable {ctx : Context} {p : Platform} {n m : Node} {short : String}

/-- The first node of a platform and a short name runs there and is called so. -/
theorem host_of_firstHost? (first : ctx.firstHost? p short = some m) :
    ctx.Hosts m p ∧ m.shortName = short := by
  have test := List.find?_some first
  simp only [Bool.and_eq_true, beq_iff_eq] at test
  exact ⟨⟨List.mem_of_find?_eq_some first, test.1⟩, test.2⟩

/-- A node that runs on a platform has a first one of its short name there. -/
theorem Hosts.exists_firstHost? (host : ctx.Hosts n p) :
    ∃ m, ctx.firstHost? p n.shortName = some m := by
  apply Option.isSome_iff_exists.mp
  unfold firstHost?
  rw [List.find?_isSome]
  exact ⟨n, host.present, by simp [host.platform]⟩

end Context

/-! ## What stands first among everything gathered -/

section First

variable {mode : LookupMode} {ctx : Context} {p : Platform} {short : String}

/-- What a node becomes holds a resource with the name of a primary one exactly if it is that
node's. -/
theorem find?_made_node {n : Node} (present : n ∈ ctx.graph.nodes) {resources : List Resource}
    (outcome : (Adapter.standard mode).nodeOutcome ctx n = .ok resources) :
    (resources.find? fun r => r.name == p.resourceName short).map Resource.source =
      if (n.knownPlatform? == some p && n.shortName == short) = true then some n.id else none := by
  rw [Adapter.nodeOutcome_standard mode ctx present] at outcome
  cases platform : n.knownPlatform? with
  | none =>
    rw [platform] at outcome
    cases outcome
    rfl
  | some q =>
    rw [platform] at outcome
    obtain ⟨r, before, after, rfl, primary, others⟩ := Platform.lower_primary outcome
    have known := p.get?_endings short
    have early : OfKinds before ResourceKind.auxiliary :=
      fun s there => others s (List.mem_append_left _ there)
    have late : OfKinds after ResourceKind.auxiliary :=
      fun s there => others s (List.mem_append_right _ there)
    have test : (r.name == p.resourceName short) = (some q == some p && n.shortName == short) := by
      rw [primary.name, Bool.eq_iff_iff]
      simp [Platform.resourceName_eq_iff]
    rw [List.find?_append, early.find?_eq_none known p.kind_not_auxiliary, Option.none_or,
      List.find?_cons, late.find?_eq_none known p.kind_not_auxiliary, test]
    cases some q == some p && n.shortName == short
    · rfl
    · simp [primary.source]

/-- In a run without errors the first resource with the name of a primary one is that of the first
node of the platform and the short name. -/
theorem find?_gather_primary (p : Platform) (short : String)
    (clean : ((Adapter.standard mode).gather ctx).Clean) :
    (((Adapter.standard mode).gather ctx).resources.find?
        fun r => r.name == p.resourceName short).map Resource.source =
      (ctx.firstHost? p short).map Node.id := by
  obtain ⟨_, outcomes, resources⟩ := Adapter.outcomes_of_clean _ _ clean
  have known := p.get?_endings short
  have noIntent : (ctx.intents.flatMap fun x => made ((Adapter.standard mode).intentOutcome ctx x)
      ).find? (fun r => r.name == p.resourceName short) = none := by
    have all : OfKinds (ctx.intents.flatMap fun x =>
        made ((Adapter.standard mode).intentOutcome ctx x)) ResourceKind.ofIntents := by
      intro r present
      obtain ⟨x, _, member⟩ := List.mem_flatMap.mp present
      exact ofKinds_intent mode ctx x r member
    exact all.find?_eq_none known (by cases p <;> decide)
  have noMapping := (ofKinds_eventMappings ctx).find?_eq_none known (by cases p <;> decide)
  have noTrigger := (ofKinds_httpIntegrations ctx).find?_eq_none known (by cases p <;> decide)
  rw [resources, List.find?_append, List.find?_append, List.find?_append, noIntent, noMapping,
    noTrigger, Option.none_or, Option.or_none, Option.or_none]
  apply Pass.map_find?_flatMap
  intro n present
  obtain ⟨made_n, outcome⟩ := outcomes n present
  rw [outcome]
  exact find?_made_node present outcome

end First

/-! ## Exactly the first nodes are there -/

/-- A node has its primary resource in the result of a run without errors exactly if the first node
of its platform and short name has its id. -/
theorem kept_iff_first {mode : LookupMode} {ctx : Context}
    (clean : ((Adapter.standard mode).gather ctx).Clean) {n : Node} {p : Platform} :
    (∃ r ∈ ((Adapter.standard mode).lower ctx).resources, r.IsPrimary n p) ↔
      ∃ m, ctx.firstHost? p n.shortName = some m ∧ m.id = n.id := by
  have found := find?_gather_primary p n.shortName clean
  constructor
  · rintro ⟨r, kept, primary⟩
    have first := Pass.mem_finish.mp kept
    rw [primary.name] at first
    rw [first, Option.map_some, primary.source] at found
    exact Option.map_eq_some_iff.mp found.symm
  · rintro ⟨m, first, same⟩
    rw [first, Option.map_some, Option.map_eq_some_iff] at found
    obtain ⟨r, firstOfName, source⟩ := found
    have name : r.name = p.resourceName n.shortName := by
      simpa using List.find?_some firstOfName
    have kept : r ∈ ((Adapter.standard mode).lower ctx).resources := by
      apply Pass.mem_finish.mpr
      rw [name, firstOfName]
    obtain ⟨kind, named⟩ := (Context.yields_of_mem_lower kept).wellNamed
    have tells := named.name
    rw [name, p.get?_endings, Option.some.injEq] at tells
    exact ⟨r, kept, name, by rw [named.type, tells], source.trans same⟩

/-- The ids of the nodes of a document without problems are all different. -/
theorem nodup_of_nodeProblems {earlier : List String} {nodes : List Node}
    (valid : Document.nodeProblems earlier nodes = []) :
    (nodes.map Node.id).Nodup ∧ ∀ n ∈ nodes, n.id ∉ earlier := by
  induction nodes generalizing earlier with
  | nil => exact ⟨List.nodup_nil, nofun⟩
  | cons n rest ih =>
    rw [Document.nodeProblems, List.append_eq_nil_iff, List.append_eq_nil_iff] at valid
    obtain ⟨nodup, fresh⟩ := ih valid.2
    have new : n.id ∉ earlier := by
      intro old
      have repeated := valid.1.2
      rw [if_pos (by simpa using old)] at repeated
      cases repeated
    refine ⟨?_, ?_⟩
    · rw [List.map_cons, List.nodup_cons]
      refine ⟨?_, nodup⟩
      intro again
      obtain ⟨m, later, same⟩ := List.mem_map.mp again
      exact fresh m later (by rw [same]; exact List.mem_cons_self)
    · intro m present
      rcases List.mem_cons.mp present with rfl | later
      · exact new
      · intro old
        exact fresh m later (List.mem_cons_of_mem _ old)

/-- In a valid document no id is that of two nodes. -/
theorem nodup_ids {doc : Document} (valid : doc.problems = []) :
    (doc.graph.nodes.map Node.id).Nodup := by
  rw [Document.problems, List.append_eq_nil_iff, List.append_eq_nil_iff] at valid
  exact (nodup_of_nodeProblems valid.1.2).1

/-- So a node is told by its id. -/
theorem eq_of_id_eq {doc : Document} (valid : doc.problems = []) {n m : Node}
    (first : n ∈ doc.graph.nodes) (second : m ∈ doc.graph.nodes) (same : n.id = m.id) : n = m :=
  List.inj_on_of_nodup_map (nodup_ids valid) first second same

/-- No node of a known platform is dropped from a document without problems exactly if no two nodes
of one platform share a short name. -/
theorem nodes_kept_iff {mode : LookupMode} {ctx : Context} (valid : ctx.problems = [])
    (success : ((Adapter.standard mode).lower ctx).success = true) :
    (∀ n p, ctx.Hosts n p → ∃ r ∈ ((Adapter.standard mode).lower ctx).resources, r.IsPrimary n p) ↔
      ∀ n m p, ctx.Hosts n p → ctx.Hosts m p → n.shortName = m.shortName → n = m := by
  have clean := Pass.success_finish_iff.mp success
  constructor
  · intro all n m p host host' same
    obtain ⟨k, first, id⟩ := (kept_iff_first clean).mp (all n p host)
    obtain ⟨l, first', id'⟩ := (kept_iff_first clean).mp (all m p host')
    rw [same, first', Option.some.injEq] at first
    subst first
    exact eq_of_id_eq valid host.present host'.present (id.symm.trans id')
  · intro distinct n p host
    obtain ⟨m, first⟩ := host.exists_firstHost?
    obtain ⟨host', same⟩ := Context.host_of_firstHost? first
    rw [kept_iff_first clean]
    exact ⟨m, first, by rw [distinct m n p host' host same]⟩

/-- **Which nodes are kept.** After a run without errors on a document without problems, a node of a
known platform has its primary resource in the result exactly if it is the first node of its platform
and its short name. -/
theorem primary_kept_iff {mode : LookupMode} {ctx : Context} (valid : ctx.problems = [])
    (success : ((Adapter.standard mode).lower ctx).success = true) {n : Node} {p : Platform}
    (host : ctx.Hosts n p) :
    (∃ r ∈ ((Adapter.standard mode).lower ctx).resources, r.IsPrimary n p) ↔
      ctx.firstHost? p n.shortName = some n := by
  rw [kept_iff_first (Pass.success_finish_iff.mp success)]
  constructor
  · rintro ⟨m, first, same⟩
    obtain ⟨host', _⟩ := Context.host_of_firstHost? first
    rw [first, eq_of_id_eq valid host'.present host.present same]
  · intro first
    exact ⟨n, first, rfl⟩

/-- A queue whose messages keep their order. -/
def orderedQueue : Node :=
  ⟨"component:jobs", [("platform", .string "queue"), ("fifo", .bool true)]⟩

/-- A document with two queues of one short name. -/
def twoQueues : Document :=
  ⟨⟨"us-east-1", "orders", none, none⟩, [],
    ⟨[⟨"platform:jobs", [("platform", .string "queue")]⟩, orderedQueue], []⟩⟩

set_option maxRecDepth 10000 in
/-- The second queue of that document is dropped, although nothing is wrong with the document and no
error is reported. -/
theorem second_queue_dropped :
    twoQueues.problems = [] ∧ ((Adapter.standard .registry).lower twoQueues).success = true ∧
      Context.Hosts twoQueues orderedQueue .queue ∧
      ¬ ∃ r ∈ ((Adapter.standard .registry).lower twoQueues).resources,
        r.IsPrimary orderedQueue .queue := by
  have success : ((Adapter.standard .registry).lower twoQueues).success = true := by decide
  have host : Context.Hosts twoQueues orderedQueue .queue := ⟨by decide, by decide⟩
  have valid : twoQueues.problems = [] := by decide
  refine ⟨valid, success, host, ?_⟩
  rw [primary_kept_iff valid success host]
  decide

end CloudPlan
