import CloudPlan.Proofs.OtherNodes

/-!
# Adding a node

A node that no intent and no edge mentions is lowered with no needs, and nothing else that is
gathered changes when it is added. If its short name is new as well, nothing else bears the name of
what it becomes (`Context.Unrelated.name_ne`). So the result with the node is the result without it
and what the node becomes on its own, sorted by name together (`lower_added`).
-/

set_option autoImplicit false

namespace CloudPlan

/-- A node has nothing to do with a document: it is mentioned nowhere, and neither a node, so that
its id is new, nor an id that an intent mentions has its short name. -/
structure Context.Unrelated (ctx : Context) (n : Node) : Prop where
  unmentioned : n.id ∉ ctx.mentioned
  nodes : ∀ m ∈ ctx.graph.nodes, m.shortName ≠ n.shortName
  intents : ∀ x ∈ ctx.intents, ∀ id ∈ x.nodeIds, shortName id ≠ n.shortName

/-- What the lowerer of its platform makes of a node that no intent says anything about. -/
def Node.alone (n : Node) (ctx : Context) : List Resource :=
  match n.knownPlatform? with
  | none => []
  | some p => made (p.lower n ctx .none)

namespace Context

variable {ctx : Context} {n : Node}

/-- Of a node that is not mentioned nothing is said. -/
theorem needsAt_of_unmentioned {id : String} (unmentioned : id ∉ ctx.mentioned) :
    ctx.needsAt id = .none := by
  have start : Needs.none = Needs.none := rfl
  apply List.foldlRecOn (motive := fun needs => needs = Needs.none) ctx.intents _ start
  intro needs nothing x intent
  have apart : ∀ other ∈ x.nodeIds, other ≠ id := by
    rintro other member rfl
    exact unmentioned (mentioned_of_intent intent member)
  cases x with
  | access i =>
    have principal : i.principal ≠ id := apart i.principal List.mem_cons_self
    rw [Needs.addIntent, if_neg principal, nothing]
  | config i =>
    have target : i.target ≠ id := apart i.target List.mem_cons_self
    rw [Needs.addIntent, if_neg target, nothing]
  | network i => exact nothing
  | telemetry i => exact nothing
  | other i => exact nothing

/-- A node that is not mentioned leaves the platforms of all ids that are. -/
theorem keepsPlatforms_added {before after : List Node} (nodes : ctx.graph.nodes = before ++ after)
    (unmentioned : n.id ∉ ctx.mentioned) : ctx.KeepsPlatforms (before ++ n :: after) := by
  intro id mentioned
  have other : ¬ (n.id == id) = true := by
    rw [beq_iff_eq]
    rintro rfl
    exact unmentioned mentioned
  have found : (before ++ n :: after).find? (fun m => m.id == id) =
      (before ++ after).find? fun m => m.id == id := by
    have skip := List.find?_cons_of_neg (p := fun m : Node => m.id == id) (l := after) other
    rw [List.find?_append, List.find?_append, skip]
  rw [← nodes] at found
  exact congrArg (fun m => Option.bind m Node.platform?) found

/-! ## Names that are apart -/

/-- Kinds of what becomes of nodes are not those of what becomes of edges. -/
theorem kind_ne_of_edges (p : Platform) {kind other : ResourceKind}
    (node : kind ∈ p.kind :: ResourceKind.auxiliary)
    (edge : other ∈ .eventSourceMapping :: ResourceKind.ofTriggers) : other ≠ kind := by
  have all : ∀ kind ∈ p.kind :: ResourceKind.auxiliary,
      ∀ other ∈ .eventSourceMapping :: ResourceKind.ofTriggers, other ≠ kind := by
    cases p <;> decide
  exact all kind node other edge

/-- The policies and parameters of intents are of no kind that nodes become. -/
theorem kind_ne_of_intents (p : Platform) {kind other : ResourceKind}
    (node : kind ∈ p.kind :: ResourceKind.auxiliary) (intent : other ∈ [.policy, .parameter]) :
    other ≠ kind := by
  have all : ∀ kind ∈ p.kind :: ResourceKind.auxiliary,
      ∀ other ∈ [ResourceKind.policy, .parameter], other ≠ kind := by
    cases p <;> decide
  exact all kind node other intent

/-- No name of what a node becomes ends like that of an attachment. -/
theorem ending_tail_ne (p : Platform) {t : String} (tail : t ∈ p.tails) :
    ending t ≠ "attachment" := by
  have all : ∀ t ∈ p.tails, ending t ≠ "attachment" := by cases p <;> decide
  exact all t tail

/-- What becomes of a node has a kind and a tail of its platform. -/
theorem kind_and_tail {r : Resource} (member : r ∈ n.becomes ctx) :
    ∃ p : Platform, (∃ kind ∈ p.kind :: ResourceKind.auxiliary, r.WellNamed kind) ∧
      ∃ t ∈ p.tails, r.name = n.shortName ++ t := by
  obtain ⟨p, platform, tail⟩ := Node.exists_tail member
  rw [Node.becomes, platform] at member
  exact ⟨p, ofKinds_node p n ctx r member, tail⟩

/-- An execution role and its attachment are named as a function of their node would have them. -/
theorem exists_tail_of_execRole {id source : String} {s : Resource}
    (member : s ∈ execRole id source) :
    ∃ t ∈ Platform.computeFunction.tails, s.name = shortName id ++ t := by
  simp only [execRole, List.mem_cons, List.not_mem_nil, or_false] at member
  rcases member with rfl | rfl
  · refine ⟨"-exec-role", by decide, ?_⟩
    simp [executionRole, execRoleName, resourceName, String.append_assoc]
  · refine ⟨"-exec-role-basic", by decide, ?_⟩
    simp [basicAttachment, execRoleName, resourceName, String.append_assoc]

/-- No intent becomes anything with a name of an unrelated node. -/
theorem Unrelated.name_ne_of_intent (unrelated : ctx.Unrelated n) {mode : LookupMode} {x : Intent}
    (intent : x ∈ ctx.intents) {s : Resource}
    (gathered : s ∈ made ((Adapter.standard mode).intentOutcome ctx x)) {r : Resource}
    (member : r ∈ n.becomes ctx) : s.name ≠ r.name := by
  obtain ⟨p, ⟨kind, listed, named⟩, t, tail, name⟩ := kind_and_tail member
  rw [Adapter.intentOutcome_standard] at gathered
  -- a role has the short name of a principal, which the intent mentions; nothing else ends like
  -- what a node becomes
  cases x with
  | access i =>
    cases lowered : i.lower ctx with
    | error e =>
      simp only [lowered] at gathered
      cases gathered
    | ok resources =>
      obtain ⟨_, q, scope, _, _, rfl⟩ := AccessIntent.lower_eq_ok_iff.mp lowered
      simp only [lowered, made, AccessIntent.resources, List.mem_append, List.mem_cons,
        List.not_mem_nil, or_false] at gathered
      rcases gathered with role | rfl | rfl
      · obtain ⟨u, tail', name'⟩ := exists_tail_of_execRole role
        rw [name, name']
        intro same
        obtain ⟨_, short, _⟩ := Platform.append_tail_inj tail' tail same
        exact unrelated.intents _ intent i.principal List.mem_cons_self short
      · exact wellNamed_accessPolicy.ne_of_tells named.name
          (kind_ne_of_intents p listed List.mem_cons_self)
      · intro same
        have word := ending_accessAttachment i
        rw [same, name, ending_append (Platform.dash_mem_tail tail)] at word
        exact ending_tail_ne p tail word
  | config i =>
    simp only [ConfigIntent.lower] at gathered
    split at gathered
    · cases gathered
    · obtain rfl := List.mem_singleton.mp gathered
      exact wellNamed_parameter.ne_of_tells named.name
        (kind_ne_of_intents p listed (List.mem_cons_of_mem _ List.mem_cons_self))
  | network i => cases gathered
  | telemetry i => cases gathered
  | other i => cases gathered

/-- No edge becomes anything with a name of a node. -/
theorem name_ne_of_edge {s : Resource} (gathered : s ∈ eventMappings ctx ++ httpIntegrations ctx)
    {r : Resource} (member : r ∈ n.becomes ctx) : s.name ≠ r.name := by
  obtain ⟨p, ⟨kind, listed, named⟩, _⟩ := kind_and_tail member
  rcases List.mem_append.mp gathered with mapping | trigger
  · obtain ⟨other, there, named'⟩ := ofKinds_eventMappings ctx s mapping
    obtain rfl := List.mem_singleton.mp there
    exact named'.ne_of_tells named.name (kind_ne_of_edges p listed List.mem_cons_self)
  · obtain ⟨other, there, named'⟩ := ofKinds_httpIntegrations ctx s trigger
    exact named'.ne_of_tells named.name
      (kind_ne_of_edges p listed (List.mem_cons_of_mem _ there))

/-- Nothing gathered without an unrelated node has a name of what the node becomes. -/
theorem Unrelated.name_ne (unrelated : ctx.Unrelated n) {mode : LookupMode} {s : Resource}
    (gathered : s ∈ ((Adapter.standard mode).gather ctx).resources) {r : Resource}
    (member : r ∈ n.becomes ctx) : s.name ≠ r.name := by
  rcases Adapter.mem_gather _ _ gathered with ⟨x, intent, there⟩ | ⟨m, present, there⟩ | edge
  · exact unrelated.name_ne_of_intent intent there member
  · rw [made_nodeOutcome mode present] at there
    obtain ⟨p, _, t, tail, name⟩ := Node.exists_tail member
    obtain ⟨q, _, u, tail', name'⟩ := Node.exists_tail there
    rw [name, name']
    intro same
    obtain ⟨_, short, _⟩ := Platform.append_tail_inj tail' tail same
    exact unrelated.nodes m present short
  · exact name_ne_of_edge (List.mem_append.mpr edge) member

end Context

/-! ## Resources with names of their own -/

/-- Resources with distinct names that nothing else bears are kept beside everything else, wherever
they are gathered. -/
theorem Pass.finish_insert {p q : Pass} {first own last : List Resource}
    (without : p.resources = first ++ last) (whole : q.resources = first ++ (own ++ last))
    (distinct : (own.map Resource.name).Nodup)
    (apart : ∀ s ∈ p.resources, ∀ r ∈ own, s.name ≠ r.name) :
    q.finish.resources = (p.finish.resources ++ own).mergeSort fun a b => a.name ≤ b.name := by
  have names : ((p.finish.resources ++ own).map Resource.name).Nodup := by
    rw [List.map_append, List.nodup_append]
    refine ⟨nodup_finish p, distinct, ?_⟩
    intro a kept b added
    obtain ⟨s, member, rfl⟩ := List.mem_map.mp kept
    obtain ⟨r, member', rfl⟩ := List.mem_map.mp added
    exact apart s (mem_of_mem_finish member) r member'
  -- both lists ascend, so it is enough that they have the same members
  apply eq_of_ascending (ascending_finish q) (ascending_mergeSort names)
  intro r
  rw [List.mem_mergeSort, List.mem_append, mem_finish, mem_finish, whole, without]
  simp only [List.find?_append]
  by_cases new : ∃ s ∈ own, s.name = r.name
  · -- then only what is added bears the name
    obtain ⟨s, added, same⟩ := new
    have others : ∀ t ∈ first ++ last, ¬ (t.name == r.name) = true := by
      intro t gathered
      rw [← same, beq_iff_eq]
      exact apart t (without ▸ gathered) s added
    have inFirst := List.find?_eq_none.mpr fun t there => others t (List.mem_append_left _ there)
    have inLast := List.find?_eq_none.mpr fun t there => others t (List.mem_append_right _ there)
    rw [inFirst, inLast, Option.none_or, Option.or_none, find?_eq_some_iff_of_nodup distinct]
    simp
  · have absent : own.find? (fun s => s.name == r.name) = none := by
      rw [List.find?_eq_none]
      intro s added same
      exact new ⟨s, added, beq_iff_eq.mp same⟩
    have missing : r ∉ own := fun added => new ⟨r, added, rfl⟩
    rw [absent, Option.none_or]
    simp [missing]

/-- **An unrelated node changes nothing else.** With a node put anywhere among the nodes that is
mentioned nowhere and whose short name is new, the resources are those without the node and those
that the node becomes on its own, sorted by name. -/
theorem lower_added (mode : LookupMode) {ctx : Context} {n : Node} (unrelated : ctx.Unrelated n)
    {before after : List Node} (nodes : ctx.graph.nodes = before ++ after) :
    ((Adapter.standard mode).lower (ctx.withNodes (before ++ n :: after))).resources =
      (((Adapter.standard mode).lower ctx).resources ++ n.alone ctx).mergeSort
        fun r s => r.name ≤ s.name := by
  have alone : n.becomes ctx = n.alone ctx := by
    unfold Node.becomes Node.alone
    cases n.knownPlatform? with
    | none => rfl
    | some p => simp only [Context.needsAt_of_unmentioned unrelated.unmentioned]
  have platforms := Context.keepsPlatforms_added nodes unrelated.unmentioned
  have whole := Context.resources_withNodes platforms mode
  have without : ((Adapter.standard mode).gather ctx).resources = _ :=
    Context.resources_withNodes ctx.keepsPlatforms_self mode
  rw [nodes, List.flatMap_append, List.append_assoc, ← List.append_assoc] at without
  rw [List.flatMap_append, List.flatMap_cons, List.append_assoc, List.append_assoc,
    ← List.append_assoc] at whole
  rw [← alone]
  exact Pass.finish_insert without whole (n.nodup_names_becomes ctx)
    fun s gathered r member => unrelated.name_ne gathered member

/-- A worker that may write to a bucket. -/
def worker : Document where
  config := ⟨"eu-west-1", "worker", none, none⟩
  intents := [.access ⟨"e1", "component:worker", "platform:files", [.write], none⟩]
  graph :=
    { nodes := [⟨"component:worker", [("platform", .string "compute-function")]⟩,
        ⟨"platform:files", [("platform", .string "object-store")]⟩]
      edges := [] }

/-- A function that has nothing to do with the worker. -/
def cleaner : Node :=
  ⟨"component:cleaner", [("platform", .string "compute-function")]⟩

/-- Put between the two nodes, the other function adds its role, the attachment and itself. -/
theorem lower_worker_added :
    Context.Unrelated worker cleaner ∧
      ((Adapter.standard .legacy).lower (Context.withNodes worker
          [⟨"component:worker", [("platform", .string "compute-function")]⟩, cleaner,
            ⟨"platform:files", [("platform", .string "object-store")]⟩])).resources =
        (((Adapter.standard .legacy).lower worker).resources ++
          (execRole cleaner.id cleaner.id ++
            [functionOf cleaner worker.config .none (execRoleName cleaner.id)])).mergeSort
          fun r s => r.name ≤ s.name := by
  have unrelated : Context.Unrelated worker cleaner :=
    { unmentioned := by decide
      nodes := by decide
      intents := by decide }
  refine ⟨unrelated, ?_⟩
  have split : worker.graph.nodes =
      [⟨"component:worker", [("platform", .string "compute-function")]⟩] ++
        [⟨"platform:files", [("platform", .string "object-store")]⟩] := rfl
  have alone : cleaner.alone worker = execRole cleaner.id cleaner.id ++
      [functionOf cleaner worker.config .none (execRoleName cleaner.id)] := rfl
  have added := lower_added .legacy unrelated split
  rw [alone, List.singleton_append] at added
  exact added

end CloudPlan
