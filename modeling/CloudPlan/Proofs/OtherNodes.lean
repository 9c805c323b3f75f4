import CloudPlan.Proofs.FailingIntents
import CloudPlan.Proofs.Kinds

/-!
# The same document with other nodes

Intents and edges mention nodes by id, and of a node that they mention lowering looks at the
platform alone. So with other nodes they become the same, if the ids that are mentioned keep their
platforms (`Context.KeepsPlatforms`), and a node becomes the same in either document. What is
gathered from the other nodes is then told by one function of a node (`resources_withNodes`). The
names of what a node becomes are its short name with one of the tails of its platform, and they tell
the short name and the platform (`Platform.append_tail_inj`).
-/

set_option autoImplicit false

namespace CloudPlan

/-- The document with other nodes. -/
def Context.withNodes (ctx : Context) (nodes : List Node) : Context :=
  { ctx with graph := { ctx.graph with nodes := nodes } }

/-- The node ids that a value source mentions. -/
def ValueSource.nodeIds : ValueSource → List String
  | .reference node _ => [node]
  | .literal _ | .secret _ => []

/-- The node ids that an intent mentions. -/
def Intent.nodeIds : Intent → List String
  | .access i => [i.principal, i.resource]
  | .network i => [i.source, i.target]
  | .config i => i.target :: i.source.nodeIds
  | .telemetry i => i.target.toList
  | .other _ => []

/-- The node ids that an edge mentions. -/
def Edge.nodeIds (e : Edge) : List String :=
  [e.source, e.target]

/-- The node ids that intents or edges mention. -/
def Context.mentioned (ctx : Context) : List String :=
  ctx.intents.flatMap Intent.nodeIds ++ ctx.graph.edges.flatMap Edge.nodeIds

/-- With other nodes all ids that are mentioned have the same platforms. -/
def Context.KeepsPlatforms (ctx : Context) (nodes : List Node) : Prop :=
  ∀ id ∈ ctx.mentioned, (ctx.withNodes nodes).platformOf? id = ctx.platformOf? id

/-- What a node becomes with what the intents say about it. -/
def Node.becomes (n : Node) (ctx : Context) : List Resource :=
  match n.knownPlatform? with
  | none => []
  | some p => made (p.lower n ctx (ctx.needsAt n.id))

namespace Context

variable {ctx : Context} {nodes : List Node}

/-- The ids in an intent are mentioned. -/
theorem mentioned_of_intent {x : Intent} (intent : x ∈ ctx.intents) {id : String}
    (member : id ∈ x.nodeIds) : id ∈ ctx.mentioned :=
  List.mem_append_left _ (List.mem_flatMap.mpr ⟨x, intent, member⟩)

/-- So are the ends of an edge. -/
theorem mentioned_of_edge {e : Edge} (edge : e ∈ ctx.graph.edges) {id : String}
    (member : id ∈ e.nodeIds) : id ∈ ctx.mentioned :=
  List.mem_append_right _ (List.mem_flatMap.mpr ⟨e, edge, member⟩)

/-! ## Intents and edges become the same -/

section Same

variable (same : ctx.KeepsPlatforms nodes)

include same

/-- A config intent has the same value: the platform that it refers to is the same. -/
theorem value_withNodes {i : ConfigIntent} (intent : .config i ∈ ctx.intents) :
    i.source.value (ctx.withNodes nodes) = i.source.value ctx := by
  cases source : i.source with
  | literal v => rfl
  | secret name => rfl
  | reference node field =>
    have member : node ∈ (Intent.config i).nodeIds := by
      simp [Intent.nodeIds, source, ValueSource.nodeIds]
    have platform := same node (mentioned_of_intent intent member)
    simp only [ValueSource.value, knownPlatformOf?, platform]

/-- An access intent becomes the same. -/
theorem access_withNodes {i : AccessIntent} (intent : .access i ∈ ctx.intents) :
    i.lower (ctx.withNodes nodes) = i.lower ctx := by
  have member : i.resource ∈ (Intent.access i).nodeIds := by simp [Intent.nodeIds]
  have platform := same i.resource (mentioned_of_intent intent member)
  simp only [AccessIntent.lower, platform]

/-- So does a config intent. -/
theorem config_withNodes {i : ConfigIntent} (intent : .config i ∈ ctx.intents) :
    i.lower (ctx.withNodes nodes) = i.lower ctx := by
  have parameter : i.parameter (ctx.withNodes nodes) = i.parameter ctx := by
    simp only [ConfigIntent.parameter, value_withNodes same intent]
    rfl
  simp only [ConfigIntent.lower, parameter]

/-- So an intent does the same to a pass. -/
theorem lowerIntent_withNodes (mode : LookupMode) (pass : Pass) {x : Intent}
    (intent : x ∈ ctx.intents) :
    (Adapter.standard mode).lowerIntent (ctx.withNodes nodes) pass x =
      (Adapter.standard mode).lowerIntent ctx pass x := by
  cases x with
  | access i =>
    have lowered := access_withNodes same intent
    cases outcome : i.lower ctx with
    | ok resources =>
      rw [outcome] at lowered
      rw [Adapter.lowerIntent_access_of_ok mode ctx pass outcome,
        Adapter.lowerIntent_access_of_ok mode _ pass lowered]
    | error e =>
      rw [outcome] at lowered
      rw [Adapter.lowerIntent_access_of_error mode ctx pass outcome,
        Adapter.lowerIntent_access_of_error mode _ pass lowered]
  | config i =>
    rw [Adapter.lowerIntent_config, Adapter.lowerIntent_config, config_withNodes same intent]
  | network i => rfl
  | telemetry i => rfl
  | other i => rfl

/-- After all intents the passes are the same. -/
theorem lowerIntents_withNodes (mode : LookupMode) :
    (Adapter.standard mode).lowerIntents (ctx.withNodes nodes) .start =
      (Adapter.standard mode).lowerIntents ctx .start :=
  List.foldl_ext _ _ _ fun pass _ intent => lowerIntent_withNodes same mode pass intent

/-- The intents say the same about every node. -/
theorem needsAt_withNodes (id : String) : (ctx.withNodes nodes).needsAt id = ctx.needsAt id := by
  refine List.foldl_ext _ _ _ fun needs x intent => ?_
  cases x with
  | config i => simp only [Needs.addIntent, value_withNodes same intent]
  | access i => rfl
  | network i => rfl
  | telemetry i => rfl
  | other i => rfl

/-- The edges between nodes of two platforms are the same. -/
theorem edgesBetween_withNodes (type : EdgeType) (source target : Platform) :
    (ctx.withNodes nodes).edgesBetween type source target =
      ctx.edgesBetween type source target := by
  refine List.filter_congr fun e edge => ?_
  have first := same e.source (mentioned_of_edge edge (by simp [Edge.nodeIds]))
  have second := same e.target (mentioned_of_edge edge (by simp [Edge.nodeIds]))
  rw [first, second]

/-- Hence event mappings are the same. -/
theorem eventMappings_withNodes : eventMappings (ctx.withNodes nodes) = eventMappings ctx := by
  rw [eventMappings, edgesBetween_withNodes same, eventMappings]

/-- So are integrations, routes and permissions. -/
theorem httpIntegrations_withNodes :
    httpIntegrations (ctx.withNodes nodes) = httpIntegrations ctx := by
  rw [httpIntegrations, edgesBetween_withNodes same, httpIntegrations]

end Same

/-! ## What nodes become -/

/-- A node is lowered without a look at the other nodes. -/
theorem lower_withNodes (p : Platform) (n : Node) (needs : Needs) :
    p.lower n (ctx.withNodes nodes) needs = p.lower n ctx needs := by
  cases p with
  | computeFunction => rfl
  | queue => rfl
  | keyValueTable => rfl
  | objectStore => rfl
  | httpGateway => rfl
  | pubsubTopic => rfl

/-- So it becomes the same in either document. -/
theorem becomes_withNodes (same : ctx.KeepsPlatforms nodes) (n : Node) :
    n.becomes (ctx.withNodes nodes) = n.becomes ctx := by
  simp only [Node.becomes, lower_withNodes, needsAt_withNodes same]

/-- That is what it becomes in the pass of its own document. -/
theorem made_nodeOutcome (mode : LookupMode) {n : Node} (present : n ∈ ctx.graph.nodes) :
    made ((Adapter.standard mode).nodeOutcome ctx n) = n.becomes ctx := by
  rw [Adapter.nodeOutcome_standard mode ctx present, Node.becomes]
  cases n.knownPlatform? <;> rfl

/-- Everything gathered with other nodes. -/
theorem resources_withNodes (same : ctx.KeepsPlatforms nodes) (mode : LookupMode) :
    ((Adapter.standard mode).gather (ctx.withNodes nodes)).resources =
      ((Adapter.standard mode).lowerIntents ctx .start).resources ++
        ((nodes.flatMap fun n => n.becomes ctx) ++
          (eventMappings ctx ++ httpIntegrations ctx)) := by
  have each : ∀ n ∈ nodes,
      made ((Adapter.standard mode).nodeOutcome (ctx.withNodes nodes) n) = n.becomes ctx := by
    intro n present
    rw [made_nodeOutcome mode present, becomes_withNodes same]
  rw [Adapter.resources_gather, lowerIntents_withNodes same, eventMappings_withNodes same,
    httpIntegrations_withNodes same]
  exact congrArg (fun rs => _ ++ (rs ++ _)) (List.flatMap_congr each)

/-- A document keeps its own platforms. -/
theorem keepsPlatforms_self (ctx : Context) : ctx.KeepsPlatforms ctx.graph.nodes :=
  fun _ _ => rfl

/-- Everything reported with other nodes. -/
theorem diagnostics_withNodes (same : ctx.KeepsPlatforms nodes) (mode : LookupMode) :
    ((Adapter.standard mode).lower (ctx.withNodes nodes)).diagnostics =
      ((Adapter.standard mode).lowerIntents ctx .start).diagnostics ++
        nodes.flatMap fun n => Adapter.nodeReports ctx (ctx.needsAt n.id) n := by
  have each : ∀ n ∈ nodes,
      Adapter.nodeReports (ctx.withNodes nodes)
        ((Entries.get? (needsOf (ctx.withNodes nodes)) n.id).getD .none) n =
      Adapter.nodeReports ctx (ctx.needsAt n.id) n := by
    intro n present
    rw [getD_needsOf (ctx.withNodes nodes) present, needsAt_withNodes same]
    unfold Adapter.nodeReports
    simp only [lower_withNodes]
  rw [Adapter.diagnostics_lower, lowerIntents_withNodes same]
  exact congrArg (fun ds => _ ++ ds) (List.flatMap_congr each)

end Context

/-! ## Names of what nodes become -/

namespace Platform

/-- What follows the short name of a node in the names of what it becomes. -/
def tails : Platform → List String
  | .computeFunction => ["-exec-role", "-exec-role-basic", "-function"]
  | .queue => ["-queue"]
  | .keyValueTable => ["-table"]
  | .objectStore => ["-bucket", "-bucket-versioning"]
  | .httpGateway => ["-api", "-stage"]
  | .pubsubTopic => ["-topic"]

/-- The tails of a platform are distinct. -/
theorem nodup_tails (p : Platform) : p.tails.Nodup := by
  cases p <;> decide

/-- Every tail has a dash in it. -/
theorem dash_mem_tail {p : Platform} {t : String} (tail : t ∈ p.tails) : '-' ∈ t.toList := by
  have all : ∀ t ∈ p.tails, '-' ∈ t.toList := by cases p <;> decide
  exact all t tail

/-- The last word of a tail tells the tail and the platform. -/
theorem tail_inj {p q : Platform} {t u : String} (first : t ∈ p.tails) (second : u ∈ q.tails)
    (same : ending t = ending u) : p = q ∧ t = u := by
  have all : ∀ t ∈ p.tails, ∀ u ∈ q.tails, ending t = ending u → p = q ∧ t = u := by
    cases p <;> cases q <;> decide
  exact all t first u second same

/-- A short name and a tail can be told from the name that they make. -/
theorem append_tail_inj {p q : Platform} {a b t u : String} (first : t ∈ p.tails)
    (second : u ∈ q.tails) (same : a ++ t = b ++ u) : p = q ∧ a = b ∧ t = u := by
  have words : ending t = ending u := by
    rw [← ending_append (dash_mem_tail first), same, ending_append (dash_mem_tail second)]
  obtain ⟨rfl, rfl⟩ := tail_inj first second words
  exact ⟨rfl, String.append_left_inj _ |>.mp same, rfl⟩

/-- What a node becomes is named by some of the tails of its platform, in order. -/
theorem names_lower (p : Platform) (n : Node) (ctx : Context) (needs : Needs) :
    ∃ ts : List String, ts.Sublist p.tails ∧
      (made (p.lower n ctx needs)).map Resource.name = ts.map fun t => n.shortName ++ t := by
  cases p with
  | computeFunction =>
    simp only [lower, lowerFunction]
    cases needs.role with
    | some role =>
      refine ⟨["-function"], by decide, ?_⟩
      simp [made, resourceName, suffix, String.append_assoc]
    | none =>
      refine ⟨_, List.Sublist.refl _, ?_⟩
      simp [made, tails, execRole, executionRole, basicAttachment, execRoleName, resourceName,
        CloudPlan.resourceName, suffix, String.append_assoc, Node.shortName]
  | queue =>
    refine ⟨_, List.Sublist.refl _, ?_⟩
    simp [made, tails, lower, lowerQueue, resourceName, suffix, String.append_assoc]
  | keyValueTable =>
    simp only [lower, lowerTable, bind, Except.bind]
    split
    · exact ⟨[], List.nil_sublist _, rfl⟩
    · split
      · exact ⟨[], List.nil_sublist _, rfl⟩
      · refine ⟨_, List.Sublist.refl _, ?_⟩
        simp [made, tails, pure, Except.pure, resourceName, suffix, String.append_assoc]
  | objectStore =>
    simp only [lower, lowerBucket]
    split
    · refine ⟨_, List.Sublist.refl _, ?_⟩
      simp [made, tails, versioningOf, resourceName, CloudPlan.resourceName, suffix,
        String.append_assoc]
    · refine ⟨["-bucket"], by decide, ?_⟩
      simp [made, resourceName, suffix, String.append_assoc]
  | httpGateway =>
    refine ⟨_, List.Sublist.refl _, ?_⟩
    simp [made, tails, lower, lowerGateway, stageOf, resourceName, CloudPlan.resourceName, suffix,
      String.append_assoc]
  | pubsubTopic =>
    refine ⟨_, List.Sublist.refl _, ?_⟩
    simp [made, tails, lower, lowerTopic, resourceName, suffix, String.append_assoc]

/-- What a node becomes has distinct names. -/
theorem nodup_names_lower (p : Platform) (n : Node) (ctx : Context) (needs : Needs) :
    ((made (p.lower n ctx needs)).map Resource.name).Nodup := by
  obtain ⟨ts, some, names⟩ := p.names_lower n ctx needs
  rw [names]
  exact (p.nodup_tails.sublist some).map fun t u same => String.append_right_inj _ |>.mp same

/-- What a node becomes is named by a tail of its platform. -/
theorem exists_tail {p : Platform} {n : Node} {ctx : Context} {needs : Needs} {r : Resource}
    (member : r ∈ made (p.lower n ctx needs)) : ∃ t ∈ p.tails, r.name = n.shortName ++ t := by
  obtain ⟨ts, some, names⟩ := p.names_lower n ctx needs
  have named : r.name ∈ (made (p.lower n ctx needs)).map Resource.name := List.mem_map_of_mem member
  rw [names, List.mem_map] at named
  obtain ⟨t, tail, same⟩ := named
  exact ⟨t, some.subset tail, same.symm⟩

end Platform

namespace Node

variable {n : Node} {ctx : Context}

/-- What one node becomes has distinct names. -/
theorem nodup_names_becomes (n : Node) (ctx : Context) :
    ((n.becomes ctx).map Resource.name).Nodup := by
  unfold becomes
  cases n.knownPlatform? with
  | none => exact List.nodup_nil
  | some p => exact p.nodup_names_lower n ctx _

/-- What a node becomes is named by a tail of its platform. -/
theorem exists_tail {r : Resource} (member : r ∈ n.becomes ctx) :
    ∃ p, n.knownPlatform? = some p ∧ ∃ t ∈ p.tails, r.name = n.shortName ++ t := by
  unfold becomes at member
  cases platform : n.knownPlatform? with
  | none =>
    rw [platform] at member
    cases member
  | some p =>
    rw [platform] at member
    exact ⟨p, rfl, Platform.exists_tail member⟩

end Node

/-! ## Distinct keys -/

section Distinct

variable {α : Type} {key : α → String} {xs ys : List α}

/-- Among items with distinct keys exactly the one with a key is found under it. -/
theorem find?_eq_some_iff_of_nodup (distinct : (xs.map key).Nodup) {k : String} {x : α} :
    xs.find? (fun y => key y == k) = some x ↔ x ∈ xs ∧ key x = k := by
  constructor
  · intro found
    exact ⟨List.mem_of_find?_eq_some found, by simpa using List.find?_some found⟩
  · rintro ⟨member, rfl⟩
    obtain ⟨y, found⟩ : ∃ y, xs.find? (fun y => key y == key x) = some y := by
      rw [← Option.isSome_iff_exists, List.find?_isSome]
      exact ⟨x, member, beq_self_eq_true _⟩
    have same : key y = key x := by simpa using List.find?_some found
    rw [found, List.inj_on_of_nodup_map distinct (List.mem_of_find?_eq_some found) member same]

/-- Among items with distinct keys the order does not matter. -/
theorem find?_perm (distinct : (xs.map key).Nodup) (reordered : xs.Perm ys) (k : String) :
    xs.find? (fun x => key x == k) = ys.find? fun x => key x == k := by
  have distinct' : (ys.map key).Nodup := (reordered.map key).nodup_iff.mp distinct
  apply Option.ext
  intro x
  rw [find?_eq_some_iff_of_nodup distinct, find?_eq_some_iff_of_nodup distinct',
    reordered.mem_iff]

end Distinct

end CloudPlan
