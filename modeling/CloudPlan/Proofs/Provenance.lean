import CloudPlan.Proofs.Names
import CloudPlan.Proofs.Needs
import CloudPlan.Proofs.Pass
import CloudPlan.Proofs.References
import CloudPlan.Proofs.Registry

/-!
# Where resources come from

`Context.Yields` lists what a document may be lowered to: one case for each builder of resources,
with what the document has to say for it to be used. Every gathered resource is of that list
(`yields_of_mem_gather`), and a run without errors gathers what the list promises. The last part of
a name tells the type of a resource, so two resources of one name are of one type.
-/

set_option autoImplicit false

namespace CloudPlan

/-- The platform of a node, if it is a known one. -/
def Node.knownPlatform? (node : Node) : Option Platform :=
  node.platform?.bind Platform.ofName?

/-- A node of the document runs on a platform. -/
structure Context.Hosts (ctx : Context) (node : Node) (p : Platform) : Prop where
  present : node ∈ ctx.graph.nodes
  platform : node.knownPlatform? = some p

/-- An execution role is made for the node with an id: it is granted access, or it is a function. -/
inductive Context.Principal (ctx : Context) : String → Prop where
  | granted {i : AccessIntent} (intent : .access i ∈ ctx.intents) : Principal ctx i.principal
  | function {n : Node} (node : ctx.Hosts n .computeFunction) : Principal ctx n.id

/-- What a document may be lowered to. -/
inductive Context.Yields (ctx : Context) : Resource → Prop where
  | role {id source : String} (principal : ctx.Principal id) : Yields ctx (executionRole id source)
  | basic {id source : String} (principal : ctx.Principal id) :
      Yields ctx (basicAttachment id source)
  | policy {i : AccessIntent} {p : Platform} {scope : Value} (intent : .access i ∈ ctx.intents)
      (platform : ctx.knownPlatformOf? i.resource = some p) (within : scopeValue i p = .ok scope) :
      Yields ctx (accessPolicy i p (p.actionsFor i.levels) scope)
  | attachment {i : AccessIntent} {p : Platform} (intent : .access i ∈ ctx.intents)
      (platform : ctx.knownPlatformOf? i.resource = some p) : Yields ctx (accessAttachment i)
  | parameter {i : ConfigIntent} (intent : .config i ∈ ctx.intents) : Yields ctx (i.parameter ctx)
  | function {n : Node} (node : ctx.Hosts n .computeFunction) :
      Yields ctx (functionOf n ctx.config (ctx.needsAt n.id) (execRoleName n.id))
  | queue {n : Node} (node : ctx.Hosts n .queue) : Yields ctx (queueOf n)
  | table {n : Node} {hash : KeyAttribute} {range : Option KeyAttribute}
      (node : ctx.Hosts n .keyValueTable) : Yields ctx (tableOf n hash range)
  | bucket {n : Node} (node : ctx.Hosts n .objectStore) : Yields ctx (bucketOf n)
  | versioning {n : Node} (node : ctx.Hosts n .objectStore) : Yields ctx (versioningOf n)
  | api {n : Node} (node : ctx.Hosts n .httpGateway) : Yields ctx (apiOf n ctx.config)
  | stage {n : Node} (node : ctx.Hosts n .httpGateway) : Yields ctx (stageOf n)
  | topic {n : Node} (node : ctx.Hosts n .pubsubTopic) : Yields ctx (topicOf n)
  | mapping {e : Edge} (edge : e ∈ ctx.edgesBetween .bindsTo .computeFunction .queue) :
      Yields ctx (eventMapping e)
  | integration {e : Edge} (edge : e ∈ ctx.edgesBetween .triggers .httpGateway .computeFunction) :
      Yields ctx (integrationOf e)
  | route {e : Edge} (edge : e ∈ ctx.edgesBetween .triggers .httpGateway .computeFunction) :
      Yields ctx (routeOf e)
  | permission {e : Edge} (edge : e ∈ ctx.edgesBetween .triggers .httpGateway .computeFunction) :
      Yields ctx (permissionOf e)

namespace Context

/-- The known platform of an id is that of its first node. -/
theorem knownPlatformOf?_eq (ctx : Context) (id : String) :
    ctx.knownPlatformOf? id = (ctx.graph.node? id).bind Node.knownPlatform? := by
  unfold knownPlatformOf? platformOf? Graph.platformOf?
  cases ctx.graph.node? id <;> rfl

/-- An id is of a known platform if its platform bears that one's name. -/
theorem knownPlatformOf?_eq_some_iff {ctx : Context} {id : String} {p : Platform} :
    ctx.knownPlatformOf? id = some p ↔ ctx.platformOf? id = some p.name := by
  unfold knownPlatformOf?
  rw [Option.bind_eq_some_iff]
  constructor
  · rintro ⟨name, platform, known⟩
    rw [platform, Platform.ofName?_eq_some_iff.mp known]
  · intro platform
    exact ⟨p.name, platform, Platform.ofName?_name p⟩

/-- An id of a known platform is that of a node that runs there. -/
theorem exists_host {ctx : Context} {id : String} {p : Platform}
    (known : ctx.knownPlatformOf? id = some p) : ∃ n, ctx.Hosts n p ∧ n.id = id := by
  rw [knownPlatformOf?_eq, Option.bind_eq_some_iff] at known
  obtain ⟨n, first, platform⟩ := known
  have same := List.find?_some first
  exact ⟨n, ⟨List.mem_of_find?_eq_some first, platform⟩, beq_iff_eq.mp same⟩

/-- The ends of a selected edge run on the two platforms. -/
theorem platforms_of_mem_edgesBetween {ctx : Context} {type : EdgeType} {source target : Platform}
    {e : Edge} (selected : e ∈ ctx.edgesBetween type source target) :
    ctx.knownPlatformOf? e.source = some source ∧ ctx.knownPlatformOf? e.target = some target := by
  unfold edgesBetween at selected
  have test := (List.mem_filter.mp selected).2
  simp only [Bool.and_eq_true, beq_iff_eq] at test
  exact ⟨knownPlatformOf?_eq_some_iff.mpr test.1.2, knownPlatformOf?_eq_some_iff.mpr test.2⟩

/-- The role of a function is its execution role, whoever asked for it. -/
theorem role_needsAt (ctx : Context) (id : String) :
    (ctx.needsAt id).role.getD (execRoleName id) = execRoleName id := by
  cases given : (ctx.needsAt id).role with
  | none => rfl
  | some role => exact ((ctx.asked_needsAt id).role role given).1

end Context

/-! ## Outcomes of the standard adapter -/

/-- What an access intent becomes on a platform, given its scope. -/
def AccessIntent.resources (i : AccessIntent) (p : Platform) (scope : Value) : List Resource :=
  execRole i.principal i.edge ++
    [accessPolicy i p (p.actionsFor i.levels) scope, accessAttachment i]

/-- An access intent can be lowered if it asks for something, its resource is of a known platform
and its scope is well formed. -/
theorem AccessIntent.lower_eq_ok_iff {i : AccessIntent} {ctx : Context}
    {resources : List Resource} :
    i.lower ctx = .ok resources ↔
      i.levels ≠ [] ∧ ∃ p scope, ctx.knownPlatformOf? i.resource = some p ∧
        scopeValue i p = .ok scope ∧ resources = i.resources p scope := by
  unfold lower Context.knownPlatformOf?
  by_cases empty : i.levels = []
  · simp [empty]
  · rw [if_neg (by simp [empty])]
    cases ctx.platformOf? i.resource with
    | none => simp
    | some platform =>
      simp only [Option.bind_some]
      cases Platform.ofName? platform with
      | none => simp
      | some p =>
        simp only [bind, Except.bind, pure, Except.pure, Option.some.injEq]
        cases within : scopeValue i p with
        | error e => simp [within]
        | ok scope =>
          simp only [Except.ok.injEq, ne_eq, empty, not_false_iff, true_and]
          constructor
          · rintro rfl
            exact ⟨p, scope, rfl, within, rfl⟩
          · rintro ⟨q, other, rfl, within', rfl⟩
            rw [within, Except.ok.injEq] at within'
            rw [within']
            rfl

/-- A function node is lowered to its function, with an execution role if no intent gives one. -/
theorem lowerFunction_needsAt (ctx : Context) (n : Node) :
    lowerFunction n ctx (ctx.needsAt n.id) = .ok
      ((if (ctx.needsAt n.id).role.isSome then [] else execRole n.id n.id) ++
        [functionOf n ctx.config (ctx.needsAt n.id) (execRoleName n.id)]) := by
  have role := ctx.role_needsAt n.id
  unfold lowerFunction
  cases given : (ctx.needsAt n.id).role with
  | none => rfl
  | some r =>
    rw [given, Option.getD_some] at role
    subst role
    rfl

namespace Adapter

variable (mode : LookupMode) (ctx : Context)

/-- Only access and config intents yield anything. -/
theorem intentOutcome_standard (intent : Intent) :
    (standard mode).intentOutcome ctx intent =
      match intent with
      | .access i => i.lower ctx
      | .config i => i.lower ctx
      | _ => .ok [] := by
  cases intent <;> rfl

/-- A node of a known platform is lowered with what the intents say about it; another one yields
nothing. -/
theorem nodeOutcome_standard {n : Node} (present : n ∈ ctx.graph.nodes) :
    (standard mode).nodeOutcome ctx n =
      match n.knownPlatform? with
      | none => .ok []
      | some p => p.lower n ctx (ctx.needsAt n.id) := by
  unfold nodeOutcome Node.knownPlatform?
  have lookups : n.platform?.bind (standard mode).nodeLowerer? =
      (n.platform?.bind Platform.ofName?).map NodeLowerer.ofPlatform := by
    cases n.platform? with
    | none => rfl
    | some platform => exact nodeLowerer?_standard mode platform
  rw [lookups, getD_needsOf ctx present]
  cases n.platform?.bind Platform.ofName? <;> rfl

end Adapter

/-! ## Everything gathered is of the list -/

/-- What an access intent is lowered to is yielded by the document. -/
theorem Context.yields_of_access {ctx : Context} {i : AccessIntent}
    (intent : .access i ∈ ctx.intents) {r : Resource} (member : r ∈ made (i.lower ctx)) :
    ctx.Yields r := by
  cases lowered : i.lower ctx with
  | error e =>
    rw [lowered] at member
    cases member
  | ok resources =>
    obtain ⟨_, p, scope, platform, within, rfl⟩ := AccessIntent.lower_eq_ok_iff.mp lowered
    rw [lowered] at member
    simp only [made, AccessIntent.resources, execRole, List.cons_append, List.nil_append,
      List.mem_cons, List.not_mem_nil, or_false] at member
    rcases member with rfl | rfl | rfl | rfl
    · exact .role (.granted intent)
    · exact .basic (.granted intent)
    · exact .policy intent platform within
    · exact .attachment intent platform

/-- So is what a config intent is lowered to. -/
theorem Context.yields_of_config {ctx : Context} {i : ConfigIntent}
    (intent : .config i ∈ ctx.intents) {r : Resource} (member : r ∈ made (i.lower ctx)) :
    ctx.Yields r := by
  unfold ConfigIntent.lower at member
  split at member
  · cases member
  · obtain rfl := List.mem_singleton.mp member
    exact .parameter intent

/-- So is what a node is lowered to. -/
theorem Context.Hosts.yields {ctx : Context} {n : Node} {p : Platform} (host : ctx.Hosts n p)
    {r : Resource} (member : r ∈ made (p.lower n ctx (ctx.needsAt n.id))) : ctx.Yields r := by
  cases p with
  | computeFunction =>
    rw [Platform.lower, lowerFunction_needsAt, made, List.mem_append] at member
    rcases member with early | late
    · split at early
      · cases early
      · simp only [execRole, List.mem_cons, List.not_mem_nil, or_false] at early
        rcases early with rfl | rfl
        · exact .role (.function host)
        · exact .basic (.function host)
    · obtain rfl := List.mem_singleton.mp late
      exact .function host
  | queue =>
    obtain rfl := List.mem_singleton.mp member
    exact .queue host
  | keyValueTable =>
    simp only [Platform.lower, lowerTable, bind, Except.bind] at member
    split at member
    · cases member
    · split at member
      · cases member
      · obtain rfl := List.mem_singleton.mp member
        exact .table host
  | objectStore =>
    rcases List.mem_cons.mp member with rfl | second
    · exact .bucket host
    · split at second
      · obtain rfl := List.mem_singleton.mp second
        exact .versioning host
      · cases second
  | httpGateway =>
    rcases List.mem_cons.mp member with rfl | second
    · exact .api host
    · obtain rfl := List.mem_singleton.mp second
      exact .stage host
  | pubsubTopic =>
    obtain rfl := List.mem_singleton.mp member
    exact .topic host

/-- Whatever intents, nodes and edges become is of the list. -/
theorem Context.yields_of_origin {mode : LookupMode} {ctx : Context} {r : Resource}
    (origin : (∃ intent ∈ ctx.intents,
        r ∈ made ((Adapter.standard mode).intentOutcome ctx intent)) ∨
      (∃ node ∈ ctx.graph.nodes, r ∈ made ((Adapter.standard mode).nodeOutcome ctx node)) ∨
      r ∈ eventMappings ctx ∨ r ∈ httpIntegrations ctx) : ctx.Yields r := by
  rcases origin with ⟨intent, present, member⟩ | ⟨n, present, member⟩ | mapping | integration
  · rw [Adapter.intentOutcome_standard] at member
    cases intent with
    | access i => exact yields_of_access present member
    | config i => exact yields_of_config present member
    | network i => cases member
    | telemetry i => cases member
    | other i => cases member
  · rw [Adapter.nodeOutcome_standard mode ctx present] at member
    cases platform : n.knownPlatform? with
    | none =>
      rw [platform] at member
      cases member
    | some p =>
      rw [platform] at member
      exact Hosts.yields ⟨present, platform⟩ member
  · obtain ⟨e, edge, rfl⟩ := List.mem_map.mp mapping
    exact .mapping edge
  · obtain ⟨e, edge, member⟩ := List.mem_flatMap.mp integration
    simp only [httpIntegration, List.mem_cons, List.not_mem_nil, or_false] at member
    rcases member with rfl | rfl | rfl
    · exact .integration edge
    · exact .route edge
    · exact .permission edge

/-- Everything gathered is of the list. -/
theorem Context.yields_of_mem_gather {mode : LookupMode} {ctx : Context} {r : Resource}
    (gathered : r ∈ ((Adapter.standard mode).gather ctx).resources) : ctx.Yields r :=
  yields_of_origin (Adapter.mem_gather _ _ gathered)

/-- What is kept in the end is of the list. -/
theorem Context.yields_of_mem_lower {mode : LookupMode} {ctx : Context} {r : Resource}
    (kept : r ∈ ((Adapter.standard mode).lower ctx).resources) : ctx.Yields r :=
  yields_of_mem_gather (Pass.mem_of_mem_finish kept)

/-! ## A run without errors gathers what the list promises -/

section Clean

variable {mode : LookupMode} {ctx : Context} (clean : ((Adapter.standard mode).gather ctx).Clean)

include clean

/-- Every access intent becomes its role, its policy and their attachments. -/
theorem gathers_access {i : AccessIntent} (intent : .access i ∈ ctx.intents) :
    ∃ p scope, ctx.knownPlatformOf? i.resource = some p ∧ scopeValue i p = .ok scope ∧
      ∀ r ∈ i.resources p scope, r ∈ ((Adapter.standard mode).gather ctx).resources := by
  obtain ⟨intents, _, resources⟩ := Adapter.outcomes_of_clean _ _ clean
  obtain ⟨made_i, outcome⟩ := intents _ intent
  have lowered := outcome
  rw [Adapter.intentOutcome_standard] at lowered
  obtain ⟨_, p, scope, platform, within, rfl⟩ := AccessIntent.lower_eq_ok_iff.mp lowered
  refine ⟨p, scope, platform, within, ?_⟩
  intro r member
  rw [resources]
  simp only [List.mem_append, List.mem_flatMap]
  refine Or.inl (Or.inl (Or.inl ⟨_, intent, ?_⟩))
  rw [outcome]
  exact member

/-- Every node of a known platform can be lowered. -/
theorem gathers_node {n : Node} {p : Platform} (host : ctx.Hosts n p) :
    ∃ made_n, p.lower n ctx (ctx.needsAt n.id) = .ok made_n ∧
      ∀ r ∈ made_n, r ∈ ((Adapter.standard mode).gather ctx).resources := by
  obtain ⟨_, nodes, resources⟩ := Adapter.outcomes_of_clean _ _ clean
  obtain ⟨made_n, outcome⟩ := nodes _ host.present
  have lowered := outcome
  rw [Adapter.nodeOutcome_standard mode ctx host.present, host.platform] at lowered
  refine ⟨made_n, lowered, ?_⟩
  intro r member
  rw [resources]
  simp only [List.mem_append, List.mem_flatMap]
  refine Or.inl (Or.inl (Or.inr ⟨_, host.present, ?_⟩))
  rw [outcome]
  exact member

/-- Every edge on which a gateway triggers a function becomes an integration. -/
theorem gathers_trigger {e : Edge}
    (edge : e ∈ ctx.edgesBetween .triggers .httpGateway .computeFunction) :
    ∀ r ∈ httpIntegration e, r ∈ ((Adapter.standard mode).gather ctx).resources := by
  intro r member
  rw [(Adapter.outcomes_of_clean _ _ clean).2.2]
  exact List.mem_append_right _ (List.mem_flatMap.mpr ⟨e, edge, member⟩)

/-- Every principal gets its execution role. -/
theorem gathers_role {id : String} (principal : ctx.Principal id) :
    ∃ source, executionRole id source ∈ ((Adapter.standard mode).gather ctx).resources := by
  have granted : ∀ i, .access i ∈ ctx.intents →
      executionRole i.principal i.edge ∈ ((Adapter.standard mode).gather ctx).resources := by
    intro i intent
    obtain ⟨p, scope, _, _, gathered⟩ := gathers_access clean intent
    exact gathered _ List.mem_cons_self
  cases principal with
  | @granted i intent => exact ⟨_, granted i intent⟩
  | @function n host =>
    cases role : (ctx.needsAt n.id).role with
    | some r =>
      obtain ⟨_, i, intent, same⟩ := (ctx.asked_needsAt n.id).role r role
      rw [← same]
      exact ⟨_, granted i intent⟩
    | none =>
      obtain ⟨made_n, lowered, gathered⟩ := gathers_node clean host
      rw [Platform.lower, lowerFunction_needsAt, role] at lowered
      cases lowered
      exact ⟨_, gathered _ List.mem_cons_self⟩

end Clean

end CloudPlan
