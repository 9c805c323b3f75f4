import CloudPlan.Proofs.Provenance

/-!
# Names tell kinds

Every builder of resources ends its names in a word of its own, so what stands after the last dash
of a name tells the kind of the resource. Therefore it does no harm to references that only the
first resource of a name is kept: that one is of the same type (`exists_kept`). Which kinds come from
intents, from nodes and from edges is told by the lemmas on `OfKinds`; a node becomes one primary
resource and others of auxiliary kinds (`Platform.lower_primary`).
-/

set_option autoImplicit false

namespace CloudPlan

/-- The kind of the primary resource of a platform. -/
def Platform.kind : Platform → ResourceKind
  | .computeFunction => .function
  | .queue => .queue
  | .keyValueTable => .table
  | .objectStore => .bucket
  | .httpGateway => .api
  | .pubsubTopic => .topic

/-- The last words of names, and the kind of resource that each stands for. -/
def endings : Entries ResourceKind :=
  [("role", .role), ("basic", .rolePolicyAttachment), ("policy", .policy),
   ("attachment", .rolePolicyAttachment), ("param", .parameter), ("function", .function),
   ("queue", .queue), ("table", .table), ("bucket", .bucket), ("versioning", .bucketVersioning),
   ("api", .api), ("stage", .stage), ("topic", .topic), ("mapping", .eventSourceMapping),
   ("integration", .integration), ("route", .route), ("permission", .permission)]

/-- A resource is of the kind that its name tells. -/
structure Resource.WellNamed (r : Resource) (kind : ResourceKind) : Prop where
  name : Entries.get? endings (ending r.name) = some kind
  type : r.type = kind.token

/-- The last part of a name tells the kind. -/
theorem Resource.WellNamed.of_resourceName {r : Resource} {kind : ResourceKind}
    {short last : String} (name : r.name = resourceName short last)
    (known : Entries.get? endings (ending last) = some kind) (type : r.type = kind.token) :
    r.WellNamed kind := by
  refine ⟨?_, type⟩
  rw [name, ending_resourceName, known]

/-- What is appended to a name tells the kind if it has a dash in it. -/
theorem Resource.WellNamed.of_append {r : Resource} {kind : ResourceKind} {front last : String}
    (name : r.name = front ++ last) (dashed : '-' ∈ last.toList)
    (known : Entries.get? endings (ending last) = some kind) (type : r.type = kind.token) :
    r.WellNamed kind := by
  refine ⟨?_, type⟩
  rw [name, ending_append dashed, known]

/-- A primary resource is of the kind of its platform. -/
theorem Resource.WellNamed.of_platform {r : Resource} (p : Platform) {short : String}
    (name : r.name = p.resourceName short) (type : r.type = p.kind.token) :
    r.WellNamed p.kind := by
  refine of_resourceName (name.trans (p.resourceName_eq short)) ?_ type
  cases p <;> decide

/-! ## Endings of the names that intents make -/

@[simp] theorem ending_execRoleName (id : String) : ending (execRoleName id) = "role" := by
  rw [execRoleName, ending_resourceName]
  decide

@[simp] theorem ending_basicAttachment (id source : String) :
    ending (basicAttachment id source).name = "basic" := by
  show ending (execRoleName id ++ "-basic") = _
  rw [ending_append (by decide)]
  decide

@[simp] theorem ending_policyName (i : AccessIntent) : ending (policyName i) = "policy" := by
  rw [policyName, ending_resourceName, ending_append (by decide)]
  decide

@[simp] theorem ending_accessAttachment (i : AccessIntent) :
    ending (accessAttachment i).name = "attachment" := by
  show ending (policyName i ++ "-attachment") = _
  rw [ending_append (by decide)]
  decide

@[simp] theorem ending_parameterName (i : ConfigIntent) : ending i.parameterName = "param" := by
  rw [ConfigIntent.parameterName, ending_resourceName, ending_append (by decide)]
  decide

/-! ## Builders of resources -/

section Builders

variable {id source : String} {i : AccessIntent} {n : Node} {e : Edge}

/-- An execution role is named as a role. -/
theorem wellNamed_executionRole : (executionRole id source).WellNamed .role :=
  ⟨congrArg _ (ending_execRoleName id), rfl⟩

/-- The attachment of the basic policy is named as an attachment. -/
theorem wellNamed_basicAttachment : (basicAttachment id source).WellNamed .rolePolicyAttachment :=
  ⟨congrArg _ (ending_basicAttachment id source), rfl⟩

/-- An access policy is named as a policy. -/
theorem wellNamed_accessPolicy {p : Platform} {actions : List String} {scope : Value} :
    (accessPolicy i p actions scope).WellNamed .policy :=
  ⟨congrArg _ (ending_policyName i), rfl⟩

/-- Its attachment is named as an attachment. -/
theorem wellNamed_accessAttachment : (accessAttachment i).WellNamed .rolePolicyAttachment :=
  ⟨congrArg _ (ending_accessAttachment i), rfl⟩

/-- A parameter is named as one, however the slug of its key looks. -/
theorem wellNamed_parameter {i : ConfigIntent} {ctx : Context} :
    (i.parameter ctx).WellNamed .parameter :=
  ⟨congrArg _ (ending_parameterName i), rfl⟩

/-- The versioning of a bucket is not named as a bucket. -/
theorem wellNamed_versioningOf : (versioningOf n).WellNamed .bucketVersioning :=
  .of_resourceName rfl (by decide) rfl

/-- A stage is named as a stage. -/
theorem wellNamed_stageOf : (stageOf n).WellNamed .stage :=
  .of_resourceName rfl (by decide) rfl

/-- An event mapping is named as a mapping. -/
theorem wellNamed_eventMapping : (eventMapping e).WellNamed .eventSourceMapping :=
  .of_append rfl (by decide) (by decide) rfl

/-- An integration is named as one. -/
theorem wellNamed_integrationOf : (integrationOf e).WellNamed .integration :=
  .of_append rfl (by decide) (by decide) rfl

/-- A route is named as a route. -/
theorem wellNamed_routeOf : (routeOf e).WellNamed .route :=
  .of_append rfl (by decide) (by decide) rfl

/-- A permission is named as one. -/
theorem wellNamed_permissionOf : (permissionOf e).WellNamed .permission :=
  .of_append rfl (by decide) (by decide) rfl

end Builders

namespace Context

variable {ctx : Context}

/-- Whatever a document yields is of the kind that its name tells. -/
theorem Yields.wellNamed {r : Resource} (yields : ctx.Yields r) : ∃ kind, r.WellNamed kind := by
  cases yields with
  | role => exact ⟨_, wellNamed_executionRole⟩
  | basic => exact ⟨_, wellNamed_basicAttachment⟩
  | policy => exact ⟨_, wellNamed_accessPolicy⟩
  | attachment => exact ⟨_, wellNamed_accessAttachment⟩
  | parameter => exact ⟨_, wellNamed_parameter⟩
  | function => exact ⟨_, .of_platform .computeFunction name_functionOf type_functionOf⟩
  | queue => exact ⟨_, .of_platform .queue name_queueOf type_queueOf⟩
  | table => exact ⟨_, .of_platform .keyValueTable name_tableOf type_tableOf⟩
  | bucket => exact ⟨_, .of_platform .objectStore name_bucketOf type_bucketOf⟩
  | versioning => exact ⟨_, wellNamed_versioningOf⟩
  | api => exact ⟨_, .of_platform .httpGateway name_apiOf type_apiOf⟩
  | stage => exact ⟨_, wellNamed_stageOf⟩
  | topic => exact ⟨_, .of_platform .pubsubTopic name_topicOf type_topicOf⟩
  | mapping => exact ⟨_, wellNamed_eventMapping⟩
  | integration => exact ⟨_, wellNamed_integrationOf⟩
  | route => exact ⟨_, wellNamed_routeOf⟩
  | permission => exact ⟨_, wellNamed_permissionOf⟩

/-- Two resources of one name are of one type. -/
theorem Yields.type_eq {r s : Resource} (first : ctx.Yields r) (second : ctx.Yields s)
    (same : r.name = s.name) : r.type = s.type := by
  obtain ⟨kind, known, type⟩ := first.wellNamed
  obtain ⟨other, known', type'⟩ := second.wellNamed
  rw [same, known', Option.some.injEq] at known
  rw [type, type', known]

end Context

/-- Of everything gathered there is a resource in the end of that name and that type. -/
theorem exists_kept {mode : LookupMode} {ctx : Context} {r : Resource}
    (gathered : r ∈ ((Adapter.standard mode).gather ctx).resources) :
    ∃ s ∈ ((Adapter.standard mode).lower ctx).resources, s.name = r.name ∧ s.type = r.type := by
  obtain ⟨s, kept, same⟩ := Pass.exists_mem_finish gathered
  have first := Context.yields_of_mem_lower kept
  exact ⟨s, kept, same, first.type_eq (Context.yields_of_mem_gather gathered) same⟩

/-! ## Kinds by origin -/

namespace ResourceKind

/-- The kinds of what an intent becomes. -/
def ofIntents : List ResourceKind :=
  [.role, .rolePolicyAttachment, .policy, .parameter]

/-- The kinds of what a node becomes beside its primary resource. -/
def auxiliary : List ResourceKind :=
  [.role, .rolePolicyAttachment, .bucketVersioning, .stage]

/-- The kinds of what intents and nodes become. -/
def ofSources : List ResourceKind :=
  ofIntents ++ Platform.all.map Platform.kind ++ auxiliary

/-- The kinds of what a trigger becomes. -/
def ofTriggers : List ResourceKind :=
  [.integration, .route, .permission]

end ResourceKind

/-- A resource does not bear a name that tells another kind. -/
theorem Resource.WellNamed.ne_of_tells {r : Resource} {kind other : ResourceKind} {name : String}
    (named : r.WellNamed kind) (tells : Entries.get? endings (ending name) = some other)
    (different : kind ≠ other) : r.name ≠ name := by
  rintro rfl
  have own := named.name
  rw [tells, Option.some.injEq] at own
  exact different own.symm

/-- Resources are of some kinds, as their names tell. -/
def OfKinds (resources : List Resource) (kinds : List ResourceKind) : Prop :=
  ∀ r ∈ resources, ∃ kind ∈ kinds, r.WellNamed kind

/-- Among resources of some kinds there is none whose name tells another kind. -/
theorem OfKinds.find?_eq_none {resources : List Resource} {kinds : List ResourceKind}
    (all : OfKinds resources kinds) {name : String} {kind : ResourceKind}
    (known : Entries.get? endings (ending name) = some kind) (foreign : kind ∉ kinds) :
    resources.find? (fun r => r.name == name) = none := by
  rw [List.find?_eq_none]
  intro r present
  obtain ⟨other, listed, named⟩ := all r present
  have different : other ≠ kind := by
    rintro rfl
    exact foreign listed
  rw [beq_iff_eq]
  exact named.ne_of_tells known different

/-- A resource is the primary one of a node on a platform. -/
structure Resource.IsPrimary (r : Resource) (n : Node) (p : Platform) : Prop where
  name : r.name = p.resourceName n.shortName
  type : r.type = p.kind.token
  source : r.source = n.id

/-- The name of a primary resource tells the kind of its platform. -/
theorem Platform.get?_endings (p : Platform) (short : String) :
    Entries.get? endings (ending (p.resourceName short)) = some p.kind := by
  rw [p.resourceName_eq, ending_resourceName]
  cases p <;> decide

@[simp]
theorem Platform.kind_inj {p q : Platform} : p.kind = q.kind ↔ p = q := by
  cases p <;> cases q <;> decide

/-- The name of a primary resource tells the platform and the short name. -/
theorem Platform.resourceName_eq_iff {p q : Platform} {a b : String} :
    p.resourceName a = q.resourceName b ↔ p = q ∧ a = b := by
  constructor
  · intro same
    have known := p.get?_endings a
    rw [same, q.get?_endings, Option.some.injEq, kind_inj] at known
    subst known
    exact ⟨rfl, Platform.resourceName_inj.mp same⟩
  · rintro ⟨rfl, rfl⟩
    rfl

/-- No primary resource is of an auxiliary kind. -/
theorem Platform.kind_not_auxiliary (p : Platform) : p.kind ∉ ResourceKind.auxiliary := by
  cases p <;> decide

/-- An access intent makes a role, a policy and attachments. -/
theorem AccessIntent.ofKinds_resources {i : AccessIntent} {p : Platform} {scope : Value} :
    OfKinds (i.resources p scope) [.role, .rolePolicyAttachment, .policy] := by
  intro r member
  simp only [resources, execRole, List.cons_append, List.nil_append, List.mem_cons,
    List.not_mem_nil, or_false] at member
  rcases member with rfl | rfl | rfl | rfl
  · exact ⟨_, by decide, wellNamed_executionRole⟩
  · exact ⟨_, by decide, wellNamed_basicAttachment⟩
  · exact ⟨_, by decide, wellNamed_accessPolicy⟩
  · exact ⟨_, by decide, wellNamed_accessAttachment⟩

/-- Intents make roles, policies, attachments and parameters. -/
theorem ofKinds_intent (mode : LookupMode) (ctx : Context) (x : Intent) :
    OfKinds (made ((Adapter.standard mode).intentOutcome ctx x)) ResourceKind.ofIntents := by
  intro r member
  rw [Adapter.intentOutcome_standard] at member
  cases x with
  | access i =>
    cases lowered : i.lower ctx with
    | error e =>
      simp only [lowered] at member
      cases member
    | ok resources =>
      obtain ⟨_, p, scope, _, _, rfl⟩ := AccessIntent.lower_eq_ok_iff.mp lowered
      simp only [lowered] at member
      obtain ⟨kind, listed, named⟩ := AccessIntent.ofKinds_resources r member
      refine ⟨kind, ?_, named⟩
      revert listed
      cases kind <;> decide
  | config i =>
    simp only [ConfigIntent.lower] at member
    split at member
    · cases member
    · obtain rfl := List.mem_singleton.mp member
      exact ⟨_, by decide, wellNamed_parameter⟩
  | network i => cases member
  | telemetry i => cases member
  | other i => cases member

/-- A node of a known platform becomes one primary resource and others of auxiliary kinds. -/
theorem Platform.lower_primary {p : Platform} {n : Node} {ctx : Context}
    {resources : List Resource} (lowered : p.lower n ctx (ctx.needsAt n.id) = .ok resources) :
    ∃ r before after, resources = before ++ r :: after ∧ r.IsPrimary n p ∧
      OfKinds (before ++ after) ResourceKind.auxiliary := by
  have alone : OfKinds ([] ++ []) ResourceKind.auxiliary := nofun
  cases p with
  | computeFunction =>
    rw [Platform.lower, lowerFunction_needsAt] at lowered
    cases lowered
    refine ⟨_, _, [], rfl, ⟨name_functionOf, type_functionOf, source_functionOf⟩, ?_⟩
    rw [List.append_nil]
    split
    · exact alone
    · intro s present
      simp only [execRole, List.mem_cons, List.not_mem_nil, or_false] at present
      rcases present with rfl | rfl
      · exact ⟨_, by decide, wellNamed_executionRole⟩
      · exact ⟨_, by decide, wellNamed_basicAttachment⟩
  | queue =>
    cases lowered
    exact ⟨_, [], [], rfl, ⟨name_queueOf, type_queueOf, source_queueOf⟩, alone⟩
  | keyValueTable =>
    simp only [Platform.lower, lowerTable, bind, Except.bind] at lowered
    split at lowered
    · cases lowered
    · split at lowered
      · cases lowered
      · cases lowered
        exact ⟨_, [], [], rfl, ⟨name_tableOf, type_tableOf, source_tableOf⟩, alone⟩
  | objectStore =>
    cases lowered
    refine ⟨_, [], _, rfl, ⟨name_bucketOf, type_bucketOf, source_bucketOf⟩, ?_⟩
    rw [List.nil_append]
    split
    · intro s present
      obtain rfl := List.mem_singleton.mp present
      exact ⟨_, by decide, wellNamed_versioningOf⟩
    · exact alone
  | httpGateway =>
    cases lowered
    refine ⟨_, [], _, rfl, ⟨name_apiOf, type_apiOf, source_apiOf⟩, ?_⟩
    intro s present
    obtain rfl := List.mem_singleton.mp present
    exact ⟨_, by decide, wellNamed_stageOf⟩
  | pubsubTopic =>
    cases lowered
    exact ⟨_, [], [], rfl, ⟨name_topicOf, type_topicOf, source_topicOf⟩, alone⟩

/-- A node makes a primary resource of its platform, and what stands beside that. -/
theorem ofKinds_node (p : Platform) (n : Node) (ctx : Context) :
    OfKinds (made (p.lower n ctx (ctx.needsAt n.id))) (p.kind :: ResourceKind.auxiliary) := by
  intro s member
  cases lowered : p.lower n ctx (ctx.needsAt n.id) with
  | error e =>
    rw [lowered] at member
    cases member
  | ok resources =>
    rw [lowered] at member
    obtain ⟨r, before, after, rfl, primary, others⟩ := Platform.lower_primary lowered
    rcases List.mem_append.mp member with early | late
    · obtain ⟨kind, listed, named⟩ := others s (List.mem_append_left _ early)
      exact ⟨kind, List.mem_cons_of_mem _ listed, named⟩
    · rcases List.mem_cons.mp late with rfl | late
      · exact ⟨p.kind, List.mem_cons_self, .of_platform p primary.name primary.type⟩
      · obtain ⟨kind, listed, named⟩ := others s (List.mem_append_right _ late)
        exact ⟨kind, List.mem_cons_of_mem _ listed, named⟩

/-- So intents and nodes make nothing of the kinds that edges make. -/
theorem ofKinds_gatherSources (mode : LookupMode) (ctx : Context) :
    OfKinds ((Adapter.standard mode).gatherSources ctx).resources ResourceKind.ofSources := by
  intro r gathered
  rcases Pass.mem_foldl (Adapter.step_lowerNode _ ctx) ctx.graph.nodes _ gathered with
    intent | ⟨n, present, member⟩
  · rcases Pass.mem_foldl (Adapter.step_lowerIntent _ ctx) ctx.intents .start intent with
      none | ⟨x, _, member⟩
    · cases none
    · obtain ⟨kind, listed, named⟩ := ofKinds_intent mode ctx x r member
      exact ⟨kind, List.mem_append_left _ (List.mem_append_left _ listed), named⟩
  · rw [Adapter.nodeOutcome_standard mode ctx present] at member
    cases platform : n.knownPlatform? with
    | none =>
      rw [platform] at member
      cases member
    | some p =>
      rw [platform] at member
      obtain ⟨kind, listed, named⟩ := ofKinds_node p n ctx r member
      refine ⟨kind, ?_, named⟩
      rcases List.mem_cons.mp listed with rfl | auxiliary
      · cases p <;> decide
      · exact List.mem_append_right _ auxiliary

/-- Bindings make event mappings. -/
theorem ofKinds_eventMappings (ctx : Context) :
    OfKinds (eventMappings ctx) [.eventSourceMapping] := by
  intro r member
  obtain ⟨e, _, rfl⟩ := List.mem_map.mp member
  exact ⟨_, List.mem_singleton_self _, wellNamed_eventMapping⟩

/-- Triggers make integrations, routes and permissions. -/
theorem ofKinds_httpIntegrations (ctx : Context) :
    OfKinds (httpIntegrations ctx) ResourceKind.ofTriggers := by
  intro r member
  obtain ⟨e, _, member⟩ := List.mem_flatMap.mp member
  simp only [httpIntegration, List.mem_cons, List.not_mem_nil, or_false] at member
  rcases member with rfl | rfl | rfl
  · exact ⟨_, by decide, wellNamed_integrationOf⟩
  · exact ⟨_, by decide, wellNamed_routeOf⟩
  · exact ⟨_, by decide, wellNamed_permissionOf⟩

/-- A node of a known platform has a primary resource. -/
theorem gathers_primary {mode : LookupMode} {ctx : Context}
    (clean : ((Adapter.standard mode).gather ctx).Clean) {n : Node} {p : Platform}
    (host : ctx.Hosts n p) :
    ∃ r ∈ ((Adapter.standard mode).gather ctx).resources, r.IsPrimary n p := by
  obtain ⟨resources, lowered, gathered⟩ := gathers_node clean host
  obtain ⟨r, before, after, rfl, primary, _⟩ := Platform.lower_primary lowered
  exact ⟨r, gathered r (List.mem_append_right _ List.mem_cons_self), primary⟩

end CloudPlan
