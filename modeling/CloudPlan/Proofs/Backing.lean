import CloudPlan.Proofs.Kinds

/-!
# References and dependencies

Each builder of resources declares what its references need as dependencies, with one exception: the
API of a gateway copies references from the setting `cors` of its node and declares none of them.
`backed_iff` says that this is the only way in which a resource can refer to something that it does
not depend on.
-/

set_option autoImplicit false

namespace CloudPlan

/-- Whatever a resource refers to, at any depth, is one of its dependencies. -/
def Resource.Backed (r : Resource) : Prop :=
  ∀ key ref, r.Refers key ref → ref.resource ∈ r.dependsOn

/-- No id of a node and no principal of an access intent contains a dot. -/
structure Context.PlainIds (ctx : Context) : Prop where
  nodes : ∀ n ∈ ctx.graph.nodes, Plain n.id
  principals : ∀ i, .access i ∈ ctx.intents → Plain i.principal

namespace Context.PlainIds

variable {ctx : Context} (plain : ctx.PlainIds)

include plain

/-- If ids are plain, so is that of a principal. -/
theorem principal {id : String} (principal : ctx.Principal id) : Plain id := by
  cases principal with
  | granted intent => exact plain.principals _ intent
  | function node => exact plain.nodes _ node.present

/-- So is the name of an execution role. -/
theorem execRoleName {id : String} (principal : ctx.Principal id) : Plain (execRoleName id) := by
  have suffix : Plain "exec-role" := by decide
  unfold CloudPlan.execRoleName
  rw [plain_resourceName]
  exact ⟨(plain.principal principal).shortName, suffix⟩

/-- So is the name of what a node becomes. -/
theorem primaryName {n : Node} {p : Platform} (host : ctx.Hosts n p) :
    Plain (p.resourceName n.shortName) := by
  rw [Platform.plain_resourceName]
  exact (plain.nodes n host.present).shortName

/-- So is the name of the resource that an id means. -/
theorem resourceName {id : String} {p : Platform} (known : ctx.knownPlatformOf? id = some p) :
    Plain (p.resourceName (shortName id)) := by
  obtain ⟨n, host, rfl⟩ := exists_host known
  exact plain.primaryName host

/-- So is the name of a policy. -/
theorem policyName {i : AccessIntent} {p : Platform} (intent : .access i ∈ ctx.intents)
    (known : ctx.knownPlatformOf? i.resource = some p) : Plain (policyName i) := by
  have suffix : Plain "-policy" := by decide
  obtain ⟨n, host, same⟩ := exists_host known
  unfold CloudPlan.policyName
  rw [plain_resourceName, plain_append, ← same]
  exact ⟨(plain.principals i intent).shortName, (plain.nodes n host.present).shortName, suffix⟩

/-- So are the names of the two ends of a triggering edge. -/
theorem endNames {e : Edge}
    (edge : e ∈ ctx.edgesBetween .triggers .httpGateway .computeFunction) :
    Plain e.apiName ∧ Plain e.functionName := by
  obtain ⟨source, target⟩ := platforms_of_mem_edgesBetween edge
  exact ⟨plain.resourceName source, plain.resourceName target⟩

/-- So is the name of its integration. -/
theorem integrationName {e : Edge}
    (edge : e ∈ ctx.edgesBetween .triggers .httpGateway .computeFunction) :
    Plain e.integrationName := by
  have suffix : Plain "-integration" := by decide
  have dash : Plain "-" := by decide
  obtain ⟨source, target⟩ := platforms_of_mem_edgesBetween edge
  obtain ⟨m, first, atSource⟩ := exists_host source
  obtain ⟨n, second, atTarget⟩ := exists_host target
  unfold Edge.integrationName Edge.pairName
  rw [plain_append, plain_append, plain_append, ← atSource, ← atTarget]
  exact ⟨⟨⟨(plain.nodes m first.present).shortName, dash⟩,
    (plain.nodes n second.present).shortName⟩, suffix⟩

end Context.PlainIds

/-- What a resource refers to is declared, unless the resource is the API of a gateway. -/
theorem Context.Yields.declared {ctx : Context} (plain : ctx.PlainIds) {r : Resource}
    (yields : ctx.Yields r) {key : String} {ref : Reference} (refers : r.Refers key ref) :
    ref.resource ∈ r.dependsOn ∨ ∃ n, ctx.Hosts n .httpGateway ∧ r = apiOf n ctx.config := by
  -- by origin: what lowers a reference also adds the name before its dot to the dependencies
  cases yields with
  | role => exact absurd refers not_refers_executionRole
  | basic principal =>
    obtain ⟨_, rfl⟩ := refers_basicAttachment.mp refers
    rw [Reference.resource_of_plain (plain.execRoleName principal)]
    exact Or.inl List.mem_cons_self
  | policy _ platform within =>
    obtain ⟨_, inside⟩ := refers_accessPolicy.mp refers
    rw [refs_of_scopeValue within inside, Reference.resource_toField (plain.resourceName platform)]
    exact Or.inl List.mem_cons_self
  | attachment intent platform =>
    rcases refers_accessAttachment.mp refers with ⟨_, rfl⟩ | ⟨_, rfl⟩
    · rw [Reference.resource_of_plain (plain.execRoleName (.granted intent))]
      exact Or.inl List.mem_cons_self
    · rw [Reference.resource_toField (plain.policyName intent platform)]
      exact Or.inl (List.mem_cons_of_mem _ List.mem_cons_self)
  | @parameter i _ =>
    obtain ⟨_, whole⟩ := refers_parameter.mp refers
    have depends : (i.parameter ctx).dependsOn = (i.source.value ctx).directDependency := rfl
    rw [depends, whole]
    exact Or.inl List.mem_cons_self
  | @function n node =>
    refine Or.inl (mem_dependsOn_functionOf.mpr ?_)
    rcases refers_functionOf refers with ⟨_, rfl⟩ | ⟨_, e, member, inside⟩
    · exact Or.inl (Reference.resource_of_plain (plain.execRoleName (.function node)))
    · obtain ⟨i, _, _, _, value⟩ := (ctx.asked_needsAt n.id).environment e member
      rw [← value, mem_refs_value] at inside
      refine Or.inr ⟨e, member, ?_⟩
      rw [← value, inside]
      exact List.mem_cons_self
  | queue => exact absurd refers not_refers_queueOf
  | table => exact absurd refers not_refers_tableOf
  | bucket => exact absurd refers not_refers_bucketOf
  | versioning node =>
    obtain ⟨_, rfl⟩ := refers_versioningOf.mp refers
    rw [Reference.resource_of_plain (plain.primaryName node)]
    exact Or.inl List.mem_cons_self
  -- an API copies its setting without a look at the references in it
  | @api n node => exact Or.inr ⟨n, node, rfl⟩
  | stage node =>
    obtain ⟨_, rfl⟩ := refers_stageOf.mp refers
    rw [Reference.resource_of_plain (plain.primaryName node)]
    exact Or.inl List.mem_cons_self
  | topic => exact absurd refers not_refers_topicOf
  | mapping edge =>
    obtain ⟨source, target⟩ := platforms_of_mem_edgesBetween edge
    rcases refers_eventMapping.mp refers with ⟨_, rfl⟩ | ⟨_, rfl⟩
    · rw [Reference.resource_of_plain (plain.resourceName target)]
      exact Or.inl (List.mem_cons_of_mem _ List.mem_cons_self)
    · rw [Reference.resource_of_plain (plain.resourceName source)]
      exact Or.inl List.mem_cons_self
  | integration edge =>
    obtain ⟨api, function⟩ := plain.endNames edge
    rcases refers_integrationOf.mp refers with ⟨_, rfl⟩ | ⟨_, rfl⟩
    · rw [Reference.resource_of_plain api]
      exact Or.inl List.mem_cons_self
    · rw [Reference.resource_of_plain function]
      exact Or.inl (List.mem_cons_of_mem _ List.mem_cons_self)
  | route edge =>
    obtain ⟨api, _⟩ := plain.endNames edge
    rcases refers_routeOf.mp refers with ⟨_, rfl⟩ | ⟨_, rfl⟩
    · rw [Reference.resource_of_plain api]
      exact Or.inl List.mem_cons_self
    · rw [Reference.resource_of_plain (plain.integrationName edge)]
      exact Or.inl (List.mem_cons_of_mem _ List.mem_cons_self)
  | permission edge =>
    obtain ⟨api, function⟩ := plain.endNames edge
    rcases refers_permissionOf.mp refers with ⟨_, rfl⟩ | ⟨_, rfl⟩
    · rw [Reference.resource_of_plain function]
      exact Or.inl List.mem_cons_self
    · rw [Reference.resource_of_plain api]
      exact Or.inl (List.mem_cons_of_mem _ List.mem_cons_self)

/-- Whether the setting `cors` of a node holds a reference. -/
def Node.CorsRefers (n : Node) : Prop :=
  ∃ cors, Entries.get? n.properties "cors" = some cors ∧ (Value.ofJson cors).refs ≠ []

/-- A resource of the list declares all that it refers to if it is not the API of a gateway with
references in `cors`. -/
theorem Context.Yields.backed {ctx : Context} (plain : ctx.PlainIds) {r : Resource}
    (yields : ctx.Yields r)
    (elsewhere : ∀ n, ctx.Hosts n .httpGateway → r = apiOf n ctx.config → ¬ n.CorsRefers) :
    r.Backed := by
  intro key ref refers
  rcases yields.declared plain refers with declared | ⟨n, node, rfl⟩
  · exact declared
  · obtain ⟨_, cors, given, inside⟩ := refers_apiOf.mp refers
    exact absurd ⟨cors, given, List.ne_nil_of_mem inside⟩ (elsewhere n node rfl)

/-- **References are backed by dependencies, except in the settings of gateways.** In a document
with plain ids, a resource that lowering keeps declares all that it refers to as dependencies,
unless it is the API of a gateway whose setting `cors` holds a reference; then it does not. -/
theorem backed_iff {mode : LookupMode} {ctx : Context} (plain : ctx.PlainIds) {r : Resource}
    (kept : r ∈ ((Adapter.standard mode).lower ctx).resources) :
    r.Backed ↔ ¬ ∃ n, ctx.Hosts n .httpGateway ∧ r = apiOf n ctx.config ∧ n.CorsRefers := by
  constructor
  · rintro backed ⟨n, _, rfl, cors, given, some⟩
    obtain ⟨ref, inside⟩ := List.exists_mem_of_ne_nil _ some
    have depended := backed _ ref (refers_apiOf.mpr ⟨rfl, cors, given, inside⟩)
    rw [dependsOn_apiOf] at depended
    cases depended
  · intro elsewhere
    refine (Context.yields_of_mem_lower kept).backed plain ?_
    intro n node same refers
    exact elsewhere ⟨n, node, same, refers⟩

/-- A gateway whose setting `cors` is a reference to a queue. -/
def referringGateway : Node :=
  ⟨"platform:gw", [("platform", .string "http-gateway"),
    ("cors", .object [("ref", .string "jobs-queue")])]⟩

/-- A document with that gateway and the queue. -/
def referringDocument : Document :=
  ⟨⟨"us-east-1", "orders", none, none⟩, [],
    ⟨[referringGateway, ⟨"platform:jobs", [("platform", .string "queue")]⟩], []⟩⟩

set_option maxRecDepth 10000 in
/-- The API of that gateway refers to the queue without depending on it. -/
theorem api_not_backed :
    Context.PlainIds referringDocument ∧
      apiOf referringGateway referringDocument.config ∈
        ((Adapter.standard .registry).lower referringDocument).resources ∧
      ¬ (apiOf referringGateway referringDocument.config).Backed := by
  have plain : Context.PlainIds referringDocument := by
    constructor
    · decide
    · intro i intent
      cases intent
  have kept : apiOf referringGateway referringDocument.config ∈
      ((Adapter.standard .registry).lower referringDocument).resources :=
    Pass.mem_finish.mpr (by decide)
  have hosts : Context.Hosts referringDocument referringGateway .httpGateway :=
    ⟨List.mem_cons_self, by decide⟩
  refine ⟨plain, kept, ?_⟩
  rw [backed_iff plain kept, not_not]
  exact ⟨referringGateway, hosts, rfl, _, rfl, by simp [Value.ofJson, Value.refs]⟩

end CloudPlan
