import CloudPlan.Proofs.Backing
import CloudPlan.Proofs.Linking

/-!
# References have targets

In a run without errors the target of every reference is among the resources that are kept, and its
kind offers the field that the reference means where it stands (`Yields.target`). The fields come
from three tables that have to agree: what a property expects, what a platform is referred to by, and
what the local provider assigns.
-/

set_option autoImplicit false

namespace CloudPlan

/-! ## What kinds offer -/

namespace ResourceKind

/-- Resources of every kind have an id. -/
theorem offers_id (kind : ResourceKind) : kind.Offers "id" := by
  intro region name inputs
  exact Or.inl rfl

/-- A role has a name and an ARN. -/
theorem offers_role : ResourceKind.role.Offers "name" ∧ ResourceKind.role.Offers "arn" := by
  constructor <;> · intro region name inputs; simp [LocalProvider.assigned, Entries.keys]

/-- A policy has an ARN. -/
theorem offers_policy : ResourceKind.policy.Offers "arn" := by
  intro region name inputs
  simp [LocalProvider.assigned, Entries.keys]

/-- A function has a name and an ARN to invoke it by. -/
theorem offers_function :
    ResourceKind.function.Offers "name" ∧ ResourceKind.function.Offers "invokeArn" := by
  constructor <;> · intro region name inputs; simp [LocalProvider.assigned, Entries.keys]

/-- Resources of a kind have the fields that its outputs show, and none of these is empty. -/
theorem offers_outputFields (kind : ResourceKind) {e : String × String}
    (output : e ∈ kind.outputFields) : kind.Offers e.2 ∧ e.2 ≠ "" := by
  cases kind <;> simp only [outputFields, List.mem_cons, List.not_mem_nil, or_false] at output
  all_goals
    rcases output with rfl | rfl <;>
      exact ⟨fun region name inputs => by simp [LocalProvider.assigned, Entries.keys], by decide⟩

/-- No output of a type is a field without a name. -/
theorem ne_empty_of_mem_outputFieldsOf {type : String} {e : String × String}
    (output : e ∈ outputFieldsOf type) : e.2 ≠ "" := by
  unfold outputFieldsOf at output
  split at output
  · rename_i kind _
    exact (kind.offers_outputFields output).2
  · cases output

end ResourceKind

/-- The field that policies refer to is offered by the primary resource of a platform. -/
theorem Platform.offers_arnField (p : Platform) : p.kind.Offers p.arnField := by
  intro region name inputs
  cases p <;> simp [kind, arnField, LocalProvider.assigned, Entries.keys]

/-- The field that a reference to a node means is offered by the primary resource of its platform. -/
theorem Platform.offers_defaultField (p : Platform) : p.kind.Offers p.defaultField := by
  intro region name inputs
  cases p <;> simp [kind, defaultField, LocalProvider.assigned, Entries.keys]

/-! ## The field that a reference means -/

namespace Site

/-- A reference to a plain name means the field that is expected where it stands. -/
theorem fieldOf_plain {name type key target : String} {kind : ResourceKind}
    (known : type = kind.token) (plain : Plain target) :
    fieldOf ⟨name, type, key⟩ ⟨target⟩ = kind.fieldAt key := by
  rw [fieldOf, Reference.field?_of_plain plain, Option.getD_none, defaultField, known,
    ResourceKind.ofToken?_token]

/-- A reference to a field of a plain name means that field, wherever it stands. -/
theorem fieldOf_toField {site : Site} {name field : String} (plain : Plain name)
    (nonempty : field ≠ "") : site.fieldOf (.toField name field) = field := by
  rw [fieldOf, Reference.field?_toField plain nonempty, Option.getD_some]

end Site

/-! ## Kept resources that offer a field -/

/-- A resource of a name is among those of a result, and its kind offers a field. -/
def LoweringResult.Offers (result : LoweringResult) (name field : String) : Prop :=
  ∃ t ∈ result.resources, t.name = name ∧
    ∃ kind : ResourceKind, t.type = kind.token ∧ kind.Offers field

/-- A reference to a plain name is met where its resource offers what the site expects. -/
theorem LoweringResult.Offers.at_plain {result : LoweringResult}
    {name type key target : String} {kind : ResourceKind} (known : type = kind.token)
    (plain : Plain target) (offers : result.Offers target (kind.fieldAt key)) :
    result.Offers (Reference.resource ⟨target⟩) (Site.fieldOf ⟨name, type, key⟩ ⟨target⟩) := by
  rw [Reference.resource_of_plain plain, Site.fieldOf_plain known plain]
  exact offers

/-- A reference to a field of a plain name is met by a resource that offers the field, wherever it
stands. -/
theorem LoweringResult.Offers.at_toField {result : LoweringResult} {site : Site}
    {name field : String} (plain : Plain name) (nonempty : field ≠ "")
    (offers : result.Offers name field) :
    result.Offers (Reference.toField name field).resource (site.fieldOf (.toField name field)) := by
  rw [Reference.resource_toField plain, Site.fieldOf_toField plain nonempty]
  exact offers

/-- Every config intent that refers to a node refers to one of a known platform, and names no
field. -/
def Context.ReferencesNodes (ctx : Context) : Prop :=
  ∀ i, .config i ∈ ctx.intents → ∀ node field, i.source = .reference node field →
    field = none ∧ (ctx.knownPlatformOf? node).isSome = true

section Targets

variable {mode : LookupMode} {ctx : Context} (clean : ((Adapter.standard mode).gather ctx).Clean)

include clean

/-- The execution role of a principal is kept with the fields of a role. -/
theorem role_offered {id : String} (principal : ctx.Principal id) {field : String}
    (offers : ResourceKind.role.Offers field) :
    ((Adapter.standard mode).lower ctx).Offers (execRoleName id) field := by
  obtain ⟨source, gathered⟩ := gathers_role clean principal
  obtain ⟨t, kept, name, type⟩ := exists_kept gathered
  exact ⟨t, kept, name, .role, type, offers⟩

/-- The policy of an access intent is kept with the fields of a policy. -/
theorem policy_offered {i : AccessIntent} (intent : .access i ∈ ctx.intents) {field : String}
    (offers : ResourceKind.policy.Offers field) :
    ((Adapter.standard mode).lower ctx).Offers (policyName i) field := by
  obtain ⟨p, scope, _, _, gathered⟩ := gathers_access clean intent
  have policy : accessPolicy i p (p.actionsFor i.levels) scope ∈
      ((Adapter.standard mode).gather ctx).resources :=
    gathered _ (List.mem_append_right _ List.mem_cons_self)
  obtain ⟨t, kept, name, type⟩ := exists_kept policy
  exact ⟨t, kept, name, .policy, type, offers⟩

/-- What a node becomes is kept with the fields of its kind. -/
theorem host_offered {n : Node} {p : Platform} (host : ctx.Hosts n p) {field : String}
    (offers : p.kind.Offers field) :
    ((Adapter.standard mode).lower ctx).Offers (p.resourceName n.shortName) field := by
  obtain ⟨r, gathered, primary⟩ := gathers_primary clean host
  obtain ⟨t, kept, name, type⟩ := exists_kept gathered
  exact ⟨t, kept, name.trans primary.name, p.kind, type.trans primary.type, offers⟩

/-- So is the resource that is meant by the id of a node of a known platform. -/
theorem primary_offered {id : String} {p : Platform} (known : ctx.knownPlatformOf? id = some p)
    {field : String} (offers : p.kind.Offers field) :
    ((Adapter.standard mode).lower ctx).Offers (p.resourceName (shortName id)) field := by
  obtain ⟨n, host, rfl⟩ := Context.exists_host known
  exact host_offered clean host offers

/-- The integration of a triggering edge is kept with the fields of an integration. -/
theorem integration_offered {e : Edge}
    (edge : e ∈ ctx.edgesBetween .triggers .httpGateway .computeFunction) {field : String}
    (offers : ResourceKind.integration.Offers field) :
    ((Adapter.standard mode).lower ctx).Offers e.integrationName field := by
  obtain ⟨t, kept, name, type⟩ := exists_kept (gathers_trigger clean edge _ List.mem_cons_self)
  exact ⟨t, kept, name, .integration, type, offers⟩

/-- What a config intent refers to is kept and offers the field that is meant. -/
theorem value_offered (plain : ctx.PlainIds) (nodes : ctx.ReferencesNodes) {i : ConfigIntent}
    (intent : .config i ∈ ctx.intents) {ref : Reference} (value : i.source.value ctx = .ref ref)
    (site : Site) :
    ((Adapter.standard mode).lower ctx).Offers ref.resource (site.fieldOf ref) := by
  cases source : i.source with
  | literal v =>
    rw [source] at value
    cases value
  | secret name =>
    rw [source] at value
    cases value
  | reference node field =>
    obtain ⟨rfl, known⟩ := nodes i intent node field source
    obtain ⟨p, platform⟩ := Option.isSome_iff_exists.mp known
    have whole : Value.refToField (p.resourceName (shortName node)) p.defaultField = .ref ref := by
      rw [← value, source]
      simp only [ValueSource.value, platform, Option.getD_none]
    obtain rfl : Reference.toField (p.resourceName (shortName node)) p.defaultField = ref := by
      simpa [Value.refToField] using whole
    have nonempty : p.defaultField ≠ "" := by cases p <;> decide
    refine .at_toField (plain.resourceName platform) nonempty ?_
    exact primary_offered clean platform p.offers_defaultField

/-- Every reference of a resource of the list has a kept target that offers the field meant. -/
theorem Context.Yields.target (plain : ctx.PlainIds) (nodes : ctx.ReferencesNodes)
    (cors : ∀ n, ctx.Hosts n .httpGateway → ¬ n.CorsRefers) {r : Resource}
    (yields : ctx.Yields r) {key : String} {ref : Reference} (refers : r.Refers key ref) :
    ((Adapter.standard mode).lower ctx).Offers ref.resource
      (Site.fieldOf ⟨r.name, r.type, key⟩ ref) := by
  -- by origin: each reference is to a role, a policy, what a node became or what a config intent
  -- means, and each of these is offered
  cases yields with
  | role => exact absurd refers not_refers_executionRole
  | basic principal =>
    obtain ⟨rfl, rfl⟩ := refers_basicAttachment.mp refers
    refine .at_plain type_basicAttachment (plain.execRoleName principal) ?_
    exact role_offered clean principal ResourceKind.offers_role.1
  | @policy i p scope intent platform within =>
    obtain ⟨rfl, inside⟩ := refers_accessPolicy.mp refers
    obtain rfl := refs_of_scopeValue within inside
    have nonempty : p.arnField ≠ "" := by cases p <;> decide
    refine .at_toField (plain.resourceName platform) nonempty ?_
    exact primary_offered clean platform p.offers_arnField
  | attachment intent platform =>
    rcases refers_accessAttachment.mp refers with ⟨rfl, rfl⟩ | ⟨rfl, rfl⟩
    · refine .at_plain type_accessAttachment (plain.execRoleName (.granted intent)) ?_
      exact role_offered clean (.granted intent) ResourceKind.offers_role.1
    · refine .at_toField (plain.policyName intent platform) (by decide) ?_
      exact policy_offered clean intent ResourceKind.offers_policy
  | parameter intent =>
    obtain ⟨_, whole⟩ := refers_parameter.mp refers
    exact value_offered clean plain nodes intent whole _
  -- an environment holds what config intents mean, which need not be a reference
  | @function n node =>
    rcases refers_functionOf refers with ⟨rfl, rfl⟩ | ⟨_, e, member, inside⟩
    · refine .at_plain type_functionOf (plain.execRoleName (.function node)) ?_
      exact role_offered clean (.function node) ResourceKind.offers_role.2
    · obtain ⟨i, intent, _, _, value⟩ := (ctx.asked_needsAt n.id).environment e member
      rw [← value, mem_refs_value] at inside
      exact value_offered clean plain nodes intent inside _
  | queue => exact absurd refers not_refers_queueOf
  | table => exact absurd refers not_refers_tableOf
  | bucket => exact absurd refers not_refers_bucketOf
  | versioning node =>
    obtain ⟨rfl, rfl⟩ := refers_versioningOf.mp refers
    refine .at_plain type_versioningOf (plain.primaryName node) ?_
    exact host_offered clean node (ResourceKind.offers_id _)
  | @api n node =>
    obtain ⟨_, value, given, inside⟩ := refers_apiOf.mp refers
    exact absurd ⟨value, given, List.ne_nil_of_mem inside⟩ (cors n node)
  | stage node =>
    obtain ⟨rfl, rfl⟩ := refers_stageOf.mp refers
    refine .at_plain type_stageOf (plain.primaryName node) ?_
    exact host_offered clean node (ResourceKind.offers_id _)
  | topic => exact absurd refers not_refers_topicOf
  | mapping edge =>
    obtain ⟨source, target⟩ := platforms_of_mem_edgesBetween edge
    rcases refers_eventMapping.mp refers with ⟨rfl, rfl⟩ | ⟨rfl, rfl⟩
    · refine .at_plain type_eventMapping (plain.resourceName target) ?_
      exact primary_offered clean target (Platform.offers_arnField .queue)
    · refine .at_plain type_eventMapping (plain.resourceName source) ?_
      exact primary_offered clean source ResourceKind.offers_function.1
  | integration edge =>
    obtain ⟨source, target⟩ := platforms_of_mem_edgesBetween edge
    obtain ⟨api, function⟩ := plain.endNames edge
    rcases refers_integrationOf.mp refers with ⟨rfl, rfl⟩ | ⟨rfl, rfl⟩
    · refine .at_plain type_integrationOf api ?_
      exact primary_offered clean source (ResourceKind.offers_id _)
    · refine .at_plain type_integrationOf function ?_
      exact primary_offered clean target ResourceKind.offers_function.2
  | route edge =>
    obtain ⟨source, _⟩ := platforms_of_mem_edgesBetween edge
    obtain ⟨api, _⟩ := plain.endNames edge
    rcases refers_routeOf.mp refers with ⟨rfl, rfl⟩ | ⟨rfl, rfl⟩
    · refine .at_plain type_routeOf api ?_
      exact primary_offered clean source (ResourceKind.offers_id _)
    · refine .at_plain type_routeOf (plain.integrationName edge) ?_
      exact integration_offered clean edge (ResourceKind.offers_id _)
  | permission edge =>
    obtain ⟨source, target⟩ := platforms_of_mem_edgesBetween edge
    obtain ⟨api, function⟩ := plain.endNames edge
    rcases refers_permissionOf.mp refers with ⟨rfl, rfl⟩ | ⟨rfl, rfl⟩
    · refine .at_plain type_permissionOf function ?_
      exact primary_offered clean target ResourceKind.offers_function.1
    · refine .at_plain type_permissionOf api ?_
      exact primary_offered clean source (Platform.offers_arnField .httpGateway)

end Targets

end CloudPlan
