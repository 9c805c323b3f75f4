import CloudPlan.Proofs.Backing
import CloudPlan.Proofs.ConstructionOrder
import CloudPlan.Proofs.Targets

/-!
# Names with a dot

References and output templates put a dot between a name and a field, and are cut at the first dot. A
name therefore survives them exactly if it has no dot itself. The names that references and templates
are made of are listed by `Context.Uses`, each with the ids whose short names it is joined from; nothing
is said about dots when a document is checked. `names_survive_iff` says that every reference and every
template is made of a listed name, and that such a name is read back exactly if the short names of its
ids have no dot.
-/

set_option autoImplicit false

namespace CloudPlan

/-! ## Cutting at a separator -/

/-- A text with a separator after its first part is cut there exactly if that part has none. -/
theorem Text.cutChars_append_iff {sep : Char} {before after : List Char} :
    cutChars sep (before ++ sep :: after) = some (before, after) ↔ sep ∉ before := by
  refine ⟨?_, cutChars_append⟩
  intro cut there
  obtain ⟨early, late, rfl, first⟩ := List.eq_append_cons_of_mem there
  rw [List.append_assoc, List.cons_append, cutChars_append first] at cut
  have short := congrArg (fun parts : List Char × List Char => parts.1.length) (Option.some.inj cut)
  simp at short

variable {n f : String}

/-- A text alone is the name of a resource exactly if it is plain. -/
theorem Reference.resource_eq_iff : Reference.resource ⟨n⟩ = n ↔ Plain n := by
  refine ⟨?_, Reference.resource_of_plain⟩
  intro same dot
  -- cut at the first dot, the name would be shorter than itself
  obtain ⟨early, late, split, first⟩ := List.eq_append_cons_of_mem dot
  have cut : Text.cut '.' n = some (String.ofList early, String.ofList late) := by
    rw [Text.cut, split, Text.cutChars_append first]
    rfl
  rw [resource, cut] at same
  have chars : early = n.toList := by
    rw [← same, String.toList_ofList]
  rw [split] at chars
  have short := congrArg List.length chars
  simp at short

/-- A reference to a field is one to the name exactly if the name is plain. -/
theorem Reference.resource_toField_iff : (Reference.toField n f).resource = n ↔ Plain n := by
  refine ⟨?_, fun plain => Reference.resource_toField plain f⟩
  intro same dot
  obtain ⟨early, late, split, first⟩ := List.eq_append_cons_of_mem dot
  have chars : (Reference.toField n f).target.toList = early ++ '.' :: (late ++ '.' :: f.toList) := by
    simp [toField, split]
  rw [resource, Text.cut, chars, Text.cutChars_append first] at same
  have whole : early = n.toList := by
    rw [← same]
    simp
  rw [split] at whole
  have short := congrArg List.length whole
  simp at short

/-- A template is taken apart into the name and the field that it was made of exactly if the name is
plain. -/
theorem parseTemplate?_outputTemplate_iff (named : n ≠ "") (nonempty : f ≠ "") :
    parseTemplate? (outputTemplate n f) = some (n, f) ↔ Plain n := by
  refine ⟨?_, fun plain => parseTemplate?_outputTemplate plain named nonempty⟩
  intro parsed
  have chars : (outputTemplate n f).toList =
      '$' :: '\x7b' :: ((n.toList ++ '.' :: f.toList) ++ ['\x7d']) := by
    simp [outputTemplate]
  apply Text.cutChars_append_iff.mp
  show Text.cutChars '.' (n.toList ++ '.' :: f.toList) = some (n.toList, f.toList)
  simp only [parseTemplate?, chars, beforeClosingBrace?_append, Option.bind_some] at parsed
  split at parsed
  · rename_i cut
    rw [cut]
    cases parsed
    simp
  · cases parsed

/-! ## Names that lowering and planning put into references and templates -/

/-- The names that references and templates are made of, each with the ids whose short names it is
joined from. -/
inductive Context.Uses (ctx : Context) : List String → String → Prop where
  | role {id : String} (principal : ctx.Principal id) : Uses ctx [id] (execRoleName id)
  | policy {i : AccessIntent} {p : Platform} (intent : .access i ∈ ctx.intents)
      (platform : ctx.knownPlatformOf? i.resource = some p) :
      Uses ctx [i.principal, i.resource] (policyName i)
  | primary {m : Node} {p : Platform} (host : ctx.Hosts m p) :
      Uses ctx [m.id] (p.resourceName m.shortName)
  | integration {e : Edge} (edge : e ∈ ctx.edgesBetween .triggers .httpGateway .computeFunction) :
      Uses ctx [e.source, e.target] e.integrationName

namespace Context

variable {ctx : Context}

/-- The name of the resource that an id means is a used one. -/
theorem uses_resourceName {id : String} {p : Platform} (known : ctx.knownPlatformOf? id = some p) :
    ctx.Uses [id] (p.resourceName (shortName id)) := by
  obtain ⟨m, host, rfl⟩ := exists_host known
  exact .primary host

/-- A used name is plain exactly if the short names that it is joined from are. -/
theorem Uses.plain_iff {ids : List String} (uses : ctx.Uses ids n) :
    Plain n ↔ ∀ id ∈ ids, Plain (shortName id) := by
  have role : Plain "exec-role" := by decide
  have policy : Plain "-policy" := by decide
  have dash : Plain "-" := by decide
  have integration : Plain "-integration" := by decide
  cases uses with
  | role => simp [execRoleName, role]
  | policy => simp [policyName, policy]
  | primary => simp [Node.shortName]
  | integration => simp [Edge.integrationName, Edge.pairName, dash, integration]

/-- No used name is empty. -/
theorem Uses.ne_empty {ids : List String} (uses : ctx.Uses ids n) : n ≠ "" := by
  cases uses with
  | role => simp [execRoleName, resourceName]
  | policy => simp [policyName, resourceName]
  | primary => simp [Platform.resourceName]
  | integration => simp [Edge.integrationName]

/-- A reference is made of a used name: it is the name alone, or the name with a field. -/
def Cites (ctx : Context) (ref : Reference) : Prop :=
  ∃ ids n, ctx.Uses ids n ∧ (ref = ⟨n⟩ ∨ ∃ f, ref = .toField n f)

/-- A configuration value refers to a node of no known platform, by its id. -/
def Strays (ctx : Context) (ref : Reference) : Prop :=
  ∃ i id field, .config i ∈ ctx.intents ∧ i.source = .reference id field ∧
    ctx.knownPlatformOf? id = none ∧ ref = .toField id (field.getD "id")

/-- A used name is cited alone. -/
theorem Uses.cites {ids : List String} (uses : ctx.Uses ids n) : ctx.Cites ⟨n⟩ :=
  ⟨ids, n, uses, Or.inl rfl⟩

/-- It is cited with any field. -/
theorem Uses.cites_field {ids : List String} (uses : ctx.Uses ids n) (f : String) :
    ctx.Cites (.toField n f) :=
  ⟨ids, n, uses, Or.inr ⟨f, rfl⟩⟩

/-- A configuration value that is a reference is made of a used name, unless its node is of no known
platform. -/
theorem cites_of_value {i : ConfigIntent} (intent : .config i ∈ ctx.intents) {ref : Reference}
    (value : i.source.value ctx = .ref ref) : ctx.Cites ref ∨ ctx.Strays ref := by
  cases source : i.source with
  | literal s =>
    rw [source] at value
    cases value
  | secret s =>
    rw [source] at value
    cases value
  | reference id field =>
    rw [source, ValueSource.value] at value
    cases known : ctx.knownPlatformOf? id with
    | none =>
      rw [known] at value
      cases value
      exact Or.inr ⟨i, id, field, intent, source, known, rfl⟩
    | some p =>
      rw [known] at value
      cases value
      exact Or.inl ((uses_resourceName known).cites_field _)

/-- Whatever a resource refers to is made of a used name, apart from configuration values and from what
the API of a gateway copies from its node. -/
theorem Yields.cites {r : Resource} (yields : ctx.Yields r) {key : String} {ref : Reference}
    (refers : r.Refers key ref) :
    ctx.Cites ref ∨ ctx.Strays ref ∨ ∃ m, ctx.Hosts m .httpGateway ∧ r = apiOf m ctx.config := by
  -- by origin: a lowerer refers by name, and only config intents bring in names of their own
  cases yields with
  | role => exact absurd refers not_refers_executionRole
  | basic principal =>
    obtain ⟨_, rfl⟩ := refers_basicAttachment.mp refers
    exact Or.inl (Uses.role principal).cites
  | policy _ platform within =>
    obtain ⟨_, inside⟩ := refers_accessPolicy.mp refers
    rw [refs_of_scopeValue within inside]
    exact Or.inl ((uses_resourceName platform).cites_field _)
  | attachment intent platform =>
    rcases refers_accessAttachment.mp refers with ⟨_, rfl⟩ | ⟨_, rfl⟩
    · exact Or.inl (Uses.role (.granted intent)).cites
    · exact Or.inl ((Uses.policy intent platform).cites_field _)
  | parameter intent =>
    obtain ⟨_, whole⟩ := refers_parameter.mp refers
    rcases cites_of_value intent whole with cites | strays
    · exact Or.inl cites
    · exact Or.inr (Or.inl strays)
  | @function m node =>
    rcases refers_functionOf refers with ⟨_, rfl⟩ | ⟨_, e, member, inside⟩
    · exact Or.inl (Uses.role (.function node)).cites
    · obtain ⟨i, intent, _, _, value⟩ := (ctx.asked_needsAt m.id).environment e member
      rw [← value, mem_refs_value] at inside
      rcases cites_of_value intent inside with cites | strays
      · exact Or.inl cites
      · exact Or.inr (Or.inl strays)
  | queue => exact absurd refers not_refers_queueOf
  | table => exact absurd refers not_refers_tableOf
  | bucket => exact absurd refers not_refers_bucketOf
  | versioning node =>
    obtain ⟨_, rfl⟩ := refers_versioningOf.mp refers
    exact Or.inl (Uses.primary node).cites
  | @api m node => exact Or.inr (Or.inr ⟨m, node, rfl⟩)
  | stage node =>
    obtain ⟨_, rfl⟩ := refers_stageOf.mp refers
    exact Or.inl (Uses.primary node).cites
  | topic => exact absurd refers not_refers_topicOf
  | mapping edge =>
    obtain ⟨source, target⟩ := platforms_of_mem_edgesBetween edge
    rcases refers_eventMapping.mp refers with ⟨_, rfl⟩ | ⟨_, rfl⟩
    · exact Or.inl (uses_resourceName target).cites
    · exact Or.inl (uses_resourceName source).cites
  | integration edge =>
    obtain ⟨source, target⟩ := platforms_of_mem_edgesBetween edge
    rcases refers_integrationOf.mp refers with ⟨_, rfl⟩ | ⟨_, rfl⟩
    · exact Or.inl (uses_resourceName source).cites
    · exact Or.inl (uses_resourceName target).cites
  | route edge =>
    obtain ⟨source, _⟩ := platforms_of_mem_edgesBetween edge
    rcases refers_routeOf.mp refers with ⟨_, rfl⟩ | ⟨_, rfl⟩
    · exact Or.inl (uses_resourceName source).cites
    · exact Or.inl (Uses.integration edge).cites
  | permission edge =>
    obtain ⟨source, target⟩ := platforms_of_mem_edgesBetween edge
    rcases refers_permissionOf.mp refers with ⟨_, rfl⟩ | ⟨_, rfl⟩
    · exact Or.inl (uses_resourceName target).cites
    · exact Or.inl (uses_resourceName source).cites

/-- The name of a resource with outputs is used. -/
theorem Yields.uses_name {r : Resource} (yields : ctx.Yields r)
    (outputs : ResourceKind.outputFieldsOf r.type ≠ []) : ∃ ids, ctx.Uses ids r.name := by
  cases yields with
  | role principal => exact ⟨_, .role principal⟩
  | function node =>
    rw [name_functionOf]
    exact ⟨_, .primary node⟩
  | queue node =>
    rw [name_queueOf]
    exact ⟨_, .primary node⟩
  | table node =>
    rw [name_tableOf]
    exact ⟨_, .primary node⟩
  | bucket node =>
    rw [name_bucketOf]
    exact ⟨_, .primary node⟩
  | api node =>
    rw [name_apiOf]
    exact ⟨_, .primary node⟩
  | topic node =>
    rw [name_topicOf]
    exact ⟨_, .primary node⟩
  | _ => simp [ResourceKind.outputFieldsOf, ResourceKind.outputFields] at outputs

/-- Every output template is made of a used name and a field. -/
theorem uses_of_mem_outputs {mode : LookupMode} {key template : String}
    (output : (key, template) ∈ (Plan.ofResult ((Adapter.standard mode).lower ctx)).outputs) :
    ∃ ids n f, ctx.Uses ids n ∧ f ≠ "" ∧ template = outputTemplate n f := by
  obtain ⟨q, planned, ⟨suffix, field⟩, listed, rfl⟩ := Plan.exists_of_mem_outputs output
  obtain ⟨r, ordered, rfl⟩ := List.mem_map.mp planned
  have yields := Context.yields_of_mem_lower (mem_of_mem_constructionOrder ordered)
  obtain ⟨ids, uses⟩ := yields.uses_name (List.ne_nil_of_mem listed)
  exact ⟨ids, r.name, field, uses, ResourceKind.ne_empty_of_mem_outputFieldsOf listed, rfl⟩

end Context

/-- **Which names survive.** Every reference of a kept resource is made of a used name, unless it
stands in the API of a gateway or for a node of no known platform; every output template is made of a
used name and a field. A used name alone, the name with a field, and its template with that field are
each read back as they were put in exactly if the short names that the name is joined from have no
dot. -/
theorem names_survive_iff (mode : LookupMode) (ctx : Context) :
    (∀ r ∈ ((Adapter.standard mode).lower ctx).resources, ∀ key ref, r.Refers key ref →
      ctx.Cites ref ∨ ctx.Strays ref ∨ ∃ m, ctx.Hosts m .httpGateway ∧ r = apiOf m ctx.config) ∧
    (∀ key template,
      (key, template) ∈ (Plan.ofResult ((Adapter.standard mode).lower ctx)).outputs →
      ∃ ids n f, ctx.Uses ids n ∧ f ≠ "" ∧ template = outputTemplate n f) ∧
    ∀ ids n, ctx.Uses ids n → ∀ f, f ≠ "" →
      ((Reference.resource ⟨n⟩ = n ∧ Reference.field? ⟨n⟩ = none) ↔
        ∀ id ∈ ids, Plain (shortName id)) ∧
      (((Reference.toField n f).resource = n ∧ (Reference.toField n f).field? = some f) ↔
        ∀ id ∈ ids, Plain (shortName id)) ∧
      (parseTemplate? (outputTemplate n f) = some (n, f) ↔ ∀ id ∈ ids, Plain (shortName id)) := by
  refine ⟨?_, fun _ _ => Context.uses_of_mem_outputs, ?_⟩
  · intro r kept key ref refers
    exact (Context.yields_of_mem_lower kept).cites refers
  · intro ids n uses f nonempty
    rw [← uses.plain_iff]
    refine ⟨⟨?_, ?_⟩, ⟨?_, ?_⟩, parseTemplate?_outputTemplate_iff uses.ne_empty nonempty⟩
    · rintro ⟨resource, _⟩
      exact Reference.resource_eq_iff.mp resource
    · intro plain
      exact ⟨Reference.resource_of_plain plain, Reference.field?_of_plain plain⟩
    · rintro ⟨resource, _⟩
      exact Reference.resource_toField_iff.mp resource
    · intro plain
      exact ⟨Reference.resource_toField plain f, Reference.field?_toField plain nonempty⟩

/-- A document with a queue whose short name has a dot. -/
def dottedQueue : Document :=
  ⟨⟨"us-east-1", "orders", none, none⟩, [],
    ⟨[⟨"platform:jobs.v1", [("platform", .string "queue")]⟩], []⟩⟩

set_option maxRecDepth 10000 in
/-- Nothing is wrong with that document and it is lowered without errors, but the name of the queue
survives neither alone nor with a field nor in a template. -/
theorem dotted_name_lost :
    dottedQueue.problems = [] ∧ ((Adapter.standard .registry).lower dottedQueue).success = true ∧
      Context.Uses dottedQueue ["platform:jobs.v1"] "jobs.v1-queue" ∧
      ¬ (Reference.resource ⟨"jobs.v1-queue"⟩ = "jobs.v1-queue" ∧
        Reference.field? ⟨"jobs.v1-queue"⟩ = none) ∧
      ¬ ((Reference.toField "jobs.v1-queue" "url").resource = "jobs.v1-queue" ∧
        (Reference.toField "jobs.v1-queue" "url").field? = some "url") ∧
      parseTemplate? (outputTemplate "jobs.v1-queue" "url") ≠ some ("jobs.v1-queue", "url") := by
  have host : Context.Hosts dottedQueue ⟨"platform:jobs.v1", [("platform", .string "queue")]⟩
      .queue := ⟨by decide, by decide⟩
  have uses : Context.Uses dottedQueue ["platform:jobs.v1"] "jobs.v1-queue" := .primary host
  have dotted : ¬ ∀ id ∈ ["platform:jobs.v1"], Plain (shortName id) := by decide
  obtain ⟨_, _, readings⟩ := names_survive_iff .registry dottedQueue
  obtain ⟨alone, field, template⟩ := readings _ _ uses "url" (by decide)
  exact ⟨by decide, by decide, uses, mt alone.mp dotted, mt field.mp dotted, mt template.mp dotted⟩

end CloudPlan
