import CloudPlan.Lowering.Data
import CloudPlan.Lowering.Http
import CloudPlan.Lowering.Messaging
import CloudPlan.Proofs.Entries

/-!
# References of resources

`Value.refs` lists the references anywhere in a value, and `Resource.Refers` says that a property of
a resource holds one. For every builder of resources there is a lemma with the references that its
resources hold, and one with what they depend on. References come from fixed names everywhere but at
gateways, where `cors` is copied from the node.
-/

set_option autoImplicit false

namespace CloudPlan

namespace Value

mutual

/-- The references in a value, at any depth. -/
def refs : Value → List Reference
  | .ref r => [r]
  | .list items => refsOfItems items
  | .map entries => refsOfEntries entries
  | .bool _ | .number _ | .string _ | .null => []

/-- The references in the items of a list. -/
def refsOfItems : List Value → List Reference
  | [] => []
  | v :: rest => refs v ++ refsOfItems rest

/-- The references in the values of a map. -/
def refsOfEntries : List (String × Value) → List Reference
  | [] => []
  | (_, v) :: rest => refs v ++ refsOfEntries rest

end

/-- The references in the values of a map are those in one of the values. -/
theorem mem_refsOfEntries {ref : Reference} {entries : List (String × Value)} :
    ref ∈ refsOfEntries entries ↔ ∃ e ∈ entries, ref ∈ e.2.refs := by
  induction entries with
  | nil => simp [refsOfEntries]
  | cons e rest ih => simp [refsOfEntries, ih]

@[simp]
theorem refsOfItems_strings (texts : List String) : refsOfItems (texts.map .string) = [] := by
  induction texts with
  | nil => rfl
  | cons t rest ih => simp [refsOfItems, refs, ih]

end Value

/-! ## Tokens -/

namespace ResourceKind

@[simp]
theorem ofToken?_token (kind : ResourceKind) : ofToken? kind.token = some kind := by
  cases kind <;> decide

@[simp]
theorem token_inj {a b : ResourceKind} : a.token = b.token ↔ a = b := by
  constructor
  · intro same
    have found := ofToken?_token a
    rw [same, ofToken?_token, Option.some.injEq] at found
    exact found.symm
  · intro same
    rw [same]

end ResourceKind

/-! ## Setting properties and dependencies -/

namespace Resource

variable {r : Resource} {key : String} {value : Value}

/-- A property of a resource holds a reference, at any depth. -/
def Refers (r : Resource) (key : String) (ref : Reference) : Prop :=
  ∃ v, (key, v) ∈ r.properties ∧ ref ∈ v.refs

/-- What a resource refers to stands in one of its properties. -/
theorem refers_iff {ref : Reference} :
    r.Refers key ref ↔ ∃ e ∈ r.properties, e.1 = key ∧ ref ∈ e.2.refs := by
  constructor
  · rintro ⟨v, member, inside⟩
    exact ⟨(key, v), member, rfl, inside⟩
  · rintro ⟨⟨k, v⟩, member, rfl, inside⟩
    exact ⟨v, member, inside⟩

@[simp] theorem name_set : (r.set key value).name = r.name := rfl

@[simp] theorem type_set : (r.set key value).type = r.type := rfl

@[simp] theorem dependsOn_set : (r.set key value).dependsOn = r.dependsOn := rfl

@[simp] theorem source_set : (r.set key value).source = r.source := rfl

@[simp] theorem name_setText {text : String} : (r.setText key text).name = r.name := rfl

@[simp] theorem type_setText {text : String} : (r.setText key text).type = r.type := rfl

@[simp] theorem dependsOn_setText {text : String} :
    (r.setText key text).dependsOn = r.dependsOn := rfl

@[simp] theorem source_setText {text : String} : (r.setText key text).source = r.source := rfl

@[simp] theorem name_set? {value : Option Value} : (r.set? key value).name = r.name := by
  cases value <;> rfl

@[simp] theorem type_set? {value : Option Value} : (r.set? key value).type = r.type := by
  cases value <;> rfl

@[simp] theorem dependsOn_set? {value : Option Value} :
    (r.set? key value).dependsOn = r.dependsOn := by
  cases value <;> rfl

@[simp] theorem source_set? {value : Option Value} : (r.set? key value).source = r.source := by
  cases value <;> rfl

@[simp] theorem name_after {names : List String} : (r.after names).name = r.name := rfl

@[simp] theorem type_after {names : List String} : (r.after names).type = r.type := rfl

@[simp] theorem dependsOn_after {names : List String} :
    (r.after names).dependsOn = r.dependsOn ++ names := rfl

@[simp] theorem properties_after {names : List String} :
    (r.after names).properties = r.properties := rfl

@[simp] theorem source_after {names : List String} : (r.after names).source = r.source := rfl

@[simp] theorem name_ofKind {kind : ResourceKind} {name source : String} :
    (ofKind kind name source).name = name := rfl

@[simp] theorem type_ofKind {kind : ResourceKind} {name source : String} :
    (ofKind kind name source).type = kind.token := rfl

@[simp] theorem dependsOn_ofKind {kind : ResourceKind} {name source : String} :
    (ofKind kind name source).dependsOn = [] := rfl

@[simp] theorem source_ofKind {kind : ResourceKind} {name source : String} :
    (ofKind kind name source).source = source := rfl

/-- A resource that has been given no properties yet refers to nothing. -/
theorem not_refers_ofKind {kind : ResourceKind} {name source other : String} {ref : Reference} :
    ¬ (ofKind kind name source).Refers other ref := by
  rintro ⟨v, none, _⟩
  cases none

/-- A property that is set adds no references but those of its value. -/
theorem Refers.of_set {other : String} {ref : Reference}
    (refers : (r.set key value).Refers other ref) :
    other = key ∧ ref ∈ value.refs ∨ r.Refers other ref := by
  obtain ⟨v, member, inside⟩ := refers
  rcases Entries.mem_insert member with new | old
  · cases new
    exact Or.inl ⟨rfl, inside⟩
  · exact Or.inr ⟨v, old, inside⟩

/-- A property that is set to a value without references adds none. -/
theorem Refers.of_set_nil {other : String} {ref : Reference} (none : value.refs = [])
    (refers : (r.set key value).Refers other ref) : r.Refers other ref := by
  rcases refers.of_set with ⟨_, inside⟩ | old
  · rw [none] at inside
    cases inside
  · exact old

/-- A property that is set to one of some values without references, if at all, adds none. -/
theorem Refers.of_set?_map {α : Type} {f : α → Value} {x : Option α} {other : String}
    {ref : Reference} (none : ∀ a, (f a).refs = [])
    (refers : (r.set? key (x.map f)).Refers other ref) : r.Refers other ref := by
  cases x with
  | none => exact refers
  | some a => exact Refers.of_set_nil (none a) refers

/-- A change under a condition adds no references if the change adds none. -/
theorem Refers.of_ite {c : Prop} [Decidable c] {s : Resource} {ref : Reference}
    (refers : (if c then s else r).Refers key ref)
    (unchanged : s.Refers key ref → r.Refers key ref) : r.Refers key ref := by
  split at refers
  · exact unchanged refers
  · exact refers

/-- Dependencies do not change what a resource refers to. -/
@[simp]
theorem refers_after {names : List String} {other : String} {ref : Reference} :
    (r.after names).Refers other ref ↔ r.Refers other ref :=
  Iff.rfl

end Resource

/-! ## Roles and policies -/

section Access

variable {key : String} {ref : Reference}

@[simp] theorem type_executionRole {id source : String} :
    (executionRole id source).type = ResourceKind.role.token := rfl

@[simp] theorem type_basicAttachment {id source : String} :
    (basicAttachment id source).type = ResourceKind.rolePolicyAttachment.token := rfl

@[simp] theorem type_accessPolicy {i : AccessIntent} {p : Platform} {actions : List String}
    {scope : Value} : (accessPolicy i p actions scope).type = ResourceKind.policy.token := rfl

@[simp] theorem type_accessAttachment {i : AccessIntent} :
    (accessAttachment i).type = ResourceKind.rolePolicyAttachment.token := rfl

/-- An execution role refers to nothing. -/
theorem not_refers_executionRole {id source : String} :
    ¬ (executionRole id source).Refers key ref := by
  intro refers
  have none : (assumeRolePolicy "lambda.amazonaws.com").refs = [] := rfl
  exact Resource.not_refers_ofKind (refers.of_set_nil none)

/-- The attachment of the basic policy refers to the role and to nothing else. -/
theorem refers_basicAttachment {id source : String} :
    (basicAttachment id source).Refers key ref ↔ key = "role" ∧ ref = ⟨execRoleName id⟩ := by
  have properties : (basicAttachment id source).properties =
      [("role", .refTo (execRoleName id)), ("policyArn", .string basicExecutionPolicy)] := rfl
  simp [Resource.refers_iff, properties, Value.refTo, Value.refs, eq_comm]

/-- An access policy refers to what its scope refers to. -/
theorem refers_accessPolicy {i : AccessIntent} {p : Platform} {actions : List String}
    {scope : Value} :
    (accessPolicy i p actions scope).Refers key ref ↔ key = "policy" ∧ ref ∈ scope.refs := by
  have properties : (accessPolicy i p actions scope).properties =
      [("description", .string (shortName i.principal ++ " access to " ++ shortName i.resource)),
       ("policy", policyDocument (accessStatement actions scope))] := rfl
  simp [Resource.refers_iff, properties, policyDocument, accessStatement, Value.refs,
    Value.refsOfEntries, Value.refsOfItems, eq_comm]

/-- The attachment of an access policy refers to the role and to the ARN of the policy. -/
theorem refers_accessAttachment {i : AccessIntent} :
    (accessAttachment i).Refers key ref ↔
      key = "role" ∧ ref = ⟨execRoleName i.principal⟩ ∨
      key = "policyArn" ∧ ref = .toField (policyName i) "arn" := by
  have properties : (accessAttachment i).properties =
      [("role", .refTo (execRoleName i.principal)),
       ("policyArn", .refToField (policyName i) "arn")] := rfl
  simp [Resource.refers_iff, properties, Value.refTo, Value.refToField, Value.refs, eq_comm]

/-- What a well-formed scope stands for on a platform: its pattern as it is, or the primary resource by
reference. -/
inductive AccessIntent.Scoped (i : AccessIntent) (p : Platform) : Value → Prop where
  | pattern {text : String} (given : i.scope = some (.pattern (some text)))
      (visible : Text.isBlankText text = false) : Scoped i p (.string text)
  | resource (whole : ∀ pattern, i.scope ≠ some (.pattern pattern)) :
      Scoped i p (.refToField (p.resourceName (shortName i.resource)) p.arnField)

/-- The scope is a pattern, and that is missing or blank. -/
def AccessIntent.Unscoped (i : AccessIntent) : Prop :=
  ∃ pattern, i.scope = some (.pattern pattern) ∧
    ∀ text, pattern = some text → Text.isBlankText text = true

section Scopes

variable {i : AccessIntent} {p : Platform} {scope : Value}

/-- An access intent has a scope, or it has a pattern that is missing or blank. -/
theorem scoped_or_unscoped (i : AccessIntent) (p : Platform) :
    (∃ scope, i.Scoped p scope) ∨ i.Unscoped := by
  cases given : i.scope with
  | none => exact Or.inl ⟨_, .resource fun _ other => by cases given.symm.trans other⟩
  | some scope =>
    cases scope with
    | specific => exact Or.inl ⟨_, .resource fun _ other => by cases given.symm.trans other⟩
    | pattern pattern =>
      cases pattern with
      | none => exact Or.inr ⟨none, given, fun _ none => by cases none⟩
      | some text =>
        cases blank : Text.isBlankText text with
        | true => exact Or.inr ⟨some text, given, fun _ same => by cases same; exact blank⟩
        | false => exact Or.inl ⟨_, .pattern given blank⟩

/-- The scope that is meant is the one that is lowered. -/
theorem scopeValue_of_scoped (meant : i.Scoped p scope) : scopeValue i p = .ok scope := by
  unfold scopeValue
  rcases meant with ⟨given, visible⟩ | whole
  · simp only [given, visible]
    rfl
  · split
    · exact absurd ‹_› (whole _)
    · exact absurd ‹_› (whole _)
    all_goals rfl

/-- A pattern that is missing or blank is reported for the edge of the intent. -/
theorem scopeValue_of_unscoped (unscoped : i.Unscoped) :
    scopeValue i p = .error (.emptyPattern i.edge) := by
  obtain ⟨pattern, given, blank⟩ := unscoped
  unfold scopeValue
  cases pattern with
  | none => simp only [given]
  | some text => simp only [given, blank text rfl, if_true]

/-- So the lowered scope is the one that is meant. -/
theorem scopeValue_eq_ok_iff : scopeValue i p = .ok scope ↔ i.Scoped p scope := by
  refine ⟨fun within => ?_, scopeValue_of_scoped⟩
  rcases scoped_or_unscoped i p with ⟨other, meant⟩ | unscoped
  · cases within.symm.trans (scopeValue_of_scoped meant)
    exact meant
  · cases within.symm.trans (scopeValue_of_unscoped unscoped)

end Scopes

/-- A scope refers to the resource that it is made for, if it has no pattern. -/
theorem refs_of_scopeValue {i : AccessIntent} {p : Platform} {scope : Value}
    (within : scopeValue i p = .ok scope) (inside : ref ∈ scope.refs) :
    ref = .toField (p.resourceName (shortName i.resource)) p.arnField := by
  rcases scopeValue_eq_ok_iff.mp within with _ | _
  · cases inside
  · exact List.mem_singleton.mp inside

end Access

/-! ## Values and parameters -/

section Values

variable {ctx : Context} {key : String} {ref : Reference}

@[simp] theorem type_parameter {i : ConfigIntent} :
    (i.parameter ctx).type = ResourceKind.parameter.token := rfl

/-- A configuration value holds no references but the one that it may be. -/
theorem mem_refs_value {source : ValueSource} :
    ref ∈ (source.value ctx).refs ↔ source.value ctx = .ref ref := by
  cases source with
  | literal v => simp [ValueSource.value, Value.refs]
  | secret name => simp [ValueSource.value, Value.refs, Value.refsOfEntries]
  | reference node field =>
    simp only [ValueSource.value]
    split <;> simp [Value.refToField, Value.refs, eq_comm]

/-- A parameter refers to what its intent takes the value from, if that is a reference. -/
theorem refers_parameter {i : ConfigIntent} :
    (i.parameter ctx).Refers key ref ↔ key = "value" ∧ i.source.value ctx = .ref ref := by
  have properties : (i.parameter ctx).properties =
      [("name", .string ("/" ++ ctx.config.serviceName ++ "/" ++ shortName i.target ++ "/" ++ i.key)),
       ("type", .string i.source.parameterType), ("value", i.source.value ctx),
       ("tags", .map [(nodeTag, .string i.target)])] := rfl
  simp [Resource.refers_iff, properties, mem_refs_value, Value.refs, Value.refsOfEntries, eq_comm]

end Values

/-! ## Nodes -/

section Nodes

variable {n : Node} {config : Config} {key : String} {ref : Reference}

@[simp] theorem name_queueOf : (queueOf n).name = Platform.queue.resourceName n.shortName := by
  unfold queueOf
  split <;> simp

@[simp] theorem type_queueOf : (queueOf n).type = ResourceKind.queue.token := by
  unfold queueOf
  split <;> simp

@[simp] theorem name_topicOf :
    (topicOf n).name = Platform.pubsubTopic.resourceName n.shortName := by
  unfold topicOf
  split <;> simp

@[simp] theorem type_topicOf : (topicOf n).type = ResourceKind.topic.token := by
  unfold topicOf
  split <;> simp

@[simp] theorem name_tableOf {hash : KeyAttribute} {range : Option KeyAttribute} :
    (tableOf n hash range).name = Platform.keyValueTable.resourceName n.shortName := by
  unfold tableOf
  split <;> simp

@[simp] theorem type_tableOf {hash : KeyAttribute} {range : Option KeyAttribute} :
    (tableOf n hash range).type = ResourceKind.table.token := by
  unfold tableOf
  split <;> simp

@[simp] theorem name_bucketOf :
    (bucketOf n).name = Platform.objectStore.resourceName n.shortName := by
  simp [bucketOf]

@[simp] theorem type_bucketOf : (bucketOf n).type = ResourceKind.bucket.token := by
  simp [bucketOf]

@[simp] theorem name_apiOf :
    (apiOf n config).name = Platform.httpGateway.resourceName n.shortName := by
  simp [apiOf]

@[simp] theorem type_apiOf : (apiOf n config).type = ResourceKind.api.token := by
  simp [apiOf]

@[simp] theorem source_queueOf : (queueOf n).source = n.id := by
  unfold queueOf
  split <;> simp

@[simp] theorem source_topicOf : (topicOf n).source = n.id := by
  unfold topicOf
  split <;> simp

@[simp] theorem source_tableOf {hash : KeyAttribute} {range : Option KeyAttribute} :
    (tableOf n hash range).source = n.id := by
  unfold tableOf
  split <;> simp

@[simp] theorem source_bucketOf : (bucketOf n).source = n.id := by
  simp [bucketOf]

@[simp] theorem source_apiOf : (apiOf n config).source = n.id := by
  simp [apiOf]

@[simp] theorem type_versioningOf :
    (versioningOf n).type = ResourceKind.bucketVersioning.token := rfl

@[simp] theorem type_stageOf : (stageOf n).type = ResourceKind.stage.token := rfl

@[simp] theorem dependsOn_apiOf : (apiOf n config).dependsOn = [] := by
  simp [apiOf]

@[simp] theorem refs_nodeTags {platform : String} : (nodeTags n platform).refs = [] :=
  rfl

/-- A queue refers to nothing. -/
theorem not_refers_queueOf : ¬ (queueOf n).Refers key ref := by
  intro refers
  unfold queueOf at refers
  have refers := (refers.of_set_nil refs_nodeTags).of_set?_map fun _ => rfl
  have refers := refers.of_ite fun h => h.of_set_nil rfl
  exact Resource.not_refers_ofKind ((refers.of_set_nil rfl).of_set_nil rfl)

/-- A topic refers to nothing. -/
theorem not_refers_topicOf : ¬ (topicOf n).Refers key ref := by
  intro refers
  unfold topicOf at refers
  have refers := (refers.of_set_nil refs_nodeTags).of_set?_map fun _ => rfl
  have refers := refers.of_ite fun h => (h.of_set_nil rfl).of_set_nil rfl
  exact Resource.not_refers_ofKind refers

/-- The keys of a table refer to nothing. -/
theorem refs_keys (keys : List KeyAttribute) :
    (Value.list (keys.map KeyAttribute.value)).refs = [] := by
  unfold Value.refs
  induction keys with
  | nil => rfl
  | cons k rest ih =>
    rw [List.map_cons, Value.refsOfItems, ih]
    rfl

/-- Neither does a table. -/
theorem not_refers_tableOf {hash : KeyAttribute} {range : Option KeyAttribute} :
    ¬ (tableOf n hash range).Refers key ref := by
  intro refers
  unfold tableOf at refers
  have refers := (refers.of_set_nil refs_nodeTags).of_ite
    fun h => (h.of_set_nil rfl).of_set_nil rfl
  have refers := (refers.of_set_nil (refs_keys _)).of_set?_map fun _ => rfl
  exact Resource.not_refers_ofKind ((refers.of_set_nil rfl).of_set_nil rfl)

/-- A bucket refers to nothing. -/
theorem not_refers_bucketOf : ¬ (bucketOf n).Refers key ref := by
  intro refers
  unfold bucketOf at refers
  exact Resource.not_refers_ofKind
    ((refers.of_set_nil refs_nodeTags).of_set?_map fun _ => rfl)

/-- The versioning of a bucket refers to the bucket alone. -/
theorem refers_versioningOf :
    (versioningOf n).Refers key ref ↔
      key = "bucket" ∧ ref = ⟨Platform.objectStore.resourceName n.shortName⟩ := by
  have properties : (versioningOf n).properties =
      [("bucket", .refTo (Platform.objectStore.resourceName n.shortName)),
       ("versioningConfiguration", .map [("status", .string "Enabled")])] := rfl
  simp [Resource.refers_iff, properties, Value.refTo, Value.refs, Value.refsOfEntries, eq_comm]

/-- The properties of an API; the setting `cors` of its node is one of them if it is there. -/
theorem properties_apiOf :
    (apiOf n config).properties =
      [("name", .string (config.serviceName ++ "-" ++ n.shortName)),
        ("protocolType", .string "HTTP")] ++
      ((Entries.get? n.properties "cors").map fun cors =>
        ("corsConfiguration", Value.ofJson cors)).toList ++
      [("tags", nodeTags n Platform.httpGateway.name)] := by
  cases given : Entries.get? n.properties "cors" <;>
    · simp only [apiOf, given]
      rfl

/-- An API refers to whatever the setting `cors` of its node refers to, and to nothing else. -/
theorem refers_apiOf :
    (apiOf n config).Refers key ref ↔
      key = "corsConfiguration" ∧
        ∃ cors, Entries.get? n.properties "cors" = some cors ∧ ref ∈ (Value.ofJson cors).refs := by
  cases given : Entries.get? n.properties "cors" <;>
    simp [Resource.refers_iff, properties_apiOf, given, Value.refs, eq_comm]

/-- A stage refers to its gateway alone. -/
theorem refers_stageOf :
    (stageOf n).Refers key ref ↔
      key = "apiId" ∧ ref = ⟨Platform.httpGateway.resourceName n.shortName⟩ := by
  have properties : (stageOf n).properties =
      [("apiId", .refTo (Platform.httpGateway.resourceName n.shortName)),
       ("name", .string "$default"), ("autoDeploy", .bool true),
       ("tags", nodeTags n Platform.httpGateway.name)] := rfl
  simp [Resource.refers_iff, properties, Value.refTo, Value.refs, eq_comm]

end Nodes

/-! ## Functions -/

namespace Resource

variable {r : Resource}

/-- A dependency that is added unless it is there is there afterwards, beside those from before. -/
theorem mem_dependsOn_afterOnce {name other : String} :
    other ∈ (r.afterOnce name).dependsOn ↔ other ∈ r.dependsOn ∨ other = name := by
  unfold afterOnce
  split
  · rename_i present
    constructor
    · intro member
      exact Or.inl member
    · rintro (member | rfl)
      · exact member
      · simpa using present
  · simp

/-- Adding dependencies changes nothing else. -/
theorem foldl_afterOnce (names : List String) (r : Resource) :
    (names.foldl afterOnce r).name = r.name ∧ (names.foldl afterOnce r).type = r.type ∧
      (names.foldl afterOnce r).source = r.source ∧
      (names.foldl afterOnce r).properties = r.properties := by
  induction names generalizing r with
  | nil => exact ⟨rfl, rfl, rfl, rfl⟩
  | cons name rest ih =>
    obtain ⟨sameName, sameType, sameSource, sameProperties⟩ := ih (r.afterOnce name)
    rw [List.foldl_cons, sameName, sameType, sameSource, sameProperties]
    unfold afterOnce
    split <;> exact ⟨rfl, rfl, rfl, rfl⟩

/-- All dependencies that are added are there afterwards, beside those from before. -/
theorem mem_dependsOn_foldl_afterOnce (names : List String) (r : Resource) {other : String} :
    other ∈ (names.foldl afterOnce r).dependsOn ↔ other ∈ r.dependsOn ∨ other ∈ names := by
  induction names generalizing r with
  | nil => simp
  | cons name rest ih =>
    rw [List.foldl_cons, ih, mem_dependsOn_afterOnce, List.mem_cons, or_assoc]

end Resource

section Functions

variable {n : Node} {config : Config} {needs : Needs} {role key : String} {ref : Reference}

/-- The code of a function holds no references. -/
theorem Resource.Refers.of_setCode {r : Resource} (refers : (setCode r config).Refers key ref) :
    r.Refers key ref := by
  unfold setCode at refers
  split at refers
  · exact (refers.of_set_nil rfl).of_set_nil rfl
  · exact refers.of_set_nil rfl
  · exact refers

/-- The environment of a function holds the references of its values. -/
theorem Resource.Refers.of_setEnvironment {r : Resource} {environment : Entries Value}
    (refers : (setEnvironment r environment).Refers key ref) :
    (key = "environment" ∧ ∃ e ∈ environment, ref ∈ e.2.refs) ∨ r.Refers key ref := by
  unfold setEnvironment at refers
  split at refers
  · exact Or.inr refers
  · rcases refers.of_set with ⟨same, inside⟩ | old
    · simp only [Value.refs, Value.refsOfEntries, List.append_nil, Value.mem_refsOfEntries]
        at inside
      exact Or.inl ⟨same, inside⟩
    · exact Or.inr old

/-- The security groups of a function hold no references. -/
theorem Resource.Refers.of_setSecurityGroups {r : Resource} {groups : List String}
    (refers : (setSecurityGroups r groups).Refers key ref) : r.Refers key ref := by
  unfold setSecurityGroups at refers
  split at refers
  · exact refers
  · exact refers.of_set_nil (by simp [Value.refs, Value.refsOfEntries])

/-- A function refers to its role and to what the values of its environment refer to. -/
theorem refers_functionOf (refers : (functionOf n config needs role).Refers key ref) :
    key = "role" ∧ ref = ⟨role⟩ ∨
      key = "environment" ∧ ∃ e ∈ needs.environment, ref ∈ e.2.refs := by
  unfold functionOf at refers
  unfold Resource.Refers at refers
  rw [(Resource.foldl_afterOnce _ _).2.2.2] at refers
  have refers := Resource.refers_after.mp refers
  have refers := (refers.of_set_nil refs_nodeTags).of_setSecurityGroups
  rcases refers.of_setEnvironment with inside | refers
  · exact Or.inr inside
  · have refers := (((refers.of_setCode.of_set_nil rfl).of_set_nil rfl).of_set_nil rfl).of_set_nil rfl
    rcases refers.of_set with ⟨same, inside⟩ | none
    · exact Or.inl ⟨same, List.mem_singleton.mp inside⟩
    · exact absurd none Resource.not_refers_ofKind

/-- Where the code is stored is a property: nothing else changes. -/
theorem frame_setCode (r : Resource) (config : Config) :
    (setCode r config).name = r.name ∧ (setCode r config).type = r.type ∧
      (setCode r config).source = r.source ∧ (setCode r config).dependsOn = r.dependsOn := by
  unfold setCode
  split <;> exact ⟨rfl, rfl, rfl, rfl⟩

/-- So is the environment. -/
theorem frame_setEnvironment (r : Resource) (environment : Entries Value) :
    (setEnvironment r environment).name = r.name ∧ (setEnvironment r environment).type = r.type ∧
      (setEnvironment r environment).source = r.source ∧
      (setEnvironment r environment).dependsOn = r.dependsOn := by
  unfold setEnvironment
  split <;> exact ⟨rfl, rfl, rfl, rfl⟩

/-- So are the security groups. -/
theorem frame_setSecurityGroups (r : Resource) (groups : List String) :
    (setSecurityGroups r groups).name = r.name ∧ (setSecurityGroups r groups).type = r.type ∧
      (setSecurityGroups r groups).source = r.source ∧
      (setSecurityGroups r groups).dependsOn = r.dependsOn := by
  unfold setSecurityGroups
  split <;> exact ⟨rfl, rfl, rfl, rfl⟩

@[simp] theorem name_functionOf :
    (functionOf n config needs role).name = Platform.computeFunction.resourceName n.shortName := by
  unfold functionOf
  simp [Resource.foldl_afterOnce, frame_setCode, frame_setEnvironment, frame_setSecurityGroups]

@[simp] theorem type_functionOf :
    (functionOf n config needs role).type = ResourceKind.function.token := by
  unfold functionOf
  simp [Resource.foldl_afterOnce, frame_setCode, frame_setEnvironment, frame_setSecurityGroups]

@[simp] theorem source_functionOf : (functionOf n config needs role).source = n.id := by
  unfold functionOf
  simp [Resource.foldl_afterOnce, frame_setCode, frame_setEnvironment, frame_setSecurityGroups]

/-- A function depends on its role and on what the values of its environment directly refer to. -/
theorem mem_dependsOn_functionOf {name : String} :
    name ∈ (functionOf n config needs role).dependsOn ↔
      name = role ∨ ∃ e ∈ needs.environment, name ∈ e.2.directDependency := by
  unfold functionOf
  rw [Resource.mem_dependsOn_foldl_afterOnce]
  simp [frame_setCode, frame_setEnvironment, frame_setSecurityGroups]

end Functions

/-! ## Edges -/

section Edges

variable {e : Edge} {key : String} {ref : Reference}

@[simp] theorem type_eventMapping :
    (eventMapping e).type = ResourceKind.eventSourceMapping.token := rfl

@[simp] theorem type_integrationOf :
    (integrationOf e).type = ResourceKind.integration.token := rfl

@[simp] theorem type_routeOf : (routeOf e).type = ResourceKind.route.token := rfl

@[simp] theorem type_permissionOf : (permissionOf e).type = ResourceKind.permission.token := rfl

@[simp] theorem refs_edgeTags : (edgeTags e).refs = [] :=
  rfl

/-- An event mapping refers to the queue that is read and to the function that reads it. -/
theorem refers_eventMapping :
    (eventMapping e).Refers key ref ↔
      key = "eventSourceArn" ∧ ref = ⟨Platform.queue.resourceName (shortName e.target)⟩ ∨
      key = "functionName" ∧
        ref = ⟨Platform.computeFunction.resourceName (shortName e.source)⟩ := by
  have properties : (eventMapping e).properties =
      [("eventSourceArn", .refTo (Platform.queue.resourceName (shortName e.target))),
       ("functionName", .refTo (Platform.computeFunction.resourceName (shortName e.source))),
       ("batchSize", .ofNat 10), ("enabled", .bool true)] := rfl
  simp [Resource.refers_iff, properties, Value.refTo, Value.ofNat, Value.refs, eq_comm]

/-- An integration refers to the gateway and to the function behind it. -/
theorem refers_integrationOf :
    (integrationOf e).Refers key ref ↔
      key = "apiId" ∧ ref = ⟨e.apiName⟩ ∨ key = "integrationUri" ∧ ref = ⟨e.functionName⟩ := by
  have properties : (integrationOf e).properties =
      [("apiId", .refTo e.apiName), ("integrationType", .string "AWS_PROXY"),
       ("integrationUri", .refTo e.functionName), ("integrationMethod", .string "POST"),
       ("payloadFormatVersion", .string "2.0"), ("tags", edgeTags e)] := rfl
  simp [Resource.refers_iff, properties, Value.refTo, Value.refs, eq_comm]

/-- A route refers to the gateway and to the integration that it leads to. -/
theorem refers_routeOf :
    (routeOf e).Refers key ref ↔
      key = "apiId" ∧ ref = ⟨e.apiName⟩ ∨ key = "target" ∧ ref = ⟨e.integrationName⟩ := by
  have properties : (routeOf e).properties =
      [("apiId", .refTo e.apiName), ("routeKey", .string e.routeKey),
       ("target", .refTo e.integrationName), ("tags", edgeTags e)] := rfl
  simp [Resource.refers_iff, properties, Value.refTo, Value.refs, eq_comm]

/-- A permission refers to the function that is invoked and to the gateway that may do so. -/
theorem refers_permissionOf :
    (permissionOf e).Refers key ref ↔
      key = "function" ∧ ref = ⟨e.functionName⟩ ∨ key = "sourceArn" ∧ ref = ⟨e.apiName⟩ := by
  have properties : (permissionOf e).properties =
      [("action", .string "lambda:InvokeFunction"), ("function", .refTo e.functionName),
       ("principal", .string "apigateway.amazonaws.com"), ("sourceArn", .refTo e.apiName),
       ("tags", edgeTags e)] := rfl
  simp [Resource.refers_iff, properties, Value.refTo, Value.refs, eq_comm]

end Edges

end CloudPlan
