import CloudPlan.Proofs.ArnMarks
import CloudPlan.Proofs.GrantedAccess
import CloudPlan.Proofs.Texts

/-!
# No ARN is invented

The only ARN that lowering writes down is that of the basic execution policy. Every other text in
the properties of a resource is a fixed text without the mark of an ARN, or is made from texts of
the document by cutting, joining and upper case, which bring up no mark. There is one lemma for each
builder of resources, and `arns_come_from_document` puts them together.
-/

set_option autoImplicit false

namespace CloudPlan

/-- None of the texts holds the mark of an ARN. -/
def ArnFree (texts : List String) : Prop :=
  ∀ s ∈ texts, ¬ HoldsArn s

instance (texts : List String) : Decidable (ArnFree texts) :=
  inferInstanceAs (Decidable (∀ s ∈ texts, ¬ HoldsArn s))

@[simp]
theorem arnFree_nil : ArnFree [] := nofun

@[simp]
theorem arnFree_cons {s : String} {texts : List String} :
    ArnFree (s :: texts) ↔ ¬ HoldsArn s ∧ ArnFree texts := by
  simp [ArnFree]

@[simp]
theorem arnFree_append {texts more : List String} :
    ArnFree (texts ++ more) ↔ ArnFree texts ∧ ArnFree more := by
  simp [ArnFree, or_imp, forall_and]

/-- Fewer texts hold no mark either. -/
theorem ArnFree.subset {texts more : List String} (free : ArnFree texts) (fewer : more ⊆ texts) :
    ArnFree more :=
  fun s member => free s (fewer member)

/-- Cutting an id down to its short name brings up no mark. -/
theorem not_holdsArn_shortName {id : String} (free : ¬ HoldsArn id) : ¬ HoldsArn (shortName id) :=
  fun marked => free marked.of_shortName

/-- The name of an execution role holds no mark unless the id of its principal does. -/
theorem not_holdsArn_execRoleName {id : String} (free : ¬ HoldsArn id) :
    ¬ HoldsArn (execRoleName id) := by
  rw [execRoleName, holdsArn_resourceName, not_or]
  exact ⟨not_holdsArn_shortName free, by decide⟩

/-! ## Setting properties -/

namespace ArnFree

variable {r s : Resource} {key : String}

/-- A resource that has been given no properties yet holds no text at all. -/
theorem ofKind {kind : ResourceKind} {name source : String} :
    ArnFree (Resource.ofKind kind name source).texts := nofun

/-- Setting a property to a value without marks, under a key without one, brings up no mark. -/
theorem set {value : Value} (old : ArnFree r.texts) (new : ArnFree (key :: value.texts)) :
    ArnFree (r.set key value).texts := by
  intro s member
  obtain ⟨e, there, here⟩ := Value.mem_textsOfEntries.mp member
  rcases Entries.mem_insert there with rfl | before
  · exact new s (List.mem_cons.mpr here)
  · exact old s (Value.mem_textsOfEntries.mpr ⟨e, before, here⟩)

/-- The same for a property that is a text. -/
theorem setText {text : String} (old : ArnFree r.texts) (new : ArnFree [key, text]) :
    ArnFree (r.setText key text).texts :=
  old.set new

/-- A property that is set only if there is something to set it to brings up no mark if that never
does. -/
theorem set?_map {α : Type} {f : α → Value} {x : Option α} (old : ArnFree r.texts)
    (new : ∀ a, x = some a → ArnFree (key :: (f a).texts)) :
    ArnFree (r.set? key (x.map f)).texts := by
  cases x with
  | none => exact old
  | some a => exact old.set (new a rfl)

/-- A resource built in one of two ways holds no mark if neither way brings one up. -/
theorem ite {c : Prop} [Decidable c] (old : ArnFree r.texts) (new : ArnFree s.texts) :
    ArnFree (if c then s else r).texts := by
  split
  · exact new
  · exact old

/-- Dependencies are no texts of the properties. -/
theorem after {names : List String} (old : ArnFree r.texts) : ArnFree (r.after names).texts :=
  old

/-- The tags of a node hold its id and the name of its platform, and so no mark. -/
theorem setNodeTags {n : Node} (old : ArnFree r.texts) (p : Platform) (free : ArnFree n.texts) :
    ArnFree (r.set "tags" (nodeTags n p.name)).texts := by
  have id : ¬ HoldsArn n.id := free _ List.mem_cons_self
  have name : ¬ HoldsArn p.name := by cases p <;> decide
  apply old.set
  simp +decide [nodeTags, Value.textsOfEntries, id, name]

/-- The tags of an edge hold its id, and so no mark. -/
theorem setEdgeTags {e : Edge} (old : ArnFree r.texts) (free : ArnFree e.texts) :
    ArnFree (r.set "tags" (edgeTags e)).texts := by
  have id : ¬ HoldsArn e.id := free _ (by simp [Edge.texts])
  apply old.set
  simp +decide [edgeTags, Value.textsOfEntries, id]

end ArnFree

/-- The only ARN in a resource is that of the basic execution policy. -/
def Resource.NoOtherArn (r : Resource) : Prop :=
  ∀ s ∈ r.texts, HoldsArn s → s = basicExecutionPolicy

/-- A resource that holds no ARN holds none but that of the basic execution policy. -/
theorem ArnFree.noOtherArn {r : Resource} (free : ArnFree r.texts) : r.NoOtherArn :=
  fun s member marked => absurd marked (free s member)

/-! ## What intents become -/

section Intents

variable {id source : String} {i : AccessIntent} {p : Platform}

/-- An execution role is made of fixed texts alone. -/
theorem arnFree_executionRole : ArnFree (executionRole id source).texts :=
  ArnFree.ofKind.set (by decide)

/-- The attachment of the basic policy holds no ARN but that policy's. -/
theorem noOtherArn_basicAttachment (free : ¬ HoldsArn id) :
    (basicAttachment id source).NoOtherArn := by
  intro s member marked
  have texts : (basicAttachment id source).texts =
      ["role", execRoleName id, "policyArn", basicExecutionPolicy] := rfl
  rw [texts] at member
  simp only [List.mem_cons, List.not_mem_nil, or_false] at member
  rcases member with rfl | rfl | rfl | rfl
  · exact absurd marked (by decide)
  · exact absurd marked (not_holdsArn_execRoleName free)
  · exact absurd marked (by decide)
  · rfl

/-- Of an execution role and its attachment, the attachment alone holds an ARN. -/
theorem noOtherArn_execRole (free : ¬ HoldsArn id) : ∀ r ∈ execRole id source, r.NoOtherArn := by
  intro r member
  simp only [execRole, List.mem_cons, List.not_mem_nil, or_false] at member
  rcases member with rfl | rfl
  · exact arnFree_executionRole.noOtherArn
  · exact noOtherArn_basicAttachment free

/-- The name of an access policy joins two short names, which brings up no mark. -/
theorem not_holdsArn_policyName (principal : ¬ HoldsArn i.principal)
    (resource : ¬ HoldsArn i.resource) : ¬ HoldsArn (policyName i) := by
  have split : shortName i.resource ++ "-policy" =
      resourceName (shortName i.resource) "policy" := by
    simp [resourceName, String.append_assoc]
  simp +decide [policyName, split, not_holdsArn_shortName principal,
    not_holdsArn_shortName resource]

/-- The scope of an access intent is its own pattern, or a reference to its resource. -/
theorem arnFree_scopeValue (free : ArnFree (Intent.access i).texts) {scope : Value}
    (within : scopeValue i p = .ok scope) : ArnFree scope.texts := by
  rcases scopeValue_eq_ok_iff.mp within with @⟨text, given, _⟩ | _
  · have plain : ¬ HoldsArn text := free _ (by simp [Intent.texts, given, AccessScope.texts])
    simp [plain]
  · have field : ¬ HoldsArn p.arnField := by cases p <;> decide
    have resource : ¬ HoldsArn i.resource := free _ (by simp [Intent.texts])
    simp [not_holdsArn_shortName resource, field]

/-- No action of a platform holds the mark, at any level of access. -/
theorem not_holdsArn_action {levels : List AccessLevel} {action : String}
    (listed : action ∈ p.actionsFor levels) : ¬ HoldsArn action := by
  obtain ⟨level, _, offered⟩ := Platform.mem_actionsFor.mp listed
  have all : ArnFree (p.actions level) := by cases p <;> cases level <;> decide
  exact all action offered

/-- The policy of an access intent holds no mark, with its description, its actions and its scope. -/
theorem arnFree_accessPolicy (free : ArnFree (Intent.access i).texts) {scope : Value}
    (within : scopeValue i p = .ok scope) :
    ArnFree (accessPolicy i p (p.actionsFor i.levels) scope).texts := by
  have principal : ¬ HoldsArn i.principal := free _ (by simp [Intent.texts])
  have resource : ¬ HoldsArn i.resource := free _ (by simp [Intent.texts])
  have text : ¬ HoldsArn (shortName i.principal ++ " access to " ++ shortName i.resource) := by
    have split : shortName i.principal ++ " access to " ++ shortName i.resource =
        shortName i.principal ++ " " ++ "access to" ++ " " ++ shortName i.resource := by
      simp [String.append_assoc]
    rw [split, holdsArn_join (c := ' ') (by decide) (by decide),
      holdsArn_join (c := ' ') (by decide) (by decide)]
    simp +decide [not_holdsArn_shortName principal, not_holdsArn_shortName resource]
  have actions : ArnFree (p.actionsFor i.levels) := fun action listed => not_holdsArn_action listed
  refine ((ArnFree.ofKind.setText ?_).set ?_).after
  · simp +decide [text]
  · simp +decide [policyDocument, accessStatement, Value.textsOfEntries, Value.textsOfItems,
      Value.textsOfItems_strings, actions, arnFree_scopeValue free within]

/-- The attachment of that policy names the role and refers to the policy, without a mark. -/
theorem arnFree_accessAttachment (free : ArnFree (Intent.access i).texts) :
    ArnFree (accessAttachment i).texts := by
  have principal : ¬ HoldsArn i.principal := free _ (by simp [Intent.texts])
  have resource : ¬ HoldsArn i.resource := free _ (by simp [Intent.texts])
  refine ((ArnFree.ofKind.set ?_).set ?_).after
  · simp +decide [not_holdsArn_execRoleName principal]
  · simp +decide [not_holdsArn_policyName principal resource]

/-- The value of a config intent is made of texts of the intent. -/
theorem arnFree_value {i : ConfigIntent} (free : ArnFree (Intent.config i).texts) (ctx : Context) :
    ArnFree (i.source.value ctx).texts := by
  cases source : i.source with
  | literal v =>
    have text : ¬ HoldsArn v := free _ (by simp [Intent.texts, source, ValueSource.texts])
    simp [ValueSource.value, text]
  | secret name =>
    have text : ¬ HoldsArn name := free _ (by simp [Intent.texts, source, ValueSource.texts])
    simp +decide [ValueSource.value, Value.textsOfEntries, text]
  | reference node field =>
    have id : ¬ HoldsArn node := free _ (by simp [Intent.texts, source, ValueSource.texts])
    have chosen : ∀ standard, ¬ HoldsArn standard → ¬ HoldsArn (field.getD standard) := by
      intro standard fixed
      cases given : field with
      | none => exact fixed
      | some f => exact free _ (by simp [Intent.texts, source, ValueSource.texts, given])
    simp only [ValueSource.value]
    split
    · rename_i q _
      have standard : ¬ HoldsArn q.defaultField := by cases q <;> decide
      simp [not_holdsArn_shortName id, chosen _ standard]
    · have standard : ¬ HoldsArn "id" := by decide
      simp [id, chosen _ standard]

/-- A parameter is made of texts of its config intent and of the name of the service. -/
theorem arnFree_parameter {i : ConfigIntent} {ctx : Context} (config : ArnFree ctx.config.texts)
    (free : ArnFree (Intent.config i).texts) : ArnFree (i.parameter ctx).texts := by
  have service : ¬ HoldsArn ctx.config.serviceName := config _ (by simp [Config.texts])
  have target : ¬ HoldsArn i.target := free _ (by simp [Intent.texts])
  have key : ¬ HoldsArn i.key := free _ (by simp [Intent.texts])
  have path : ¬ HoldsArn
      ("/" ++ ctx.config.serviceName ++ "/" ++ shortName i.target ++ "/" ++ i.key) := by
    have start : "/" ++ ctx.config.serviceName = "" ++ "/" ++ ctx.config.serviceName := by simp
    rw [holdsArn_join (c := '/') (by decide) (by decide),
      holdsArn_join (c := '/') (by decide) (by decide), start,
      holdsArn_join (c := '/') (by decide) (by decide)]
    simp +decide [service, not_holdsArn_shortName target, key]
  have type : ¬ HoldsArn i.source.parameterType := by
    cases i.source <;> simp +decide [ValueSource.parameterType]
  refine ((((ArnFree.ofKind.setText ?_).setText ?_).set ?_).set ?_).after
  · simp +decide [path]
  · simp +decide [type]
  · simp +decide [arnFree_value free]
  · simp +decide [Value.textsOfEntries, target]

end Intents

/-! ## What nodes become -/

section Nodes

variable {n : Node} (free : ArnFree n.texts)

include free

/-- The id of a node is one of its texts. -/
theorem not_holdsArn_id : ¬ HoldsArn n.id :=
  free _ List.mem_cons_self

/-- Hence its short name holds no mark either. -/
theorem not_holdsArn_shortName_node : ¬ HoldsArn n.shortName :=
  not_holdsArn_shortName (not_holdsArn_id free)

/-- A text of a node, or else a fixed one. -/
theorem not_holdsArn_string? {key standard : String} (fixed : ¬ HoldsArn standard) :
    ¬ HoldsArn ((n.string? key).getD standard) := by
  cases given : n.string? key with
  | none => exact fixed
  | some s => exact free s (Node.mem_texts_of_string? given)

/-- A queue is made of fixed keys and of numbers and truth values of its node. -/
theorem arnFree_queueOf : ArnFree (queueOf n).texts := by
  have base : ArnFree (((Resource.ofKind .queue (Platform.queue.resourceName n.shortName) n.id).set
      "visibilityTimeoutSeconds" (.ofNat ((n.nat? "visibilityTimeout").getD 30))).set
      "messageRetentionSeconds" (.ofNat ((n.nat? "messageRetention").getD 345600))).texts :=
    (ArnFree.ofKind.set (by simp +decide)).set (by simp +decide)
  refine ((base.ite (base.set ?_)).set?_map ?_).setNodeTags .queue free
  · simp +decide
  · simp +decide

/-- A topic takes the name that it shows from its node; the rest is fixed. -/
theorem arnFree_topicOf : ArnFree (topicOf n).texts := by
  refine ((ArnFree.ofKind.ite ((ArnFree.ofKind.set ?_).set ?_)).set?_map ?_).setNodeTags
    .pubsubTopic free
  · simp +decide
  · simp +decide
  · intro s given
    simp +decide [free s (Node.mem_texts_of_string? given)]

/-- A key of the schema of a node is made of texts of the node. -/
theorem arnFree_schemaKey {which : String} {found : KeyAttribute}
    (given : schemaKey? n which = .ok (some found)) : ArnFree [found.name, found.type] := by
  unfold schemaKey? at given
  split at given
  · cases given
  · rename_i j present
    obtain ⟨schema, setting, under⟩ := Option.bind_eq_some_iff.mp present
    have texts : ArnFree j.texts := by
      intro s member
      apply free s
      exact Node.mem_texts_of_get? setting (Json.mem_texts_of_get? under member)
    have field : ∀ {key s : String}, (j.get? key).bind Json.asString? = some s → ¬ HoldsArn s := by
      intro key s text
      obtain ⟨value, there, string⟩ := Option.bind_eq_some_iff.mp text
      exact texts s (Json.mem_texts_of_get? there (Json.mem_texts_of_asString? string))
    split at given
    · rename_i keyAttribute read
      cases given
      obtain ⟨name, named, rfl⟩ := Option.map_eq_some_iff.mp read
      have type : ¬ HoldsArn (((j.get? "type").bind Json.asString?).getD "S") := by
        cases typed : (j.get? "type").bind Json.asString? with
        | none => decide
        | some t => exact field typed
      simp [field named, type]
    · cases given

/-- A table takes its billing mode from its node, and the names and types of its keys. -/
theorem arnFree_tableOf {hash : KeyAttribute} {range : Option KeyAttribute}
    (keys : ∀ key ∈ hash :: range.toList, ArnFree [key.name, key.type]) :
    ArnFree (tableOf n hash range).texts := by
  have attributes : ArnFree (Value.list ((hash :: range.toList).map KeyAttribute.value)).texts := by
    intro s member
    obtain ⟨v, listed, inside⟩ := Value.mem_textsOfItems.mp member
    obtain ⟨key, there, rfl⟩ := List.mem_map.mp listed
    have parts := keys key there
    simp only [arnFree_cons] at parts
    have whole : ArnFree key.value.texts := by
      simp +decide [KeyAttribute.value, Value.textsOfEntries, parts]
    exact whole s inside
  have base : ArnFree (((((Resource.ofKind .table
      (Platform.keyValueTable.resourceName n.shortName) n.id).setText "billingMode"
      ((n.string? "billingMode").getD "PAY_PER_REQUEST")).setText "hashKey" hash.name).set?
      "rangeKey" (range.map fun key => .string key.name)).set "attributes"
      (.list ((hash :: range.toList).map KeyAttribute.value))).texts := by
    refine (((ArnFree.ofKind.setText ?_).setText ?_).set?_map ?_).set ?_
    · have mode : ¬ HoldsArn ((n.string? "billingMode").getD "PAY_PER_REQUEST") :=
        not_holdsArn_string? free (by decide)
      simp +decide [mode]
    · have name := keys hash List.mem_cons_self
      simp only [arnFree_cons] at name
      simp +decide [name]
    · rintro key rfl
      have name := keys key (by simp)
      simp only [arnFree_cons] at name
      simp +decide [name]
    · rw [arnFree_cons]
      exact ⟨by decide, attributes⟩
  refine (base.ite ((base.set ?_).setText ?_)).setNodeTags .keyValueTable free
  · simp +decide
  · simp +decide

/-- A bucket takes a truth value from its node, and no text but those of the tags. -/
theorem arnFree_bucketOf : ArnFree (bucketOf n).texts := by
  refine (ArnFree.ofKind.set?_map ?_).setNodeTags .objectStore free
  simp +decide

/-- The versioning of a bucket refers to the bucket, and that name holds no mark. -/
theorem arnFree_versioningOf : ArnFree (versioningOf n).texts := by
  refine ((ArnFree.ofKind.set ?_).set ?_).after
  · simp +decide [not_holdsArn_shortName_node free]
  · decide

/-- A gateway is named after the service and its node, and its `cors` setting is that of the node. -/
theorem arnFree_apiOf {config : Config} (settings : ArnFree config.texts) :
    ArnFree (apiOf n config).texts := by
  have service : ¬ HoldsArn config.serviceName := settings _ (by simp [Config.texts])
  have name : ¬ HoldsArn (config.serviceName ++ "-" ++ n.shortName) := by
    rw [holdsArn_join (c := '-') (by decide) (by decide), not_or]
    exact ⟨service, not_holdsArn_shortName_node free⟩
  refine (((ArnFree.ofKind.setText ?_).setText ?_).set?_map ?_).setNodeTags .httpGateway free
  · simp +decide [name]
  · simp +decide
  · intro cors given
    rw [arnFree_cons]
    refine ⟨by decide, fun s member => free s ?_⟩
    exact Node.mem_texts_of_get? given (Value.mem_texts_of_ofJson cors member)

/-- A stage refers to its gateway; the rest is fixed. -/
theorem arnFree_stageOf : ArnFree (stageOf n).texts := by
  refine ((((ArnFree.ofKind.set ?_).setText ?_).set ?_).setNodeTags .httpGateway free).after
  · simp +decide [not_holdsArn_shortName_node free]
  · simp +decide
  · simp +decide

end Nodes

/-! ## Functions -/

/-- Where the code of a function is stored is said by the settings. -/
theorem arnFree_setCode {r : Resource} {config : Config} (old : ArnFree r.texts)
    (free : ArnFree config.texts) : ArnFree (setCode r config).texts := by
  unfold setCode
  split
  · rename_i code given
    have parts : ArnFree [code.bucket, code.key] :=
      free.subset (by simp [Config.texts, given])
    simp only [arnFree_cons] at parts
    refine (old.setText ?_).setText ?_
    · simp +decide [parts]
    · simp +decide [parts]
  · rename_i path _ given
    have text : ¬ HoldsArn path := free _ (by simp [Config.texts, given])
    exact old.set (by simp +decide [text, Value.textsOfEntries])
  · exact old

/-- The environment that intents ask for is made of their texts. -/
theorem arnFree_environment {ctx : Context} (free : ArnFree (ctx.intents.flatMap Intent.texts))
    (id : String) : ArnFree (Value.textsOfEntries (ctx.needsAt id).environment) := by
  intro s member
  obtain ⟨e, there, here⟩ := Value.mem_textsOfEntries.mp member
  obtain ⟨i, intent, _, key, value⟩ := (ctx.asked_needsAt id).environment e there
  have own : ArnFree (Intent.config i).texts :=
    free.subset fun s there => List.mem_flatMap.mpr ⟨_, intent, there⟩
  rcases here with rfl | inside
  · rw [← key]
    exact own _ (by simp [Intent.texts])
  · rw [← value] at inside
    exact arnFree_value own ctx s inside

/-- A function holds no mark if its node, the settings, the name of its role and its environment
hold none. -/
theorem arnFree_functionOf {n : Node} (free : ArnFree n.texts) {config : Config}
    (settings : ArnFree config.texts) {needs : Needs} {role : String} (named : ¬ HoldsArn role)
    (environment : ArnFree (Value.textsOfEntries needs.environment))
    (unprotected : needs.securityGroups = []) :
    ArnFree (functionOf n config needs role).texts := by
  have runtime : ¬ HoldsArn ((n.string? "runtime").getD "nodejs20.x") :=
    not_holdsArn_string? free (by decide)
  have handler : ¬ HoldsArn ((n.string? "handler").getD "index.handler") :=
    not_holdsArn_string? free (by decide)
  -- property by property; what is not fixed comes from the node, the settings or the environment
  have base : ArnFree ((((((Resource.ofKind .function
      (Platform.computeFunction.resourceName n.shortName) n.id).set "role" (.refTo role)).setText
      "runtime" ((n.string? "runtime").getD "nodejs20.x")).setText "handler"
      ((n.string? "handler").getD "index.handler")).set "memorySize"
      (.ofNat ((n.nat? "memory").getD 128))).set "timeout"
      (.ofNat ((n.nat? "timeout").getD 30))).texts := by
    refine ((((ArnFree.ofKind.set ?_).setText ?_).setText ?_).set ?_).set ?_
    · simp +decide [named]
    · simp +decide [runtime]
    · simp +decide [handler]
    · simp +decide
    · simp +decide
  have groups : ∀ r, setSecurityGroups r [] = r := fun _ => rfl
  simp only [functionOf, Resource.foldl_afterOnce, Resource.texts, Resource.properties_after,
    unprotected, groups]
  refine ArnFree.setNodeTags ?_ .computeFunction free
  unfold setEnvironment
  refine ArnFree.ite ((arnFree_setCode base settings).set ?_) (arnFree_setCode base settings)
  simp +decide [Value.textsOfEntries, environment]

/-! ## What edges become -/

section Edges

variable {e : Edge} (free : ArnFree e.texts)

include free

/-- The short names of both ends of an edge hold no mark. -/
theorem not_holdsArn_ends :
    ¬ HoldsArn (shortName e.source) ∧ ¬ HoldsArn (shortName e.target) := by
  refine ⟨not_holdsArn_shortName ?_, not_holdsArn_shortName ?_⟩
  · exact free _ (by simp [Edge.texts])
  · exact free _ (by simp [Edge.texts])

/-- A route is keyed by an upper-case method and a trimmed path. -/
theorem not_holdsArn_routeKey : ¬ HoldsArn e.routeKey := by
  unfold Edge.routeKey
  split
  · rename_i method path _ given
    have text : ¬ HoldsArn path := by
      intro marked
      obtain ⟨trimmed, _⟩ := Option.filter_eq_some_iff.mp given
      obtain ⟨s, found, rfl⟩ := Option.map_eq_some_iff.mp trimmed
      obtain ⟨j, there, string⟩ := Option.bind_eq_some_iff.mp found
      exact free s (Edge.mem_texts_of_binding there (Json.mem_texts_of_asString? string))
        marked.of_trim
    rw [holdsArn_join (c := ' ') (by decide) (by decide), not_or]
    exact ⟨not_holdsArn_upper method, text⟩
  · decide

/-- An event mapping is made of fixed texts and of references to the two ends of its edge. -/
theorem arnFree_eventMapping : ArnFree (eventMapping e).texts := by
  obtain ⟨source, target⟩ := not_holdsArn_ends free
  refine ((((ArnFree.ofKind.set ?_).set ?_).set ?_).set ?_).after
  · simp +decide [target]
  · simp +decide [source]
  · simp +decide
  · simp +decide

/-- So is an integration. -/
theorem arnFree_integrationOf : ArnFree (integrationOf e).texts := by
  obtain ⟨source, target⟩ := not_holdsArn_ends free
  refine ((((((ArnFree.ofKind.set ?_).setText ?_).set ?_).setText ?_).setText ?_).setEdgeTags
    free).after
  · simp +decide [Edge.apiName, source]
  · simp +decide
  · simp +decide [Edge.functionName, target]
  · simp +decide
  · simp +decide

/-- A route refers to its gateway and its integration and has the key of its edge. -/
theorem arnFree_routeOf : ArnFree (routeOf e).texts := by
  obtain ⟨source, target⟩ := not_holdsArn_ends free
  have integration : ¬ HoldsArn e.integrationName := by
    have split : e.integrationName = resourceName e.pairName "integration" := by
      simp [Edge.integrationName, resourceName, String.append_assoc]
    simp +decide [split, source, target]
  refine ((((ArnFree.ofKind.set ?_).setText ?_).set ?_).setEdgeTags free).after
  · simp +decide [Edge.apiName, source]
  · simp +decide [not_holdsArn_routeKey free]
  · simp +decide [integration]

/-- A permission refers to both ends of its edge; the rest is fixed. -/
theorem arnFree_permissionOf : ArnFree (permissionOf e).texts := by
  obtain ⟨source, target⟩ := not_holdsArn_ends free
  refine (((((ArnFree.ofKind.setText ?_).set ?_).setText ?_).set ?_).setEdgeTags free).after
  · simp +decide
  · simp +decide [Edge.functionName, target]
  · simp +decide
  · simp +decide [Edge.apiName, source]

end Edges

/-! ## Everything that is gathered -/

section Document

variable {ctx : Context} (free : ArnFree (Document.texts ctx))

include free

/-- The settings are part of the document. -/
theorem arnFree_config : ArnFree ctx.config.texts :=
  free.subset fun _ member => List.mem_append_left _ (List.mem_append_left _ member)

/-- So are all intents together. -/
theorem arnFree_intents : ArnFree (ctx.intents.flatMap Intent.texts) :=
  free.subset fun _ member => List.mem_append_left _ (List.mem_append_right _ member)

/-- Hence so is every single intent. -/
theorem arnFree_intent {x : Intent} (intent : x ∈ ctx.intents) : ArnFree x.texts :=
  (arnFree_intents free).subset fun _ member => List.mem_flatMap.mpr ⟨x, intent, member⟩

/-- So is every node. -/
theorem arnFree_node {n : Node} (present : n ∈ ctx.graph.nodes) : ArnFree n.texts :=
  free.subset fun _ member => List.mem_append_right _
    (List.mem_append_left _ (List.mem_flatMap.mpr ⟨n, present, member⟩))

/-- So is every edge between nodes of two platforms. -/
theorem arnFree_edge {e : Edge} {type : EdgeType} {source target : Platform}
    (edge : e ∈ ctx.edgesBetween type source target) : ArnFree e.texts :=
  free.subset fun _ member => List.mem_append_right _ (List.mem_append_right _
    (List.mem_flatMap.mpr ⟨e, List.mem_of_mem_filter edge, member⟩))

/-- Whatever an intent of the document becomes, it holds no ARN but that of the basic execution
policy. -/
theorem noOtherArn_intent {mode : LookupMode} {x : Intent} (intent : x ∈ ctx.intents) {r : Resource}
    (member : r ∈ made ((Adapter.standard mode).intentOutcome ctx x)) : r.NoOtherArn := by
  have own := arnFree_intent free intent
  rw [Adapter.intentOutcome_standard] at member
  cases x with
  | access i =>
    cases lowered : i.lower ctx with
    | error e =>
      simp only [lowered] at member
      cases member
    | ok resources =>
      obtain ⟨_, p, scope, _, within, rfl⟩ := AccessIntent.lower_eq_ok_iff.mp lowered
      simp only [lowered, made, AccessIntent.resources, List.mem_append, List.mem_cons,
        List.not_mem_nil, or_false] at member
      rcases member with role | rfl | rfl
      · exact noOtherArn_execRole (own _ (by simp [Intent.texts])) r role
      · exact (arnFree_accessPolicy own within).noOtherArn
      · exact (arnFree_accessAttachment own).noOtherArn
  | config i =>
    simp only [ConfigIntent.lower] at member
    split at member
    · cases member
    · obtain rfl := List.mem_singleton.mp member
      exact (arnFree_parameter (arnFree_config free) own).noOtherArn
  | network i => cases member
  | telemetry i => cases member
  | other i => cases member

/-- Neither does what a node of the document becomes. -/
theorem noOtherArn_node {n : Node} (present : n ∈ ctx.graph.nodes) {p : Platform} {r : Resource}
    (member : r ∈ made (p.lower n ctx (ctx.needsAt n.id))) : r.NoOtherArn := by
  have own := arnFree_node free present
  have id := not_holdsArn_id own
  -- by platform: of what nodes become, the attachment of a role alone has an ARN of its own
  cases p with
  | computeFunction =>
    rw [Platform.lower, lowerFunction_needsAt, made, List.mem_append] at member
    rcases member with role | function
    · split at role
      · cases role
      · exact noOtherArn_execRole id r role
    · obtain rfl := List.mem_singleton.mp function
      exact (arnFree_functionOf own (arnFree_config free) (not_holdsArn_execRoleName id)
        (arnFree_environment (arnFree_intents free) n.id)
        (ctx.asked_needsAt n.id).securityGroups).noOtherArn
  | queue =>
    obtain rfl := List.mem_singleton.mp member
    exact (arnFree_queueOf own).noOtherArn
  | keyValueTable =>
    simp only [Platform.lower, lowerTable, bind, Except.bind] at member
    split at member
    · cases member
    · rename_i hash hashKey
      split at member
      · cases member
      · rename_i range rangeKey
        obtain rfl := List.mem_singleton.mp member
        refine (arnFree_tableOf own fun key listed => ?_).noOtherArn
        rcases List.mem_cons.mp listed with rfl | later
        · cases hash with
          | none => decide
          | some key => exact arnFree_schemaKey own hashKey
        · rw [Option.mem_toList] at later
          cases later
          exact arnFree_schemaKey own rangeKey
  | objectStore =>
    rcases List.mem_cons.mp member with rfl | second
    · exact (arnFree_bucketOf own).noOtherArn
    · split at second
      · obtain rfl := List.mem_singleton.mp second
        exact (arnFree_versioningOf own).noOtherArn
      · cases second
  | httpGateway =>
    rcases List.mem_cons.mp member with rfl | second
    · exact (arnFree_apiOf own (arnFree_config free)).noOtherArn
    · obtain rfl := List.mem_singleton.mp second
      exact (arnFree_stageOf own).noOtherArn
  | pubsubTopic =>
    obtain rfl := List.mem_singleton.mp member
    exact (arnFree_topicOf own).noOtherArn

/-- Nothing that is gathered holds an ARN but that of the basic execution policy. -/
theorem noOtherArn_gather {mode : LookupMode} {r : Resource}
    (gathered : r ∈ ((Adapter.standard mode).gather ctx).resources) : r.NoOtherArn := by
  rcases Adapter.mem_gather _ _ gathered with
    ⟨x, intent, member⟩ | ⟨n, present, member⟩ | mapping | trigger
  · exact noOtherArn_intent free intent member
  · rw [Adapter.nodeOutcome_standard mode ctx present] at member
    cases platform : n.knownPlatform? with
    | none =>
      rw [platform] at member
      cases member
    | some p =>
      rw [platform] at member
      exact noOtherArn_node free present member
  · obtain ⟨e, edge, rfl⟩ := List.mem_map.mp mapping
    exact (arnFree_eventMapping (arnFree_edge free edge)).noOtherArn
  · obtain ⟨e, edge, member⟩ := List.mem_flatMap.mp trigger
    have own := arnFree_edge free edge
    simp only [httpIntegration, List.mem_cons, List.not_mem_nil, or_false] at member
    rcases member with rfl | rfl | rfl
    · exact (arnFree_integrationOf own).noOtherArn
    · exact (arnFree_routeOf own).noOtherArn
    · exact (arnFree_permissionOf own).noOtherArn

end Document

/-- **No ARN is invented.** If no text of a document holds the mark of an ARN, then every text with
the mark in the properties of a resource, at any depth, is the basic execution policy. -/
theorem arns_come_from_document (mode : LookupMode) {ctx : Context}
    (free : ∀ s ∈ Document.texts ctx, ¬ HoldsArn s) :
    ∀ r ∈ ((Adapter.standard mode).lower ctx).resources, ∀ s ∈ r.texts, HoldsArn s →
      s = basicExecutionPolicy :=
  fun _ kept => noOtherArn_gather free (Pass.mem_of_mem_finish kept)

/-- A document whose texts come close to the mark: a function called `arn`, which a gateway triggers
with the method `arn` and the path `:arn`, and a bucket called `ar` with a setting called `n:`. -/
def closeCalls : Document where
  config := ⟨"eu-west-1", "arn", some "arn", none⟩
  intents := [.access ⟨"e1", "component:arn", "platform:ar", [.read], some .specific⟩,
    .config ⟨"e2", "component:arn", "n:", .literal "ar"⟩]
  graph :=
    { nodes := [⟨"component:arn", [("platform", .string "compute-function")]⟩,
        ⟨"platform:ar", [("platform", .string "object-store"), ("n:", .string "ar")]⟩,
        ⟨"platform:web", [("platform", .string "http-gateway")]⟩]
      edges := [⟨"e3", .triggers, "platform:web", "component:arn",
        [("method", .string "arn"), ("route", .string ":arn")]⟩] }

/-- Nothing in that document holds the mark, and the basic policy is there to be found. -/
theorem arns_closeCalls :
    (∀ s ∈ closeCalls.texts, ¬ HoldsArn s) ∧
      basicAttachment "component:arn" "e1" ∈
        ((Adapter.standard .registry).lower closeCalls).resources ∧
      HoldsArn basicExecutionPolicy ∧
      ∀ r ∈ ((Adapter.standard .registry).lower closeCalls).resources, ∀ s ∈ r.texts, HoldsArn s →
        s = basicExecutionPolicy := by
  have free : ∀ s ∈ closeCalls.texts, ¬ HoldsArn s := by decide
  have kept : basicAttachment "component:arn" "e1" ∈
      ((Adapter.standard .registry).lower closeCalls).resources := Pass.mem_finish.mpr (by decide)
  exact ⟨free, kept, by decide, arns_come_from_document .registry free⟩

end CloudPlan
