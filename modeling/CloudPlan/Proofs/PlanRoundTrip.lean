import CloudPlan.Proofs.ConstructionOrder
import CloudPlan.Proofs.Provenance
import CloudPlan.Proofs.Rereading

/-!
# Which plans are read back as they were

Almost everything that lowering makes is legible. A plan is read back as something else in three cases
only, listed by `Context.Misread`: a policy allows exactly one action, the environment of a function
has a text under the only key `ref`, or the setting `cors` of a gateway holds an array of exactly one
text. `rereads_iff` says so of every document.

What is written and read back here is a JSON value. Its printed text is another matter: the digits of a
double may be read as a double next to it.
-/

set_option autoImplicit false

namespace CloudPlan

/-! ## Arrays of one text -/

namespace Json

mutual

/-- Whether an array of exactly one text stands anywhere in a value. -/
def holdsLoneText : Json → Bool
  | .array [.string _] => true
  | .array items => lonesInItems items
  | .object entries => lonesInEntries entries
  | .null | .bool _ | .number _ | .string _ => false

/-- Whether one stands in the items of an array. -/
def lonesInItems : List Json → Bool
  | [] => false
  | j :: rest => holdsLoneText j || lonesInItems rest

/-- Whether one stands in the values of an object. -/
def lonesInEntries : List (String × Json) → Bool
  | [] => false
  | (_, j) :: rest => holdsLoneText j || lonesInEntries rest

end

/-- In an array of anything but one text the items decide. -/
theorem holdsLoneText_array {items : List Json} (several : ∀ t, items ≠ [.string t]) :
    holdsLoneText (.array items) = lonesInItems items := by
  rw [holdsLoneText]
  exact several

end Json

namespace Value

/-- An object with anything but a text under the only key `ref` becomes a map. -/
theorem ofJson_object {entries : List (String × Json)} (other : ∀ t, entries ≠ [("ref", .string t)]) :
    ofJson (.object entries) = .map (ofJsonEntries entries) := by
  rw [ofJson]
  exact other

/-- Only a text becomes a text. -/
theorem ofJson_eq_string_iff {j : Json} {t : String} : ofJson j = .string t ↔ j = .string t := by
  cases j with
  | object entries =>
    by_cases lone : ∃ s, entries = [("ref", .string s)]
    · obtain ⟨s, rfl⟩ := lone
      simp [ofJson]
    · rw [ofJson_object fun s same => lone ⟨s, same⟩]
      simp
  | _ => simp [ofJson]

/-- Items become exactly one text only if they are exactly that text. -/
theorem ofJsonItems_eq_singleton_iff {items : List Json} {t : String} :
    ofJsonItems items = [.string t] ↔ items = [.string t] := by
  match items with
  | [] => simp [ofJsonItems]
  | [j] => simp [ofJsonItems, ofJson_eq_string_iff]
  | _ :: _ :: _ => simp [ofJsonItems]

/-- Entries become a text under one key only if they are exactly that. -/
theorem ofJsonEntries_eq_singleton_iff {entries : List (String × Json)} {k t : String} :
    ofJsonEntries entries = [(k, .string t)] ↔ entries = [(k, .string t)] := by
  match entries with
  | [] => simp [ofJsonEntries]
  | [(l, j)] => simp [ofJsonEntries, ofJson_eq_string_iff]
  | _ :: _ :: _ => simp [ofJsonEntries]

mutual

/-- A value made from JSON is legible exactly if no array of exactly one text stands in it. -/
theorem legible_ofJson : (j : Json) → (ofJson j).legible = !j.holdsLoneText
  | .null => by simp [ofJson, legible, Json.holdsLoneText]
  | .bool b => by simp [ofJson, Json.holdsLoneText]
  | .number n => by simp [ofJson, legible, Json.holdsLoneText]
  | .string s => by simp [ofJson, Json.holdsLoneText]
  | .array items => by
    by_cases lone : ∃ t, items = [.string t]
    · obtain ⟨t, rfl⟩ := lone
      simp [ofJson, ofJsonItems, legible, Json.holdsLoneText]
    · have several : ∀ t, items ≠ [.string t] := fun t same => lone ⟨t, same⟩
      have converted : ∀ t, ofJsonItems items ≠ [.string t] :=
        fun t => mt ofJsonItems_eq_singleton_iff.mp (several t)
      rw [ofJson, legible_list converted, Json.holdsLoneText_array several]
      exact legible_ofJsonItems items
  | .object entries => by
    by_cases lone : ∃ t, entries = [("ref", .string t)]
    · obtain ⟨t, rfl⟩ := lone
      simp [ofJson, Json.holdsLoneText, Json.lonesInEntries]
    · have other : ∀ t, entries ≠ [("ref", .string t)] := fun t same => lone ⟨t, same⟩
      have converted : ∀ t, ofJsonEntries entries ≠ [("ref", .string t)] :=
        fun t => mt ofJsonEntries_eq_singleton_iff.mp (other t)
      rw [ofJson_object other, legible_map converted, Json.holdsLoneText]
      exact legible_ofJsonEntries entries

/-- The same for the items of an array. -/
theorem legible_ofJsonItems : (items : List Json) →
    legibleItems (ofJsonItems items) = !Json.lonesInItems items
  | [] => rfl
  | j :: rest => by
    rw [ofJsonItems, legibleItems, Json.lonesInItems, Bool.not_or, legible_ofJson j,
      legible_ofJsonItems rest]

/-- The same for the values of an object. -/
theorem legible_ofJsonEntries : (entries : List (String × Json)) →
    legibleEntries (ofJsonEntries entries) = !Json.lonesInEntries entries
  | [] => rfl
  | (k, j) :: rest => by
    rw [ofJsonEntries, legibleEntries, Json.lonesInEntries, Bool.not_or, legible_ofJson j,
      legible_ofJsonEntries rest]

end

end Value

/-! ## What lowering makes of texts, settings and intents -/

namespace Value

/-- A list of texts is legible if there is not exactly one. -/
theorem legible_texts_iff {texts : List String} :
    (list (texts.map .string)).legible = true ↔ ∀ t, texts ≠ [t] := by
  rw [legible_list_iff]
  have items : ∀ v ∈ texts.map Value.string, v.legible = true := by
    intro v present
    obtain ⟨t, _, rfl⟩ := List.mem_map.mp present
    rfl
  rw [and_iff_left items]
  refine forall_congr' fun t => not_congr ?_
  match texts with
  | [] => simp
  | [_] => simp
  | _ :: _ :: _ => simp

end Value

/-- The value of a config intent is a text, a reference or a map with another key than `ref`: it is
legible. -/
theorem legible_value (source : ValueSource) (ctx : Context) :
    (source.value ctx).legible = true := by
  cases source with
  | literal v => rfl
  | secret name => rfl
  | reference node field =>
    simp only [ValueSource.value]
    split <;> rfl

/-- A scope is a text or a reference, and so legible. -/
theorem legible_scopeValue {i : AccessIntent} {p : Platform} {scope : Value}
    (within : scopeValue i p = .ok scope) : scope.legible = true := by
  rcases scopeValue_eq_ok_iff.mp within with _ | _ <;> rfl

/-! ## Setting properties -/

namespace Resource

variable {r : Resource} {key : String} {value : Value}

/-- A resource that has been given no properties yet is legible. -/
theorem legible_ofKind {kind : ResourceKind} {name source : String} :
    Legible (ofKind kind name source).properties := nofun

/-- A property that is set to a legible value keeps properties legible. -/
theorem legible_set (old : Legible r.properties) (new : value.legible = true) :
    Legible (r.set key value).properties := by
  intro e present
  rcases Entries.mem_insert present with rfl | there
  · exact new
  · exact old e there

/-- So does a property that is set only if there is something to set it to. -/
theorem legible_set?_map {α : Type} {f : α → Value} {x : Option α} (old : Legible r.properties)
    (new : ∀ a, (f a).legible = true) : Legible (r.set? key (x.map f)).properties := by
  cases x with
  | none => exact old
  | some a => exact legible_set old (new a)

/-- A resource built in one of two ways is legible if it is so either way. -/
theorem legible_ite {c : Prop} [Decidable c] {s : Resource} (old : Legible r.properties)
    (new : Legible s.properties) : Legible (if c then s else r).properties := by
  split
  · exact new
  · exact old

end Resource

/-! ## Builders of resources -/

section Builders

open Resource

variable {n : Node} {e : Edge} {id source : String}

/-- An execution role holds the document of who may assume it, which is fixed and legible. -/
theorem legible_executionRole : Legible (executionRole id source).properties :=
  legible_set legible_ofKind rfl

/-- The attachment of the basic policy holds a reference and a text. -/
theorem legible_basicAttachment : Legible (basicAttachment id source).properties :=
  legible_set (legible_set legible_ofKind rfl) rfl

/-- The attachment of an access policy holds two references. -/
theorem legible_accessAttachment {i : AccessIntent} : Legible (accessAttachment i).properties :=
  legible_set (legible_set legible_ofKind rfl) rfl

/-- A policy is legible if it does not allow exactly one action. -/
theorem legible_accessPolicy_iff {i : AccessIntent} {p : Platform} {actions : List String}
    {scope : Value} (within : scope.legible = true) :
    Legible (accessPolicy i p actions scope).properties ↔ ∀ a, actions ≠ [a] := by
  have properties : (accessPolicy i p actions scope).properties =
      [("description", .string (shortName i.principal ++ " access to " ++ shortName i.resource)),
        ("policy", policyDocument (accessStatement actions scope))] := rfl
  rw [properties, ← Value.legible_texts_iff]
  simp [Legible, policyDocument, accessStatement, Value.legible_map_iff, Value.legible_list_iff,
    within]

/-- A parameter holds texts, the value of its intent and tags. -/
theorem legible_parameter {i : ConfigIntent} {ctx : Context} :
    Legible (i.parameter ctx).properties :=
  legible_set (legible_set (legible_set (legible_set legible_ofKind rfl) rfl)
    (legible_value i.source ctx)) rfl

/-- A queue holds numbers, truth values and tags. -/
theorem legible_queueOf : Legible (queueOf n).properties := by
  refine legible_set (legible_set?_map (legible_ite ?_ (legible_set ?_ rfl)) fun _ => rfl) rfl
  · exact legible_set (legible_set legible_ofKind rfl) rfl
  · exact legible_set (legible_set legible_ofKind rfl) rfl

/-- A topic holds truth values, a text and tags. -/
theorem legible_topicOf : Legible (topicOf n).properties :=
  legible_set (legible_set?_map (legible_ite legible_ofKind
    (legible_set (legible_set legible_ofKind rfl) rfl)) fun _ => rfl) rfl

/-- A bucket holds a truth value and tags. -/
theorem legible_bucketOf : Legible (bucketOf n).properties :=
  legible_set (legible_set?_map legible_ofKind fun _ => rfl) rfl

/-- The versioning of a bucket holds a reference and a map under the key `status`. -/
theorem legible_versioningOf : Legible (versioningOf n).properties :=
  legible_set (legible_set legible_ofKind rfl) rfl

/-- A stage holds a reference, a text, a truth value and tags. -/
theorem legible_stageOf : Legible (stageOf n).properties :=
  legible_set (legible_set (legible_set (legible_set legible_ofKind rfl) rfl) rfl) rfl

/-- Keys of a table are no texts, so one key alone is legible. -/
theorem legible_keys (keys : List KeyAttribute) :
    (Value.list (keys.map KeyAttribute.value)).legible = true := by
  rw [Value.legible_list_iff]
  constructor
  · intro t same
    have listed : Value.string t ∈ keys.map KeyAttribute.value := by
      rw [same]
      exact List.mem_cons_self
    obtain ⟨k, _, text⟩ := List.mem_map.mp listed
    cases text
  · intro v present
    obtain ⟨k, _, rfl⟩ := List.mem_map.mp present
    rfl

/-- A table holds its keys as maps, so that a single one is no text. -/
theorem legible_tableOf {hash : KeyAttribute} {range : Option KeyAttribute} :
    Legible (tableOf n hash range).properties := by
  have keys : Legible ((((((Resource.ofKind .table
      (Platform.keyValueTable.resourceName n.shortName) n.id).setText "billingMode"
      ((n.string? "billingMode").getD "PAY_PER_REQUEST")).setText "hashKey" hash.name).set?
      "rangeKey" (range.map fun key => .string key.name)).set "attributes"
      (.list ((hash :: range.toList).map KeyAttribute.value)))).properties :=
    legible_set (legible_set?_map (legible_set (legible_set legible_ofKind rfl) rfl) fun _ => rfl)
      (legible_keys _)
  exact legible_set (legible_ite keys (legible_set (legible_set keys rfl) rfl)) rfl

/-- An API is legible if no array of exactly one text stands in the setting `cors` of its node. -/
theorem legible_apiOf_iff {config : Config} :
    Legible (apiOf n config).properties ↔
      ∀ cors, Entries.get? n.properties "cors" = some cors → cors.holdsLoneText = false := by
  have tags : (nodeTags n Platform.httpGateway.name).legible = true := rfl
  cases given : Entries.get? n.properties "cors" <;>
    simp [Legible, properties_apiOf, given, tags, Value.legible_ofJson]

/-- Where the code is stored adds texts, or one map under another key than `ref`. -/
theorem legible_setCode {r : Resource} {config : Config} (old : Legible r.properties) :
    Legible (setCode r config).properties := by
  unfold setCode
  split
  · exact legible_set (legible_set old rfl) rfl
  · exact legible_set old rfl
  · exact old

/-- The wrapping of an environment under the key `variables` does not matter. -/
theorem legible_variables {environment : Entries Value} :
    (Value.map [("variables", .map environment)]).legible = (Value.map environment).legible := by
  rw [Value.legible_map (fun t => by simp), Value.legibleEntries, Value.legibleEntries,
    Bool.and_true]

/-- An environment keeps properties legible if it is legible; the tags do not matter. -/
theorem legible_setEnvironment_iff {r : Resource} {environment : Entries Value} {tags : Value}
    (old : Legible r.properties) (regular : tags.legible = true) :
    Legible ((setEnvironment r environment).set "tags" tags).properties ↔
      (Value.map environment).legible = true := by
  by_cases empty : environment = []
  · rw [empty]
    exact iff_of_true (legible_set old regular) rfl
  · have set : setEnvironment r environment =
        r.set "environment" (.map [("variables", .map environment)]) :=
      if_neg (by simpa using empty)
    rw [set, ← legible_variables]
    constructor
    · intro all
      have there := Entries.mem_insert_self r.properties "environment"
        (.map [("variables", .map environment)])
      exact all _ (Entries.mem_insert_of_ne there (by simp))
    · intro inside
      exact legible_set (legible_set old inside) regular

/-- A function without security groups is legible if its environment is. -/
theorem legible_functionOf_iff {config : Config} {needs : Needs} {role : String}
    (unprotected : needs.securityGroups = []) :
    Legible (functionOf n config needs role).properties ↔
      (Value.map needs.environment).legible = true := by
  have unchanged : ∀ r, setSecurityGroups r [] = r := fun _ => rfl
  simp only [functionOf, foldl_afterOnce, properties_after, unprotected, unchanged]
  exact legible_setEnvironment_iff (legible_setCode (legible_set (legible_set (legible_set
    (legible_set (legible_set legible_ofKind rfl) rfl) rfl) rfl) rfl)) rfl

/-- An event mapping holds references, a number and a truth value. -/
theorem legible_eventMapping : Legible (eventMapping e).properties :=
  legible_set (legible_set (legible_set (legible_set legible_ofKind rfl) rfl) rfl) rfl

/-- An integration holds references, texts and tags. -/
theorem legible_integrationOf : Legible (integrationOf e).properties :=
  legible_set (legible_set (legible_set (legible_set (legible_set (legible_set legible_ofKind
    rfl) rfl) rfl) rfl) rfl) rfl

/-- A route holds references, a text and tags. -/
theorem legible_routeOf : Legible (routeOf e).properties :=
  legible_set (legible_set (legible_set (legible_set legible_ofKind rfl) rfl) rfl) rfl

/-- A permission holds references, texts and tags. -/
theorem legible_permissionOf : Legible (permissionOf e).properties :=
  legible_set (legible_set (legible_set (legible_set (legible_set legible_ofKind rfl) rfl) rfl)
    rfl) rfl

end Builders

/-! ## Which resources are misread -/

/-- What is read back as something else: a policy that allows exactly one action, a function whose
environment is a text under `ref` alone, and the API of a gateway with an array of exactly one text
in the setting `cors`. -/
inductive Context.Misread (ctx : Context) : Resource → Prop where
  | policy {i : AccessIntent} {p : Platform} {scope : Value} {a : String}
      (intent : .access i ∈ ctx.intents) (platform : ctx.knownPlatformOf? i.resource = some p)
      (within : scopeValue i p = .ok scope) (single : p.actionsFor i.levels = [a]) :
      Misread ctx (accessPolicy i p (p.actionsFor i.levels) scope)
  | environment {n : Node} {s : String} (node : ctx.Hosts n .computeFunction)
      (single : (ctx.needsAt n.id).environment = [("ref", .string s)]) :
      Misread ctx (functionOf n ctx.config (ctx.needsAt n.id) (execRoleName n.id))
  | cors {n : Node} {cors : Json} (node : ctx.Hosts n .httpGateway)
      (given : Entries.get? n.properties "cors" = some cors) (lone : cors.holdsLoneText = true) :
      Misread ctx (apiOf n ctx.config)

namespace Context

variable {ctx : Context} {r : Resource}

/-- The values of the environment of a node are legible. -/
theorem legible_environment (ctx : Context) (id : String) : Legible (ctx.needsAt id).environment := by
  intro e present
  obtain ⟨i, _, _, _, value⟩ := (ctx.asked_needsAt id).environment e present
  rw [← value]
  exact legible_value i.source ctx

/-- Each of those cases is one in which a value is read back as another one. -/
theorem Misread.not_legible (misread : ctx.Misread r) : ¬ Legible r.properties := by
  cases misread with
  | @policy i p scope a _ _ within single =>
    rw [legible_accessPolicy_iff (legible_scopeValue within)]
    intro several
    exact several a single
  | @environment n s _ single =>
    rw [legible_functionOf_iff (ctx.asked_needsAt n.id).securityGroups, Value.legible_map_iff]
    rintro ⟨other, _⟩
    exact other s single
  | cors _ given lone =>
    rw [legible_apiOf_iff]
    intro none
    rw [none _ given] at lone
    cases lone

/-- Whatever a document yields is legible if it is not one of those. -/
theorem Yields.legible (yields : ctx.Yields r) (regular : ¬ ctx.Misread r) : Legible r.properties := by
  -- by origin: only actions, environments and settings can hold a list of one text or the like
  cases yields with
  | role => exact legible_executionRole
  | basic => exact legible_basicAttachment
  | policy intent platform within =>
    rw [legible_accessPolicy_iff (legible_scopeValue within)]
    intro a single
    exact regular (.policy intent platform within single)
  | attachment => exact legible_accessAttachment
  | parameter => exact legible_parameter
  | @function n node =>
    rw [legible_functionOf_iff (ctx.asked_needsAt n.id).securityGroups, Value.legible_map_iff]
    refine ⟨?_, ctx.legible_environment n.id⟩
    intro s single
    exact regular (.environment node single)
  | queue => exact legible_queueOf
  | table => exact legible_tableOf
  | bucket => exact legible_bucketOf
  | versioning => exact legible_versioningOf
  | @api n node =>
    rw [legible_apiOf_iff]
    intro cors given
    by_contra lone
    exact regular (.cors node given (by simpa using lone))
  | stage => exact legible_stageOf
  | topic => exact legible_topicOf
  | mapping => exact legible_eventMapping
  | integration => exact legible_integrationOf
  | route => exact legible_routeOf
  | permission => exact legible_permissionOf

/-- So what a document yields is legible exactly if it is none of those cases. -/
theorem Yields.legible_iff (yields : ctx.Yields r) : Legible r.properties ↔ ¬ ctx.Misread r := by
  constructor
  · intro legible misread
    exact misread.not_legible legible
  · exact yields.legible

end Context

/-! ## Which plans are read back as they were -/

/-- Of resources with different names a plan keeps every one. -/
theorem Plan.forall_mem_ofResult {result : LoweringResult}
    (nodup : (result.resources.map Resource.name).Nodup) {P : PlannedResource → Prop} :
    (∀ p ∈ (Plan.ofResult result).resources, P p) ↔
      ∀ r ∈ result.resources, P (.ofResource r) := by
  have planned : (Plan.ofResult result).resources =
      (constructionOrder result.resources).map .ofResource := rfl
  rw [planned, List.forall_mem_map]
  exact forall_congr' fun r => imp_congr_left (mem_constructionOrder_of_nodup nodup)

/-- **Which plans are read back as they were.** The plan of a document, written as a JSON value, is
decoded from that value as the plan that it was exactly if no resource that lowering keeps is
misread. -/
theorem rereads_iff (mode : LookupMode) (ctx : Context) :
    Plan.decode (Plan.ofResult ((Adapter.standard mode).lower ctx)).json =
        .ok (Plan.ofResult ((Adapter.standard mode).lower ctx)) ↔
      ∀ r ∈ ((Adapter.standard mode).lower ctx).resources, ¬ ctx.Misread r := by
  have nodup : (((Adapter.standard mode).lower ctx).resources.map Resource.name).Nodup :=
    Pass.nodup_finish _
  rw [Plan.decode_json_iff, Plan.forall_mem_ofResult nodup]
  exact forall₂_congr fun r kept => (Context.yields_of_mem_lower kept).legible_iff

/-- A request for all access of a function to a queue. -/
def fullAccess : AccessIntent :=
  ⟨"e1", "component:api", "platform:jobs", [.admin], none⟩

/-- A document with that request, whose policy allows the one action `sqs:*`. -/
def fullAccessDocument : Document :=
  ⟨⟨"us-east-1", "orders", none, none⟩, [.access fullAccess],
    ⟨[⟨"platform:jobs", [("platform", .string "queue")]⟩], []⟩⟩

set_option maxRecDepth 10000 in
/-- The plan of that document, which is lowered without an error, is read back as another one. -/
theorem fullAccess_not_reread :
    ((Adapter.standard .registry).lower fullAccessDocument).success = true ∧
      Plan.decode (Plan.ofResult ((Adapter.standard .registry).lower fullAccessDocument)).json ≠
        .ok (Plan.ofResult ((Adapter.standard .registry).lower fullAccessDocument)) := by
  have platform : Context.knownPlatformOf? fullAccessDocument fullAccess.resource = some .queue := by
    decide
  have single : Platform.queue.actionsFor fullAccess.levels = ["sqs:*"] := by decide
  have misread : Context.Misread fullAccessDocument (accessPolicy fullAccess .queue
      (Platform.queue.actionsFor fullAccess.levels) (.refToField "jobs-queue" "arn")) :=
    .policy List.mem_cons_self platform rfl single
  refine ⟨by decide, ?_⟩
  intro same
  refine (rereads_iff .registry fullAccessDocument).mp same _ ?_ misread
  exact Pass.mem_finish.mpr (by decide)

end CloudPlan
