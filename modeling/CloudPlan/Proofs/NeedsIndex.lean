import CloudPlan.Proofs.Needs

/-!
# The index of needs

`needsOf` reads the intents once and changes records on the way. What comes out is an index: one record
for each id of a node, which says exactly what the intents about this node say, the first config intent
for a key winning (`Context.records_needsAt`). Intents about other nodes may come and go
(`Needs.foldl_addIntent_append_cons`). `needsOf_indexes_intents` puts this together.
-/

set_option autoImplicit false

namespace CloudPlan

/-- The node that an intent says something about: the principal of access, the target of a value. -/
def Intent.about? : Intent → Option String
  | .access i => some i.principal
  | .config i => some i.target
  | .network _ | .telemetry _ | .other _ => none

/-- The document with other intents. -/
def Context.withIntents (ctx : Context) (intents : List Intent) : Context :=
  { ctx with intents := intents }

/-- The record says exactly what the intents say about the node with an id. -/
structure Needs.Records (needs : Needs) (ctx : Context) (id : String) : Prop where
  role : needs.role = some (execRoleName id) ↔ ∃ i, .access i ∈ ctx.intents ∧ i.principal = id
  noRole : (¬ ∃ i, .access i ∈ ctx.intents ∧ i.principal = id) → needs.role = .none
  keys : ∀ key, key ∈ Entries.keys needs.environment ↔
    ∃ i, .config i ∈ ctx.intents ∧ i.target = id ∧ i.key = key
  ascending : (Entries.keys needs.environment).Pairwise (· < ·)
  first : ∀ before i after, ctx.intents = before ++ .config i :: after → i.target = id →
    (∀ j, .config j ∈ before → j.target = id → j.key ≠ i.key) →
    Entries.get? needs.environment i.key = some (i.source.value ctx)
  securityGroups : needs.securityGroups = []

/-! ## Which records there are -/

namespace NeedsIndex

/-- An intent changes the needs of nodes and adds no node. -/
theorem keys_addIntent (ctx : Context) (index : NeedsIndex) (x : Intent) :
    Entries.keys (addIntent ctx index x) = Entries.keys index := by
  cases x with
  | access i => exact Entries.keys_modify index i.principal _
  | config i => exact Entries.keys_modify index i.target _
  | network i => rfl
  | telemetry i => rfl
  | other i => rfl

/-- Nor do any number of intents. -/
theorem keys_foldl_addIntent (ctx : Context) (xs : List Intent) (index : NeedsIndex) :
    Entries.keys (xs.foldl (addIntent ctx) index) = Entries.keys index := by
  induction xs generalizing index with
  | nil => rfl
  | cons x rest ih => rw [List.foldl_cons, ih, keys_addIntent]

end NeedsIndex

/-- The ids in the index are in strictly ascending order, so there is one record for each. -/
theorem ascending_needsOf (ctx : Context) : (Entries.keys (needsOf ctx)).Pairwise (· < ·) := by
  rw [needsOf, NeedsIndex.keys_foldl_addIntent]
  exact Entries.ascending_sortedOfList _

/-- The nodes with needs are those of the graph. -/
theorem mem_keys_needsOf {ctx : Context} {id : String} :
    id ∈ Entries.keys (needsOf ctx) ↔ ∃ n ∈ ctx.graph.nodes, n.id = id := by
  rw [← Entries.get?_isSome_iff, get?_needsOf, Option.isSome_ite, List.mem_map]

/-- What is listed for a node is what its intents say, one after the other. -/
theorem mem_needsOf {ctx : Context} {id : String} {needs : Needs} (member : (id, needs) ∈ needsOf ctx) :
    needs = ctx.needsAt id := by
  have found := (Entries.mem_iff_get? (ascending_needsOf ctx)).mp member
  rw [get?_needsOf] at found
  split at found
  · exact (Option.some.inj found).symm
  · cases found

/-! ## What a record says -/

namespace Needs

variable {ctx : Context} {id : String} {needs : Needs}

/-- An intent keeps the environment in the order of its keys. -/
theorem ascending_addIntent (ascending : (Entries.keys needs.environment).Pairwise (· < ·))
    (x : Intent) : (Entries.keys (needs.addIntent ctx id x).environment).Pairwise (· < ·) := by
  cases x with
  | access i =>
    rw [addIntent]
    split
    · exact ascending
    · exact ascending
  | config i =>
    rw [addIntent]
    split
    · rw [addVariable]
      split
      · exact ascending
      · exact Entries.ascending_insertSorted _ _ ascending
    · exact ascending
  | network i => exact ascending
  | telemetry i => exact ascending
  | other i => exact ascending

/-- So do any number of them. -/
theorem ascending_foldl_addIntent (ascending : (Entries.keys needs.environment).Pairwise (· < ·))
    (xs : List Intent) :
    (Entries.keys (xs.foldl (addIntent ctx id) needs).environment).Pairwise (· < ·) := by
  induction xs generalizing needs with
  | nil => exact ascending
  | cons x rest ih => exact ih (ascending_addIntent ascending x)

end Needs

namespace Context

variable (ctx : Context) (id : String)

/-- A node needs its execution role exactly if it is the principal of an access intent. -/
theorem role_needsAt_iff :
    (ctx.needsAt id).role = some (execRoleName id) ↔
      ∃ i, .access i ∈ ctx.intents ∧ i.principal = id := by
  rw [← role_needsAt_isSome_iff]
  constructor
  · intro role
    rw [role]
    rfl
  · intro given
    obtain ⟨role, is⟩ := Option.isSome_iff_exists.mp given
    rw [is, ((ctx.asked_needsAt id).role role is).1]

/-- The first config intent for a key of a node wins. -/
theorem get?_environment_of_first {before after : List Intent} {i : ConfigIntent}
    (split : ctx.intents = before ++ .config i :: after) (target : i.target = id)
    (first : ∀ j, .config j ∈ before → j.target = id → j.key ≠ i.key) :
    Entries.get? (ctx.needsAt id).environment i.key = some (i.source.value ctx) := by
  have none : (configIntents before).find? (fun j => j.sets id i.key) = .none := by
    rw [List.find?_eq_none]
    intro j there
    simpa [ConfigIntent.sets] using first j (mem_configIntents.mp there)
  have found : (i :: configIntents after).find? (fun j => j.sets id i.key) = some i :=
    List.find?_cons_of_pos (by simp [ConfigIntent.sets, target])
  have order : configIntents ctx.intents = configIntents before ++ i :: configIntents after := by
    rw [split, configIntents, List.filterMap_append]
    rfl
  rw [get?_environment_needsAt, order, List.find?_append, none, Option.none_or, found,
    Option.map_some]

/-- The needs of a node record what its intents ask for. -/
theorem records_needsAt : (ctx.needsAt id).Records ctx id where
  role := ctx.role_needsAt_iff id
  noRole nobody := by
    rw [← role_needsAt_isSome_iff] at nobody
    simpa using nobody
  keys _ := mem_keys_environment
  ascending := Needs.ascending_foldl_addIntent List.Pairwise.nil ctx.intents
  first _ _ _ := ctx.get?_environment_of_first id
  securityGroups := (ctx.asked_needsAt id).securityGroups

end Context

/-! ## Intents about other nodes -/

/-- An intent about another node changes nothing. -/
theorem Needs.addIntent_of_other (ctx : Context) {id : String} (needs : Needs) {x : Intent}
    (other : x.about? ≠ some id) : needs.addIntent ctx id x = needs := by
  cases x with
  | access i =>
    have different : i.principal ≠ id := fun same => other (congrArg some same)
    rw [addIntent, if_neg different]
  | config i =>
    have different : i.target ≠ id := fun same => other (congrArg some same)
    rw [addIntent, if_neg different]
  | network i => rfl
  | telemetry i => rfl
  | other i => rfl

/-- So it may stand anywhere among the intents, or nowhere. -/
theorem Needs.foldl_addIntent_append_cons (ctx : Context) {id : String} (needs : Needs) {x : Intent}
    (other : x.about? ≠ some id) (before after : List Intent) :
    (before ++ x :: after).foldl (Needs.addIntent ctx id) needs =
      (before ++ after).foldl (Needs.addIntent ctx id) needs := by
  rw [List.foldl_append, List.foldl_cons, addIntent_of_other ctx _ other, ← List.foldl_append]

/-- Values come from the graph alone, whatever the intents are. -/
theorem Context.needsAt_withIntents (ctx : Context) (xs : List Intent) (id : String) :
    (ctx.withIntents xs).needsAt id = xs.foldl (Needs.addIntent ctx id) .none := by
  have same : Needs.addIntent (ctx.withIntents xs) id = Needs.addIntent ctx id := by
    funext needs x
    cases x <;> rfl
  rw [needsAt, same]
  rfl

/-- An intent that is put in somewhere does not change the needs of a node that it is not about. -/
theorem get?_needsOf_insert (ctx : Context) {id : String} {x : Intent} (other : x.about? ≠ some id)
    (before after : List Intent) :
    Entries.get? (needsOf (ctx.withIntents (before ++ x :: after))) id =
      Entries.get? (needsOf (ctx.withIntents (before ++ after))) id := by
  rw [get?_needsOf, get?_needsOf, ctx.needsAt_withIntents, ctx.needsAt_withIntents,
    Needs.foldl_addIntent_append_cons ctx .none other]
  rfl

/-- **The index of needs.** It has one record for each id of a node and no others, and each says exactly
what the intents about its node say: the execution role if some access intent has the node as its
principal, and for each key that config intents set at the node the value of the first of them. The record
of a node stays the same when an intent about another node is put in, taken out or moved. -/
theorem needsOf_indexes_intents (ctx : Context) :
    (Entries.keys (needsOf ctx)).Pairwise (· < ·) ∧
      (∀ id, id ∈ Entries.keys (needsOf ctx) ↔ ∃ n ∈ ctx.graph.nodes, n.id = id) ∧
      (∀ id needs, (id, needs) ∈ needsOf ctx → needs.Records ctx id) ∧
      ∀ (id : String) (x : Intent), x.about? ≠ some id → ∀ before middle after : List Intent,
        Entries.get? (needsOf (ctx.withIntents (before ++ x :: middle ++ after))) id =
          Entries.get? (needsOf (ctx.withIntents (before ++ middle ++ after))) id ∧
        Entries.get? (needsOf (ctx.withIntents (before ++ x :: middle ++ after))) id =
          Entries.get? (needsOf (ctx.withIntents (before ++ middle ++ x :: after))) id := by
  refine ⟨ascending_needsOf ctx, fun _ => mem_keys_needsOf, ?_, ?_⟩
  · intro id needs member
    rw [mem_needsOf member]
    exact ctx.records_needsAt id
  · intro id x other before middle after
    have removed : Entries.get? (needsOf (ctx.withIntents (before ++ x :: middle ++ after))) id =
        Entries.get? (needsOf (ctx.withIntents (before ++ middle ++ after))) id := by
      have here := get?_needsOf_insert ctx other before (middle ++ after)
      rwa [← List.cons_append, ← List.append_assoc, ← List.append_assoc] at here
    exact ⟨removed, removed.trans (get?_needsOf_insert ctx other (before ++ middle) after).symm⟩

end CloudPlan
