import CloudPlan.Lowering.Needs
import CloudPlan.Proofs.Entries

/-!
# What intents say about one node

The index of needs has one record for each node of the graph, and the record of a node is made by
the intents alone that name it (`get?_needsOf`). Everything in it was asked for by some intent, and
a variable has the value of the first config intent for it (`Context.get?_environment_needsAt`).
-/

set_option autoImplicit false

namespace CloudPlan

/-- Adds what one intent says about the node with an id. -/
def Needs.addIntent (ctx : Context) (id : String) (needs : Needs) : Intent → Needs
  | .access i => if i.principal = id then needs.addRole (execRoleName i.principal) else needs
  | .config i => if i.target = id then needs.addVariable i.key (i.source.value ctx) else needs
  | .network _ | .telemetry _ | .other _ => needs

/-- What all intents say about the node with an id. -/
def Context.needsAt (ctx : Context) (id : String) : Needs :=
  ctx.intents.foldl (Needs.addIntent ctx id) .none

namespace NeedsIndex

/-- At first exactly the nodes of the graph have a record, without needs. -/
theorem get?_initial (graph : Graph) (id : String) :
    Entries.get? (initial graph) id =
      if id ∈ graph.nodes.map Node.id then some Needs.none else none := by
  rw [initial, Entries.get?_sortedOfList, ← List.map_reverse, List.find?_map]
  by_cases present : id ∈ graph.nodes.map Node.id
  · have found : (graph.nodes.reverse.find?
        ((fun e => e.1 == id) ∘ fun n => (n.id, Needs.none))).isSome = true := by
      rw [List.find?_isSome]
      obtain ⟨n, member, same⟩ := List.mem_map.mp present
      exact ⟨n, List.mem_reverse.mpr member, by simpa using same⟩
    obtain ⟨n, first⟩ := Option.isSome_iff_exists.mp found
    rw [if_pos present, first]
    rfl
  · rw [if_neg present, List.find?_eq_none.mpr]
    · rfl
    · intro n member same
      exact present (List.mem_map.mpr ⟨n, List.mem_reverse.mp member, by simpa using same⟩)

/-- An intent changes the record of the node that it names, and no other one. -/
theorem get?_addIntent (ctx : Context) (index : NeedsIndex) (intent : Intent) (id : String) :
    Entries.get? (addIntent ctx index intent) id =
      (Entries.get? index id).map fun needs => needs.addIntent ctx id intent := by
  cases intent with
  | access i =>
    rw [addIntent, Entries.get?_modify]
    by_cases same : i.principal = id
    · subst same
      simp [Needs.addIntent]
    · simp [Needs.addIntent, same]
  | config i =>
    rw [addIntent, Entries.get?_modify]
    by_cases same : i.target = id
    · subst same
      simp [Needs.addIntent]
    · simp [Needs.addIntent, same]
  | network i => simp [addIntent, Needs.addIntent]
  | telemetry i => simp [addIntent, Needs.addIntent]
  | other i => simp [addIntent, Needs.addIntent]

/-- A list of intents changes each record as it would alone. -/
theorem get?_foldl_addIntent (ctx : Context) (intents : List Intent) (index : NeedsIndex)
    (id : String) :
    Entries.get? (intents.foldl (addIntent ctx) index) id =
      (Entries.get? index id).map fun needs => intents.foldl (Needs.addIntent ctx id) needs := by
  induction intents generalizing index with
  | nil => simp
  | cons intent rest ih =>
    rw [List.foldl_cons, ih, get?_addIntent, Option.map_map]
    rfl

end NeedsIndex

/-- The index has a record for each node of the graph, made by the intents that name the node. -/
theorem get?_needsOf (ctx : Context) (id : String) :
    Entries.get? (needsOf ctx) id =
      if id ∈ ctx.graph.nodes.map Node.id then some (ctx.needsAt id) else none := by
  rw [needsOf, NeedsIndex.get?_foldl_addIntent, NeedsIndex.get?_initial]
  by_cases present : id ∈ ctx.graph.nodes.map Node.id
  · rw [if_pos present, if_pos present]
    rfl
  · rw [if_neg present, if_neg present]
    rfl

/-- Everything in a record was asked for: the role by an access intent of the node, each variable by
a config intent for it, and security groups by nobody. -/
structure Needs.Asked (ctx : Context) (id : String) (needs : Needs) : Prop where
  role : ∀ role, needs.role = some role →
    role = execRoleName id ∧ ∃ i, Intent.access i ∈ ctx.intents ∧ i.principal = id
  environment : ∀ e ∈ needs.environment,
    ∃ i, Intent.config i ∈ ctx.intents ∧ i.target = id ∧ i.key = e.1 ∧ i.source.value ctx = e.2
  securityGroups : needs.securityGroups = []

/-- Nothing is asked for at first. -/
theorem Needs.asked_none (ctx : Context) (id : String) : Needs.none.Asked ctx id where
  role _ h := by cases h
  environment _ h := by cases h
  securityGroups := rfl

/-- What an intent adds was asked for. -/
theorem Needs.Asked.addIntent {ctx : Context} {id : String} {needs : Needs}
    (asked : needs.Asked ctx id) {intent : Intent} (present : intent ∈ ctx.intents) :
    (needs.addIntent ctx id intent).Asked ctx id := by
  -- an intent about the node adds a role or a variable if there is none yet
  cases intent with
  | access i =>
    by_cases same : i.principal = id
    · rw [Needs.addIntent, if_pos same]
      refine ⟨?_, asked.environment, asked.securityGroups⟩
      intro role given
      cases old : needs.role with
      | none =>
        simp only [addRole, old, Option.getD_none, Option.some.injEq] at given
        exact ⟨by rw [← given, same], i, present, same⟩
      | some r =>
        simp only [addRole, old, Option.getD_some] at given
        exact asked.role role (by rw [old, given])
    · rw [Needs.addIntent, if_neg same]
      exact asked
  | config i =>
    by_cases same : i.target = id
    · rw [Needs.addIntent, if_pos same, addVariable]
      split
      · exact asked
      · refine ⟨asked.role, ?_, asked.securityGroups⟩
        intro e member
        rcases Entries.mem_insertSorted member with rfl | old
        · exact ⟨i, present, same, rfl, rfl⟩
        · exact asked.environment e old
    · rw [Needs.addIntent, if_neg same]
      exact asked
  | network i => exact asked
  | telemetry i => exact asked
  | other i => exact asked

/-- Everything that the intents say about a node was asked for by one of them. -/
theorem Context.asked_needsAt (ctx : Context) (id : String) : (ctx.needsAt id).Asked ctx id := by
  have run : ∀ (intents : List Intent) (needs : Needs), (∀ i ∈ intents, i ∈ ctx.intents) →
      needs.Asked ctx id → (intents.foldl (Needs.addIntent ctx id) needs).Asked ctx id := by
    intro intents
    induction intents with
    | nil => intro needs _ asked; exact asked
    | cons i rest ih =>
      intro needs members asked
      apply ih
      · intro j later
        exact members j (List.mem_cons_of_mem _ later)
      · exact asked.addIntent (members i List.mem_cons_self)
  exact run ctx.intents .none (fun _ h => h) (Needs.asked_none ctx id)

/-- A node is given a role if some access intent has it as its principal. -/
theorem Needs.isSome_role_foldl (ctx : Context) (id : String) (xs : List Intent) (needs : Needs) :
    (xs.foldl (Needs.addIntent ctx id) needs).role.isSome = true ↔
      needs.role.isSome = true ∨ ∃ i, .access i ∈ xs ∧ i.principal = id := by
  induction xs generalizing needs with
  | nil => simp
  | cons x rest ih =>
    rw [List.foldl_cons, ih]
    cases x with
    | access i =>
      by_cases same : i.principal = id
      · simp [addIntent, same, addRole]
      · simp [addIntent, same]
    | config i =>
      have role : (needs.addIntent ctx id (.config i)).role = needs.role := by
        show (if i.target = id then needs.addVariable i.key (i.source.value ctx) else needs).role = _
        unfold addVariable
        split
        · split <;> rfl
        · rfl
      simp [role]
    | network i => simp [addIntent]
    | telemetry i => simp [addIntent]
    | other i => simp [addIntent]

/-- A node needs a role exactly if it is the principal of an access intent. -/
theorem Context.role_needsAt_isSome_iff (ctx : Context) (id : String) :
    (ctx.needsAt id).role.isSome = true ↔ ∃ i, .access i ∈ ctx.intents ∧ i.principal = id := by
  rw [needsAt, Needs.isSome_role_foldl]
  exact or_iff_right Bool.false_ne_true

/-! ## Which intent sets a variable -/

/-- The intent as a config intent. -/
def Intent.asConfig? : Intent → Option ConfigIntent
  | .config i => some i
  | .access _ | .network _ | .telemetry _ | .other _ => none

/-- Only a config intent is seen as one. -/
theorem Intent.asConfig?_eq_some_iff {x : Intent} {i : ConfigIntent} :
    x.asConfig? = some i ↔ x = .config i := by
  cases x <;> simp [asConfig?]

/-- The config intents among some intents, in order. -/
def configIntents (xs : List Intent) : List ConfigIntent :=
  xs.filterMap Intent.asConfig?

/-- The config intents of a list are those in the list. -/
theorem mem_configIntents {xs : List Intent} {i : ConfigIntent} :
    i ∈ configIntents xs ↔ .config i ∈ xs := by
  unfold configIntents
  rw [List.mem_filterMap]
  constructor
  · rintro ⟨x, present, config⟩
    rw [Intent.asConfig?_eq_some_iff] at config
    rwa [← config]
  · intro present
    exact ⟨_, present, rfl⟩

/-- The config intent sets the variable of a key at the node with an id. -/
def ConfigIntent.sets (i : ConfigIntent) (id key : String) : Bool :=
  i.target == id && i.key == key

/-- Adding a variable gives its key a value unless it has one, and leaves every other key alone. -/
theorem Needs.get?_environment_addVariable (needs : Needs) (k key : String) (value : Value) :
    Entries.get? (needs.addVariable k value).environment key =
      (Entries.get? needs.environment key).or (if k = key then some value else .none) := by
  unfold addVariable
  by_cases known : Entries.contains needs.environment k = true
  · rw [if_pos known]
    by_cases same : k = key
    · obtain ⟨old, there⟩ := Option.isSome_iff_exists.mp known
      rw [← same, there, Option.some_or]
    · rw [if_neg same, Option.or_none]
  · rw [if_neg known]
    show Entries.get? (Entries.insertSorted needs.environment k value) key = _
    rw [Entries.get?_insertSorted]
    by_cases same : k = key
    · have free : Entries.get? needs.environment key = .none := by
        rw [← same]
        simpa [Entries.contains] using known
      rw [if_pos same, if_pos same, free, Option.none_or]
    · rw [if_neg same, if_neg same, Option.or_none]

/-- A list of intents leaves a variable that is there, and otherwise sets it to the value of the first
config intent for it. -/
theorem Needs.get?_environment_foldl (ctx : Context) (id key : String) (xs : List Intent)
    (needs : Needs) :
    Entries.get? (xs.foldl (Needs.addIntent ctx id) needs).environment key =
      (Entries.get? needs.environment key).or
        (((configIntents xs).find? fun i => i.sets id key).map fun i => i.source.value ctx) := by
  -- on the intents, for any needs at the start, since a variable that is set stays as it is
  induction xs generalizing needs with
  | nil => simp [configIntents]
  | cons x rest ih =>
    rw [List.foldl_cons, ih]
    cases x with
    | access i =>
      have same : (needs.addIntent ctx id (.access i)).environment = needs.environment := by
        rw [addIntent]
        split <;> rfl
      rw [same]
      rfl
    | config i =>
      have first : configIntents (.config i :: rest) = i :: configIntents rest := rfl
      rw [first, addIntent]
      by_cases target : i.target = id
      · rw [if_pos target, get?_environment_addVariable, Option.or_assoc]
        by_cases same : i.key = key
        · rw [if_pos same, Option.some_or,
            List.find?_cons_of_pos (by simp [ConfigIntent.sets, target, same])]
          rfl
        · rw [if_neg same, Option.none_or,
            List.find?_cons_of_neg (by simp [ConfigIntent.sets, same])]
      · rw [if_neg target, List.find?_cons_of_neg (by simp [ConfigIntent.sets, target])]
    | network i => rfl
    | telemetry i => rfl
    | other i => rfl

/-- A variable of a node has the value of the first config intent for it. -/
theorem Context.get?_environment_needsAt (ctx : Context) (id key : String) :
    Entries.get? (ctx.needsAt id).environment key =
      ((configIntents ctx.intents).find? fun i => i.sets id key).map fun i => i.source.value ctx := by
  rw [needsAt, Needs.get?_environment_foldl]
  exact Option.none_or

/-- The variables of a node are those that some config intent asks for. -/
theorem Context.mem_keys_environment {ctx : Context} {id key : String} :
    key ∈ Entries.keys (ctx.needsAt id).environment ↔
      ∃ i, .config i ∈ ctx.intents ∧ i.target = id ∧ i.key = key := by
  rw [← Entries.get?_isSome_iff, get?_environment_needsAt, Option.isSome_map, List.find?_isSome]
  simp only [mem_configIntents, ConfigIntent.sets, Bool.and_eq_true, beq_iff_eq]

/-- The record that a node of the graph is lowered with. -/
theorem getD_needsOf (ctx : Context) {node : Node} (present : node ∈ ctx.graph.nodes) :
    (Entries.get? (needsOf ctx) node.id).getD .none = ctx.needsAt node.id := by
  rw [get?_needsOf, if_pos (List.mem_map_of_mem present)]
  rfl

end CloudPlan
