import CloudPlan.Plan.Basic
import CloudPlan.Proofs.Exploration
import Mathlib.Data.List.Nodup

/-!
# Plans are complete and in order

The construction order has the last resource of each name, once, and puts a dependency before its
dependents unless the two lie on a cycle. `ofResult_topological` says so of plans, whatever the
lowering result looks like: names may be missing, repeated or lead around in circles. Where they do
not lead around, every dependency that is there comes first (`LoweringResult.Acyclic.precedes`).
-/

set_option autoImplicit false

namespace CloudPlan

/-- The last of some resources with a name. -/
def lastNamed? (resources : List Resource) (name : String) : Option Resource :=
  resources.reverse.find? fun r => r.name == name

/-- The last resource of a name has that name. -/
theorem name_of_lastNamed? {resources : List Resource} {name : String} {r : Resource}
    (last : lastNamed? resources name = some r) : r.name = name := by
  simpa using List.find?_some last

/-- There is a last resource for exactly the names of the resources. -/
theorem lastNamed?_isSome_iff {resources : List Resource} {name : String} :
    (lastNamed? resources name).isSome = true ↔ name ∈ resources.map Resource.name := by
  rw [lastNamed?, ← ResourceIndex.get?_ofList, Entries.get?_isSome_iff,
    ResourceIndex.mem_keys_ofList]

namespace Walk

/-- In a list that is ordered, an indexed dependency of a resource is further on or leads back. -/
theorem Ordered.split {index : ResourceIndex} {after before : List Resource} {r : Resource}
    (ordered : Ordered index (after ++ r :: before)) {name : String}
    (depended : name ∈ r.dependsOn) (indexed : name ∈ Entries.keys index) :
    name ∈ before.map Resource.name ∨ index.Reaches name r.name := by
  induction after with
  | nil => exact ordered.1 name depended indexed
  | cons s rest ih => exact ih ordered.2

end Walk

section Order

variable (resources : List Resource)

/-- The walk whose finished resources make the construction order explores all names. -/
theorem exists_exploration :
    ∃ walk : Walk, Walk.Explores (ResourceIndex.ofList resources) .start
      (Entries.keys (ResourceIndex.ofList resources)) walk ∧
      constructionOrder resources = walk.finished.reverse :=
  ⟨_, Walk.explores_foldl_visit _ _ _, rfl⟩

/-- The order has no name twice. -/
theorem nodup_constructionOrder : ((constructionOrder resources).map Resource.name).Nodup := by
  obtain ⟨walk, explored, order⟩ := exists_exploration resources
  rw [order, List.map_reverse, List.nodup_reverse]
  exact (explored.sound_of_start (ResourceIndex.named_ofList resources)).nodup

/-- The construction order has exactly the last resource of each name. -/
theorem mem_constructionOrder {r : Resource} :
    r ∈ constructionOrder resources ↔ lastNamed? resources r.name = some r := by
  obtain ⟨walk, explored, order⟩ := exists_exploration resources
  have named := ResourceIndex.named_ofList resources
  have sound := explored.sound_of_start named
  rw [order, List.mem_reverse, lastNamed?, ← ResourceIndex.get?_ofList]
  constructor
  · intro finished
    exact sound.indexed r finished
  · intro known
    have isKey : r.name ∈ Entries.keys (ResourceIndex.ofList resources) :=
      Entries.get?_isSome_iff.mp (by simp [known])
    have isDone := explored.done_of_start named isKey isKey
    obtain ⟨s, finished, same⟩ := List.mem_map.mp ((sound.done_iff r.name).mp isDone)
    have known' := sound.indexed s finished
    rw [same, known, Option.some.injEq] at known'
    rwa [known']

/-- It has only resources of the list. -/
theorem mem_of_mem_constructionOrder {resources : List Resource} {r : Resource}
    (ordered : r ∈ constructionOrder resources) : r ∈ resources :=
  List.mem_reverse.mp (List.mem_of_find?_eq_some ((mem_constructionOrder resources).mp ordered))

/-- It has the names of all of them. -/
theorem mem_names_constructionOrder {name : String} :
    name ∈ (constructionOrder resources).map Resource.name ↔
      name ∈ resources.map Resource.name := by
  rw [← @lastNamed?_isSome_iff resources]
  constructor
  · intro planned
    obtain ⟨r, present, rfl⟩ := List.mem_map.mp planned
    rw [(mem_constructionOrder resources).mp present]
    rfl
  · intro found
    obtain ⟨r, last⟩ := Option.isSome_iff_exists.mp found
    obtain rfl := name_of_lastNamed? last
    exact List.mem_map.mpr ⟨r, (mem_constructionOrder resources).mpr last, rfl⟩

/-- Of resources with different names every one is ordered. -/
theorem mem_constructionOrder_of_nodup {resources : List Resource}
    (nodup : (resources.map Resource.name).Nodup) {r : Resource} :
    r ∈ constructionOrder resources ↔ r ∈ resources := by
  constructor
  · exact mem_of_mem_constructionOrder
  · intro present
    have named := (mem_names_constructionOrder resources).mpr (List.mem_map_of_mem present)
    obtain ⟨s, ordered, same⟩ := List.mem_map.mp named
    have listed := mem_of_mem_constructionOrder ordered
    rwa [← List.inj_on_of_nodup_map nodup listed present same]

/-- A dependency that names a resource comes before its dependent, or leads back to it. -/
theorem constructionOrder_precedes {before after : List Resource} {r : Resource}
    (order : constructionOrder resources = before ++ r :: after) {name : String}
    (depended : name ∈ r.dependsOn) (present : name ∈ resources.map Resource.name) :
    name ∈ before.map Resource.name ∨
      (ResourceIndex.ofList resources).Reaches name r.name := by
  obtain ⟨walk, explored, finished⟩ := exists_exploration resources
  have sound := explored.sound_of_start (ResourceIndex.named_ofList resources)
  have split : walk.finished = after.reverse ++ r :: before.reverse := by
    rw [finished] at order
    simpa using congrArg List.reverse order
  have ordered := sound.ordered
  rw [split] at ordered
  simpa using ordered.split depended (ResourceIndex.mem_keys_ofList.mpr present)

end Order

namespace LoweringResult

/-- One resource of a result depends on another, by name. -/
def Depends (result : LoweringResult) (a b : String) : Prop :=
  ∃ r ∈ result.resources, r.name = a ∧ b ∈ r.dependsOn ∧ b ∈ result.resources.map Resource.name

/-- No resource of a result depends on itself, directly or through others. -/
def Acyclic (result : LoweringResult) : Prop :=
  ∀ name, ¬ Relation.TransGen result.Depends name name

/-- A dependency in the index is one in the result. -/
theorem depends_of_index {result : LoweringResult} {a b : String}
    (depends : (ResourceIndex.ofList result.resources).Depends a b) : result.Depends a b := by
  obtain ⟨r, known, depended, indexed⟩ := depends
  have own : r.name = a := ResourceIndex.named_ofList _ _ _ known
  rw [ResourceIndex.get?_ofList] at known
  have present := List.mem_reverse.mp (List.mem_of_find?_eq_some known)
  exact ⟨r, present, own, depended, ResourceIndex.mem_keys_ofList.mp indexed⟩

/-- Dependencies do not run in circles if some rank falls along them. -/
theorem acyclic_of_rank {result : LoweringResult} (rank : String → Nat)
    (falls : ∀ r ∈ result.resources, ∀ b ∈ r.dependsOn, rank b < rank r.name) :
    result.Acyclic := by
  have along : ∀ a b, Relation.TransGen result.Depends a b → rank b < rank a := by
    intro a b way
    induction way with
    | single step =>
      obtain ⟨r, present, rfl, depended, _⟩ := step
      exact falls r present _ depended
    | tail _ step ih =>
      obtain ⟨r, present, rfl, depended, _⟩ := step
      have last := falls r present _ depended
      omega
  intro name around
  have less := along name name around
  omega

/-- Without circles a dependency that is there comes first in the construction order. -/
theorem Acyclic.precedes {result : LoweringResult} (acyclic : result.Acyclic)
    {before after : List Resource} {r : Resource}
    (order : constructionOrder result.resources = before ++ r :: after) {name : String}
    (depended : name ∈ r.dependsOn) (present : name ∈ result.resources.map Resource.name) :
    name ∈ before.map Resource.name := by
  rcases constructionOrder_precedes _ order depended present with first | back
  · exact first
  · have planned : r ∈ constructionOrder result.resources := by
      rw [order]
      exact List.mem_append_right _ List.mem_cons_self
    have here : result.Depends r.name name :=
      ⟨r, mem_of_mem_constructionOrder planned, rfl, depended, present⟩
    have around := Relation.ReflTransGen.mono (fun _ _ => depends_of_index) _ _ back
    exact absurd (Relation.TransGen.head' here around) (acyclic r.name)

end LoweringResult

namespace Plan

/-- One planned resource depends on another, by name. -/
def Depends (plan : Plan) (a b : String) : Prop :=
  ∃ p ∈ plan.resources, p.name = a ∧ b ∈ p.dependsOn ∧
    b ∈ plan.resources.map PlannedResource.name

/-- One planned resource leads to another through dependencies, in any number of steps. -/
def Reaches (plan : Plan) : String → String → Prop :=
  Relation.ReflTransGen plan.Depends

/-- No planned resource depends on itself, directly or through others. -/
def Acyclic (plan : Plan) : Prop :=
  ∀ name, ¬ Relation.TransGen plan.Depends name name

/-- A name comes strictly before another in the plan. -/
def Precedes (plan : Plan) (a b : String) : Prop :=
  [a, b].Sublist (plan.resources.map PlannedResource.name)

/-- The plan has the names of the order. -/
theorem names_ofResult (result : LoweringResult) :
    (ofResult result).resources.map PlannedResource.name =
      (constructionOrder result.resources).map Resource.name := by
  rw [ofResult, ofOrdered, List.map_map]
  rfl

/-- An output of a plan is a template for an output field of one of its resources. -/
theorem exists_of_mem_outputs {result : LoweringResult} {key template : String}
    (output : (key, template) ∈ (ofResult result).outputs) :
    ∃ p ∈ (ofResult result).resources, ∃ e ∈ ResourceKind.outputFieldsOf p.type,
      template = outputTemplate p.name e.2 := by
  obtain ⟨p, planned, member⟩ := List.mem_flatMap.mp (Entries.mem_of_mem_ofList output)
  obtain ⟨e, listed, entry⟩ := List.mem_map.mp member
  cases entry
  exact ⟨p, planned, e, listed, rfl⟩

/-- What is planned is what the last resource of its name amounts to. -/
theorem mem_ofResult {result : LoweringResult} {p : PlannedResource} :
    p ∈ (ofResult result).resources ↔
      (lastNamed? result.resources p.name).map PlannedResource.ofResource = some p := by
  rw [ofResult, ofOrdered, List.mem_map, Option.map_eq_some_iff]
  constructor
  · rintro ⟨r, present, rfl⟩
    exact ⟨r, (mem_constructionOrder _).mp present, rfl⟩
  · rintro ⟨r, last, rfl⟩
    exact ⟨r, (mem_constructionOrder _).mpr last, rfl⟩

/-- A dependency in the index is one in the plan. -/
theorem depends_of_index {result : LoweringResult} {a b : String}
    (depends : (ResourceIndex.ofList result.resources).Depends a b) :
    (ofResult result).Depends a b := by
  obtain ⟨r, known, depended, indexed⟩ := depends
  have own : r.name = a := ResourceIndex.named_ofList _ _ _ known
  rw [ResourceIndex.get?_ofList, ← own] at known
  refine ⟨.ofResource r, mem_ofResult.mpr ?_, own, depended, ?_⟩
  · show Option.map _ (lastNamed? _ r.name) = _
    rw [lastNamed?, known]
    rfl
  · rw [names_ofResult, mem_names_constructionOrder, ← ResourceIndex.mem_keys_ofList]
    exact indexed

/-- A planned dependency from which no way leads back comes first. -/
theorem precedes_of_not_reaches {result : LoweringResult} {u : PlannedResource}
    (planned : u ∈ (ofResult result).resources) {name : String} (depended : name ∈ u.dependsOn)
    (present : name ∈ (ofResult result).resources.map PlannedResource.name)
    (oneWay : ¬ (ofResult result).Reaches name u.name) :
    (ofResult result).Precedes name u.name := by
  obtain ⟨r, ordered, rfl⟩ := List.mem_map.mp planned
  obtain ⟨before, after, split⟩ := List.append_of_mem ordered
  rw [names_ofResult, mem_names_constructionOrder] at present
  rcases constructionOrder_precedes _ split depended present with first | back
  · rw [Precedes, names_ofResult, split, List.map_append, List.map_cons]
    exact (List.singleton_sublist.mpr first).append
      (List.singleton_sublist.mpr List.mem_cons_self)
  · refine absurd ?_ oneWay
    exact Relation.ReflTransGen.mono (fun _ _ => depends_of_index) _ _ back

/-- Two resources that depend on each other, and one that depends on the first of them and on
something that is not there. -/
def tangled : LoweringResult :=
  ⟨[⟨"c", "kind", [], "node", ["a", "missing"]⟩, ⟨"a", "kind", [], "node", ["b"]⟩,
    ⟨"b", "kind", [], "node", ["a"]⟩], [], [], true⟩

end Plan

end CloudPlan
