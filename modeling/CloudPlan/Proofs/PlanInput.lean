import CloudPlan.Proofs.ConstructionOrder
import Mathlib.Data.List.Permutation

/-!
# What a plan is made from

The walk looks at resources by name only, and of a resource only at its name and its dependencies. So
two walks over indices that agree on what is planned for each name go the same way, step by step
(`Walk.Explores.alike`), whatever the lists look like that the indices were made from. Therefore two
plans are the same exactly if the last resources of each name are planned alike
(`Plan.ofResult_eq_iff`); in particular the order of resources with different names does not matter
(`Plan.ofResult_perm`).
-/

set_option autoImplicit false

namespace CloudPlan

/-- Resources that are planned alike have the same name. -/
theorem PlannedResource.name_eq_of_ofResource {r s : Resource} (same : ofResource r = ofResource s) :
    r.name = s.name :=
  congrArg PlannedResource.name same

/-- They have the same dependencies. -/
theorem PlannedResource.dependsOn_eq_of_ofResource {r s : Resource}
    (same : ofResource r = ofResource s) : r.dependsOn = s.dependsOn :=
  congrArg PlannedResource.dependsOn same

/-- What is planned for a name: what the last resource of the name says. -/
def plannedAs? (resources : List Resource) (name : String) : Option PlannedResource :=
  (lastNamed? resources name).map PlannedResource.ofResource

/-- Two indices have the same planned for each name. -/
def ResourceIndex.Agrees (index other : ResourceIndex) : Prop :=
  ∀ name, (Entries.get? index name).map PlannedResource.ofResource =
    (Entries.get? other name).map PlannedResource.ofResource

/-! ## Two walks -/

namespace Walk

variable {index other : ResourceIndex}

/-- Two walks have come equally far. -/
structure Alike (walk twin : Walk) : Prop where
  marks : ∀ name, walk.mark? name = twin.mark? name
  finished : walk.finished.map PlannedResource.ofResource =
    twin.finished.map PlannedResource.ofResource

/-- Two walks that have come equally far still have after both enter a name. -/
theorem Alike.enter {walk twin : Walk} (alike : walk.Alike twin) (name : String) :
    (walk.enter name).Alike (twin.enter name) where
  marks key := by rw [mark?_enter, mark?_enter, alike.marks]
  finished := alike.finished

/-- They still have after they finish resources that are planned alike. -/
theorem Alike.finish {walk twin : Walk} (alike : walk.Alike twin) {r s : Resource}
    (same : PlannedResource.ofResource r = PlannedResource.ofResource s) :
    (walk.finish r).Alike (twin.finish s) where
  marks key := by
    rw [mark?_finish, mark?_finish, alike.marks, PlannedResource.name_eq_of_ofResource same]
  finished := by
    rw [finished_finish, finished_finish, List.map_cons, List.map_cons, same, alike.finished]

/-- A name that one walk passes over is not entered by one that has come equally far. -/
theorem Alike.not_fresh {walk twin : Walk} (alike : walk.Alike twin) (agrees : index.Agrees other)
    {name : String} (passed : Entries.get? index name = none ∨ walk.mark? name ≠ none)
    {s : Resource} (known : Entries.get? other name = some s) : twin.mark? name ≠ none := by
  rcases passed with unknown | marked
  · have planned := agrees name
    rw [unknown, known] at planned
    cases planned
  · rw [← alike.marks]
    exact marked

/-- Two walks that have come equally far and explore the same names end equally far. The induction
is on the first one, and at each name the second one has to do the same. -/
theorem Explores.alike (agrees : index.Agrees other) {walk next twin last : Walk}
    {names : List String} (explored : Explores index walk names next)
    (start : walk.Alike twin) (followed : Explores other twin names last) : next.Alike last := by
  induction explored generalizing twin last with
  | done =>
    cases followed
    exact start
  | skip passed _ ih =>
    cases followed with
    | skip _ onwards => exact ih start onwards
    | enter known fresh _ _ => exact absurd fresh (start.not_fresh agrees passed known)
  | @enter walk inner next name rest r known fresh inside onwards ihInside ihOnwards =>
    have planned := agrees name
    rw [known] at planned
    cases followed with
    | skip passed _ =>
      rcases passed with unknown | marked
      · rw [unknown] at planned
        cases planned
      · rw [← start.marks] at marked
        exact absurd fresh marked
    | @enter _ inner' _ _ _ s known' _ inside' onwards' =>
      rw [known', Option.map_some, Option.map_some, Option.some.injEq] at planned
      have deps : r.dependsOn = s.dependsOn := PlannedResource.dependsOn_eq_of_ofResource planned
      rw [← deps] at inside'
      have innerAlike : inner.Alike inner' := ihInside (start.enter name) inside'
      exact ihOnwards (innerAlike.finish planned) onwards'

end Walk

/-! ## Two lists of resources -/

/-- Resources with the same planned for each name have indices that agree. -/
theorem ResourceIndex.agrees_ofList {xs ys : List Resource}
    (same : ∀ name, plannedAs? xs name = plannedAs? ys name) : (ofList xs).Agrees (ofList ys) := by
  intro name
  rw [get?_ofList, get?_ofList]
  exact same name

/-- Indices that agree have the same names. -/
theorem ResourceIndex.keys_ofList_eq {xs ys : List Resource}
    (agrees : (ofList xs).Agrees (ofList ys)) :
    Entries.keys (ofList xs) = Entries.keys (ofList ys) := by
  have ascending (resources : List Resource) :
      (Entries.keys (ofList resources)).Pairwise fun a b => id a < id b :=
    Entries.ascending_sortedOfList _
  apply eq_of_ascending (ascending xs) (ascending ys)
  intro name
  have found := congrArg Option.isSome (agrees name)
  rw [Option.isSome_map, Option.isSome_map] at found
  rw [← Entries.get?_isSome_iff, ← Entries.get?_isSome_iff]
  exact Bool.eq_iff_iff.mp found

/-- What is planned in which order depends on what is planned for each name alone. -/
theorem constructionOrder_congr {xs ys : List Resource}
    (same : ∀ name, plannedAs? xs name = plannedAs? ys name) :
    (constructionOrder xs).map PlannedResource.ofResource =
      (constructionOrder ys).map PlannedResource.ofResource := by
  obtain ⟨walk, explored, order⟩ := exists_exploration xs
  obtain ⟨twin, followed, order'⟩ := exists_exploration ys
  have agrees := ResourceIndex.agrees_ofList same
  rw [← ResourceIndex.keys_ofList_eq agrees] at followed
  have alike : walk.Alike twin := explored.alike agrees ⟨fun _ => rfl, rfl⟩ followed
  rw [order, order', List.map_reverse, List.map_reverse, alike.finished]

/-- Of resources with different names the last one of a name is the one of that name. -/
theorem lastNamed?_eq_some_iff {resources : List Resource}
    (distinct : (resources.map Resource.name).Nodup) {name : String} {r : Resource} :
    lastNamed? resources name = some r ↔ r ∈ resources ∧ r.name = name := by
  constructor
  · intro last
    obtain rfl := name_of_lastNamed? last
    exact ⟨mem_of_mem_constructionOrder ((mem_constructionOrder resources).mpr last), rfl⟩
  · rintro ⟨present, rfl⟩
    exact (mem_constructionOrder resources).mp ((mem_constructionOrder_of_nodup distinct).mpr present)

/-- In a list without a name twice, the last resource of a name does not depend on the order. -/
theorem lastNamed?_perm {xs ys : List Resource} (distinct : (xs.map Resource.name).Nodup)
    (reordered : xs.Perm ys) (name : String) : lastNamed? xs name = lastNamed? ys name := by
  have distinct' : (ys.map Resource.name).Nodup :=
    (reordered.map Resource.name).nodup_iff.mp distinct
  apply Option.ext
  intro r
  rw [lastNamed?_eq_some_iff distinct, lastNamed?_eq_some_iff distinct', reordered.mem_iff]

namespace Plan

/-- A plan is determined by what the last resource of each name says of itself, its source apart. -/
theorem ofResult_eq_iff {a b : LoweringResult} :
    ofResult a = ofResult b ↔
      ∀ name, plannedAs? a.resources name = plannedAs? b.resources name := by
  constructor
  · intro same name
    have member : ∀ (result : LoweringResult) (p : PlannedResource),
        plannedAs? result.resources name = some p ↔
          p ∈ (ofResult result).resources ∧ p.name = name := by
      intro result p
      rw [mem_ofResult]
      constructor
      · intro planned
        obtain ⟨r, last, rfl⟩ := Option.map_eq_some_iff.mp planned
        obtain rfl := name_of_lastNamed? last
        exact ⟨planned, rfl⟩
      · rintro ⟨planned, rfl⟩
        exact planned
    apply Option.ext
    intro p
    rw [member, member, same]
  · intro same
    rw [ofResult, ofResult, constructionOrder_congr same]

/-- **Plans do not depend on the order of the input.** If the resources of two lowering results have
different names and are the same up to order, then the plans are the same: resources, outputs and
fingerprint. Dependencies may run in circles, be missing or occur more than once. -/
theorem ofResult_perm {a b : LoweringResult} (distinct : (a.resources.map Resource.name).Nodup)
    (reordered : a.resources.Perm b.resources) :
    ofResult a = ofResult b ∧ (ofResult a).fingerprint = (ofResult b).fingerprint := by
  have same : ofResult a = ofResult b := by
    rw [ofResult_eq_iff]
    intro name
    rw [plannedAs?, plannedAs?, lastNamed?_perm distinct reordered]
  exact ⟨same, congrArg fingerprint same⟩

/-- The resources of `tangled`, the last one first. -/
def tangledBackwards : LoweringResult :=
  { tangled with resources := tangled.resources.reverse }

/-- Of resources that depend on each other the order does not matter either: all three are planned,
and in one order. -/
theorem ofResult_tangled_backwards :
    (tangled.resources.map Resource.name).Nodup ∧
      tangled.resources.Perm tangledBackwards.resources ∧
      (ofResult tangledBackwards).resources.map PlannedResource.name = ["b", "a", "c"] ∧
      ofResult tangled = ofResult tangledBackwards ∧
      (ofResult tangled).fingerprint = (ofResult tangledBackwards).fingerprint := by
  have distinct : (tangled.resources.map Resource.name).Nodup := by decide
  have reordered : tangled.resources.Perm tangledBackwards.resources :=
    (List.reverse_perm _).symm
  have planned : (ofResult tangledBackwards).resources.map PlannedResource.name = ["b", "a", "c"] := by
    cbv
  exact ⟨distinct, reordered, planned, ofResult_perm distinct reordered⟩

end Plan

end CloudPlan
