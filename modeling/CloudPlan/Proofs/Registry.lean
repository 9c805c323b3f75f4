import CloudPlan.Lowering.Adapter
import CloudPlan.Proofs.Entries

/-!
# Looking up lowerers

A registry that is filled only where a platform is free answers like a search through the list that
it was filled from (`Registry.get?_foldl_registerIfFree`). So the standard adapter finds one and the
same lowerer in either mode, namely that of the platform of the name.
-/

set_option autoImplicit false

namespace CloudPlan

namespace Platform

@[simp]
theorem ofName?_name (p : Platform) : ofName? p.name = some p := by
  cases p <;> decide

/-- What is found under a name bears it. -/
theorem ofName?_eq_some_iff {name : String} {p : Platform} :
    ofName? name = some p ↔ name = p.name := by
  constructor
  · intro found
    have bears := List.find?_some found
    exact (beq_iff_eq.mp bears).symm
  · intro same
    rw [same, ofName?_name]

end Platform

namespace Registry

@[simp]
theorem get?_empty (platform : String) : empty.get? platform = none :=
  rfl

/-- A lowerer that is added only where its platform is free is found where nothing was. -/
theorem get?_registerIfFree (r : Registry) (l : NodeLowerer) (platform : String) :
    (r.registerIfFree l).get? platform =
      (r.get? platform).or (if l.platform = platform then some l else none) := by
  unfold registerIfFree register
  by_cases taken : Entries.contains r.lowerers l.platform = true
  · rw [if_pos (by simp [taken])]
    by_cases same : l.platform = platform
    · obtain ⟨old, found⟩ := Option.isSome_iff_exists.mp taken
      rw [same] at found
      simp only [get?, found, Option.some_or]
    · rw [if_neg same, Option.or_none]
  · rw [if_neg (by simp [taken])]
    show Entries.get? (Entries.insertSorted r.lowerers l.platform l) platform = _
    rw [Entries.get?_insertSorted]
    by_cases same : l.platform = platform
    · have free : Entries.get? r.lowerers platform = none := by
        rw [← same]
        simpa [Entries.contains] using taken
      rw [if_pos same, if_pos same, get?, free, Option.none_or]
    · rw [if_neg same, if_neg same, Option.or_none]
      rfl

/-- A registry filled from a list answers like a search through the list, unless it had an answer
before. -/
theorem get?_foldl_registerIfFree (r : Registry) (lowerers : List NodeLowerer)
    (platform : String) :
    (lowerers.foldl registerIfFree r).get? platform =
      (r.get? platform).or (NodeLowerer.lookup lowerers platform) := by
  induction lowerers generalizing r with
  | nil =>
    show r.get? platform = _
    rw [NodeLowerer.lookup, List.find?_nil, Option.or_none]
  | cons l rest ih =>
    rw [List.foldl_cons, ih, get?_registerIfFree, Option.or_assoc, NodeLowerer.lookup,
      NodeLowerer.lookup]
    by_cases same : l.platform = platform
    · rw [if_pos same, Option.some_or, List.find?_cons_of_pos (by simp [same])]
    · rw [if_neg same, Option.none_or, List.find?_cons_of_neg (by simp [same])]

end Registry

/-- The built-in lowerer for a platform is that of the platform of the name. -/
theorem NodeLowerer.lookup_builtins (platform : String) :
    lookup builtins platform = (Platform.ofName? platform).map ofPlatform := by
  rw [lookup, builtins, List.find?_map]
  rfl

/-- The built-in registry finds the lowerer of the platform of the name. -/
theorem Registry.get?_builtin (platform : String) :
    builtin.get? platform = (Platform.ofName? platform).map NodeLowerer.ofPlatform := by
  rw [builtin, get?_foldl_registerIfFree, get?_empty, Option.none_or,
    NodeLowerer.lookup_builtins]

/-- In either mode the standard adapter finds the lowerer of the platform of the name. -/
theorem Adapter.nodeLowerer?_standard (mode : LookupMode) (platform : String) :
    (standard mode).nodeLowerer? platform =
      (Platform.ofName? platform).map NodeLowerer.ofPlatform := by
  cases mode with
  | registry => exact Registry.get?_builtin platform
  | legacy => exact NodeLowerer.lookup_builtins platform

end CloudPlan
