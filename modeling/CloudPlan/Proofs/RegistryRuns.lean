import CloudPlan.Proofs.LookupModes
import Mathlib.Data.Finset.Card

/-!
# Registries after any registrations

A registration is refused exactly if it may not overwrite and its platform is taken, and then it
changes nothing. So what a registry answers is told by its history: the lowerers that it was filled
with and those that were accepted since (`registry_reflects_history`). A platform has the last
lowerer that was accepted for it, or else the one that it had from the start; the list holds every
platform once, in ascending order; and the size is the number of platforms.
-/

set_option autoImplicit false

namespace CloudPlan

/-- A request to register a lowerer. -/
structure Registration where
  lowerer : NodeLowerer
  overwrite : Bool

namespace NodeLowerer

/-- The last lowerer for a platform. -/
def lookupLast (lowerers : List NodeLowerer) (platform : String) : Option NodeLowerer :=
  lookup lowerers.reverse platform

/-- A lowerer counts if no later one is for the same platform. -/
theorem lookupLast_cons (l : NodeLowerer) (lowerers : List NodeLowerer) (platform : String) :
    lookupLast (l :: lowerers) platform =
      (lookupLast lowerers platform).or (if l.platform = platform then some l else none) := by
  unfold lookupLast lookup
  rw [List.reverse_cons, List.find?_append]
  by_cases same : l.platform = platform
  · simp [same]
  · simp [same]

/-- There is a first lowerer for exactly the platforms of the lowerers. -/
theorem lookup_isSome_iff {lowerers : List NodeLowerer} {platform : String} :
    (lookup lowerers platform).isSome = true ↔
      platform ∈ lowerers.map NodeLowerer.platform := by
  simp [lookup, List.find?_isSome]

/-- For the same platforms there is a last one. -/
theorem lookupLast_isSome_iff {lowerers : List NodeLowerer} {platform : String} :
    (lookupLast lowerers platform).isSome = true ↔
      platform ∈ lowerers.map NodeLowerer.platform := by
  rw [lookupLast, lookup_isSome_iff, List.map_reverse, List.mem_reverse]

end NodeLowerer

open NodeLowerer (lookup lookupLast)

namespace Registry

/-! ## One registration -/

/-- The registry after a registration; one that is refused changes nothing. -/
def after (r : Registry) (c : Registration) : Registry :=
  match r.register c.lowerer c.overwrite with
  | .ok changed => changed
  | .error _ => r

/-- A platform for which there is a lowerer. -/
def Taken (r : Registry) (platform : String) : Prop :=
  (r.get? platform).isSome = true

variable {r : Registry} {c : Registration}

/-- A registration for a taken platform is refused unless it may replace. -/
theorem register_of_taken (stays : c.overwrite = false) (taken : r.Taken c.lowerer.platform) :
    r.register c.lowerer c.overwrite = .error ⟨c.lowerer.platform⟩ := by
  refine if_pos ?_
  rw [stays]
  exact taken

/-- Any other one puts its lowerer in the place of the platform. -/
theorem register_of_free (free : ¬ (c.overwrite = false ∧ r.Taken c.lowerer.platform)) :
    r.register c.lowerer c.overwrite =
      .ok ⟨Entries.insertSorted r.lowerers c.lowerer.platform c.lowerer⟩ := by
  refine if_neg fun refused => free ?_
  rw [Bool.and_eq_true, Bool.not_eq_true'] at refused
  exact refused

/-- What is refused is another lowerer for a platform that is taken, unless it may overwrite. -/
theorem register_eq_error_iff {e : PlatformTaken} :
    r.register c.lowerer c.overwrite = .error e ↔
      e = ⟨c.lowerer.platform⟩ ∧ c.overwrite = false ∧ r.Taken c.lowerer.platform := by
  by_cases taken : c.overwrite = false ∧ r.Taken c.lowerer.platform
  · rw [register_of_taken taken.1 taken.2, Except.error.injEq, eq_comm, and_iff_left taken]
  · rw [register_of_free taken]
    exact iff_of_false nofun fun refused => taken refused.2

/-- A refused registration changes nothing. -/
theorem after_of_error {e : PlatformTaken}
    (refused : r.register c.lowerer c.overwrite = .error e) : r.after c = r := by
  rw [after, refused]

/-- An accepted one leaves the registry that it returns. -/
theorem after_of_ok {changed : Registry}
    (ok : r.register c.lowerer c.overwrite = .ok changed) : r.after c = changed := by
  rw [after, ok]

/-- An accepted lowerer is found under its platform; nothing else changes. -/
theorem get?_of_ok {changed : Registry} (ok : r.register c.lowerer c.overwrite = .ok changed)
    (platform : String) :
    changed.get? platform =
      (if c.lowerer.platform = platform then some c.lowerer else none).or (r.get? platform) := by
  by_cases taken : c.overwrite = false ∧ r.Taken c.lowerer.platform
  · rw [register_of_taken taken.1 taken.2] at ok
    cases ok
  · rw [register_of_free taken] at ok
    cases ok
    rw [get?, Entries.get?_insertSorted]
    split <;> rfl

/-- A registration keeps the platforms in order. -/
theorem ascending_of_ok {changed : Registry} (ok : r.register c.lowerer c.overwrite = .ok changed)
    (ascending : (Entries.keys r.toList).Pairwise (· < ·)) :
    (Entries.keys changed.toList).Pairwise (· < ·) := by
  by_cases taken : c.overwrite = false ∧ r.Taken c.lowerer.platform
  · rw [register_of_taken taken.1 taken.2] at ok
    cases ok
  · rw [register_of_free taken] at ok
    cases ok
    exact Entries.ascending_insertSorted _ _ ascending

/-! ## Any number of registrations -/

/-- The registry after some registrations, one after another. -/
def afterAll (r : Registry) (calls : List Registration) : Registry :=
  calls.foldl after r

/-- The lowerers whose registration is accepted, in order. -/
def accepted (r : Registry) : List Registration → List NodeLowerer
  | [] => []
  | c :: rest =>
    match r.register c.lowerer c.overwrite with
    | .ok changed => c.lowerer :: changed.accepted rest
    | .error _ => r.accepted rest

/-- A platform has the last lowerer that was accepted for it, or else the one that it had. -/
theorem get?_afterAll (r : Registry) (calls : List Registration) (platform : String) :
    (r.afterAll calls).get? platform =
      (lookupLast (r.accepted calls) platform).or (r.get? platform) := by
  induction calls generalizing r with
  | nil => rfl
  | cons c rest ih =>
    show ((r.after c).afterAll rest).get? platform = _
    cases outcome : r.register c.lowerer c.overwrite with
    | error e =>
      rw [after_of_error outcome, ih, accepted, outcome]
    | ok changed =>
      rw [after_of_ok outcome, ih, get?_of_ok outcome, accepted, outcome,
        NodeLowerer.lookupLast_cons, Option.or_assoc]

/-- Any number of registrations keep the platforms in order. -/
theorem ascending_afterAll (calls : List Registration)
    (ascending : (Entries.keys r.toList).Pairwise (· < ·)) :
    (Entries.keys (r.afterAll calls).toList).Pairwise (· < ·) := by
  induction calls generalizing r with
  | nil => exact ascending
  | cons c rest ih =>
    apply ih
    cases outcome : r.register c.lowerer c.overwrite with
    | error e =>
      rw [after_of_error outcome]
      exact ascending
    | ok changed =>
      rw [after_of_ok outcome]
      exact ascending_of_ok outcome ascending

/-- Filling a registry is registering without overwriting. -/
theorem ofList_eq_afterAll (lowerers : List NodeLowerer) :
    ofList lowerers = empty.afterAll (lowerers.map fun l => ⟨l, false⟩) := by
  rw [afterAll, List.foldl_map]
  rfl

/-- The last registration comes after all the others. -/
theorem afterAll_concat (r : Registry) (calls : List Registration) (c : Registration) :
    r.afterAll (calls ++ [c]) = (r.afterAll calls).after c :=
  List.foldl_concat after r c calls

/-! ## What the history tells -/

/-- Two registries that give the same answers. -/
structure Agrees (r s : Registry) : Prop where
  get? : ∀ platform, r.get? platform = s.get? platform
  toList : r.toList = s.toList
  size : r.size = s.size
  isEmpty : r.isEmpty = s.isEmpty

/-- The answers of a registry that was filled with some lowerers and has accepted others since. -/
structure Reflects (r : Registry) (initial accepted : List NodeLowerer) : Prop where
  /-- The last one that was accepted counts, and of the initial ones the first. -/
  found : ∀ platform,
    r.get? platform = (lookupLast accepted platform).or (lookup initial platform)
  ascending : (Entries.keys r.toList).Pairwise (· < ·)
  listed : ∀ platform l, (platform, l) ∈ r.toList ↔ r.get? platform = some l
  size : r.size = ((initial ++ accepted).map NodeLowerer.platform).toFinset.card
  isEmpty : r.isEmpty = true ↔ initial = [] ∧ accepted = []

/-- If lookups find the last accepted lowerer or else the first initial one, the taken platforms are
those of all these lowerers. -/
theorem taken_of_found {initial accepted : List NodeLowerer} {platform : String}
    (found : r.get? platform = (lookupLast accepted platform).or (lookup initial platform)) :
    r.Taken platform ↔ platform ∈ (initial ++ accepted).map NodeLowerer.platform := by
  rw [Taken, found, Option.isSome_or, Bool.or_eq_true, NodeLowerer.lookupLast_isSome_iff,
    NodeLowerer.lookup_isSome_iff, List.map_append, List.mem_append, or_comm]

/-- Where a registry lists each platform once, finding tells the list and the size. -/
theorem reflects_of_found {initial accepted : List NodeLowerer}
    (found : ∀ platform,
      r.get? platform = (lookupLast accepted platform).or (lookup initial platform))
    (ascending : (Entries.keys r.toList).Pairwise (· < ·)) : r.Reflects initial accepted := by
  have distinct : (Entries.keys r.toList).Nodup := ascending.imp String.ne_of_lt
  have platforms : (Entries.keys r.toList).toFinset =
      ((initial ++ accepted).map NodeLowerer.platform).toFinset := by
    ext platform
    rw [List.mem_toFinset, List.mem_toFinset, ← taken_of_found (found platform),
      ← Entries.get?_isSome_iff]
    rfl
  have size : r.size = ((initial ++ accepted).map NodeLowerer.platform).toFinset.card := by
    rw [← platforms, List.toFinset_card_of_nodup distinct, Entries.keys, List.length_map]
    rfl
  refine ⟨found, ascending, fun _ _ => Entries.mem_iff_get? ascending, size, ?_⟩
  calc r.isEmpty = true ↔ r.size = 0 := List.isEmpty_iff_length_eq_zero
    _ ↔ initial = [] ∧ accepted = [] := by
      rw [size, Finset.card_eq_zero, List.toFinset_eq_empty_iff, List.map_eq_nil_iff,
        List.append_eq_nil_iff]

/-- After any registrations the answers are those of the initial and the accepted lowerers. -/
theorem reflects_afterAll (initial : List NodeLowerer) (calls : List Registration) :
    ((ofList initial).afterAll calls).Reflects initial ((ofList initial).accepted calls) := by
  apply reflects_of_found
  · intro platform
    rw [get?_afterAll, get?_ofList]
  · apply ascending_afterAll
    rw [ofList_eq_afterAll]
    exact ascending_afterAll _ .nil

/-- **A registry is told by its history.** Take a registry that was filled from a list, as the empty
and the built-in one are, and any registrations. What it then answers reflects the initial lowerers
and the accepted ones: the last one that was accepted for a platform is found, or else the initial
one; the list has every platform once, in strictly ascending order, with what is found; the size is
the number of platforms among them all. The next registration is refused exactly if it may not
overwrite and one of them has its platform, and then every answer stays as it is. -/
theorem registry_reflects_history (initial : List NodeLowerer) (calls : List Registration) :
    (ofList [] = empty ∧ ofList NodeLowerer.builtins = builtin) ∧
    ((ofList initial).afterAll calls).Reflects initial ((ofList initial).accepted calls) ∧
    ∀ next : Registration,
      ((∃ e, ((ofList initial).afterAll calls).register next.lowerer next.overwrite = .error e) ↔
        next.overwrite = false ∧ next.lowerer.platform ∈
          (initial ++ (ofList initial).accepted calls).map NodeLowerer.platform) ∧
      ∀ e, ((ofList initial).afterAll calls).register next.lowerer next.overwrite = .error e →
        ((ofList initial).afterAll (calls ++ [next])).Agrees ((ofList initial).afterAll calls) := by
  have reflects := reflects_afterAll initial calls
  refine ⟨⟨rfl, rfl⟩, reflects, fun next => ⟨?_, fun e refused => ?_⟩⟩
  · rw [← taken_of_found (reflects.found next.lowerer.platform)]
    constructor
    · rintro ⟨e, refused⟩
      exact (register_eq_error_iff.mp refused).2
    · rintro ⟨stays, taken⟩
      exact ⟨_, register_of_taken stays taken⟩
  · rw [afterAll_concat, after_of_error refused]
    exact ⟨fun _ => rfl, rfl, rfl, rfl⟩

/-- A second lowerer for a platform is accepted only when it overwrites. -/
example (first second third : Node → Context → Needs → Lowered) :
    empty.accepted [⟨⟨"disk", first⟩, false⟩, ⟨⟨"disk", second⟩, false⟩,
      ⟨⟨"disk", third⟩, true⟩] = [⟨"disk", first⟩, ⟨"disk", third⟩] :=
  rfl

end Registry

end CloudPlan
