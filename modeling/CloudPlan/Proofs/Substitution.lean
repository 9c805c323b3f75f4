import CloudPlan.Link.Reference
import CloudPlan.Proofs.Entries
import CloudPlan.Proofs.References

/-!
# Resolving is substitution

A value is resolved by putting in the place of each reference what the reference means, and by nothing
else; `Value.fill` is that substitution. `Value.resolve_cases` says that it takes place if every
reference can be resolved, and that otherwise the first one that cannot, in depth-first order, decides
the error. So what a value resolves to depends on no objects but those that it refers to
(`Value.resolve_congr`).
-/

set_option autoImplicit false

namespace CloudPlan

/-! ## One reference -/

namespace Reference

variable (r : Reference) (site : Site) (objects : LiveObjects)

/-- The field that a reference chooses: the one that it names, or else the one that is usual at the
top-level property of the site. -/
def Chooses (field : String) : Prop :=
  r.field? = some field ∨ r.field? = none ∧ field = defaultField site.type site.property

/-- A reference means the value of the chosen field of the object that it refers to. -/
def Means (j : Json) : Prop :=
  ∃ o field, Entries.get? objects r.resource = some o ∧ r.Chooses site field ∧
    o.field? field = some j

/-- A reference means something. -/
def Resolvable : Prop :=
  ∃ j, r.Means site objects j

/-- What is wrong with a reference that means nothing: there is no object, or it lacks the field. -/
inductive Fails : LinkError → Prop where
  | missing (unknown : Entries.get? objects r.resource = none) :
      Fails (.unresolvedRef r.target site.resource site.property)
  | lacking {o : LiveObject} {field : String} (known : Entries.get? objects r.resource = some o)
      (chosen : r.Chooses site field) (lacks : o.field? field = none) :
      Fails (.unresolvedField r.target site.resource field)

variable {r site objects}

/-- A reference chooses exactly one field at each site. -/
theorem chooses_iff {field : String} : r.Chooses site field ↔ field = site.fieldOf r := by
  unfold Chooses Site.fieldOf
  cases r.field? with
  | none => simp
  | some own => simp [eq_comm]

/-- A reference is resolved to what it means. -/
theorem resolve_eq_ok_iff {j : Json} : r.resolve site objects = .ok j ↔ r.Means site objects j := by
  unfold resolve Means
  simp only [chooses_iff]
  cases Entries.get? objects r.resource with
  | none => simp
  | some o => cases given : o.field? (site.fieldOf r) <;> simp [given]

/-- It fails with what is wrong with it. -/
theorem resolve_eq_error_iff {e : LinkError} :
    r.resolve site objects = .error e ↔ r.Fails site objects e := by
  unfold resolve
  constructor
  · intro failed
    split at failed
    · rename_i unknown
      cases failed
      exact .missing unknown
    · rename_i o known
      split at failed
      · rename_i lacks
        cases failed
        exact .lacking known (chooses_iff.mpr rfl) lacks
      · cases failed
  · rintro (unknown | ⟨known, chosen, lacks⟩)
    · simp only [unknown]
    · rw [chooses_iff] at chosen
      subst chosen
      simp only [known, lacks]

/-- A reference means something exactly if it can be resolved. -/
theorem resolvable_iff : r.Resolvable site objects ↔ ∃ j, r.resolve site objects = .ok j := by
  simp only [resolve_eq_ok_iff, Resolvable]

/-- A reference that is resolved among other objects as it was. -/
theorem resolve_of_get?_eq {others : LiveObjects}
    (same : Entries.get? others r.resource = Entries.get? objects r.resource) :
    r.resolve site others = r.resolve site objects := by
  rw [resolve, resolve, same]

end Reference

/-! ## Substitution -/

namespace Value

variable (f : Reference → Json)

mutual

/-- A value with something put in the place of each reference. -/
def fill : Value → Json
  | .ref r => f r
  | .bool b => .bool b
  | .number n => .number n
  | .string s => .string s
  | .null => .null
  | .list items => .array (fillItems items)
  | .map entries => .object (Entries.sortedOfList (fillEntries entries))

/-- The items of a list with something put in the place of each reference. -/
def fillItems : List Value → List Json
  | [] => []
  | v :: rest => fill v :: fillItems rest

/-- The entries of a map with something put in the place of each reference. -/
def fillEntries : List (String × Value) → List (String × Json)
  | [] => []
  | (k, v) :: rest => (k, fill v) :: fillEntries rest

end

/-- The values of a map are filled one by one, under their keys. -/
theorem fillEntries_eq (entries : List (String × Value)) :
    fillEntries f entries = Entries.mapValues (fill f) entries := by
  induction entries with
  | nil => rfl
  | cons e rest ih =>
    rw [fillEntries, ih]
    rfl

/-- A map is filled entry by entry: no key is lost, and none is new. -/
theorem exists_fill_map {entries : Entries Value} (distinct : (Entries.keys entries).Nodup) :
    ∃ fields, fill f (.map entries) = .object fields ∧
      (Entries.keys fields).Pairwise (· < ·) ∧
      ∀ key, Entries.get? fields key = (Entries.get? entries key).map (fill f) := by
  refine ⟨_, rfl, Entries.ascending_sortedOfList _, ?_⟩
  intro key
  rw [fillEntries_eq, ← Entries.mapValues_sortedOfList, Entries.get?_mapValues,
    Entries.get?_sortedOfList_of_nodup distinct]

variable {f} {site : Site} {objects : LiveObjects}

/-! ## When every reference can be resolved -/

mutual

/-- A value is filled with what its references are resolved to. -/
theorem resolve_of_refs : (v : Value) →
    (∀ r ∈ v.refs, r.resolve site objects = .ok (f r)) → v.resolve site objects = .ok (v.fill f)
  | .ref r, each => each r List.mem_cons_self
  | .bool _, _ | .number _, _ | .string _, _ | .null, _ => rfl
  | .list items, each => by
    rw [resolve, resolveItems_of_refs items each]
    rfl
  | .map entries, each => by
    rw [resolve, resolveEntries_of_refs entries each]
    rfl

/-- Items whose references can all be resolved are filled with what these mean. -/
theorem resolveItems_of_refs : (items : List Value) →
    (∀ r ∈ refsOfItems items, r.resolve site objects = .ok (f r)) →
    resolveItems site objects items = .ok (fillItems f items)
  | [], _ => rfl
  | v :: rest, each => by
    rw [resolveItems, resolve_of_refs v fun r inside => each r (List.mem_append_left _ inside),
      resolveItems_of_refs rest fun r inside => each r (List.mem_append_right _ inside)]
    rfl

/-- The same for the entries of a map. -/
theorem resolveEntries_of_refs : (entries : List (String × Value)) →
    (∀ r ∈ refsOfEntries entries, r.resolve site objects = .ok (f r)) →
    resolveEntries site objects entries = .ok (fillEntries f entries)
  | [], _ => rfl
  | (k, v) :: rest, each => by
    rw [resolveEntries, resolve_of_refs v fun r inside => each r (List.mem_append_left _ inside),
      resolveEntries_of_refs rest fun r inside => each r (List.mem_append_right _ inside)]
    rfl

end

/-! ## When some reference cannot be resolved -/

/-- A reference that cannot be resolved. -/
def failsAt (site : Site) (objects : LiveObjects) (r : Reference) : Bool :=
  !(r.resolve site objects).isOk

/-- A reference that fails has an error. -/
theorem failsAt_eq_true_iff {r : Reference} :
    failsAt site objects r = true ↔ ∃ e, r.resolve site objects = .error e := by
  unfold failsAt
  cases r.resolve site objects <;> simp [Except.isOk, Except.toBool]

/-- A reference that does not fail has a value. -/
theorem failsAt_eq_false_iff {r : Reference} :
    failsAt site objects r = false ↔ ∃ j, r.resolve site objects = .ok j := by
  unfold failsAt
  cases r.resolve site objects <;> simp [Except.isOk, Except.toBool]

/-- What references are resolved to; for the others anything will do. -/
def meaning (site : Site) (objects : LiveObjects) (r : Reference) : Json :=
  (r.resolve site objects).toOption.getD .null

/-- Where no reference fails, each is resolved to its meaning. -/
theorem resolve_of_find?_eq_none {refs : List Reference}
    (none : refs.find? (failsAt site objects) = none) :
    ∀ r ∈ refs, r.resolve site objects = .ok (meaning site objects r) := by
  intro r inside
  have fine := List.find?_eq_none.mp none r inside
  rw [Bool.not_eq_true, failsAt_eq_false_iff] at fine
  obtain ⟨j, resolved⟩ := fine
  rw [meaning, resolved]
  rfl

section First

variable {r : Reference} {e : LinkError}

mutual

/-- The first reference that fails decides the error of a value. -/
theorem resolve_of_first (failed : r.resolve site objects = .error e) : (v : Value) →
    v.refs.find? (failsAt site objects) = some r → v.resolve site objects = .error e
  | .ref s, first => by
    obtain rfl := List.mem_singleton.mp (List.mem_of_find?_eq_some first)
    exact failed
  | .list items, first => by
    rw [resolve, resolveItems_of_first failed items first]
    rfl
  | .map entries, first => by
    rw [resolve, resolveEntries_of_first failed entries first]
    rfl

/-- Items fail with the error of the first reference in them that fails. -/
theorem resolveItems_of_first (failed : r.resolve site objects = .error e) :
    (items : List Value) → (refsOfItems items).find? (failsAt site objects) = some r →
    resolveItems site objects items = .error e
  | v :: rest, first => by
    rw [refsOfItems, List.find?_append, Option.or_eq_some_iff] at first
    rcases first with here | ⟨none, later⟩
    · rw [resolveItems, resolve_of_first failed v here]
      rfl
    · rw [resolveItems, resolve_of_refs v (resolve_of_find?_eq_none none),
        resolveItems_of_first failed rest later]
      rfl

/-- The same for the entries of a map. -/
theorem resolveEntries_of_first (failed : r.resolve site objects = .error e) :
    (entries : List (String × Value)) →
    (refsOfEntries entries).find? (failsAt site objects) = some r →
    resolveEntries site objects entries = .error e
  | (k, v) :: rest, first => by
    rw [refsOfEntries, List.find?_append, Option.or_eq_some_iff] at first
    rcases first with here | ⟨none, later⟩
    · rw [resolveEntries, resolve_of_first failed v here]
      rfl
    · rw [resolveEntries, resolve_of_refs v (resolve_of_find?_eq_none none),
        resolveEntries_of_first failed rest later]
      rfl

end

/-! ## Either way -/

/-- A value is resolved because its references are, or fails with the first of them that does. -/
theorem resolve_cases (site : Site) (objects : LiveObjects) (v : Value) :
    ((∀ r ∈ v.refs, r.resolve site objects = .ok (meaning site objects r)) ∧
      v.resolve site objects = .ok (v.fill (meaning site objects))) ∨
    ∃ r e, v.refs.find? (failsAt site objects) = some r ∧ r.resolve site objects = .error e ∧
      v.resolve site objects = .error e := by
  cases first : v.refs.find? (failsAt site objects) with
  | none =>
    have each := resolve_of_find?_eq_none first
    exact Or.inl ⟨each, resolve_of_refs v each⟩
  | some r =>
    obtain ⟨e, failed⟩ := failsAt_eq_true_iff.mp (List.find?_some first)
    exact Or.inr ⟨r, e, rfl, failed, resolve_of_first failed v first⟩

/-- A value can be resolved if each reference in it can. -/
theorem exists_resolve_iff (v : Value) : (∃ j, v.resolve site objects = .ok j) ↔
    ∀ r ∈ v.refs, ∃ j, r.resolve site objects = .ok j := by
  rcases v.resolve_cases site objects with ⟨each, resolved⟩ | ⟨r, e, first, failed, error⟩
  · exact iff_of_true ⟨_, resolved⟩ fun r inside => ⟨_, each r inside⟩
  · refine iff_of_false ?_ fun each => ?_
    · rintro ⟨j, resolved⟩
      cases error.symm.trans resolved
    · obtain ⟨j, resolved⟩ := each r (List.mem_of_find?_eq_some first)
      cases failed.symm.trans resolved

/-- The error of a value is that of a reference before which none fails. -/
theorem resolve_eq_error_iff {v : Value} : v.resolve site objects = .error e ↔
    ∃ before r after, v.refs = before ++ r :: after ∧
      (∀ b ∈ before, ∃ j, b.resolve site objects = .ok j) ∧ r.resolve site objects = .error e := by
  have splits (r : Reference) : v.refs.find? (failsAt site objects) = some r ↔
      (∃ e, r.resolve site objects = .error e) ∧ ∃ before after, v.refs = before ++ r :: after ∧
        ∀ b ∈ before, ∃ j, b.resolve site objects = .ok j := by
    rw [List.find?_eq_some_iff_append, failsAt_eq_true_iff]
    simp only [Bool.not_eq_true', failsAt_eq_false_iff]
  constructor
  · intro error
    rcases v.resolve_cases site objects with ⟨_, resolved⟩ | ⟨r, e', first, failed, error'⟩
    · cases error.symm.trans resolved
    · cases error.symm.trans error'
      obtain ⟨_, before, after, split, fine⟩ := (splits r).mp first
      exact ⟨before, r, after, split, fine, failed⟩
  · rintro ⟨before, r, after, split, fine, failed⟩
    exact resolve_of_first failed v ((splits r).mpr ⟨⟨e, failed⟩, before, after, split, fine⟩)

end First

/-- A value is resolved as it was if its references are. -/
theorem resolve_congr {others : LiveObjects} {v : Value}
    (same : ∀ r ∈ v.refs, r.resolve site others = r.resolve site objects) :
    v.resolve site others = v.resolve site objects := by
  rcases v.resolve_cases site objects with ⟨each, resolved⟩ | ⟨_, e, _, _, error⟩
  · rw [resolved]
    exact resolve_of_refs v fun r inside => (same r inside).trans (each r inside)
  · rw [error, resolve_eq_error_iff]
    obtain ⟨before, r, after, split, fine, failed⟩ := resolve_eq_error_iff.mp error
    have inside (s : Reference) (here : s ∈ before ++ [r]) : s ∈ v.refs := by
      rw [split, List.append_cons]
      exact List.mem_append_left _ here
    refine ⟨before, r, after, split, fun b early => ?_, ?_⟩
    · rw [same b (inside b (List.mem_append_left _ early))]
      exact fine b early
    · rw [same r (inside r (List.mem_append_right _ List.mem_cons_self))]
      exact failed

/-- **Resolving is exact substitution.** A value can be resolved exactly if each reference in it means
something; then each is replaced by what it means, and nothing else is changed: items keep their
order and keys keep their values. Otherwise the error is that of the first reference, in depth-first
order, that means nothing. Only the objects that the value refers to matter. -/
theorem resolve_substitutes (v : Value) (site : Site) (objects : LiveObjects) :
    ((∃ j, v.resolve site objects = .ok j) ↔ ∀ r ∈ v.refs, r.Resolvable site objects) ∧
    (∀ f : Reference → Json, (∀ r ∈ v.refs, r.Means site objects (f r)) →
      v.resolve site objects = .ok (v.fill f)) ∧
    (∀ (f : Reference → Json) (entries : Entries Value), (Entries.keys entries).Nodup →
      ∃ fields, fill f (.map entries) = .object fields ∧
        (Entries.keys fields).Pairwise (· < ·) ∧
        ∀ key, Entries.get? fields key = (Entries.get? entries key).map (fill f)) ∧
    (∀ e, v.resolve site objects = .error e ↔ ∃ before r after, v.refs = before ++ r :: after ∧
      (∀ b ∈ before, b.Resolvable site objects) ∧ r.Fails site objects e) ∧
    (∀ others : LiveObjects,
      (∀ r ∈ v.refs, Entries.get? others r.resource = Entries.get? objects r.resource) →
      v.resolve site others = v.resolve site objects) ∧
    (∀ others : LiveObjects,
      (∀ r ∈ v.refs, ∀ o, Entries.get? objects r.resource = some o →
        Entries.get? others r.resource = some o) →
      ∀ j, v.resolve site objects = .ok j → v.resolve site others = .ok j) := by
  refine ⟨?_, ?_, ?_, ?_, ?_, ?_⟩
  · simp only [exists_resolve_iff, Reference.resolvable_iff]
  · intro f each
    exact resolve_of_refs v fun r inside => Reference.resolve_eq_ok_iff.mpr (each r inside)
  · intro f entries distinct
    exact exists_fill_map f distinct
  · intro e
    simp only [resolve_eq_error_iff, Reference.resolvable_iff, ← Reference.resolve_eq_error_iff]
  · intro others same
    exact resolve_congr fun r inside => Reference.resolve_of_get?_eq (same r inside)
  · intro others kept j resolved
    rw [← resolved]
    refine resolve_congr fun r inside => Reference.resolve_of_get?_eq ?_
    -- a reference that is resolved refers to an object, and that one is kept
    obtain ⟨_, found⟩ := (exists_resolve_iff v).mp ⟨j, resolved⟩ r inside
    obtain ⟨o, _, known, _⟩ := Reference.resolve_eq_ok_iff.mp found
    rw [kept r inside o known, known]

end Value

end CloudPlan
