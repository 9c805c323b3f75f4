import CloudPlan.Plan.Order
import Mathlib.Data.List.Sort

/-!
# Laws of entries

What looking a key up gives after an insertion, a change or a whole list of insertions, and which
keys and entries there are then. Insertion in place keeps the order of keys, sorted insertion keeps
keys strictly ascending, so that no key occurs twice. `get?_sortedOfList` says that of several pairs
with one key the last one counts.
-/

set_option autoImplicit false

namespace CloudPlan

/-- Two lists in ascending order of keys with the same members are the same. -/
theorem eq_of_ascending {α : Type} {key : α → String} {xs ys : List α}
    (first : xs.Pairwise fun a b => key a < key b) (second : ys.Pairwise fun a b => key a < key b)
    (same : ∀ x, x ∈ xs ↔ x ∈ ys) : xs = ys := by
  have irrefl : Std.Irrefl fun a b : α => key a < key b := ⟨fun a => String.lt_irrefl (key a)⟩
  have antisymm : Std.Antisymm fun a b : α => key a < key b :=
    ⟨fun a b ab ba => absurd (String.lt_trans ab ba) (String.lt_irrefl (key a))⟩
  exact List.Pairwise.eq_of_mem_iff first second fun x => same x

namespace Entries

variable {α : Type}

/-- A key is contained if it is one of the keys. -/
theorem contains_iff {es : Entries α} {key : String} :
    contains es key = true ↔ key ∈ keys es := by
  induction es with
  | nil => simp [contains, get?, keys]
  | cons e rest ih =>
    obtain ⟨k, v⟩ := e
    simp only [contains, keys] at ih
    by_cases same : k = key
    · simp [contains, get?, keys, same]
    · simp only [contains, get?, keys, if_neg same, List.map_cons, List.mem_cons, ih]
      simp [Ne.symm same]

/-- Something is found under the keys, and under no other one. -/
theorem get?_isSome_iff {es : Entries α} {key : String} :
    (get? es key).isSome = true ↔ key ∈ keys es :=
  contains_iff

/-- What is found under a key is an entry with that key. -/
theorem mem_of_get? {es : Entries α} {key : String} {value : α} (found : get? es key = some value) :
    (key, value) ∈ es := by
  induction es with
  | nil => cases found
  | cons e rest ih =>
    obtain ⟨k, v⟩ := e
    rw [get?] at found
    by_cases same : k = key
    · rw [if_pos same, Option.some.injEq] at found
      rw [same, found]
      exact List.mem_cons_self
    · rw [if_neg same] at found
      exact List.mem_cons_of_mem _ (ih found)

/-- Nothing is found under what is no key. -/
theorem get?_eq_none_iff {es : Entries α} {key : String} :
    get? es key = none ↔ key ∉ keys es := by
  rw [← get?_isSome_iff]
  simp

/-- After an insertion the value is found under its key, and under other keys what was there. -/
theorem get?_insert (es : Entries α) (key other : String) (value : α) :
    get? (insert es key value) other = if key = other then some value else get? es other := by
  induction es with
  | nil => simp [insert, get?]
  | cons e rest ih =>
    obtain ⟨k, v⟩ := e
    by_cases hk : k = key
    · subst hk
      by_cases ho : k = other <;> simp [insert, get?, ho]
    · by_cases ho : k = other
      · subst ho
        simp [insert, get?, hk, Ne.symm hk]
      · simp [insert, get?, hk, ho, ih]

/-- An insertion adds its key to the keys. -/
theorem mem_keys_insert {es : Entries α} {key other : String} {value : α} :
    other ∈ keys (insert es key value) ↔ other ∈ keys es ∨ other = key := by
  rw [← get?_isSome_iff, ← get?_isSome_iff, get?_insert]
  by_cases same : key = other
  · simp [same]
  · simp [same, Ne.symm same]

/-- Sorted insertion gives an inserted key the new value and leaves every other key alone. -/
theorem get?_insertSorted (es : Entries α) (key other : String) (value : α) :
    get? (insertSorted es key value) other = if key = other then some value else get? es other := by
  induction es with
  | nil => simp [insertSorted, get?]
  | cons e rest ih =>
    obtain ⟨k, v⟩ := e
    by_cases hk : k = key
    · subst hk
      by_cases ho : k = other <;> simp [insertSorted, get?, ho]
    · by_cases lt : key < k
      · simp [insertSorted, get?, hk, lt]
      · by_cases ho : k = other
        · subst ho
          simp [insertSorted, get?, hk, lt, Ne.symm hk]
        · simp [insertSorted, get?, hk, lt, ho, ih]

/-- A change applies to the value of its key alone. -/
theorem get?_modify (es : Entries α) (key other : String) (f : α → α) :
    get? (modify es key f) other =
      if key = other then (get? es other).map f else get? es other := by
  induction es with
  | nil => simp [modify, get?]
  | cons e rest ih =>
    obtain ⟨k, v⟩ := e
    by_cases hk : k = key
    · subst hk
      by_cases ho : k = other <;> simp [modify, get?, ho]
    · by_cases ho : k = other
      · subst ho
        simp [modify, get?, hk, Ne.symm hk]
      · simp [modify, get?, hk, ho, ih]

/-- Changing a value leaves the keys as they are. -/
theorem keys_modify (es : Entries α) (key : String) (f : α → α) :
    keys (modify es key f) = keys es := by
  induction es with
  | nil => rfl
  | cons e rest ih =>
    obtain ⟨k, v⟩ := e
    rw [modify]
    split
    · rfl
    · exact congrArg (k :: ·) ih

/-- Erasing a key leaves the values of all others. -/
theorem get?_erase (es : Entries α) (key other : String) :
    get? (erase es key) other = if other = key then none else get? es other := by
  induction es with
  | nil => simp [erase, get?]
  | cons e rest ih =>
    obtain ⟨k, v⟩ := e
    by_cases erased : k = key
    · have gone : erase ((k, v) :: rest) key = erase rest key := by simp [erase, erased]
      rw [gone, ih, get?]
      by_cases same : other = key
      · rw [if_pos same, if_pos same]
      · rw [if_neg same, if_neg same, if_neg fun eq => same (eq.symm.trans erased)]
    · have stays : erase ((k, v) :: rest) key = (k, v) :: erase rest key := by
        simp [erase, erased]
      rw [stays, get?, get?, ih]
      by_cases first : k = other
      · rw [if_pos first, if_pos first, if_neg fun eq => erased (first.trans eq)]
      · rw [if_neg first, if_neg first]

/-- To erase what is not there changes nothing. -/
theorem erase_of_missing {es : Entries α} {key : String} (missing : get? es key = none) :
    erase es key = es := by
  rw [get?_eq_none_iff] at missing
  apply List.filter_eq_self.mpr
  intro e present
  rw [decide_eq_true_iff]
  rintro rfl
  exact missing (List.mem_map_of_mem present)

/-- What an insertion leaves are the new entry and old ones. -/
theorem mem_insert {es : Entries α} {key : String} {value : α} {e : String × α}
    (present : e ∈ insert es key value) : e = (key, value) ∨ e ∈ es := by
  induction es with
  | nil => simpa [insert] using present
  | cons x rest ih =>
    obtain ⟨k, v⟩ := x
    by_cases hk : k = key
    · simp only [insert, if_pos hk, List.mem_cons] at present
      rcases present with here | there
      · exact Or.inl here
      · exact Or.inr (List.mem_cons_of_mem _ there)
    · simp only [insert, if_neg hk, List.mem_cons] at present
      rcases present with rfl | there
      · exact Or.inr List.mem_cons_self
      · rcases ih there with new | old
        · exact Or.inl new
        · exact Or.inr (List.mem_cons_of_mem _ old)

/-- What is inserted is an entry afterwards. -/
theorem mem_insert_self (es : Entries α) (key : String) (value : α) :
    (key, value) ∈ insert es key value := by
  induction es with
  | nil => exact List.mem_singleton_self _
  | cons x rest ih =>
    obtain ⟨k, v⟩ := x
    rw [insert]
    split
    · exact List.mem_cons_self
    · exact List.mem_cons_of_mem _ ih

/-- Entries with other keys stay. -/
theorem mem_insert_of_ne {es : Entries α} {key : String} {value : α} {e : String × α}
    (present : e ∈ es) (different : e.1 ≠ key) : e ∈ insert es key value := by
  induction es with
  | nil => cases present
  | cons x rest ih =>
    obtain ⟨k, v⟩ := x
    rw [insert]
    split
    · rename_i same
      rcases List.mem_cons.mp present with rfl | there
      · exact absurd same different
      · exact List.mem_cons_of_mem _ there
    · rcases List.mem_cons.mp present with rfl | there
      · exact List.mem_cons_self
      · exact List.mem_cons_of_mem _ (ih there)

/-- What a sorted insertion leaves are the new entry and old ones. -/
theorem mem_insertSorted {es : Entries α} {key : String} {value : α} {e : String × α}
    (present : e ∈ insertSorted es key value) : e = (key, value) ∨ e ∈ es := by
  induction es with
  | nil => simpa [insertSorted] using present
  | cons x rest ih =>
    obtain ⟨k, v⟩ := x
    simp only [insertSorted] at present
    split at present
    · rcases List.mem_cons.mp present with here | there
      · exact Or.inl here
      · exact Or.inr (List.mem_cons_of_mem _ there)
    · split at present
      · simpa using present
      · rcases List.mem_cons.mp present with rfl | there
        · exact Or.inr List.mem_cons_self
        · rcases ih there with new | old
          · exact Or.inl new
          · exact Or.inr (List.mem_cons_of_mem _ old)

/-- A new key is put at the end. -/
theorem insert_of_fresh {es : Entries α} {key : String} (fresh : key ∉ keys es) (value : α) :
    insert es key value = es ++ [(key, value)] := by
  induction es with
  | nil => rfl
  | cons e rest ih =>
    obtain ⟨k, v⟩ := e
    have different : k ≠ key := by
      rintro rfl
      exact fresh List.mem_cons_self
    rw [insert, if_neg different, ih fun later => fresh (List.mem_cons_of_mem _ later)]
    rfl

/-- A table of pairs has none but those pairs as entries. -/
theorem mem_of_mem_ofList {pairs : List (String × α)} {e : String × α}
    (present : e ∈ ofList pairs) : e ∈ pairs := by
  have run : ∀ (ps : List (String × α)) (es : Entries α),
      e ∈ ps.foldl (fun es e => insert es e.1 e.2) es → e ∈ es ∨ e ∈ ps := by
    intro ps
    induction ps with
    | nil => intro es h; exact Or.inl h
    | cons p rest ih =>
      intro es h
      rcases ih _ h with inside | there
      · rcases mem_insert inside with rfl | old
        · exact Or.inr List.mem_cons_self
        · exact Or.inl old
      · exact Or.inr (List.mem_cons_of_mem _ there)
  simpa using run pairs [] present

/-- Insertions of new keys, no two of them the same, put the pairs at the end as they are. -/
theorem foldl_insert_of_nodup {pairs : List (String × α)} {es : Entries α}
    (distinct : (keys (es ++ pairs)).Nodup) :
    pairs.foldl (fun es e => insert es e.1 e.2) es = es ++ pairs := by
  induction pairs generalizing es with
  | nil => exact (List.append_nil es).symm
  | cons p rest ih =>
    have moved : es ++ p :: rest = (es ++ [p]) ++ rest := by simp
    have fresh : p.1 ∉ keys es := by
      rw [keys, List.map_append] at distinct
      intro old
      exact (List.nodup_append.mp distinct).2.2 _ old _ List.mem_cons_self rfl
    rw [moved] at distinct ⊢
    rw [List.foldl_cons, insert_of_fresh fresh, ih distinct]

/-- Of pairs with distinct keys none is lost, and their order stays. -/
theorem ofList_of_nodup {pairs : List (String × α)} (distinct : (keys pairs).Nodup) :
    ofList pairs = pairs :=
  foldl_insert_of_nodup distinct

/-- Inserting a list of pairs in order: a key has the value of its last pair, and without one the
value it had. -/
theorem get?_foldl_insertSorted (pairs : List (String × α)) (es : Entries α) (key : String) :
    get? (pairs.foldl (fun es e => insertSorted es e.1 e.2) es) key =
      ((pairs.reverse.find? fun e => e.1 == key).map Prod.snd).or (get? es key) := by
  induction pairs generalizing es with
  | nil => simp
  | cons p rest ih =>
    rw [List.foldl_cons, ih, get?_insertSorted, List.reverse_cons, List.find?_append]
    cases rest.reverse.find? fun e => e.1 == key with
    | some e => simp
    | none => by_cases hp : p.1 = key <;> simp [hp]

/-- In a sorted list of entries a key has the value of its last pair. -/
theorem get?_sortedOfList (pairs : List (String × α)) (key : String) :
    get? (sortedOfList pairs) key = (pairs.reverse.find? fun e => e.1 == key).map Prod.snd := by
  rw [sortedOfList, get?_foldl_insertSorted]
  simp [get?]

/-- Sorting entries with distinct keys leaves every value under its key. -/
theorem get?_sortedOfList_of_nodup {es : Entries α} (distinct : (keys es).Nodup) (key : String) :
    get? (sortedOfList es) key = get? es key := by
  rw [get?_sortedOfList]
  induction es with
  | nil => rfl
  | cons e rest ih =>
    obtain ⟨k, v⟩ := e
    obtain ⟨fresh, distinct⟩ := List.nodup_cons.mp distinct
    rw [List.reverse_cons, List.find?_append, Option.map_or, ih distinct, get?]
    by_cases same : k = key
    · subst same
      rw [if_pos rfl, get?_eq_none_iff.mpr fresh]
      simp
    · simp [same]

/-- Of two different texts one is below the other. -/
theorem lt_of_not_lt_of_ne {a b : String} (not_lt : ¬ a < b) (ne : b ≠ a) : b < a := by
  rcases String.le_total a b with le | le
  · exact absurd (String.le_antisymm le (String.not_lt.mp not_lt)) (Ne.symm ne)
  · apply String.not_le.mp
    intro ge
    exact ne (String.le_antisymm le ge)

/-- A sorted insertion adds its key to the keys. -/
theorem mem_keys_insertSorted (es : Entries α) (key other : String) (value : α) :
    other ∈ keys (insertSorted es key value) ↔ other = key ∨ other ∈ keys es := by
  rw [← get?_isSome_iff, ← get?_isSome_iff, get?_insertSorted]
  by_cases h : key = other
  · simp [h]
  · simp [h, Ne.symm h]

/-- It keeps the keys in ascending order. -/
theorem ascending_insertSorted {es : Entries α} (key : String) (value : α)
    (ascending : (keys es).Pairwise (· < ·)) :
    (keys (insertSorted es key value)).Pairwise (· < ·) := by
  induction es with
  | nil => simp [insertSorted, keys]
  | cons e rest ih =>
    obtain ⟨k, v⟩ := e
    have tail : (keys rest).Pairwise (· < ·) := (List.pairwise_cons.mp ascending).2
    have head : ∀ l ∈ keys rest, k < l := (List.pairwise_cons.mp ascending).1
    by_cases hk : k = key
    · subst hk
      simpa [insertSorted, keys] using ascending
    · by_cases lt : key < k
      · simp only [insertSorted, if_neg hk, if_pos lt]
        refine List.pairwise_cons.mpr ⟨?_, ascending⟩
        intro l present
        rcases List.mem_cons.mp present with rfl | there
        · exact lt
        · exact String.lt_trans lt (head l there)
      · simp only [insertSorted, if_neg hk, if_neg lt]
        refine List.pairwise_cons.mpr ⟨?_, ih tail⟩
        intro l present
        rcases (mem_keys_insertSorted rest key l value).mp present with rfl | there
        · exact lt_of_not_lt_of_ne lt hk
        · exact head l there

/-- The keys of a sorted list of entries are strictly ascending. -/
theorem ascending_sortedOfList (pairs : List (String × α)) :
    (keys (sortedOfList pairs)).Pairwise (· < ·) := by
  have run : ∀ (ps : List (String × α)) (es : Entries α), (keys es).Pairwise (· < ·) →
      (keys (ps.foldl (fun es e => insertSorted es e.1 e.2) es)).Pairwise (· < ·) := by
    intro ps
    induction ps with
    | nil => intro es h; exact h
    | cons p rest ih => intro es h; exact ih _ (ascending_insertSorted p.1 p.2 h)
  exact run pairs [] List.Pairwise.nil

/-- In ascending entries a value is found exactly if it stands there under the key. -/
theorem mem_iff_get? {es : Entries α} (ascending : (keys es).Pairwise (· < ·)) {key : String}
    {value : α} : (key, value) ∈ es ↔ get? es key = some value := by
  induction es with
  | nil => simp [get?]
  | cons e rest ih =>
    obtain ⟨k, v⟩ := e
    obtain ⟨head, tail⟩ := List.pairwise_cons.mp ascending
    rw [List.mem_cons, ih tail, get?]
    by_cases same : k = key
    · subst same
      have fresh : get? rest k = none := by
        rw [get?_eq_none_iff]
        intro again
        exact String.lt_irrefl k (head k again)
      simp [fresh, eq_comm]
    · rw [if_neg same]
      simp [Ne.symm same]

/-! ## Entries with a function applied to each value -/

section MapValues

variable {β : Type} (f : α → β)

/-- The keys do not depend on the values. -/
theorem keys_mapValues (es : Entries α) : keys (mapValues f es) = keys es := by
  unfold keys mapValues
  rw [List.map_map]
  rfl

/-- Under a key the changed value is found. -/
theorem get?_mapValues (es : Entries α) (key : String) :
    get? (mapValues f es) key = (get? es key).map f := by
  induction es with
  | nil => rfl
  | cons e rest ih =>
    obtain ⟨k, v⟩ := e
    show (if k = key then some (f v) else get? (mapValues f rest) key) = _
    rw [ih, get?]
    split <;> rfl

/-- Values may be changed before or after an insertion. -/
theorem mapValues_insert (es : Entries α) (key : String) (value : α) :
    mapValues f (insert es key value) = insert (mapValues f es) key (f value) := by
  induction es with
  | nil => rfl
  | cons e rest ih =>
    obtain ⟨k, v⟩ := e
    show mapValues f (if k = key then (key, value) :: rest else (k, v) :: insert rest key value) =
      if k = key then (key, f value) :: mapValues f rest
      else (k, f v) :: insert (mapValues f rest) key (f value)
    rw [← ih]
    split <;> rfl

/-- The same for a sorted insertion. -/
theorem mapValues_insertSorted (es : Entries α) (key : String) (value : α) :
    mapValues f (insertSorted es key value) = insertSorted (mapValues f es) key (f value) := by
  induction es with
  | nil => rfl
  | cons e rest ih =>
    obtain ⟨k, v⟩ := e
    show mapValues f (if k = key then (key, value) :: rest
        else if key < k then (key, value) :: (k, v) :: rest
        else (k, v) :: insertSorted rest key value) =
      if k = key then (key, f value) :: mapValues f rest
      else if key < k then (key, f value) :: (k, f v) :: mapValues f rest
      else (k, f v) :: insertSorted (mapValues f rest) key (f value)
    rw [← ih]
    split
    · rfl
    · split <;> rfl

/-- Sorting looks at keys alone. -/
theorem mapValues_sortedOfList (pairs : List (String × α)) :
    mapValues f (sortedOfList pairs) = sortedOfList (mapValues f pairs) := by
  have run : ∀ (ps : List (String × α)) (es : Entries α),
      mapValues f (ps.foldl (fun es e => insertSorted es e.1 e.2) es) =
        (mapValues f ps).foldl (fun es e => insertSorted es e.1 e.2) (mapValues f es) := by
    intro ps
    induction ps with
    | nil => intro es; rfl
    | cons p rest ih =>
      intro es
      rw [List.foldl_cons, ih, mapValues_insertSorted]
      rfl
  exact run pairs []

end MapValues

end Entries

end CloudPlan
