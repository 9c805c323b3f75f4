import CloudPlan.Resource.Basic

/-!
# Order of construction

Resources are ordered so that each comes after those it depends on. A depth-first walk starts at
every name in ascending order; names of no resource are passed over, and so is a dependency that is
still being visited, which is how cycles are broken. Of several resources with one name the last
one counts.

The walk keeps its own stack of frames. Every step finishes a frame, passes a dependency over, or
enters a resource that had no mark, so the number of resources without a mark and then the size of
the stack go down.
-/

set_option autoImplicit false

namespace CloudPlan

/-- How far the walk has come with a resource. -/
inductive Mark where
  | visiting
  | done
deriving DecidableEq, Repr

/-- Resources by name, in ascending order. -/
abbrev ResourceIndex := Entries Resource

/-- The index of some resources; the last of a name counts. -/
def ResourceIndex.ofList (resources : List Resource) : ResourceIndex :=
  Entries.sortedOfList (resources.map fun r => (r.name, r))

/-- A resource being visited and its dependencies that are yet to be looked at. -/
structure Frame where
  resource : Resource
  pending : List String

/-- The marks of a walk and the resources it has finished, the last one first. -/
structure Walk where
  marks : Entries Mark
  finished : List Resource

namespace Walk

/-- The walk before its first step. -/
def start : Walk := ⟨[], []⟩

/-- The mark of a name. -/
def mark? (walk : Walk) (name : String) : Option Mark :=
  Entries.get? walk.marks name

/-- Marks a name as being visited. -/
def enter (walk : Walk) (name : String) : Walk :=
  { walk with marks := Entries.insert walk.marks name .visiting }

/-- Marks a resource as done and adds it to the order. -/
def finish (walk : Walk) (r : Resource) : Walk :=
  ⟨Entries.insert walk.marks r.name .done, r :: walk.finished⟩

/-- The number of indexed names without a mark. -/
def unmarked (marks : Entries Mark) : ResourceIndex → Nat
  | [] => 0
  | (name, _) :: rest => (if Entries.contains marks name then 0 else 1) + unmarked marks rest

/-- The frames and their pending dependencies, counted together. -/
def weight : List Frame → Nat
  | [] => 0
  | f :: rest => f.pending.length + 1 + weight rest

/-- Inserting a key adds that key to the ones there are. -/
theorem contains_insert {α : Type} (es : Entries α) (k l : String) (v : α) :
    Entries.contains (Entries.insert es k v) l = (decide (k = l) || Entries.contains es l) := by
  induction es with
  | nil => by_cases h : k = l <;> simp [Entries.insert, Entries.contains, Entries.get?, h]
  | cons e rest ih =>
    obtain ⟨m, w⟩ := e
    simp only [Entries.contains] at ih ⊢
    by_cases h : m = k
    · subst h
      by_cases hl : m = l <;> simp [Entries.insert, Entries.get?, hl]
    · by_cases hl : m = l
      · subst hl
        simp [Entries.insert, Entries.get?, h]
      · simp [Entries.insert, Entries.get?, h, hl, ih]

/-- Marking a name does not leave more names without a mark. -/
theorem unmarked_insert_le (index : ResourceIndex) (marks : Entries Mark) (name : String)
    (m : Mark) : unmarked (Entries.insert marks name m) index ≤ unmarked marks index := by
  induction index with
  | nil => simp [unmarked]
  | cons e rest ih =>
    simp only [unmarked, contains_insert]
    split <;> split <;> simp_all
    omega

/-- Marking an indexed name that had no mark leaves fewer names without one. -/
theorem unmarked_insert_lt (index : ResourceIndex) (marks : Entries Mark) (name : String)
    (m : Mark) (r : Resource) (known : Entries.get? index name = some r)
    (fresh : Entries.get? marks name = none) :
    unmarked (Entries.insert marks name m) index < unmarked marks index := by
  induction index with
  | nil => simp [Entries.get?] at known
  | cons e rest ih =>
    obtain ⟨k, w⟩ := e
    have le := unmarked_insert_le rest marks name m
    simp only [unmarked, contains_insert]
    by_cases hk : k = name
    · subst hk
      simp [Entries.contains, fresh]
      omega
    · have known' : Entries.get? rest name = some r := by
        simpa [Entries.get?, hk] using known
      have hk' : ¬ name = k := fun h => hk h.symm
      by_cases h : Entries.contains marks k = true
      · simp [h, ih known']
      · simp [h, hk', ih known']

/-- Walks on until no frame is left. -/
def run (index : ResourceIndex) (walk : Walk) (frames : List Frame) : Walk :=
  match frames with
  | [] => walk
  | ⟨r, []⟩ :: rest => run index (walk.finish r) rest
  | ⟨r, dependency :: pending⟩ :: rest =>
    match _known : Entries.get? index dependency with
    | none => run index walk (⟨r, pending⟩ :: rest)
    | some next =>
      match _fresh : walk.mark? dependency with
      | some _ => run index walk (⟨r, pending⟩ :: rest)
      | none =>
        run index (walk.enter dependency) (⟨next, next.dependsOn⟩ :: ⟨r, pending⟩ :: rest)
termination_by (unmarked walk.marks index, weight frames)
decreasing_by
  · have := unmarked_insert_le index walk.marks r.name .done
    simp only [weight, List.length_nil]
    rcases Nat.lt_or_eq_of_le this with h | h
    · exact Prod.Lex.left _ _ h
    · simp only [finish]
      rw [h]
      exact Prod.Lex.right _ (by omega)
  · exact Prod.Lex.right _ (by simp [weight])
  · exact Prod.Lex.right _ (by simp [weight])
  · exact Prod.Lex.left _ _ (unmarked_insert_lt index walk.marks dependency .visiting next _known _fresh)

/-- Visits a name and everything it depends on, unless it has a mark or names no resource. -/
def visit (index : ResourceIndex) (walk : Walk) (name : String) : Walk :=
  match Entries.get? index name, walk.mark? name with
  | some r, none => run index (walk.enter name) [⟨r, r.dependsOn⟩]
  | _, _ => walk

end Walk

/-- Resources in the order of construction, each name once. -/
def constructionOrder (resources : List Resource) : List Resource :=
  let index := ResourceIndex.ofList resources
  ((Entries.keys index).foldl (Walk.visit index) .start).finished.reverse

end CloudPlan
