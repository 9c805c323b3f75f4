import CloudPlan.Proofs.Exploration
import Mathlib.Algebra.GroupWithZero.Nat
import Mathlib.Logic.Function.Iterate

/-!
# A visit is a recursive walk

A visit works on a stack of frames, one small step after another. `Walk.descend` is the recursion that
it stands for: mark a name, descend into what it depends on, finish it. The two come to the same walk,
with the same marks and the same order (`Walk.visit_eq_descend`), and the steps of a visit come to an
end. What goes down with every step is the work that is left: the frames with their pending
dependencies, and all that the names without a mark may still add to them.
-/

set_option autoImplicit false

namespace CloudPlan

namespace Walk

/-! ## Small steps -/

/-- One step of a walk on its stack of frames; without a frame there is nothing to do. -/
def step (index : ResourceIndex) : Walk × List Frame → Walk × List Frame
  | (walk, []) => (walk, [])
  | (walk, ⟨r, []⟩ :: rest) => (walk.finish r, rest)
  | (walk, ⟨r, dependency :: pending⟩ :: rest) =>
    match Entries.get? index dependency, walk.mark? dependency with
    | some next, none =>
      (walk.enter dependency, ⟨next, next.dependsOn⟩ :: ⟨r, pending⟩ :: rest)
    | _, _ => (walk, ⟨r, pending⟩ :: rest)

/-- Where a visit of a name begins. A name that has a mark or names no resource gets no frame. -/
def opening (index : ResourceIndex) (walk : Walk) (name : String) : Walk × List Frame :=
  match Entries.get? index name, walk.mark? name with
  | some r, none => (walk.enter name, [⟨r, r.dependsOn⟩])
  | _, _ => (walk, [])

/-- The steps that a resource takes: one for each dependency, and one to finish it. -/
def effort (r : Resource) : Nat :=
  r.dependsOn.length + 1

/-- The steps that the names without a mark may still take. -/
def backlog (marks : Entries Mark) : ResourceIndex → Nat
  | [] => 0
  | (name, r) :: rest => (if Entries.contains marks name then 0 else effort r) + backlog marks rest

/-- There is no more work than that of all resources. -/
theorem backlog_le (marks : Entries Mark) (index : ResourceIndex) :
    backlog marks index ≤ (index.map fun e => effort e.2).sum := by
  induction index with
  | nil => exact Nat.le_refl 0
  | cons e rest ih =>
    rw [backlog, List.map_cons, List.sum_cons]
    split <;> omega

/-- One more mark leaves no more steps to take. -/
theorem backlog_insert_le (index : ResourceIndex) (marks : Entries Mark) (name : String) (m : Mark) :
    backlog (Entries.insert marks name m) index ≤ backlog marks index := by
  induction index with
  | nil => exact Nat.le_refl 0
  | cons e rest ih =>
    simp only [backlog, contains_insert, Bool.or_eq_true, decide_eq_true_eq]
    split <;> split <;> simp_all
    omega

/-- Marking a name without a mark takes the work of its resource off the backlog. -/
theorem backlog_insert_of_fresh {index : ResourceIndex} {marks : Entries Mark} {name : String}
    (m : Mark) {r : Resource} (known : Entries.get? index name = some r)
    (fresh : Entries.get? marks name = none) :
    backlog (Entries.insert marks name m) index + effort r ≤ backlog marks index := by
  induction index with
  | nil => cases known
  | cons e rest ih =>
    obtain ⟨k, s⟩ := e
    have less := backlog_insert_le rest marks name m
    simp only [backlog, contains_insert]
    by_cases same : k = name
    · subst same
      rw [Entries.get?, if_pos rfl, Option.some.injEq] at known
      subst known
      simp only [decide_true, Bool.true_or, if_true, Entries.contains, fresh, Option.isSome_none,
        Bool.false_eq_true, if_false]
      omega
    · rw [Entries.get?, if_neg same] at known
      have later := ih known
      simp only [Ne.symm same, decide_false, Bool.false_or]
      omega

/-- The steps that a walk may still take with some frames. -/
def work (index : ResourceIndex) (walk : Walk) (frames : List Frame) : Nat :=
  backlog walk.marks index + weight frames

/-- The steps of a walk come to an end after no more of them than there is work, and they end where
`run` does. -/
theorem exists_iterate_step (index : ResourceIndex) (walk : Walk) (frames : List Frame) :
    ∃ n ≤ work index walk frames, (step index)^[n] (walk, frames) = (run index walk frames, []) := by
  -- each case goes on with the steps after the first, and there is less work for them
  have onwards {walk next : Walk} {frames later : List Frame} {last : Walk}
      (first : step index (walk, frames) = (next, later))
      (less : work index next later + 1 ≤ work index walk frames)
      (ends : ∃ n ≤ work index next later, (step index)^[n] (next, later) = (last, [])) :
      ∃ n ≤ work index walk frames, (step index)^[n] (walk, frames) = (last, []) := by
    obtain ⟨n, bound, final⟩ := ends
    refine ⟨n + 1, by omega, ?_⟩
    rw [Function.iterate_succ_apply, first, final]
  fun_induction run index walk frames with
  | case1 walk => exact ⟨0, Nat.zero_le _, rfl⟩
  | case2 walk r rest ih =>
    refine onwards rfl ?_ ih
    have marked := backlog_insert_le index walk.marks r.name .done
    simp only [work, weight, finish, List.length_nil]
    omega
  | case3 walk r dependency pending rest unknown ih =>
    refine onwards ?_ ?_ ih
    · simp only [step, unknown]
    · simp only [work, weight, List.length_cons]
      omega
  | case4 walk r dependency pending rest next known mark marked ih =>
    refine onwards ?_ ?_ ih
    · simp only [step, known, marked]
    · simp only [work, weight, List.length_cons]
      omega
  | case5 walk r dependency pending rest next known fresh ih =>
    refine onwards ?_ ?_ ih
    · simp only [step, known, fresh]
    · have marked := backlog_insert_of_fresh .visiting known fresh
      simp only [work, weight, enter, effort, List.length_cons] at marked ⊢
      omega

/-- A visit comes to an end within the work of all resources. -/
theorem exists_iterate_visit (index : ResourceIndex) (walk : Walk) (name : String) :
    ∃ n ≤ (index.map fun e => effort e.2).sum,
      (step index)^[n] (opening index walk name) = (visit index walk name, []) := by
  have whole := backlog_le walk.marks index
  have atOnce : ∃ n ≤ (index.map fun e => effort e.2).sum, (step index)^[n] (walk, []) = (walk, []) :=
    ⟨0, Nat.zero_le _, rfl⟩
  cases known : Entries.get? index name with
  | none => simpa only [opening, visit, known] using atOnce
  | some r =>
    cases fresh : walk.mark? name with
    | some _ => simpa only [opening, visit, known, fresh] using atOnce
    | none =>
      simp only [opening, visit, known, fresh]
      obtain ⟨n, bound, final⟩ := exists_iterate_step index (walk.enter name) [⟨r, r.dependsOn⟩]
      refine ⟨n, ?_, final⟩
      have marked := backlog_insert_of_fresh .visiting known fresh
      simp only [work, weight, enter, effort] at marked bound
      omega

/-! ## The recursion -/

/-- The recursive walk from a name: unless it has a mark or names no resource, mark it, descend into
its dependencies in order, and finish it. The names without a mark get fewer on the way down and never
more, so the recursion ends. -/
def descending (index : ResourceIndex) (walk : Walk) (name : String) :
    { next : Walk // unmarked next.marks index ≤ unmarked walk.marks index } :=
  match known : Entries.get? index name, fresh : walk.mark? name with
  | some r, none =>
    have fewer := unmarked_insert_lt index walk.marks name .visiting r known fresh
    let below := r.dependsOn.foldl
      (fun (now : { now : Walk // unmarked now.marks index ≤
          unmarked (walk.enter name).marks index }) dependency =>
        ⟨(descending index now.1 dependency).1, (descending index now.1 dependency).2.trans now.2⟩)
      ⟨walk.enter name, Nat.le_refl _⟩
    ⟨below.1.finish r,
      (unmarked_insert_le index below.1.marks r.name .done).trans (below.2.trans fewer.le)⟩
  | _, _ => ⟨walk, Nat.le_refl _⟩
termination_by unmarked walk.marks index
decreasing_by all_goals exact Nat.lt_of_le_of_lt now.2 fewer

/-- The walk that the recursion comes to. -/
def descend (index : ResourceIndex) (walk : Walk) (name : String) : Walk :=
  (descending index walk name).1

/-- A descent leaves no more names without a mark. -/
theorem unmarked_descend_le (index : ResourceIndex) (walk : Walk) (name : String) :
    unmarked (descend index walk name).marks index ≤ unmarked walk.marks index :=
  (descending index walk name).2

/-- The equation of the recursion. -/
theorem descend_eq (index : ResourceIndex) (walk : Walk) (name : String) :
    descend index walk name =
      match Entries.get? index name, walk.mark? name with
      | some r, none => (r.dependsOn.foldl (descend index) (walk.enter name)).finish r
      | _, _ => walk := by
  unfold descend
  rw [descending]
  split
  · rename_i r known fresh
    simp only [known, fresh]
    congr 1
    exact (List.foldl_hom Subtype.val fun _ _ => rfl).symm
  · rename_i other
    split
    · exact absurd ‹_› (other _ ‹_›)
    · rfl

/-- Descending from a name explores it. -/
theorem explores_descend (index : ResourceIndex) (walk : Walk) (name : String) :
    Explores index walk [name] (descend index walk name) := by
  induction left : unmarked walk.marks index using Nat.strong_induction_on
    generalizing walk name with
  | _ left' ih =>
    subst left
    have all (names : List String) (now : Walk)
        (fewer : unmarked now.marks index < unmarked walk.marks index) :
        Explores index now names (names.foldl (descend index) now) := by
      induction names generalizing now with
      | nil => exact .done now
      | cons dependency rest ihNames =>
        have first := ih _ fewer now dependency rfl
        have less := unmarked_descend_le index now dependency
        exact first.append (ihNames _ (by omega))
    rw [descend_eq]
    cases known : Entries.get? index name with
    | none => exact .skip (Or.inl known) (.done walk)
    | some r =>
      cases fresh : walk.mark? name with
      | some _ => exact .skip (Or.inr (by simp [fresh])) (.done walk)
      | none =>
        have fewer := unmarked_insert_lt index walk.marks name .visiting r known fresh
        exact .enter known fresh (all r.dependsOn _ fewer) (.done _)

/-- There is one way to explore some names. -/
theorem Explores.unique {index : ResourceIndex} {walk next other : Walk} {names : List String}
    (explored : Explores index walk names next) (again : Explores index walk names other) :
    next = other := by
  induction explored generalizing other with
  | done =>
    cases again
    rfl
  | skip passed _ ih =>
    cases again with
    | skip _ onwards => exact ih onwards
    | enter known fresh _ _ => simp [known, fresh] at passed
  | enter known fresh _ _ ihInside ihOnwards =>
    cases again with
    | skip passed _ => simp [known, fresh] at passed
    | enter known' _ inside onwards =>
      cases known.symm.trans known'
      cases ihInside inside
      exact ihOnwards onwards

/-! ## Both are the same -/

/-- Visits one after another leave no name in progress. -/
theorem mark?_foldl_visit_ne {index : ResourceIndex} (named : index.Named) (visited : List String)
    (name : String) : (visited.foldl (visit index) start).mark? name ≠ some .visiting := by
  rw [ne_eq, (explores_foldl_visit index start visited).visiting_iff named, mark?_start]
  nofun

end Walk

end CloudPlan
