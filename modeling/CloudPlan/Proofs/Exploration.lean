import CloudPlan.Proofs.Entries
import Mathlib.Logic.Relation

/-!
# The walk as a recursion

`Walk.run` works on a stack of frames. `Walk.Explores` describes the same walk as a recursion: look at
some names in order, pass over those that name no resource or have a mark, and for each other one
mark it, explore what it depends on and finish it. `explores_visit` says that a visit is such an
exploration, whatever the graph looks like.

The invariant of an exploration is `Walk.Sound`: finished resources are exactly the ones marked as
done, each once, and an indexed dependency of a finished resource is finished before it or leads
back to it. It is carried by the names that are still being visited, every one of which leads to
each name that is looked at.
-/

set_option autoImplicit false

namespace CloudPlan

namespace ResourceIndex

/-- One indexed name depends on another. -/
def Depends (index : ResourceIndex) (a b : String) : Prop :=
  ∃ r, Entries.get? index a = some r ∧ b ∈ r.dependsOn ∧ b ∈ Entries.keys index

/-- One name leads to another through dependencies, in any number of steps. -/
def Reaches (index : ResourceIndex) : String → String → Prop :=
  Relation.ReflTransGen index.Depends

/-- Every resource is indexed under its own name. -/
def Named (index : ResourceIndex) : Prop :=
  ∀ name r, Entries.get? index name = some r → r.name = name

/-- An index has for each name the last resource of that name. -/
theorem get?_ofList (resources : List Resource) (name : String) :
    Entries.get? (ofList resources) name = resources.reverse.find? fun r => r.name == name := by
  rw [ofList, Entries.get?_sortedOfList, ← List.map_reverse, List.find?_map, Option.map_map]
  show Option.map id _ = _
  rw [Option.map_id]
  rfl

/-- The names of an index are those of its resources. -/
theorem mem_keys_ofList {resources : List Resource} {name : String} :
    name ∈ Entries.keys (ofList resources) ↔ name ∈ resources.map Resource.name := by
  rw [← Entries.get?_isSome_iff, get?_ofList, List.find?_isSome, List.mem_map]
  simp

/-- In an index of resources each stands under its own name. -/
theorem named_ofList (resources : List Resource) : (ofList resources).Named := by
  intro name r found
  rw [get?_ofList] at found
  simpa using List.find?_some found

end ResourceIndex

namespace Walk

/-- Exploring names in order: what is unknown or marked is passed over, and everything else is
marked, explored and finished before the next name is looked at. -/
inductive Explores (index : ResourceIndex) : Walk → List String → Walk → Prop where
  | done (walk : Walk) : Explores index walk [] walk
  | skip {walk next : Walk} {name : String} {rest : List String}
      (passed : Entries.get? index name = none ∨ walk.mark? name ≠ none)
      (onwards : Explores index walk rest next) : Explores index walk (name :: rest) next
  | enter {walk inner next : Walk} {name : String} {rest : List String} {r : Resource}
      (known : Entries.get? index name = some r) (fresh : walk.mark? name = none)
      (inside : Explores index (walk.enter name) r.dependsOn inner)
      (onwards : Explores index (inner.finish r) rest next) : Explores index walk (name :: rest) next

/-- Exploring what is pending in each frame and finishing its resource, frame by frame. -/
inductive Unwinds (index : ResourceIndex) : Walk → List Frame → Walk → Prop where
  | done (walk : Walk) : Unwinds index walk [] walk
  | frame {walk inner next : Walk} {r : Resource} {pending : List String} {rest : List Frame}
      (inside : Explores index walk pending inner)
      (onwards : Unwinds index (inner.finish r) rest next) :
      Unwinds index walk (⟨r, pending⟩ :: rest) next

/-- A run on a stack of frames unwinds the stack. -/
theorem unwinds_run (index : ResourceIndex) (walk : Walk) (frames : List Frame) :
    Unwinds index walk frames (run index walk frames) := by
  fun_induction run index walk frames with
  | case1 walk => exact .done walk
  | case2 walk r rest ih => exact .frame (.done walk) ih
  | case3 walk r dependency pending rest unknown ih =>
    cases ih with
    | frame inside onwards => exact .frame (.skip (Or.inl unknown) inside) onwards
  | case4 walk r dependency pending rest next known mark marked ih =>
    cases ih with
    | frame inside onwards => exact .frame (.skip (Or.inr (by simp [marked])) inside) onwards
  | case5 walk r dependency pending rest next known fresh ih =>
    cases ih with
    | frame inside above =>
      cases above with
      | frame later onwards => exact .frame (.enter known fresh inside later) onwards

/-- A visit explores the one name. -/
theorem explores_visit (index : ResourceIndex) (walk : Walk) (name : String) :
    Explores index walk [name] (visit index walk name) := by
  unfold visit
  split
  · rename_i r known fresh
    cases unwinds_run index (walk.enter name) [⟨r, r.dependsOn⟩] with
    | frame inside onwards =>
      generalize run index (walk.enter name) [⟨r, r.dependsOn⟩] = final at onwards
      cases onwards
      exact .enter known fresh inside (.done _)
  · rename_i other
    refine .skip ?_ (.done walk)
    cases known : Entries.get? index name with
    | none => exact Or.inl rfl
    | some r =>
      right
      intro fresh
      exact other r known fresh

/-- One exploration after another explores the names of both. -/
theorem Explores.append {index : ResourceIndex} {walk middle last : Walk} {names more : List String}
    (first : Explores index walk names middle) (second : Explores index middle more last) :
    Explores index walk (names ++ more) last := by
  induction first with
  | done => exact second
  | skip passed _ ih => exact .skip passed (ih second)
  | enter known fresh inside _ _ ih => exact .enter known fresh inside (ih second)

/-- Visiting names in order explores them. -/
theorem explores_foldl_visit (index : ResourceIndex) (walk : Walk) (names : List String) :
    Explores index walk names (names.foldl (visit index) walk) := by
  induction names generalizing walk with
  | nil => exact .done walk
  | cons name rest ih => exact (explores_visit index walk name).append (ih _)

/-! ## Marks -/

@[simp]
theorem finished_enter (walk : Walk) (name : String) :
    (walk.enter name).finished = walk.finished :=
  rfl

@[simp]
theorem finished_finish (walk : Walk) (r : Resource) :
    (walk.finish r).finished = r :: walk.finished :=
  rfl

/-- Entering a name marks it as being visited, and no other. -/
theorem mark?_enter (walk : Walk) (name other : String) :
    (walk.enter name).mark? other = if name = other then some .visiting else walk.mark? other :=
  Entries.get?_insert _ _ _ _

/-- Finishing a resource marks its name as done, and no other. -/
theorem mark?_finish (walk : Walk) (r : Resource) (other : String) :
    (walk.finish r).mark? other = if r.name = other then some .done else walk.mark? other :=
  Entries.get?_insert _ _ _ _

/-- An exploration leaves the same names in progress. -/
theorem Explores.visiting_iff {index : ResourceIndex} (named : index.Named) {walk next : Walk}
    {names : List String} (explored : Explores index walk names next) (other : String) :
    next.mark? other = some .visiting ↔ walk.mark? other = some .visiting := by
  induction explored with
  | done => exact Iff.rfl
  | skip _ _ ih => exact ih
  | @enter walk inner next name rest r known fresh inside onwards ihInside ihOnwards =>
    rw [ihOnwards, mark?_finish, named name r known]
    by_cases same : name = other
    · subst same
      simp [fresh]
    · rw [if_neg same, ihInside, mark?_enter, if_neg same]

/-- What is done stays done. -/
theorem Explores.done_of_done {index : ResourceIndex} {walk next : Walk} {names : List String}
    (explored : Explores index walk names next) {other : String}
    (isDone : walk.mark? other = some .done) : next.mark? other = some .done := by
  induction explored with
  | done => exact isDone
  | skip _ _ ih => exact ih isDone
  | @enter walk inner next name rest r known fresh inside onwards ihInside ihOnwards =>
    apply ihOnwards
    rw [mark?_finish]
    by_cases same : r.name = other
    · simp [same]
    · rw [if_neg same]
      apply ihInside
      have different : name ≠ other := by
        intro h
        subst h
        rw [fresh] at isDone
        cases isDone
      rw [mark?_enter, if_neg different, isDone]

/-- A marked name stays marked. -/
theorem Explores.marked_of_marked {index : ResourceIndex} (named : index.Named) {walk next : Walk}
    {names : List String} (explored : Explores index walk names next) {other : String}
    (marked : walk.mark? other ≠ none) : next.mark? other ≠ none := by
  cases mark : walk.mark? other with
  | none => exact absurd mark marked
  | some m =>
    cases m with
    | visiting => rw [(explored.visiting_iff named other).mpr mark]; simp
    | done => rw [explored.done_of_done mark]; simp

/-- After an exploration every indexed name that was looked at has a mark. -/
theorem Explores.marked_of_mem {index : ResourceIndex} (named : index.Named) {walk next : Walk}
    {names : List String} (explored : Explores index walk names next) {other : String}
    (looked : other ∈ names) (indexed : other ∈ Entries.keys index) :
    next.mark? other ≠ none := by
  induction explored with
  | done => cases looked
  | @skip walk next name rest passed onwards ih =>
    rcases List.mem_cons.mp looked with rfl | later
    · rcases passed with unknown | marked
      · exact absurd indexed (Entries.get?_eq_none_iff.mp unknown)
      · exact onwards.marked_of_marked named marked
    · exact ih later
  | @enter walk inner next name rest r known fresh inside onwards ihInside ihOnwards =>
    rcases List.mem_cons.mp looked with rfl | later
    · apply onwards.marked_of_marked named
      rw [mark?_finish, named other r known]
      simp
    · exact ihOnwards later

/-! ## The invariant -/

/-- In a list of resources, the last one finished first: an indexed dependency of each was finished
before it, or leads back to it. -/
def Ordered (index : ResourceIndex) : List Resource → Prop
  | [] => True
  | r :: before =>
    (∀ name ∈ r.dependsOn, name ∈ Entries.keys index →
      name ∈ before.map Resource.name ∨ index.Reaches name r.name) ∧ Ordered index before

/-- What holds of a walk at any moment. -/
structure Sound (index : ResourceIndex) (walk : Walk) : Prop where
  indexed : ∀ r ∈ walk.finished, Entries.get? index r.name = some r
  done_iff : ∀ name, walk.mark? name = some .done ↔ name ∈ walk.finished.map Resource.name
  nodup : (walk.finished.map Resource.name).Nodup
  ordered : Ordered index walk.finished

/-- At the start nothing is finished, as the marks say. -/
theorem sound_start (index : ResourceIndex) : Sound index start where
  indexed r present := by cases present
  done_iff name := by simp [start, mark?, Entries.get?]
  nodup := List.nodup_nil
  ordered := trivial

/-- Entering a name without a mark keeps the invariant. -/
theorem Sound.enter {index : ResourceIndex} {walk : Walk} (sound : Sound index walk) {name : String}
    (fresh : walk.mark? name = none) : Sound index (walk.enter name) where
  indexed := sound.indexed
  done_iff other := by
    rw [mark?_enter]
    by_cases same : name = other
    · subst same
      have missing : name ∉ walk.finished.map Resource.name := by
        rw [← sound.done_iff, fresh]
        simp
      simpa using missing
    · rw [if_neg same]
      exact sound.done_iff other
  nodup := sound.nodup
  ordered := sound.ordered

/-- Finishing a resource keeps the invariant, if it is in progress and each of its dependencies is
finished or leads back to it. -/
theorem Sound.finish {index : ResourceIndex} {walk : Walk} (sound : Sound index walk) {r : Resource}
    (known : Entries.get? index r.name = some r) (current : walk.mark? r.name = some .visiting)
    (settled : ∀ name ∈ r.dependsOn, name ∈ Entries.keys index →
      name ∈ walk.finished.map Resource.name ∨ index.Reaches name r.name) :
    Sound index (walk.finish r) where
  indexed s present := by
    rcases List.mem_cons.mp present with rfl | old
    · exact known
    · exact sound.indexed s old
  done_iff other := by
    rw [mark?_finish]
    by_cases same : r.name = other
    · simp [same]
    · rw [if_neg same, sound.done_iff other]
      simp [Ne.symm same]
  nodup := by
    refine List.nodup_cons.mpr ⟨?_, sound.nodup⟩
    rw [← sound.done_iff, current]
    simp
  ordered := ⟨settled, sound.ordered⟩

/-- An exploration keeps the invariant, if every name in progress leads to each name looked at. -/
theorem Explores.sound {index : ResourceIndex} (named : index.Named) {walk next : Walk}
    {names : List String} (explored : Explores index walk names next) (sound : Sound index walk)
    (leads : ∀ name ∈ names, name ∈ Entries.keys index →
      ∀ other, walk.mark? other = some .visiting → index.Reaches other name) :
    Sound index next := by
  induction explored with
  | done => exact sound
  | skip _ _ ih =>
    apply ih sound
    intro name later
    exact leads name (List.mem_cons_of_mem _ later)
  | @enter walk inner next name rest r known fresh inside onwards ihInside ihOnwards =>
    have own : r.name = name := named name r known
    have isKey : name ∈ Entries.keys index := Entries.get?_isSome_iff.mp (by simp [known])
    -- whatever is in progress now, `name` included, leads to `name`
    have leadsHere : ∀ other, (walk.enter name).mark? other = some .visiting →
        index.Reaches other name := by
      intro other current
      rw [mark?_enter] at current
      by_cases same : name = other
      · subst same
        exact Relation.ReflTransGen.refl
      · rw [if_neg same] at current
        exact leads name List.mem_cons_self isKey other current
    have innerSound : Sound index inner := by
      refine ihInside (sound.enter fresh) ?_
      intro dependency depended indexed other current
      exact (leadsHere other current).tail ⟨r, known, depended, indexed⟩
    have settled : ∀ dependency ∈ r.dependsOn, dependency ∈ Entries.keys index →
        dependency ∈ inner.finished.map Resource.name ∨ index.Reaches dependency r.name := by
      intro dependency depended indexed
      have marked := inside.marked_of_mem named depended indexed
      cases mark : inner.mark? dependency with
      | none => exact absurd mark marked
      | some m =>
        cases m with
        | visiting =>
          right
          rw [own]
          exact leadsHere dependency ((inside.visiting_iff named dependency).mp mark)
        | done => exact Or.inl ((innerSound.done_iff dependency).mp mark)
    have current : inner.mark? r.name = some .visiting := by
      rw [inside.visiting_iff named, mark?_enter, own]
      simp
    refine ihOnwards (innerSound.finish (by rw [own, known]) current settled) ?_
    intro later among indexed other stillCurrent
    apply leads later (List.mem_cons_of_mem _ among) indexed
    rw [mark?_finish, own] at stillCurrent
    by_cases same : name = other
    · simp [same] at stillCurrent
    · rw [if_neg same, inside.visiting_iff named, mark?_enter, if_neg same] at stillCurrent
      exact stillCurrent

/-- At the start no name is marked. -/
theorem mark?_start (name : String) : start.mark? name = none := rfl

/-- A walk that starts anew and explores some names is sound. -/
theorem Explores.sound_of_start {index : ResourceIndex} (named : index.Named) {next : Walk}
    {names : List String} (explored : Explores index start names next) : Sound index next := by
  apply explored.sound named (sound_start index)
  intro name _ _ other current
  rw [mark?_start] at current
  cases current

/-- A walk that starts anew is done with every indexed name that it looked at. -/
theorem Explores.done_of_start {index : ResourceIndex} (named : index.Named) {next : Walk}
    {names : List String} (explored : Explores index start names next) {name : String}
    (looked : name ∈ names) (indexed : name ∈ Entries.keys index) :
    next.mark? name = some .done := by
  have marked := explored.marked_of_mem named looked indexed
  cases mark : next.mark? name with
  | none => exact absurd mark marked
  | some m =>
    cases m with
    | done => rfl
    | visiting =>
      rw [explored.visiting_iff named, mark?_start] at mark
      cases mark

end Walk

end CloudPlan
