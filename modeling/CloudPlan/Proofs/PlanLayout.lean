import CloudPlan.Proofs.ConstructionOrder

/-!
# The layout of a plan

A plan falls into one block for each name, in ascending order of names. The block of a name is empty
if a smaller name leads to it. Otherwise it has everything that the name leads to and no smaller one
does, and the name itself comes last. `ofResult_layout` says so of every lowering result; names may
lead around in circles, be missing or occur more than once.

The argument is about the moments between two visits, when no name is in progress. Then what is done
is closed under dependencies, so it is exactly what the names visited so far lead to
(`Walk.Settled`), and a visit adds what its name leads to beyond that.
-/

set_option autoImplicit false

namespace CloudPlan

namespace ResourceIndex

/-- A name is led to by an indexed one that is strictly smaller than `s`. -/
def ReachedBelow (index : ResourceIndex) (s name : String) : Prop :=
  ∃ t ∈ Entries.keys index, t < s ∧ index.Reaches t name

/-- The resources that a visit of `s` adds if all smaller names have been visited, in the order in
which they are finished. -/
structure IsBlock (index : ResourceIndex) (s : String) (block : List Resource) : Prop where
  reached : index.ReachedBelow s s → block = []
  nodup : (block.map Resource.name).Nodup
  mem_iff : ∀ r, r ∈ block ↔ Entries.get? index r.name = some r ∧ index.Reaches s r.name ∧
    ¬ index.ReachedBelow s r.name
  last : ¬ index.ReachedBelow s s → ∃ before r, block = before ++ [r] ∧ r.name = s

end ResourceIndex

namespace Walk

variable {index : ResourceIndex}

/-! ## What an exploration adds -/

/-- An exploration finishes more resources on top of the ones it found, each of them led to by an
indexed name that was looked at. -/
theorem Explores.exists_added (named : index.Named) {walk next : Walk} {names : List String}
    (explored : Explores index walk names next) :
    ∃ added, next.finished = added ++ walk.finished ∧
      ∀ r ∈ added, ∃ n ∈ names, n ∈ Entries.keys index ∧ index.Reaches n r.name := by
  induction explored with
  | done => exact ⟨[], rfl, nofun⟩
  | skip _ _ ih =>
    obtain ⟨added, finished, origin⟩ := ih
    refine ⟨added, finished, ?_⟩
    intro r member
    obtain ⟨n, looked, rest⟩ := origin r member
    exact ⟨n, List.mem_cons_of_mem _ looked, rest⟩
  | @enter walk inner next name rest r known fresh inside onwards ihInside ihOnwards =>
    obtain ⟨below, finishedInside, originInside⟩ := ihInside
    obtain ⟨later, finishedLater, originLater⟩ := ihOnwards
    have own : r.name = name := named name r known
    have isKey : name ∈ Entries.keys index := Entries.get?_isSome_iff.mp (by simp [known])
    -- what is below a name is finished first, then the name, then what comes after
    refine ⟨later ++ r :: below, ?_, ?_⟩
    · rw [finishedLater, finished_finish, finishedInside, finished_enter]
      simp
    · intro x member
      rcases List.mem_append.mp member with late | early
      · obtain ⟨n, looked, way⟩ := originLater x late
        exact ⟨n, List.mem_cons_of_mem _ looked, way⟩
      · refine ⟨name, List.mem_cons_self, isKey, ?_⟩
        rcases List.mem_cons.mp early with rfl | deeper
        · rw [own]
          exact Relation.ReflTransGen.refl
        · obtain ⟨d, depended, indexed, way⟩ := originInside x deeper
          exact Relation.ReflTransGen.head ⟨r, known, depended, indexed⟩ way

/-- The dependencies of what is done have a mark. -/
def Closed (index : ResourceIndex) (walk : Walk) : Prop :=
  ∀ a b, walk.mark? a = some .done → index.Depends a b → walk.mark? b ≠ none

/-- An exploration leaves no dependency of what is done without a mark. -/
theorem Explores.closed (named : index.Named) {walk next : Walk} {names : List String}
    (explored : Explores index walk names next) (closed : Closed index walk) :
    Closed index next := by
  induction explored with
  | done => exact closed
  | skip _ _ ih => exact ih closed
  | @enter walk inner next name rest r known fresh inside onwards ihInside ihOnwards =>
    have own : r.name = name := named name r known
    -- entering a name takes no mark away, and the name itself is not done yet
    have entered : Closed index (walk.enter name) := by
      intro a b isDone depends
      rw [mark?_enter] at isDone ⊢
      have different : name ≠ a := by
        intro same
        simp [same] at isDone
      rw [if_neg different] at isDone
      split
      · simp
      · exact closed a b isDone depends
    have innerClosed := ihInside entered
    apply ihOnwards
    intro a b isDone depends
    have marked : inner.mark? b ≠ none := by
      by_cases same : r.name = a
      · -- the resource that is finished here: all its dependencies have been looked at
        obtain ⟨x, found, depended, indexed⟩ := depends
        rw [← same, own, known, Option.some.injEq] at found
        subst found
        exact inside.marked_of_mem named depended indexed
      · rw [mark?_finish, if_neg same] at isDone
        exact innerClosed a b isDone depends
    rw [mark?_finish]
    split
    · simp
    · exact marked

/-! ## Between two visits -/

/-- No name is in progress, and done is exactly what some names lead to that were looked at. -/
structure Settled (index : ResourceIndex) (earlier : List String) (walk : Walk) : Prop where
  idle : ∀ name, walk.mark? name ≠ some .visiting
  sound : Sound index walk
  closed : Closed index walk
  done_iff : ∀ name, walk.mark? name = some .done ↔ ∃ t ∈ earlier, index.Reaches t name

/-- At the start nothing is visited, and everything is settled. -/
theorem settled_start (index : ResourceIndex) : Settled index [] start where
  idle name := by simp [mark?_start]
  sound := sound_start index
  closed a b isDone := by simp [mark?_start] at isDone
  done_iff name := by simp [mark?_start]

/-- If no name is in progress, a marked name is done. -/
theorem done_of_marked {walk : Walk} (idle : ∀ name, walk.mark? name ≠ some .visiting)
    {name : String} (marked : walk.mark? name ≠ none) : walk.mark? name = some .done := by
  cases mark : walk.mark? name with
  | none => exact absurd mark marked
  | some m =>
    cases m with
    | visiting => exact absurd mark (idle name)
    | done => rfl

/-- While no name is in progress, everything that a finished name leads to is finished. -/
theorem done_of_reaches {walk : Walk} (idle : ∀ name, walk.mark? name ≠ some .visiting)
    (closed : Closed index walk) {a b : String} (isDone : walk.mark? a = some .done)
    (way : index.Reaches a b) : walk.mark? b = some .done := by
  induction way with
  | refl => exact isDone
  | tail _ step ih => exact done_of_marked idle (closed _ _ ih step)

/-- A visit of a marked name changes nothing. -/
theorem visit_of_marked {walk : Walk} {s : String} (marked : walk.mark? s ≠ none) :
    visit index walk s = walk := by
  unfold visit
  split
  · rename_i fresh
    exact absurd fresh marked
  · rfl

/-- A visit of an indexed name without a mark finishes its resource last of all. -/
theorem exists_finished_visit (named : index.Named) {walk : Walk} {s : String}
    (fresh : walk.mark? s = none) (indexed : s ∈ Entries.keys index) :
    ∃ r inner, r.name = s ∧ (visit index walk s).finished = r :: inner ++ walk.finished := by
  cases explores_visit index walk s with
  | skip passed onwards =>
    rcases passed with unknown | marked
    · exact absurd indexed (Entries.get?_eq_none_iff.mp unknown)
    · exact absurd fresh marked
  | @enter _ inner _ _ _ r known _ inside onwards =>
    obtain ⟨added, finished, _⟩ := inside.exists_added named
    generalize visit index walk s = next at onwards
    cases onwards
    exact ⟨r, added, named s r known, by rw [finished_finish, finished]; rfl⟩

/-- One step: a visit keeps a walk settled, with one more name that was looked at. -/
theorem Settled.visited (named : index.Named) {walk : Walk} {earlier : List String} {s : String}
    (settled : Settled index earlier walk) (indexed : s ∈ Entries.keys index) :
    Settled index (earlier ++ [s]) (visit index walk s) := by
  have explored := explores_visit index walk s
  have idle : ∀ name, (visit index walk s).mark? name ≠ some .visiting := by
    intro name current
    rw [explored.visiting_iff named] at current
    exact settled.idle name current
  have sound : Sound index (visit index walk s) := by
    apply explored.sound named settled.sound
    intro _ _ _ other current
    exact absurd current (settled.idle other)
  have closed := explored.closed named settled.closed
  have seedDone : (visit index walk s).mark? s = some .done :=
    done_of_marked idle (explored.marked_of_mem named List.mem_cons_self indexed)
  refine ⟨idle, sound, closed, ?_⟩
  intro name
  -- what is new was reached from `s`; conversely `s` is done now, and so is what it leads to
  constructor
  · intro isDone
    obtain ⟨added, finished, origin⟩ := explored.exists_added named
    rw [sound.done_iff, finished, List.map_append, List.mem_append] at isDone
    rcases isDone with new | old
    · obtain ⟨r, member, rfl⟩ := List.mem_map.mp new
      obtain ⟨n, looked, _, way⟩ := origin r member
      obtain rfl := List.mem_singleton.mp looked
      exact ⟨n, List.mem_append_right _ looked, way⟩
    · obtain ⟨t, visited, way⟩ := (settled.done_iff name).mp ((settled.sound.done_iff name).mpr old)
      exact ⟨t, List.mem_append_left _ visited, way⟩
  · rintro ⟨t, visited, way⟩
    rcases List.mem_append.mp visited with old | new
    · exact explored.done_of_done ((settled.done_iff name).mpr ⟨t, old, way⟩)
    · obtain rfl := List.mem_singleton.mp new
      exact done_of_reaches idle closed seedDone way

/-- A visit adds the resources that its name leads to and that were not done before. -/
theorem Settled.mem_added_iff (named : index.Named) {walk : Walk} {earlier : List String} {s : String}
    (settled : Settled index earlier walk) (indexed : s ∈ Entries.keys index)
    {added : List Resource} (finished : (visit index walk s).finished = added ++ walk.finished)
    {r : Resource} :
    r ∈ added ↔ Entries.get? index r.name = some r ∧ index.Reaches s r.name ∧
      walk.mark? r.name ≠ some .done := by
  have next := settled.visited named indexed
  have own : ∀ x ∈ added, Entries.get? index x.name = some x := by
    intro x member
    apply next.sound.indexed
    rw [finished]
    exact List.mem_append_left _ member
  -- what is done after the visit stands in one of the two parts, and in one only
  have doneNext := next.done_iff r.name
  rw [next.sound.done_iff, finished, List.map_append, List.mem_append] at doneNext
  constructor
  · intro member
    have name : r.name ∈ added.map Resource.name := List.mem_map_of_mem member
    have new : walk.mark? r.name ≠ some .done := by
      intro isDone
      have nodup := next.sound.nodup
      rw [finished, List.map_append, List.nodup_append] at nodup
      exact nodup.2.2 _ name _ ((settled.sound.done_iff r.name).mp isDone) rfl
    refine ⟨own r member, ?_, new⟩
    obtain ⟨t, visited, way⟩ := doneNext.mp (Or.inl name)
    rcases List.mem_append.mp visited with old | last
    · exact absurd ((settled.done_iff r.name).mpr ⟨t, old, way⟩) new
    · obtain rfl := List.mem_singleton.mp last
      exact way
  · rintro ⟨known, way, new⟩
    rcases doneNext.mpr ⟨s, List.mem_append_right _ List.mem_cons_self, way⟩ with name | old
    · -- the resource of this name that was added is the indexed one
      obtain ⟨x, member, same⟩ := List.mem_map.mp name
      have known' := own x member
      rw [same, known, Option.some.injEq] at known'
      rwa [known']
    · exact absurd ((settled.sound.done_iff r.name).mpr old) new

/-- What a visit adds after all smaller names have been visited is the block of its name. -/
theorem Settled.exists_block (named : index.Named) {walk : Walk} {earlier : List String} {s : String}
    (settled : Settled index earlier walk) (indexed : s ∈ Entries.keys index)
    (smaller : ∀ t, t ∈ earlier ↔ t ∈ Entries.keys index ∧ t < s) :
    ∃ block, (visit index walk s).finished.reverse = walk.finished.reverse ++ block ∧
      index.IsBlock s block := by
  have below : ∀ name, walk.mark? name = some .done ↔ index.ReachedBelow s name := by
    intro name
    rw [settled.done_iff]
    simp only [ResourceIndex.ReachedBelow, smaller, and_assoc]
  have members : ∀ added, (visit index walk s).finished = added ++ walk.finished → ∀ r, r ∈ added ↔
      Entries.get? index r.name = some r ∧ index.Reaches s r.name ∧
        ¬ index.ReachedBelow s r.name := by
    intro added finished r
    rw [settled.mem_added_iff named indexed finished, Ne, below]
  -- if a smaller name leads to `s`, the visit finds it done; otherwise `s` is finished last
  by_cases reached : index.ReachedBelow s s
  · have marked : walk.mark? s ≠ none := by
      rw [(below s).mpr reached]
      simp
    have same : visit index walk s = walk := visit_of_marked marked
    exact ⟨[], by rw [same, List.append_nil], fun _ => rfl, List.nodup_nil,
      members [] (by rw [same, List.nil_append]), fun free => absurd reached free⟩
  · have fresh : walk.mark? s = none := by
      by_contra marked
      exact reached ((below s).mp (done_of_marked settled.idle marked))
    obtain ⟨r, inner, own, finished⟩ := exists_finished_visit named fresh indexed
    refine ⟨(r :: inner).reverse, by rw [finished, List.reverse_append], fun h => absurd h reached,
      ?_, ?_, fun _ => ⟨inner.reverse, r, by simp, own⟩⟩
    · have nodup := (settled.visited named indexed).sound.nodup
      rw [finished, List.map_append, List.nodup_append] at nodup
      rw [List.map_reverse, List.nodup_reverse]
      exact nodup.1
    · intro x
      rw [List.mem_reverse]
      exact members _ finished x

/-- A run over all names that are left, in ascending order, adds their blocks one after the other. -/
theorem Settled.exists_blocks (named : index.Named) {walk : Walk} {earlier : List String}
    (settled : Settled index earlier walk) (rest : List String)
    (all : Entries.keys index = earlier ++ rest)
    (ascending : (Entries.keys index).Pairwise (· < ·)) :
    ∃ blocks, (rest.foldl (visit index) walk).finished.reverse =
        walk.finished.reverse ++ blocks.flatten ∧
      List.Forall₂ index.IsBlock rest blocks := by
  induction rest generalizing walk earlier with
  | nil => exact ⟨[], by simp, .nil⟩
  | cons s rest ih =>
    have indexed : s ∈ Entries.keys index := by
      rw [all]
      exact List.mem_append_right _ List.mem_cons_self
    -- names ascend, so the ones visited before `s` are the smaller ones
    have smaller : ∀ t, t ∈ earlier ↔ t ∈ Entries.keys index ∧ t < s := by
      intro t
      rw [all, List.pairwise_append, List.pairwise_cons] at ascending
      obtain ⟨_, ⟨above, _⟩, below⟩ := ascending
      rw [all, List.mem_append, List.mem_cons]
      constructor
      · intro early
        exact ⟨Or.inl early, below t early s List.mem_cons_self⟩
      · rintro ⟨early | rfl | late, lt⟩
        · exact early
        · exact absurd lt (String.lt_irrefl t)
        · exact absurd (String.lt_trans lt (above t late)) (String.lt_irrefl t)
    obtain ⟨block, first, isBlock⟩ := settled.exists_block named indexed smaller
    have regroup : Entries.keys index = earlier ++ [s] ++ rest := by
      rw [all, List.append_cons]
    obtain ⟨blocks, later, areBlocks⟩ := ih (settled.visited named indexed) regroup
    refine ⟨block :: blocks, ?_, .cons isBlock areBlocks⟩
    rw [List.foldl_cons, later, first, List.flatten_cons, List.append_assoc]

end Walk

/-! ## Plans -/

namespace LoweringResult

/-- The resource that counts for a name, the last one, depends on another name that is there. -/
def Leads (result : LoweringResult) (a b : String) : Prop :=
  ∃ r, lastNamed? result.resources a = some r ∧ b ∈ r.dependsOn ∧
    b ∈ result.resources.map Resource.name

/-- One name leads to another, in any number of steps. -/
def Reaches (result : LoweringResult) : String → String → Prop :=
  Relation.ReflTransGen result.Leads

/-- A name is led to by one that is strictly smaller than `s`. -/
def ReachedBelow (result : LoweringResult) (s name : String) : Prop :=
  ∃ t ∈ result.resources.map Resource.name, t < s ∧ result.Reaches t name

/-- The part of a plan that belongs to the name `s`: nothing if a smaller name leads to it, and
otherwise what `s` leads to and no smaller name does, each once, with `s` itself at the end. -/
structure IsBlock (result : LoweringResult) (s : String) (block : List PlannedResource) : Prop where
  reached : result.ReachedBelow s s → block = []
  nodup : (block.map PlannedResource.name).Nodup
  mem_iff : ∀ p, p ∈ block ↔
    (lastNamed? result.resources p.name).map PlannedResource.ofResource = some p ∧
      result.Reaches s p.name ∧ ¬ result.ReachedBelow s p.name
  last : ¬ result.ReachedBelow s s → ∃ before p, block = before ++ [p] ∧ p.name = s

/-- Dependencies in the index are those that lead on in the result. -/
theorem depends_index_iff {result : LoweringResult} {a b : String} :
    (ResourceIndex.ofList result.resources).Depends a b ↔ result.Leads a b := by
  simp only [ResourceIndex.Depends, Leads, ResourceIndex.get?_ofList, lastNamed?,
    ResourceIndex.mem_keys_ofList]

/-- So the index leads where the result leads. -/
theorem reaches_index (result : LoweringResult) :
    (ResourceIndex.ofList result.resources).Reaches = result.Reaches := by
  have step : (ResourceIndex.ofList result.resources).Depends = result.Leads := by
    funext a b
    exact propext depends_index_iff
  rw [ResourceIndex.Reaches, Reaches, step]

/-- Where every name occurs once, a name leads to what its resource depends on. -/
theorem leads_iff_depends {result : LoweringResult}
    (nodup : (result.resources.map Resource.name).Nodup) {a b : String} :
    result.Leads a b ↔ result.Depends a b := by
  constructor
  · rintro ⟨r, last, depended, there⟩
    have present := List.mem_reverse.mp (List.mem_of_find?_eq_some last)
    exact ⟨r, present, name_of_lastNamed? last, depended, there⟩
  · rintro ⟨r, present, rfl, depended, there⟩
    have counts := (mem_constructionOrder _).mp ((mem_constructionOrder_of_nodup nodup).mpr present)
    exact ⟨r, counts, depended, there⟩

/-- What belongs to a name in the index belongs to it in the result, as it is planned. -/
theorem isBlock_map {result : LoweringResult} {s : String} {block : List Resource}
    (isBlock : (ResourceIndex.ofList result.resources).IsBlock s block) :
    result.IsBlock s (block.map PlannedResource.ofResource) := by
  have below : ∀ name, (ResourceIndex.ofList result.resources).ReachedBelow s name ↔
      result.ReachedBelow s name := by
    intro name
    simp only [ResourceIndex.ReachedBelow, ReachedBelow, reaches_index,
      ResourceIndex.mem_keys_ofList]
  refine ⟨?_, ?_, ?_, ?_⟩
  · intro reached
    rw [isBlock.reached ((below s).mpr reached), List.map_nil]
  · rw [List.map_map]
    exact isBlock.nodup
  · intro p
    rw [List.mem_map, Option.map_eq_some_iff]
    constructor
    · rintro ⟨r, member, rfl⟩
      obtain ⟨known, way, free⟩ := (isBlock.mem_iff r).mp member
      rw [ResourceIndex.get?_ofList] at known
      rw [reaches_index] at way
      exact ⟨⟨r, known, rfl⟩, way, mt (below r.name).mpr free⟩
    · rintro ⟨⟨r, last, rfl⟩, way, free⟩
      refine ⟨r, (isBlock.mem_iff r).mpr ⟨?_, ?_, mt (below r.name).mp free⟩, rfl⟩
      · rw [ResourceIndex.get?_ofList]
        exact last
      · rw [reaches_index]
        exact way
  · intro free
    obtain ⟨before, r, split, own⟩ := isBlock.last (mt (below s).mp free)
    exact ⟨before.map .ofResource, .ofResource r, by rw [split, List.map_append]; rfl, own⟩

end LoweringResult

namespace Plan

/-- **The layout of a plan.** A plan is made of one block for each name of the lowering result, in
strictly ascending order of names. Here the last resource of a name counts; where every name occurs
once, that is the only one. -/
theorem ofResult_layout (result : LoweringResult) :
    (∃ names blocks, names.Pairwise (· < ·) ∧
      (∀ name, name ∈ names ↔ name ∈ result.resources.map Resource.name) ∧
      (ofResult result).resources = blocks.flatten ∧ List.Forall₂ result.IsBlock names blocks) ∧
    ((result.resources.map Resource.name).Nodup →
      ∀ a b, result.Reaches a b ↔ Relation.ReflTransGen result.Depends a b) := by
  have named := ResourceIndex.named_ofList result.resources
  have ascending := Entries.ascending_sortedOfList
    (result.resources.map fun r => (r.name, r))
  constructor
  · obtain ⟨blocks, finished, areBlocks⟩ :=
      (Walk.settled_start _).exists_blocks named _ (List.nil_append _).symm ascending
    refine ⟨_, blocks.map (List.map PlannedResource.ofResource), ascending,
      fun _ => ResourceIndex.mem_keys_ofList, ?_, ?_⟩
    · have order : constructionOrder result.resources = blocks.flatten := by
        rw [constructionOrder, finished]
        rfl
      rw [ofResult, ofOrdered, order, List.map_flatten]
    · rw [List.forall₂_map_right_iff]
      exact areBlocks.imp fun _ _ isBlock => LoweringResult.isBlock_map isBlock
  · intro nodup a b
    have step : result.Leads = result.Depends := by
      funext a b
      exact propext (LoweringResult.leads_iff_depends nodup)
    rw [LoweringResult.Reaches, step]

end Plan

end CloudPlan
