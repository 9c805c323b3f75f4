import CloudPlan.Proofs.Provenance

/-!
# The result is determined by what was gathered

Every resource carries the source that it was recorded for, so the map of a pass lists, for each
source, the names of the gathered resources that carry it (`Pass.Indexed`). One step of lowering keeps
this, and so does a whole run (`Adapter.indexed_gather`). Therefore two runs end with the same resources
and the same map exactly if they gather the same first resource of each name and the same names for
each source.
-/

set_option autoImplicit false

namespace CloudPlan

/-! ## Entries in ascending order of keys -/

namespace Entries

variable {α : Type} {es fs : Entries α}

/-- Ascending entries are determined by what is found in them. -/
theorem ext_of_ascending (first : (keys es).Pairwise (· < ·)) (second : (keys fs).Pairwise (· < ·))
    (same : ∀ key, get? es key = get? fs key) : es = fs := by
  apply eq_of_ascending (List.pairwise_map.mp first) (List.pairwise_map.mp second)
  rintro ⟨key, value⟩
  rw [mem_iff_get? first, mem_iff_get? second, same]

end Entries

namespace Pass

/-! ## The first resource of each name -/

/-- A resource is found first under its name exactly if it is kept in the end. -/
theorem find?_eq_some_iff {pass : Pass} {name : String} {r : Resource} :
    pass.resources.find? (fun s => s.name == name) = some r ↔
      r.name = name ∧ r ∈ pass.finish.resources := by
  constructor
  · intro first
    have same : r.name = name := by simpa using List.find?_some first
    exact ⟨same, mem_finish.mpr (by rw [same, first])⟩
  · rintro ⟨rfl, kept⟩
    exact mem_finish.mp kept

/-- Sorted by name, resources with distinct names are in strictly ascending order. -/
theorem ascending_mergeSort {resources : List Resource}
    (distinct : (resources.map Resource.name).Nodup) :
    (resources.mergeSort fun a b => a.name ≤ b.name).Pairwise fun a b => a.name < b.name := by
  -- sorting gives `≤`, and names are distinct
  have sorted : (resources.mergeSort fun a b => a.name ≤ b.name).Pairwise
      fun a b => decide (a.name ≤ b.name) = true := by
    apply List.pairwise_mergeSort
    · intro a b c ab bc
      exact decide_eq_true (String.le_trans (of_decide_eq_true ab) (of_decide_eq_true bc))
    · intro a b
      simpa using String.le_total a.name b.name
  have reordered := (List.mergeSort_perm resources fun a b => a.name ≤ b.name).map Resource.name
  have different := List.pairwise_map.mp (reordered.nodup_iff.mpr distinct)
  refine (sorted.and different).imp ?_
  rintro a b ⟨le, ne⟩
  apply String.not_le.mp
  intro ge
  exact ne (String.le_antisymm (of_decide_eq_true le) ge)

/-- The resources of a finished pass stand in ascending order of their names, each name once. -/
theorem ascending_finish (pass : Pass) :
    pass.finish.resources.Pairwise fun a b => a.name < b.name :=
  ascending_mergeSort (nodup_firstOfEachName [] pass.resources)

/-- Two passes end with the same resources exactly if they find the same first one of each name. -/
theorem finish_resources_eq_iff {p q : Pass} :
    p.finish.resources = q.finish.resources ↔
      ∀ name, p.resources.find? (fun r => r.name == name) =
        q.resources.find? fun r => r.name == name := by
  constructor
  · intro same name
    apply Option.ext
    intro r
    rw [find?_eq_some_iff, find?_eq_some_iff, same]
  · intro same
    apply eq_of_ascending (ascending_finish p) (ascending_finish q)
    intro r
    rw [mem_finish, mem_finish, same]

/-! ## Names by source -/

/-- The names of the resources that carry a source, each once, in order of first mention. -/
def namesFor (resources : List Resource) (source : String) : List String :=
  ((resources.filter fun r => r.source == source).map Resource.name).foldl addName []

/-- Adding names keeps the old ones and adds each of the new ones. -/
theorem mem_foldl_addName {more names : List String} {x : String} :
    x ∈ more.foldl addName names ↔ x ∈ names ∨ x ∈ more := by
  induction more generalizing names with
  | nil => simp
  | cons y rest ih =>
    rw [List.foldl_cons, ih, addName]
    split
    · rename_i present
      have there : y ∈ names := by simpa using present
      constructor
      · rintro (old | later)
        · exact Or.inl old
        · exact Or.inr (List.mem_cons_of_mem _ later)
      · rintro (old | new)
        · exact Or.inl old
        · rcases List.mem_cons.mp new with rfl | later
          · exact Or.inl there
          · exact Or.inr later
    · rw [List.mem_append, List.mem_singleton, List.mem_cons, or_assoc]

/-- Adding names that are already there changes nothing. -/
theorem foldl_addName_of_subset {more names : List String} (present : ∀ x ∈ more, x ∈ names) :
    more.foldl addName names = names := by
  induction more with
  | nil => rfl
  | cons y rest ih =>
    have there : y ∈ names := present y List.mem_cons_self
    rw [List.foldl_cons, addName, if_pos (by simpa using there)]
    exact ih fun x later => present x (List.mem_cons_of_mem _ later)

/-- The names for a source are those of the resources that carry it. -/
theorem mem_namesFor {resources : List Resource} {source name : String} :
    name ∈ namesFor resources source ↔ ∃ r ∈ resources, r.source = source ∧ r.name = name := by
  unfold namesFor
  rw [mem_foldl_addName]
  simp [and_assoc]

/-- The names of more resources are added to those of the first ones. -/
theorem namesFor_append (resources more : List Resource) (source : String) :
    namesFor (resources ++ more) source =
      ((more.filter fun r => r.source == source).map Resource.name).foldl addName
        (namesFor resources source) := by
  rw [namesFor, List.filter_append, List.map_append, List.foldl_append]
  rfl

/-- The map of a pass lists for each source the names of the resources that carry it. -/
structure Indexed (pass : Pass) : Prop where
  ascending : (Entries.keys pass.resourceMap).Pairwise (· < ·)
  names : ∀ source, Entries.get? pass.resourceMap source =
    if namesFor pass.resources source = [] then none else some (namesFor pass.resources source)

namespace Indexed

/-- Nothing is recorded at the start, and the map is empty. -/
theorem start : Pass.start.Indexed where
  ascending := List.Pairwise.nil
  names _ := rfl

/-- A source that is not in the map has no names. -/
theorem getD_names {pass : Pass} (indexed : pass.Indexed) (source : String) :
    (Entries.get? pass.resourceMap source).getD [] = namesFor pass.resources source := by
  rw [indexed.names source]
  split
  · rename_i nothing
    rw [nothing]
    rfl
  · rfl

/-- Recording keeps the map in agreement with the resources, if these carry the source that they are
recorded for. -/
theorem record {pass : Pass} (indexed : pass.Indexed) {source : String}
    {resources : List Resource} (some : resources ≠ []) (own : ∀ r ∈ resources, r.source = source) :
    (pass.record source resources).Indexed where
  ascending := Entries.ascending_insertSorted _ _ indexed.ascending
  names other := by
    show Entries.get? (Entries.insertSorted _ _ _) other = _
    have joined : (pass.record source resources).resources = pass.resources ++ resources := rfl
    rw [Entries.get?_insertSorted, indexed.getD_names, joined, namesFor_append]
    by_cases same : source = other
    · subst same
      have all : resources.filter (fun r => r.source == source) = resources := by
        rw [List.filter_eq_self]
        intro r member
        simpa using own r member
      obtain ⟨r, rest, rfl⟩ := List.exists_cons_of_ne_nil some
      have listed : r.name ∈
          ((r :: rest).map Resource.name).foldl addName (namesFor pass.resources source) :=
        mem_foldl_addName.mpr (Or.inr List.mem_cons_self)
      rw [all, if_pos rfl, if_neg (List.ne_nil_of_mem listed)]
    · have none : resources.filter (fun r => r.source == other) = [] := by
        rw [List.filter_eq_nil_iff]
        intro r member
        simpa [own r member] using same
      rw [none, if_neg same, indexed.names other]
      rfl

/-- Recording resources one by one keeps the map in step with them. -/
theorem recordEach {pass : Pass} (indexed : pass.Indexed) (resources : List Resource) :
    (Adapter.recordEach pass resources).Indexed := by
  induction resources generalizing pass with
  | nil => exact indexed
  | cons r rest ih =>
    apply ih
    apply indexed.record (List.cons_ne_nil _ _)
    intro s member
    rw [List.mem_singleton.mp member]

/-- Two maps are the same exactly if the same names are listed for each source. -/
theorem resourceMap_eq_iff {p q : Pass} (first : p.Indexed) (second : q.Indexed) :
    p.resourceMap = q.resourceMap ↔
      ∀ source, namesFor p.resources source = namesFor q.resources source := by
  constructor
  · intro same source
    rw [← first.getD_names, ← second.getD_names, same]
  · intro same
    apply Entries.ext_of_ascending first.ascending second.ascending
    intro source
    rw [first.names, second.names, same]

end Indexed

end Pass

/-! ## Sources -/

/-- What an access intent becomes carries the id of its edge. -/
theorem AccessIntent.source_of_mem_resources {i : AccessIntent} {p : Platform} {scope : Value}
    {r : Resource} (member : r ∈ i.resources p scope) : r.source = i.edge := by
  simp only [resources, execRole, List.cons_append, List.nil_append, List.mem_cons,
    List.not_mem_nil, or_false] at member
  rcases member with rfl | rfl | rfl | rfl
  · rfl
  · rfl
  · rfl
  · rfl

/-- What a node becomes carries the node's id, and it is something. -/
theorem Platform.source_of_lower {p : Platform} {n : Node} {ctx : Context} {needs : Needs}
    {resources : List Resource} (lowered : p.lower n ctx needs = .ok resources) :
    resources ≠ [] ∧ ∀ r ∈ resources, r.source = n.id := by
  cases p with
  | computeFunction =>
    simp only [lower, lowerFunction] at lowered
    split at lowered
    · cases lowered
      refine ⟨List.cons_ne_nil _ _, ?_⟩
      intro r member
      rw [List.mem_singleton.mp member, source_functionOf]
    · cases lowered
      refine ⟨List.cons_ne_nil _ _, ?_⟩
      intro r member
      simp only [execRole, List.cons_append, List.nil_append, List.mem_cons, List.not_mem_nil,
        or_false] at member
      rcases member with rfl | rfl | rfl
      · rfl
      · rfl
      · exact source_functionOf
  | queue =>
    cases lowered
    simp
  | keyValueTable =>
    simp only [lower, lowerTable, bind, Except.bind] at lowered
    split at lowered
    · cases lowered
    · split at lowered
      · cases lowered
      · cases lowered
        simp
  | objectStore =>
    cases lowered
    refine ⟨List.cons_ne_nil _ _, ?_⟩
    intro r member
    rcases List.mem_cons.mp member with rfl | second
    · exact source_bucketOf
    · split at second
      · rw [List.mem_singleton.mp second]
        rfl
      · cases second
  | httpGateway =>
    cases lowered
    refine ⟨List.cons_ne_nil _ _, ?_⟩
    intro r member
    rcases List.mem_cons.mp member with rfl | second
    · exact source_apiOf
    · rw [List.mem_singleton.mp second]
      rfl
  | pubsubTopic =>
    cases lowered
    simp

namespace Adapter

variable (mode : LookupMode) (ctx : Context)

/-! ## One step of the standard adapter -/

/-- An access intent that can be lowered is recorded for its edge, and another one is reported. -/
theorem lowerIntent_access_of_ok (pass : Pass) {i : AccessIntent} {resources : List Resource}
    (lowered : i.lower ctx = .ok resources) :
    (standard mode).lowerIntent ctx pass (.access i) = pass.record i.edge resources := by
  have run : runIntent .access ctx pass (.access i) = .ok (pass.record i.edge resources) := by
    show (i.lower ctx).bind _ = _
    rw [lowered]
    rfl
  have found : (standard mode).intentLowerer? (Intent.access i).kind = some .access := rfl
  rw [lowerIntent, if_neg (by simp [Intent.kind]), found]
  simp only [run]

/-- An access intent that cannot be lowered is reported for its edge. -/
theorem lowerIntent_access_of_error (pass : Pass) {i : AccessIntent} {e : LowerError}
    (lowered : i.lower ctx = .error e) :
    (standard mode).lowerIntent ctx pass (.access i) =
      pass.report (.failed i.edge "identity-access" e.message) := by
  have run : runIntent .access ctx pass (.access i) = .error e := by
    show (i.lower ctx).bind _ = _
    rw [lowered]
    rfl
  have found : (standard mode).intentLowerer? (Intent.access i).kind = some .access := rfl
  rw [lowerIntent, if_neg (by simp [Intent.kind]), found]
  simp only [run]
  rfl

/-- A config intent whose parameter is free is recorded for its edge, and otherwise reported. -/
theorem lowerIntent_config (pass : Pass) (i : ConfigIntent) :
    (standard mode).lowerIntent ctx pass (.config i) =
      match (i.lower ctx).bind fun resources =>
        (pass.claim i.edge resources).map fun next => next.record i.edge resources with
      | .ok next => next
      | .error e => pass.report (.failed i.edge "config" e.message) := by
  have start : (standard mode).lowerIntent ctx pass (.config i) =
      match runIntent .config ctx pass (.config i) with
      | .ok next => next
      | .error e => pass.report (.failed i.edge "config" e.message) := rfl
  have run : runIntent .config ctx pass (.config i) =
      (i.lower ctx).bind fun resources =>
        (pass.claim i.edge resources).map fun next => next.record i.edge resources := by
    show (i.lower ctx).bind _ = _
    cases i.lower ctx with
    | error e => rfl
    | ok resources =>
      show (pass.claim i.edge resources).bind _ = (pass.claim i.edge resources).map _
      cases pass.claim i.edge resources <;> rfl
  rw [start, run]

/-- What the standard adapter makes of one intent. Only a config intent whose parameter is free claims
a name, and whatever cannot be lowered is reported for its edge and changes nothing else. -/
inductive IntentStep (ctx : Context) (pass : Pass) : Intent → Pass → Prop where
  | granted {i : AccessIntent} {p : Platform} {scope : Value}
      (lowered : i.lower ctx = .ok (i.resources p scope)) :
      IntentStep ctx pass (.access i) (pass.record i.edge (i.resources p scope))
  | denied {i : AccessIntent} {e : LowerError} (fault : i.lower ctx = .error e) :
      IntentStep ctx pass (.access i) (pass.report (.failed i.edge "identity-access" e.message))
  | stored {i : ConfigIntent} (keyed : Text.isBlankText i.key = false)
      (free : i.parameterName ∉ Entries.keys pass.parameters) :
      IntentStep ctx pass (.config i) (Pass.record
        { pass with parameters := Entries.insert pass.parameters i.parameterName i.edge }
        i.edge [i.parameter ctx])
  | rejected {i : ConfigIntent} {e : LowerError}
      (reason : Text.isBlankText i.key = true ∨ i.parameterName ∈ Entries.keys pass.parameters) :
      IntentStep ctx pass (.config i) (pass.report (.failed i.edge "config" e.message))
  | skipped {x : Intent} {message : String} (foreign : x.kind = .network ∨ x.kind = .other) :
      IntentStep ctx pass x (pass.report (.warn x.edge message))
  | ignored {i : TelemetryIntent} : IntentStep ctx pass (.telemetry i) pass

/-- One of these is what the standard adapter does with an intent. -/
theorem intentStep_lowerIntent (pass : Pass) (x : Intent) :
    IntentStep ctx pass x ((standard mode).lowerIntent ctx pass x) := by
  cases x with
  | access i =>
    cases lowered : i.lower ctx with
    | error e =>
      rw [lowerIntent_access_of_error mode ctx pass lowered]
      exact .denied lowered
    | ok resources =>
      rw [lowerIntent_access_of_ok mode ctx pass lowered]
      obtain ⟨_, p, scope, _, _, rfl⟩ := AccessIntent.lower_eq_ok_iff.mp lowered
      exact .granted lowered
  -- config intents alone claim names, so only they can be rejected for one
  | config i =>
    have name : (i.parameter ctx).name = i.parameterName := rfl
    rw [lowerIntent_config, ConfigIntent.lower]
    by_cases blank : Text.isBlankText i.key = true
    · rw [if_pos blank]
      exact .rejected (Or.inl blank)
    · rw [if_neg blank]
      simp only [Except.bind, Pass.claim, Pass.takenParameter?, List.findSome?_cons,
        List.findSome?_nil, name]
      cases taken : Entries.get? pass.parameters i.parameterName with
      | some owner =>
        have known : i.parameterName ∈ Entries.keys pass.parameters := by
          rw [← Entries.get?_isSome_iff, taken]
          rfl
        exact .rejected (Or.inr known)
      | none =>
        have keyed : Text.isBlankText i.key = false := by simpa using blank
        exact .stored keyed (Entries.get?_eq_none_iff.mp taken)
  | network i => exact .skipped (Or.inl rfl)
  | telemetry i => exact .ignored
  | other i => exact .skipped (Or.inr rfl)

/-- A node of a known platform is recorded for its id, or reported. -/
theorem lowerNode_standard (needs : NeedsIndex) (pass : Pass) (n : Node) :
    (standard mode).lowerNode ctx needs pass n =
      match n.platform? with
      | none => pass
      | some platform =>
        match Platform.ofName? platform with
        | none =>
          pass.report (.warn n.id ("no lowerer registered for platform '" ++ platform ++ "'"))
        | some p =>
          match p.lower n ctx ((Entries.get? needs n.id).getD .none) with
          | .ok resources => pass.record n.id resources
          | .error e => pass.report (.failed n.id platform e.message) := by
  unfold lowerNode
  cases n.platform? with
  | none => rfl
  | some platform =>
    simp only [nodeLowerer?_standard]
    cases Platform.ofName? platform <;> rfl

/-! ## The map of a whole run -/

variable {mode ctx}

/-- What the adapter does with an intent keeps the map in step with the resources. -/
theorem IntentStep.indexed {pass next : Pass} {x : Intent} (step : IntentStep ctx pass x next)
    (indexed : pass.Indexed) : next.Indexed := by
  cases step with
  | @granted i p scope _ =>
    have some : i.resources p scope ≠ [] := List.cons_ne_nil _ _
    exact indexed.record some fun r member => AccessIntent.source_of_mem_resources member
  | @stored i _ _ =>
    -- a claim changes neither resources nor map
    have claimed : Pass.Indexed { pass with
        parameters := Entries.insert pass.parameters i.parameterName i.edge } :=
      ⟨indexed.ascending, indexed.names⟩
    refine claimed.record (List.cons_ne_nil _ _) ?_
    intro r member
    rw [List.mem_singleton.mp member]
    rfl
  | denied => exact ⟨indexed.ascending, indexed.names⟩
  | rejected => exact ⟨indexed.ascending, indexed.names⟩
  | skipped => exact ⟨indexed.ascending, indexed.names⟩
  | ignored => exact indexed

/-- So does lowering a node. -/
theorem indexed_lowerNode (needs : NeedsIndex) {pass : Pass} (indexed : pass.Indexed) (n : Node) :
    ((standard mode).lowerNode ctx needs pass n).Indexed := by
  rw [lowerNode_standard]
  split
  · exact indexed
  · split
    · exact ⟨indexed.ascending, indexed.names⟩
    · split
      · rename_i resources lowered
        obtain ⟨some, own⟩ := Platform.source_of_lower lowered
        exact indexed.record some own
      · exact ⟨indexed.ascending, indexed.names⟩

/-- If each step keeps the map in step with the resources, all of them together do. -/
theorem indexed_foldl {α : Type} {f : Pass → α → Pass}
    (step : ∀ pass x, pass.Indexed → (f pass x).Indexed) (xs : List α) {pass : Pass}
    (indexed : pass.Indexed) : (xs.foldl f pass).Indexed := by
  induction xs generalizing pass with
  | nil => exact indexed
  | cons x rest ih => exact ih (step pass x indexed)

variable (mode ctx)

/-- After a whole run the map lists for each source the names of the gathered resources that carry
it. -/
theorem indexed_gather : ((standard mode).gather ctx).Indexed := by
  have intents : ((standard mode).lowerIntents ctx .start).Indexed :=
    indexed_foldl (fun pass x => (intentStep_lowerIntent mode ctx pass x).indexed) ctx.intents .start
  have nodes : ((standard mode).gatherSources ctx).Indexed :=
    indexed_foldl (fun _ n indexed => indexed_lowerNode (needsOf ctx) indexed n) ctx.graph.nodes
      intents
  exact (nodes.recordEach (eventMappings ctx)).recordEach (httpIntegrations ctx)

end Adapter

end CloudPlan
