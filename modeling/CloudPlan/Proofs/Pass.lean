import CloudPlan.Lowering.Adapter

/-!
# What a pass gathers

Every intent and every node either adds what its lowerer yields or fails with an error
(`Pass.Step`), so a run adds outcomes in order and loses none of them unless it reports an error.
`Adapter.mem_gather` says where a gathered resource comes from, and `Adapter.outcomes_of_clean` what
exactly a run without errors gathers. `Pass.mem_finish` is the rule by which resources are kept in
the end: the first one of each name.
-/

set_option autoImplicit false

namespace CloudPlan

/-- The resources that an outcome consists of; a failure has none. -/
def made : Lowered → List Resource
  | .ok resources => resources
  | .error _ => []

namespace Pass

/-- No error has been reported. -/
def Clean (pass : Pass) : Prop :=
  ∀ d ∈ pass.diagnostics, d.severity ≠ .error

/-- What an outcome does to a pass: its resources are added, with no more than warnings, or an error
is reported and nothing added. -/
inductive Step (pass : Pass) (outcome : Lowered) (next : Pass) : Prop where
  | recorded {resources : List Resource} {warnings : List Diagnostic}
      (yielded : outcome = .ok resources)
      (added : next.resources = pass.resources ++ resources)
      (reported : next.diagnostics = pass.diagnostics ++ warnings)
      (mild : ∀ d ∈ warnings, d.severity ≠ .error)
  | failed {d : Diagnostic} (kept : next.resources = pass.resources)
      (reported : next.diagnostics = pass.diagnostics ++ [d]) (severe : d.severity = .error)

/-- A step adds nothing but what the outcome consists of. -/
theorem Step.mem {pass next : Pass} {outcome : Lowered} (step : Step pass outcome next)
    {r : Resource} (present : r ∈ next.resources) :
    r ∈ pass.resources ∨ r ∈ made outcome := by
  cases step with
  | recorded yielded added _ _ =>
    rw [added, List.mem_append] at present
    rw [yielded]
    exact present
  | failed kept _ _ =>
    rw [kept] at present
    exact Or.inl present

/-- A step without an error adds all that the outcome consists of, and the outcome is no failure. -/
theorem Step.of_clean {pass next : Pass} {outcome : Lowered} (step : Step pass outcome next)
    (clean : next.Clean) :
    pass.Clean ∧ (∃ resources, outcome = .ok resources) ∧
      next.resources = pass.resources ++ made outcome := by
  cases step with
  | recorded yielded added reported _ =>
    refine ⟨?_, ⟨_, yielded⟩, ?_⟩
    · intro d present
      apply clean
      rw [reported]
      exact List.mem_append_left _ present
    · rw [added, yielded]
      rfl
  | @failed d _ reported severe =>
    refine absurd severe (clean d ?_)
    rw [reported]
    exact List.mem_append_right _ (List.mem_singleton.mpr rfl)

section Run

variable {α : Type} {f : Pass → α → Pass} {outcome : α → Lowered}

/-- A run of steps adds nothing but what its outcomes consist of. -/
theorem mem_foldl (steps : ∀ pass x, Step pass (outcome x) (f pass x)) (xs : List α) (pass : Pass)
    {r : Resource} (present : r ∈ (xs.foldl f pass).resources) :
    r ∈ pass.resources ∨ ∃ x ∈ xs, r ∈ made (outcome x) := by
  induction xs generalizing pass with
  | nil => exact Or.inl present
  | cons x rest ih =>
    rcases ih _ present with before | ⟨y, later, there⟩
    · rcases (steps pass x).mem before with old | new
      · exact Or.inl old
      · exact Or.inr ⟨x, List.mem_cons_self, new⟩
    · exact Or.inr ⟨y, List.mem_cons_of_mem _ later, there⟩

/-- A run of steps without an error adds all outcomes in order, and none of them is a failure. -/
theorem foldl_of_clean (steps : ∀ pass x, Step pass (outcome x) (f pass x)) (xs : List α)
    (pass : Pass) (clean : (xs.foldl f pass).Clean) :
    pass.Clean ∧ (∀ x ∈ xs, ∃ resources, outcome x = .ok resources) ∧
      (xs.foldl f pass).resources = pass.resources ++ xs.flatMap fun x => made (outcome x) := by
  induction xs generalizing pass with
  | nil => exact ⟨clean, by simp, by simp⟩
  | cons x rest ih =>
    obtain ⟨cleanNext, yielded, resources⟩ := ih (f pass x) clean
    obtain ⟨cleanFirst, first, added⟩ := (steps pass x).of_clean cleanNext
    refine ⟨cleanFirst, ?_, ?_⟩
    · intro y present
      rcases List.mem_cons.mp present with rfl | later
      · exact first
      · exact yielded y later
    · rw [List.foldl_cons, resources, added, List.flatMap_cons, List.append_assoc]

end Run

/-! ## The first resource of each name -/

/-- Kept are the resources that are first of their name, if that name has not been seen before. -/
theorem mem_firstOfEachName (seen : List String) (resources : List Resource) (r : Resource) :
    r ∈ firstOfEachName seen resources ↔
      r.name ∉ seen ∧ resources.find? (fun s => s.name == r.name) = some r := by
  induction resources generalizing seen with
  | nil => simp [firstOfEachName]
  | cons s rest ih =>
    by_cases taken : s.name ∈ seen
    · rw [firstOfEachName, if_pos (by simpa using taken), ih]
      by_cases same : s.name = r.name
      · simp [← same, taken]
      · simp [same]
    · rw [firstOfEachName, if_neg (by simpa using taken), List.mem_cons, ih]
      by_cases same : s.name = r.name
      · simp only [List.find?_cons_of_pos, beq_iff_eq, same, List.mem_cons, true_or, not_true,
          false_and, or_false, Option.some.injEq]
        rw [← same]
        constructor
        · intro h
          exact ⟨taken, h.symm⟩
        · intro h
          exact h.2.symm
      · have different : ¬ r = s := by
          intro h
          exact same (by rw [h])
        simp [same, different, Ne.symm same]

/-- The first ones of each name have no name twice. -/
theorem nodup_firstOfEachName (seen : List String) (resources : List Resource) :
    ((firstOfEachName seen resources).map Resource.name).Nodup := by
  induction resources generalizing seen with
  | nil => exact List.nodup_nil
  | cons s rest ih =>
    by_cases taken : s.name ∈ seen
    · rw [firstOfEachName, if_pos (by simpa using taken)]
      exact ih seen
    · rw [firstOfEachName, if_neg (by simpa using taken), List.map_cons]
      refine List.nodup_cons.mpr ⟨?_, ih _⟩
      intro again
      obtain ⟨r, kept, same⟩ := List.mem_map.mp again
      have unseen := ((mem_firstOfEachName _ _ _).mp kept).1
      exact unseen (by simp [same])

/-- In the end a resource is kept if it is the first of its name. -/
theorem mem_finish {pass : Pass} {r : Resource} :
    r ∈ pass.finish.resources ↔ pass.resources.find? (fun s => s.name == r.name) = some r := by
  rw [finish, List.mem_mergeSort, mem_firstOfEachName]
  simp

/-- What is kept has been gathered. -/
theorem mem_of_mem_finish {pass : Pass} {r : Resource} (kept : r ∈ pass.finish.resources) :
    r ∈ pass.resources :=
  List.mem_of_find?_eq_some (mem_finish.mp kept)

/-- A resource is kept for each name that has been gathered. -/
theorem exists_mem_finish {pass : Pass} {r : Resource} (gathered : r ∈ pass.resources) :
    ∃ s ∈ pass.finish.resources, s.name = r.name := by
  have found : (pass.resources.find? fun s => s.name == r.name).isSome = true := by
    rw [List.find?_isSome]
    exact ⟨r, gathered, by simp⟩
  obtain ⟨s, first⟩ := Option.isSome_iff_exists.mp found
  have same : s.name = r.name := by simpa using List.find?_some first
  exact ⟨s, mem_finish.mpr (by rw [same, first]), same⟩

/-- Only one resource is kept of each name. -/
theorem eq_of_name_eq {pass : Pass} {r s : Resource} (first : r ∈ pass.finish.resources)
    (second : s ∈ pass.finish.resources) (same : r.name = s.name) : r = s := by
  have found := mem_finish.mp first
  rw [same, mem_finish.mp second, Option.some.injEq] at found
  exact found.symm

/-- A resource is kept if no resource before it bears its name. -/
theorem mem_finish_of_split {pass : Pass} {before after : List Resource} {r : Resource}
    (split : pass.resources = before ++ r :: after) (fresh : ∀ s ∈ before, s.name ≠ r.name) :
    r ∈ pass.finish.resources := by
  rw [mem_finish, split, List.find?_eq_some_iff_append]
  refine ⟨by simp, before, after, rfl, ?_⟩
  intro s early
  simpa using fresh s early

/-- No name is kept twice. -/
theorem nodup_finish (pass : Pass) : (pass.finish.resources.map Resource.name).Nodup := by
  have sorted := List.mergeSort_perm (firstOfEachName [] pass.resources)
    fun a b => a.name ≤ b.name
  exact (sorted.map Resource.name).nodup_iff.mpr (nodup_firstOfEachName [] pass.resources)

/-- What is found first in joined parts is the find of the first part that has one. `q` tells which
parts have one, and `h` what is to be known of it. -/
theorem map_find?_flatMap {α β γ : Type} {g : α → List β} {p : β → Bool} {k : β → γ}
    {q : α → Bool} {h : α → γ} {xs : List α}
    (each : ∀ x ∈ xs, ((g x).find? p).map k = if q x = true then some (h x) else none) :
    ((xs.flatMap g).find? p).map k = (xs.find? q).map h := by
  induction xs with
  | nil => rfl
  | cons x rest ih =>
    have inRest := ih fun y later => each y (List.mem_cons_of_mem _ later)
    rw [List.flatMap_cons, List.find?_append, Option.map_or, each x List.mem_cons_self, inRest]
    by_cases has : q x = true
    · rw [if_pos has, List.find?_cons_of_pos has]
      rfl
    · rw [if_neg has, List.find?_cons_of_neg has]
      rfl

/-- A result is a success exactly if the pass has gathered no error. -/
theorem success_finish_iff {pass : Pass} : pass.finish.success = true ↔ pass.Clean := by
  simp [finish, Clean]

end Pass

namespace Adapter

/-! ## Outcomes -/

/-- What the lowerer for an intent yields; an intent without one yields nothing. -/
def intentOutcome (a : Adapter) (ctx : Context) (intent : Intent) : Lowered :=
  if intent.kind = .network then .ok []
  else
    match a.intentLowerer? intent.kind with
    | none => .ok []
    | some l => l.lower intent ctx

/-- What the lowerer for a node yields; a node without one yields nothing. -/
def nodeOutcome (a : Adapter) (ctx : Context) (node : Node) : Lowered :=
  match node.platform?.bind a.nodeLowerer? with
  | none => .ok []
  | some l => l.lower node ctx ((Entries.get? (needsOf ctx) node.id).getD .none)

/-- A report that is no error is a step that gathers nothing. -/
theorem step_report (pass : Pass) {d : Diagnostic} (mild : d.severity ≠ .error) :
    Pass.Step pass (.ok []) (pass.report d) := by
  refine .recorded rfl (List.append_nil _).symm rfl ?_
  intro e present
  rw [List.mem_singleton.mp present]
  exact mild

/-- An intent adds what its lowerer yields, or an error is reported. -/
theorem step_lowerIntent (a : Adapter) (ctx : Context) (pass : Pass) (intent : Intent) :
    Pass.Step pass (a.intentOutcome ctx intent) (a.lowerIntent ctx pass intent) := by
  unfold intentOutcome lowerIntent
  by_cases network : intent.kind = .network
  · rw [if_pos network, if_pos network]
    exact step_report pass (by simp [Diagnostic.warn])
  · rw [if_neg network, if_neg network]
    cases a.intentLowerer? intent.kind with
    | none =>
      by_cases silent : intent.kind = .telemetry
      · simp only [if_pos silent]
        exact .recorded rfl (List.append_nil _).symm (List.append_nil _).symm (by simp)
      · simp only [if_neg silent]
        exact step_report pass (by simp [Diagnostic.warn])
    | some l =>
      cases outcome : l.lower intent ctx with
      | error e =>
        simp only [runIntent, outcome]
        exact .failed rfl rfl rfl
      | ok resources =>
        -- a claim changes the parameters alone, or fails
        have claimed : ∀ next, pass.claim intent.edge resources = .ok next →
            next.resources = pass.resources ∧ next.diagnostics = pass.diagnostics := by
          intro next claim
          unfold Pass.claim at claim
          split at claim
          · cases claim
          · cases claim
            exact ⟨rfl, rfl⟩
        by_cases config : intent.kind = .config
        · simp only [runIntent, outcome, if_pos config, bind, Except.bind]
          cases claim : pass.claim intent.edge resources with
          | error e => exact .failed rfl rfl rfl
          | ok next =>
            obtain ⟨sameResources, sameDiagnostics⟩ := claimed next claim
            refine .recorded rfl ?_ ((List.append_nil _).trans ?_).symm (by simp)
            · show next.resources ++ resources = _
              rw [sameResources]
            · exact sameDiagnostics.symm
        · simp only [runIntent, outcome, if_neg config, bind, Except.bind]
          exact .recorded rfl rfl (List.append_nil _).symm (by simp)

/-- A node adds what its lowerer yields, or an error is reported. -/
theorem step_lowerNode (a : Adapter) (ctx : Context) (pass : Pass) (node : Node) :
    Pass.Step pass (a.nodeOutcome ctx node) (a.lowerNode ctx (needsOf ctx) pass node) := by
  unfold nodeOutcome lowerNode
  cases node.platform? with
  | none => exact .recorded rfl (List.append_nil _).symm (List.append_nil _).symm (by simp)
  | some platform =>
    simp only [Option.bind_some]
    cases a.nodeLowerer? platform with
    | none => exact step_report pass (by simp [Diagnostic.warn])
    | some l =>
      cases outcome : l.lower node ctx ((Entries.get? (needsOf ctx) node.id).getD .none) with
      | error e =>
        simp only [outcome]
        exact .failed rfl rfl rfl
      | ok resources =>
        simp only [outcome]
        exact .recorded rfl rfl (List.append_nil _).symm (by simp)

/-- Recording resources one by one adds them in order and reports nothing. -/
theorem recordEach_eq (pass : Pass) (resources : List Resource) :
    (recordEach pass resources).resources = pass.resources ++ resources ∧
      (recordEach pass resources).diagnostics = pass.diagnostics := by
  unfold recordEach
  induction resources generalizing pass with
  | nil => simp
  | cons r rest ih =>
    obtain ⟨added, reported⟩ := ih (pass.record r.source [r])
    rw [List.foldl_cons, added, reported]
    simp [Pass.record]

/-! ## Gathering -/

/-- The run over intents and nodes, before edges are looked at. -/
def gatherSources (a : Adapter) (ctx : Context) : Pass :=
  a.lowerNodes ctx (a.lowerIntents ctx .start)

/-- After intents and nodes the edges add their resources and report nothing. -/
theorem gather_eq (a : Adapter) (ctx : Context) :
    (a.gather ctx).resources =
        (a.gatherSources ctx).resources ++ eventMappings ctx ++ httpIntegrations ctx ∧
      (a.gather ctx).diagnostics = (a.gatherSources ctx).diagnostics := by
  have phases : a.gather ctx =
      recordEach (recordEach (a.gatherSources ctx) (eventMappings ctx)) (httpIntegrations ctx) :=
    rfl
  rw [phases, (recordEach_eq _ _).1, (recordEach_eq _ _).2, (recordEach_eq _ _).1,
    (recordEach_eq _ _).2]
  exact ⟨rfl, rfl⟩

/-- A gathered resource comes from an intent, from a node or from edges. -/
theorem mem_gather (a : Adapter) (ctx : Context) {r : Resource}
    (gathered : r ∈ (a.gather ctx).resources) :
    (∃ intent ∈ ctx.intents, r ∈ made (a.intentOutcome ctx intent)) ∨
      (∃ node ∈ ctx.graph.nodes, r ∈ made (a.nodeOutcome ctx node)) ∨
      r ∈ eventMappings ctx ∨ r ∈ httpIntegrations ctx := by
  rw [(a.gather_eq ctx).1, List.append_assoc, List.mem_append, List.mem_append] at gathered
  rcases gathered with source | edge
  · rcases Pass.mem_foldl (a.step_lowerNode ctx) ctx.graph.nodes _ source with intent | node
    · rcases Pass.mem_foldl (a.step_lowerIntent ctx) ctx.intents .start intent with none | some
      · cases none
      · exact Or.inl some
    · exact Or.inr (Or.inl node)
  · exact Or.inr (Or.inr edge)

/-- A run without errors lowers every intent and every node. -/
theorem outcomes_of_clean (a : Adapter) (ctx : Context) (clean : (a.gather ctx).Clean) :
    (∀ intent ∈ ctx.intents, ∃ resources, a.intentOutcome ctx intent = .ok resources) ∧
      (∀ node ∈ ctx.graph.nodes, ∃ resources, a.nodeOutcome ctx node = .ok resources) ∧
      (a.gather ctx).resources =
        (ctx.intents.flatMap fun intent => made (a.intentOutcome ctx intent)) ++
        (ctx.graph.nodes.flatMap fun node => made (a.nodeOutcome ctx node)) ++
        eventMappings ctx ++ httpIntegrations ctx := by
  have cleanSources : (a.gatherSources ctx).Clean := by
    intro d present
    apply clean
    rw [(a.gather_eq ctx).2]
    exact present
  obtain ⟨cleanIntents, nodes, addedNodes⟩ :=
    Pass.foldl_of_clean (a.step_lowerNode ctx) ctx.graph.nodes _ cleanSources
  obtain ⟨_, intents, addedIntents⟩ :=
    Pass.foldl_of_clean (a.step_lowerIntent ctx) ctx.intents _ cleanIntents
  refine ⟨intents, nodes, ?_⟩
  rw [(a.gather_eq ctx).1, gatherSources, lowerNodes, addedNodes, lowerIntents, addedIntents]
  rfl

end Adapter

end CloudPlan
