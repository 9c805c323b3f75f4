import CloudPlan.Proofs.ConstructionOrder
import CloudPlan.Proofs.Targets

/-!
# The order of a plan suits its references

If every reference of a resource is declared as a dependency that exists, and dependencies do not run
in circles, then each target is constructed before it is referred to, whatever the provider makes of
the requests. `Registered` is the loop invariant: the live objects are those of exactly the resources
constructed so far, each made by the provider for its name. An execution can still fail, but only
through what the provider refuses or leaves out (`Provider.AtFault`), or through an output of a
resource without a name.
-/

set_option autoImplicit false

namespace CloudPlan

/-! ## Faults of a provider -/

/-- A provider constructs an object on some request for a resource of a name. -/
def Provider.Makes (provider : Provider) (name : String) (o : LiveObject) : Prop :=
  ∃ request : CreateRequest, request.name = name ∧ provider.create request = .ok o

/-- What stops an execution through the provider: it refuses a request, or what it has constructed
lacks a field that a reference or an output means. -/
inductive Provider.AtFault (provider : Provider) : LinkError → Prop where
  | refuses {request : CreateRequest} {message : String}
      (refused : provider.create request = .error message) :
      AtFault provider (.construction request.name request.type message)
  | lacksField {ref : Reference} {o : LiveObject} {resource field : String}
      (made : provider.Makes ref.resource o) (missing : o.field? field = none) :
      AtFault provider (.unresolvedField ref.target resource field)
  | lacksOutput {o : LiveObject} {key resource field : String}
      (made : provider.Makes resource o) (missing : o.field? field = none) :
      AtFault provider (.unresolvedOutput key resource field)

/-- An unresolved reference is nothing that a provider could be blamed for. -/
theorem Provider.not_atFault_unresolvedRef {provider : Provider} {target resource property : String} :
    ¬ provider.AtFault (.unresolvedRef target resource property) :=
  nofun

/-! ## The loop -/

/-- Whatever a planned resource refers to is the name of an earlier one. -/
def PlannedResource.RefersBack (earlier : List PlannedResource) (r : PlannedResource) : Prop :=
  ∀ e ∈ r.properties, ∀ ref ∈ e.2.refs, ref.resource ∈ earlier.map PlannedResource.name

/-- The live objects are those of exactly the resources constructed so far, each made by the provider
for its name. -/
structure Progress.Registered (provider : Provider) (progress : Progress)
    (done : List PlannedResource) : Prop where
  names : ∀ name, name ∈ done.map PlannedResource.name →
    ∃ o, Entries.get? progress.live name = some o
  made : ∀ name o, Entries.get? progress.live name = some o →
    name ∈ done.map PlannedResource.name ∧ provider.Makes name o

namespace Progress.Registered

variable {provider : Provider} {progress : Progress} {done : List PlannedResource}

/-- At the start nothing is registered. -/
theorem start (provider : Provider) : Progress.start.Registered provider [] where
  names name none := by cases none
  made name o none := by cases none

/-- One step: what the provider makes of a request is registered for its resource. -/
theorem construct (registered : progress.Registered provider done) {r : PlannedResource}
    {inputs : Entries Json} {o : LiveObject}
    (made : provider.create (r.request progress.live inputs) = .ok o)
    {objects : List LiveObject} {skipped : List String} {calls : List CreateCall} :
    Registered provider ⟨Entries.insert progress.live r.name o, objects, skipped, calls⟩
      (done ++ [r]) where
  names name member := by
    rw [Entries.get?_insert]
    by_cases same : r.name = name
    · exact ⟨o, if_pos same⟩
    · rw [if_neg same]
      rw [List.map_append, List.mem_append] at member
      rcases member with old | new
      · exact registered.names name old
      · exact absurd (List.mem_singleton.mp new).symm same
  made name x live := by
    rw [Entries.get?_insert] at live
    rw [List.map_append, List.mem_append]
    by_cases same : r.name = name
    · subst same
      rw [if_pos rfl, Option.some.injEq] at live
      subst live
      exact ⟨Or.inr (List.mem_singleton.mpr rfl), _, rfl, made⟩
    · rw [if_neg same] at live
      obtain ⟨old, makes⟩ := registered.made name x live
      exact ⟨Or.inl old, makes⟩

/-- A reference to something registered can only fail for want of a field. -/
theorem atFault_of_resolve (registered : progress.Registered provider done) {ref : Reference}
    {site : Site} (earlier : ref.resource ∈ done.map PlannedResource.name) {x : LinkError}
    (failed : ref.resolve site progress.live = .error x) : provider.AtFault x := by
  obtain ⟨o, live⟩ := registered.names _ earlier
  cases Reference.resolve_eq_error_iff.mp failed with
  | missing unknown => cases live.symm.trans unknown
  | lacking known _ lacks => exact .lacksField (registered.made _ _ known).2 lacks

/-- So can the inputs of a resource that refers back to what is registered. -/
theorem atFault_of_resolveInputs (registered : progress.Registered provider done)
    {r : PlannedResource} (back : r.RefersBack done) {x : LinkError}
    (failed : r.resolveInputs progress.live = .error x) : provider.AtFault x := by
  obtain ⟨e, member, ref, inside, fault⟩ := PlannedResource.error_of_resolveInputs failed
  exact registered.atFault_of_resolve (back e member ref inside) fault

end Progress.Registered

/-- A run: resources that refer back, all of supported types, are all registered in the end, or the
provider is at fault. -/
theorem construct_registered {provider : Provider} {progress : Progress}
    {done : List PlannedResource} (registered : progress.Registered provider done)
    (rest : List PlannedResource) (supported : ∀ r ∈ rest, provider.supports r.type = true)
    (back : ∀ before r after, rest = before ++ r :: after → r.RefersBack (done ++ before)) :
    (∃ last : Progress, construct provider progress rest = (last, none) ∧
      last.Registered provider (done ++ rest)) ∨
    ∃ last x, construct provider progress rest = (last, some x) ∧ provider.AtFault x := by
  -- on what is left to be constructed; what has been registered is what was planned before
  induction rest generalizing progress done with
  | nil => exact Or.inl ⟨progress, rfl, by rwa [List.append_nil]⟩
  | cons r rest ih =>
    have here : r.RefersBack done := by
      have first := back [] r rest rfl
      rwa [List.append_nil] at first
    rcases construct_cons provider progress r rest with ⟨next, passes, run⟩ |
      ⟨last, x, fails, _, run⟩
    · rw [run]
      cases passes with
      | skipped unsupported => exact absurd (supported r List.mem_cons_self) unsupported
      | created _ _ answer =>
        have regroup : done ++ r :: rest = done ++ [r] ++ rest := List.append_cons ..
        rw [regroup]
        apply ih (registered.construct answer)
        · intro s later
          exact supported s (List.mem_cons_of_mem _ later)
        · intro before s after split
          have later := back (r :: before) s after (by rw [split]; rfl)
          rwa [List.append_cons] at later
    · refine Or.inr ⟨last, x, run, ?_⟩
      cases fails with
      | unresolved fault => exact registered.atFault_of_resolveInputs here fault
      | refused _ refusal => exact .refuses refusal

/-! ## Outputs -/

/-- A template of nothing cannot be taken apart. -/
theorem parseTemplate?_nameless (field : String) : parseTemplate? (outputTemplate "" field) = none := by
  have chars : (outputTemplate "" field).toList =
      '$' :: '\x7b' :: ('.' :: field.toList ++ ['\x7d']) := by
    simp [outputTemplate]
  simp only [parseTemplate?, chars, beforeClosingBrace?_append, Option.bind_some,
    Text.cutChars, if_pos]

/-- The output of a registered resource can only fail for want of a field, or of a name. -/
theorem Progress.Registered.atFault_of_resolveOutput {provider : Provider} {progress : Progress}
    {done : List PlannedResource} (registered : progress.Registered provider done)
    {key name field : String} (plain : Plain name) (nonempty : field ≠ "")
    (constructed : name ∈ done.map PlannedResource.name) {x : LinkError}
    (failed : resolveOutput progress.live key (outputTemplate name field) = .error x) :
    provider.AtFault x ∨ name = "" ∧ x = .invalidTemplate key (outputTemplate name field) := by
  by_cases named : name = ""
  · subst named
    simp only [resolveOutput, parseTemplate?_nameless] at failed
    cases failed
    exact Or.inr ⟨rfl, rfl⟩
  · obtain ⟨o, live⟩ := registered.names _ constructed
    simp only [resolveOutput, parseTemplate?_outputTemplate plain named nonempty, live,
      Option.bind_some] at failed
    cases value : o.field? field with
    | some j =>
      simp only [value] at failed
      cases failed
    | none =>
      simp only [value] at failed
      cases failed
      exact Or.inl (.lacksOutput (registered.made _ o live).2 value)

/-! ## Execution -/

/-- Whatever a resource of a result refers to, at any depth, is one of its dependencies and the name
of a resource. -/
def LoweringResult.Backed (result : LoweringResult) : Prop :=
  ∀ r ∈ result.resources, r.Backed ∧
    ∀ key ref, r.Refers key ref → ref.resource ∈ result.resources.map Resource.name

/-- In the plan of such a result without circles every resource refers back. -/
theorem LoweringResult.Backed.refersBack {result : LoweringResult} (backed : result.Backed)
    (acyclic : result.Acyclic) {before after : List PlannedResource} {r : PlannedResource}
    (split : (Plan.ofResult result).resources = before ++ r :: after) : r.RefersBack before := by
  obtain ⟨before, rest, order, rfl, tail⟩ := List.map_eq_append_iff.mp split
  obtain ⟨r, after, rfl, rfl, rfl⟩ := List.map_eq_cons_iff.mp tail
  intro e member ref inside
  have planned : r ∈ constructionOrder result.resources := by
    rw [order]
    exact List.mem_append_right _ List.mem_cons_self
  have refers : r.Refers e.1 ref := ⟨e.2, member, inside⟩
  obtain ⟨declared, there⟩ := backed r (mem_of_mem_constructionOrder planned)
  have early := acyclic.precedes order (declared _ _ refers) (there _ _ refers)
  rw [List.map_map]
  exact early

/-- **Planner and linker agree on order.** Let names hold no dot, dependencies not run in circles, and
every reference of a resource be declared as a dependency that is there. Then no provider that
supports the planned types meets an unresolved reference. If an execution fails at all, the provider
is at fault, or some resource has no name. -/
theorem execute_backed {result : LoweringResult} {provider : Provider} (config : Config)
    (plain : ∀ r ∈ result.resources, Plain r.name) (acyclic : result.Acyclic)
    (backed : result.Backed)
    (supported : ∀ r ∈ (Plan.ofResult result).resources, provider.supports r.type = true) :
    (∀ target resource property,
      (Program.execute ⟨Plan.ofResult result, config, provider⟩).result ≠
        .error (.unresolvedRef target resource property)) ∧
    ∀ x, (Program.execute ⟨Plan.ofResult result, config, provider⟩).result = .error x →
      provider.AtFault x ∨
        "" ∈ result.resources.map Resource.name ∧ ∃ key template, x = .invalidTemplate key template := by
  -- an unresolved reference is no fault of a provider, so the second part gives the first
  have fault : ∀ x, (Program.execute ⟨Plan.ofResult result, config, provider⟩).result = .error x →
      provider.AtFault x ∨ "" ∈ result.resources.map Resource.name ∧
        ∃ key template, x = .invalidTemplate key template := by
    intro x failed
    have back : ∀ before r after, (Plan.ofResult result).resources = before ++ r :: after →
        r.RefersBack ([] ++ before) := fun _ _ _ split => backed.refersBack acyclic split
    rcases construct_registered (.start provider) _ supported back with
      ⟨last, run, registered⟩ | ⟨last, y, run, atFault⟩
    · simp only [Program.execute, run, map_eq_error_iff] at failed
      obtain ⟨⟨key, template⟩, output, here⟩ := error_of_mapM_entries failed
      obtain ⟨r, planned, ⟨_, field⟩, listed, rfl⟩ := Plan.exists_of_mem_outputs output
      have nonempty := ResourceKind.ne_empty_of_mem_outputFieldsOf listed
      have name : r.name ∈ result.resources.map Resource.name := by
        rw [← mem_names_constructionOrder, ← Plan.names_ofResult]
        exact List.mem_map_of_mem planned
      obtain ⟨s, member, same⟩ := List.mem_map.mp name
      have dotless : Plain r.name := by
        rw [← same]
        exact plain s member
      rcases registered.atFault_of_resolveOutput dotless nonempty (List.mem_map_of_mem planned) here
        with atFault | ⟨nameless, rfl⟩
      · exact Or.inl atFault
      · rw [nameless] at name
        exact Or.inr ⟨name, _, _, rfl⟩
    · simp only [Program.execute, run, Except.error.injEq] at failed
      subst failed
      exact Or.inl atFault
  refine ⟨?_, fault⟩
  intro target resource property failed
  rcases fault _ failed with atFault | ⟨_, _, _, other⟩
  · exact Provider.not_atFault_unresolvedRef atFault
  · cases other

/-- A resource that refers to another one inside a list inside a map. -/
def nestedReference : LoweringResult :=
  ⟨[⟨"app", "kind", [("settings", .map [("hosts", .list [.null, .refToField "db" "host"])])],
      "component:app", ["db"]⟩,
    ⟨"db", "kind", [], "platform:db", []⟩], [], [], true⟩

/-- A provider that constructs everything without a field. -/
def fieldlessProvider : Provider where
  supports _ := true
  create request := .ok ⟨request.name, request.type, []⟩

/-- That provider does not give the field, but the reference itself is resolved. -/
theorem execute_nestedReference :
    nestedReference.Backed ∧ nestedReference.Acyclic ∧
    ∀ target resource property,
      (Program.execute ⟨Plan.ofResult nestedReference, ⟨"us-east-1", "orders", none, none⟩,
        fieldlessProvider⟩).result ≠ .error (.unresolvedRef target resource property) := by
  have backed : nestedReference.Backed := by
    intro r member
    have target : (Reference.toField "db" "host").resource = "db" := by decide
    simp only [nestedReference, List.mem_cons, List.not_mem_nil, or_false] at member
    rcases member with rfl | rfl
    · simp [Resource.Backed, Resource.refers_iff, Value.refToField, Value.refs, Value.refsOfItems,
        Value.refsOfEntries, nestedReference, target]
    · simp [Resource.Backed, Resource.refers_iff]
  have acyclic : nestedReference.Acyclic :=
    LoweringResult.acyclic_of_rank (fun name => if name = "app" then 1 else 0) (by decide)
  have plain : ∀ r ∈ nestedReference.resources, Plain r.name := by decide
  exact ⟨backed, acyclic, (execute_backed _ plain acyclic backed fun _ _ => rfl).1⟩

end CloudPlan
