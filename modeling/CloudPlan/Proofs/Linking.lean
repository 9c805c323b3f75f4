import CloudPlan.Link.LocalProvider
import CloudPlan.Link.Program
import CloudPlan.Plan.Basic
import CloudPlan.Proofs.Names
import CloudPlan.Proofs.References
import CloudPlan.Proofs.Substitution

/-!
# When a program can be executed

A resource is `Linkable` after some others if each of its references means a field that the local
provider gives to one of them. A program whose resources are linkable one after the other is executed
to the end (`construct_of_linkable`): every resource is constructed, in order, and none is skipped.
Afterwards a template can be resolved if it means a field that its resource has. What construction can
do at one resource, whatever the provider, is said by `construct_cons`.
-/

set_option autoImplicit false

namespace CloudPlan

/-! ## Resolving -/

section Errors

variable {α β ε : Type} {x : Except ε α} {e : ε}

/-- Two steps fail if the first one does, or the second one after it. -/
theorem bind_eq_error_iff {f : α → Except ε β} :
    (x >>= f) = .error e ↔ x = .error e ∨ ∃ a, x = .ok a ∧ f a = .error e := by
  cases x <;> simp [bind, Except.bind]

/-- What is made of an outcome fails with the error of the outcome. -/
theorem map_eq_error_iff {f : α → β} : x.map f = .error e ↔ x = .error e := by
  cases x <;> simp [Except.map]

end Errors

/-- All values of some entries can be computed if each of them can; the keys stay. -/
theorem exists_mapM_entries {α β ε : Type} {f : String × α → Except ε β} {es : Entries α}
    (each : ∀ e ∈ es, ∃ y, f e = .ok y) :
    ∃ ys : Entries β, (es.mapM fun e => (f e).map fun y => (e.1, y)) = .ok ys ∧
      Entries.keys ys = Entries.keys es := by
  induction es with
  | nil => exact ⟨[], rfl, rfl⟩
  | cons e rest ih =>
    obtain ⟨y, first⟩ := each e List.mem_cons_self
    obtain ⟨ys, run, keys⟩ := ih fun z later => each z (List.mem_cons_of_mem _ later)
    refine ⟨(e.1, y) :: ys, ?_, ?_⟩
    · rw [List.mapM_cons, first, run]
      rfl
    · show e.1 :: Entries.keys ys = e.1 :: Entries.keys rest
      rw [keys]

/-- If the values of some entries cannot all be computed, one entry has that very error. -/
theorem error_of_mapM_entries {α β ε : Type} {f : String × α → Except ε β} {es : Entries α} {x : ε}
    (failed : (es.mapM fun e => (f e).map fun y => (e.1, y)) = .error x) :
    ∃ e ∈ es, f e = .error x := by
  induction es with
  | nil => cases failed
  | cons e rest ih =>
    rw [List.mapM_cons, bind_eq_error_iff, map_eq_error_iff] at failed
    rcases failed with here | ⟨_, _, later⟩
    · exact ⟨e, List.mem_cons_self, here⟩
    · rw [bind_eq_error_iff] at later
      rcases later with there | ⟨_, _, none⟩
      · obtain ⟨z, member, fault⟩ := ih there
        exact ⟨z, List.mem_cons_of_mem _ member, fault⟩
      · cases none

/-- Inputs that cannot be resolved hold a reference with that error in some property. -/
theorem PlannedResource.error_of_resolveInputs {r : PlannedResource} {live : LiveObjects}
    {x : LinkError} (failed : r.resolveInputs live = .error x) :
    ∃ e ∈ r.properties, ∃ ref ∈ e.2.refs,
      ref.resolve ⟨r.name, r.type, e.1⟩ live = .error x := by
  obtain ⟨e, member, fault⟩ := error_of_mapM_entries failed
  obtain ⟨_, ref, _, split, _, here⟩ := Value.resolve_eq_error_iff.mp fault
  have inside : ref ∈ e.2.refs := by
    rw [split]
    exact List.mem_append_cons_self
  exact ⟨e, member, ref, inside, here⟩

/-! ## Fields of constructed resources -/

/-- The local provider gives every resource of a kind a field. -/
def ResourceKind.Offers (kind : ResourceKind) (field : String) : Prop :=
  ∀ region name inputs,
    field = "id" ∨ field ∈ Entries.keys (LocalProvider.assigned region name inputs kind)

/-- A live object has all that its kind offers. -/
structure LiveObject.Complete (o : LiveObject) (kind : ResourceKind) : Prop where
  fields : ∀ field, kind.Offers field → (o.field? field).isSome = true

namespace LocalProvider

/-- Fields that are there stay there when others are added, and those are there too. -/
theorem isSome_get?_foldl_insert (pairs : Entries String) (fields : Entries Json) (key : String)
    (there : (Entries.get? fields key).isSome = true ∨ key ∈ Entries.keys pairs) :
    (Entries.get? (pairs.foldl (fun fields e => Entries.insert fields e.1 (.string e.2)) fields)
      key).isSome = true := by
  induction pairs generalizing fields with
  | nil =>
    rcases there with old | none
    · exact old
    · cases none
  | cons e rest ih =>
    rw [List.foldl_cons]
    apply ih
    rw [Entries.get?_insert]
    by_cases same : e.1 = key
    · simp [same]
    · rw [if_neg same]
      rcases there with old | new
      · exact Or.inl old
      · rcases List.mem_cons.mp new with own | later
        · exact absurd own.symm same
        · exact Or.inr later

/-- What is constructed for a resource of a kind has all that the kind offers. -/
theorem complete_object (region : String) {request : CreateRequest} {kind : ResourceKind}
    (type : request.type = kind.token) : (object region request).Complete kind where
  fields field offered := by
    have given : assignedTo region request = assigned region request.name request.inputs kind := by
      rw [assignedTo, type, ResourceKind.ofToken?_token]
    unfold LiveObject.field? object
    rw [given]
    apply isSome_get?_foldl_insert
    rw [Entries.get?_insert]
    rcases offered region request.name request.inputs with rfl | assigned
    · simp
    · exact Or.inr assigned

end LocalProvider

/-! ## One resource -/

/-- How construction gets past a resource: it is skipped, as its type is not supported; or its inputs
can be resolved and the provider creates it. -/
inductive PlannedResource.Passes (provider : Provider) (now : Progress) (r : PlannedResource) :
    Progress → Prop where
  | skipped (unsupported : ¬ provider.supports r.type = true) :
      Passes provider now r { now with skipped := now.skipped ++ [r.name] }
  | created {inputs : Entries Json} {o : LiveObject}
      (supported : provider.supports r.type = true)
      (resolved : r.resolveInputs now.live = .ok inputs)
      (answer : provider.create (r.request now.live inputs) = .ok o) :
      Passes provider now r
        { now with
          live := Entries.insert now.live r.name o
          objects := now.objects ++ [o]
          calls := now.calls ++ [(r.request now.live inputs).call] }

/-- How construction fails at a resource: its inputs cannot be resolved, and nothing is asked for; or
the provider refuses the request. -/
inductive PlannedResource.Fails (provider : Provider) (now : Progress) (r : PlannedResource) :
    Progress → LinkError → Prop where
  | unresolved {x : LinkError} (fault : r.resolveInputs now.live = .error x) :
      Fails provider now r now x
  | refused {inputs : Entries Json} {message : String}
      (resolved : r.resolveInputs now.live = .ok inputs)
      (refusal : provider.create (r.request now.live inputs) = .error message) :
      Fails provider now r
        { now with calls := now.calls ++ [(r.request now.live inputs).call] }
        (.construction r.name r.type message)

/-- Construction gets past a resource and goes on, or it ends there. -/
theorem construct_cons (provider : Provider) (now : Progress) (r : PlannedResource)
    (rest : List PlannedResource) :
    (∃ next, r.Passes provider now next ∧
      construct provider now (r :: rest) = construct provider next rest) ∨
    ∃ last x, r.Fails provider now last x ∧ provider.supports r.type = true ∧
      construct provider now (r :: rest) = (last, some x) := by
  by_cases supported : provider.supports r.type = true
  · cases resolved : r.resolveInputs now.live with
    | error x =>
      refine Or.inr ⟨now, x, .unresolved resolved, supported, ?_⟩
      rw [construct, if_pos supported, resolved]
    | ok inputs =>
      cases answer : provider.create (r.request now.live inputs) with
      | error message =>
        refine Or.inr ⟨_, _, .refused resolved answer, supported, ?_⟩
        rw [construct, if_pos supported, resolved]
        simp only [answer]
      | ok o =>
        refine Or.inl ⟨_, .created supported resolved answer, ?_⟩
        rw [construct, if_pos supported, resolved]
        simp only [answer]
  · refine Or.inl ⟨_, .skipped supported, ?_⟩
    rw [construct, if_neg supported]

/-! ## Constructing -/

/-- One of some resources has a name, and its kind offers a field. -/
def Offered (resources : List PlannedResource) (name field : String) : Prop :=
  ∃ r ∈ resources, r.name = name ∧ ∃ kind : ResourceKind, r.type = kind.token ∧ kind.Offers field

/-- A resource is of a known kind, and all that it refers to is offered by earlier ones. -/
structure PlannedResource.Linkable (earlier : List PlannedResource) (r : PlannedResource) :
    Prop where
  known : ∃ kind : ResourceKind, r.type = kind.token
  offered : ∀ e ∈ r.properties, ∀ ref ∈ e.2.refs,
    Offered earlier ref.resource (Site.fieldOf ⟨r.name, r.type, e.1⟩ ref)

/-- How far a construction has come if it has constructed some resources: there is an object for
each, in order, and each lives on with all that its kind offers. -/
structure Progress.Constructed (progress : Progress) (done : List PlannedResource) : Prop where
  objects : progress.objects.map (fun o => (o.name, o.type)) = done.map fun r => (r.name, r.type)
  skipped : progress.skipped = []
  live : ∀ r ∈ done, ∀ kind : ResourceKind, r.type = kind.token →
    ∃ o, Entries.get? progress.live r.name = some o ∧ o.Complete kind

namespace Progress

/-- At the start nothing is constructed. -/
theorem constructed_start : start.Constructed [] where
  objects := rfl
  skipped := rfl
  live r none := by cases none

variable {progress : Progress} {done : List PlannedResource}

/-- What is offered by constructed resources is there. -/
theorem Constructed.exists_field (constructed : progress.Constructed done) {name field : String}
    (offered : Offered done name field) :
    ∃ o j, Entries.get? progress.live name = some o ∧ o.field? field = some j := by
  obtain ⟨r, member, rfl, kind, type, offers⟩ := offered
  obtain ⟨o, live, complete⟩ := constructed.live r member kind type
  obtain ⟨j, field⟩ := Option.isSome_iff_exists.mp (complete.fields _ offers)
  exact ⟨o, j, live, field⟩

/-- The inputs of a linkable resource can be resolved. -/
theorem Constructed.exists_inputs (constructed : progress.Constructed done) {r : PlannedResource}
    (linkable : r.Linkable done) : ∃ inputs, r.resolveInputs progress.live = .ok inputs := by
  have each : ∀ e ∈ r.properties, ∃ j,
      e.2.resolve ⟨r.name, r.type, e.1⟩ progress.live = .ok j := by
    intro e member
    have refs : ∀ ref ∈ e.2.refs,
        ∃ j, ref.resolve ⟨r.name, r.type, e.1⟩ progress.live = .ok j := by
      intro ref inside
      obtain ⟨o, j, live, field⟩ := constructed.exists_field (linkable.offered e member ref inside)
      exact ⟨j, Reference.resolve_eq_ok_iff.mpr
        ⟨o, _, live, Reference.chooses_iff.mpr rfl, field⟩⟩
    exact e.2.exists_resolve_iff.mpr refs
  obtain ⟨inputs, run, _⟩ := exists_mapM_entries each
  exact ⟨inputs, run⟩

/-- One step: a linkable resource of a new name is constructed. -/
theorem Constructed.step (constructed : progress.Constructed done) (region : String)
    {r : PlannedResource} (linkable : r.Linkable done)
    (fresh : r.name ∉ done.map PlannedResource.name) (rest : List PlannedResource) :
    ∃ next : Progress, next.Constructed (done ++ [r]) ∧
      construct (LocalProvider.ofRegion region).provider progress (r :: rest) =
        construct (LocalProvider.ofRegion region).provider next rest := by
  obtain ⟨kind, type⟩ := linkable.known
  obtain ⟨inputs, resolved⟩ := constructed.exists_inputs linkable
  have supported : (LocalProvider.ofRegion region).provider.supports r.type = true := by
    show (ResourceKind.ofToken? r.type).isSome = true
    rw [type, ResourceKind.ofToken?_token]
    rfl
  -- the local provider refuses nothing, and its object has all fields of its kind
  let request := r.request progress.live inputs
  let object := LocalProvider.object region request
  refine ⟨⟨Entries.insert progress.live r.name object, progress.objects ++ [object],
    progress.skipped, progress.calls ++ [request.call]⟩, ?_, ?_⟩
  · refine ⟨?_, constructed.skipped, ?_⟩
    · rw [List.map_append, List.map_append, constructed.objects]
      rfl
    · intro s member other sort
      rw [Entries.get?_insert]
      rcases List.mem_append.mp member with old | new
      · have different : r.name ≠ s.name := by
          intro same
          exact fresh (List.mem_map.mpr ⟨s, old, same.symm⟩)
        rw [if_neg different]
        exact constructed.live s old other sort
      · obtain rfl := List.mem_singleton.mp new
        rw [if_pos rfl]
        exact ⟨object, rfl, LocalProvider.complete_object region sort⟩
  · rw [construct, if_pos supported, resolved]
    rfl

end Progress

/-- A run: resources that are linkable one after the other are all constructed. -/
theorem construct_of_linkable (region : String) {progress : Progress}
    {done : List PlannedResource} (constructed : progress.Constructed done)
    (rest : List PlannedResource)
    (distinct : ((done ++ rest).map PlannedResource.name).Nodup)
    (linkable : ∀ before r after, rest = before ++ r :: after → r.Linkable (done ++ before)) :
    ∃ last : Progress, last.Constructed (done ++ rest) ∧
      construct (LocalProvider.ofRegion region).provider progress rest = (last, none) := by
  induction rest generalizing progress done with
  | nil => exact ⟨progress, by rwa [List.append_nil], rfl⟩
  | cons r rest ih =>
    have first : r.Linkable done := by
      have here := linkable [] r rest rfl
      rwa [List.append_nil] at here
    have fresh : r.name ∉ done.map PlannedResource.name := by
      intro early
      rw [List.map_append, List.nodup_append] at distinct
      exact distinct.2.2 _ early _ (List.mem_map_of_mem List.mem_cons_self) rfl
    obtain ⟨next, stepped, run⟩ := constructed.step region first fresh rest
    have regroup : done ++ r :: rest = done ++ [r] ++ rest := List.append_cons ..
    rw [run, regroup]
    rw [regroup] at distinct
    apply ih stepped distinct
    intro before s after split
    have later := linkable (r :: before) s after (by rw [split]; rfl)
    rwa [List.append_cons] at later

/-! ## Outputs -/

/-- The template of an output can be resolved if its field is offered. -/
theorem Progress.Constructed.exists_output {progress : Progress} {done : List PlannedResource}
    (constructed : progress.Constructed done) {name field : String} (key : String)
    (plain : Plain name) (named : name ≠ "") (nonempty : field ≠ "")
    (offered : Offered done name field) :
    ∃ j, resolveOutput progress.live key (outputTemplate name field) = .ok j := by
  obtain ⟨o, j, live, value⟩ := constructed.exists_field offered
  refine ⟨j, ?_⟩
  simp only [resolveOutput, parseTemplate?_outputTemplate plain named nonempty, live,
    Option.bind_some, value]

/-- A program is executed if its resources are constructed and its outputs resolved. -/
theorem Program.execute_eq_ok {p : Program} {last : Progress} {outputs : Entries Json}
    (run : construct p.provider .start p.plan.resources = (last, none))
    (resolved : resolveOutputs last.live p.plan.outputs = .ok outputs) :
    p.execute.result = .ok ⟨outputs, last.objects, last.skipped⟩ := by
  unfold execute
  rw [run]
  simp only [resolved]
  rfl

end CloudPlan
