import CloudPlan.Proofs.Linking
import Mathlib.Data.List.Forall2

/-!
# Execution stops at the first failure

A program asks its provider for the supported resources of the plan, in order and one at a time, until
something fails; then it asks for nothing more. `Progress.Tracks` is the loop invariant: it relates
the live objects, the calls, the objects and the skipped names to the list of creations so far.
`execute_failStop` reads off, for each way in which an execution can end, which creations there have
been, and for success where the outputs come from.

The plan may be any list of resources: names may occur twice, and dependencies may name later, missing
or skipped resources.
-/

set_option autoImplicit false

namespace CloudPlan

/-- A construction that was carried out: the resource, the request made for it, and the object that
the provider answered with. -/
structure Creation where
  resource : PlannedResource
  request : CreateRequest
  object : LiveObject

/-- The object that was created last for a name. -/
def lastCreated (created : List Creation) (name : String) : Option LiveObject :=
  (created.reverse.find? fun c => c.resource.name == name).map Creation.object

/-- A request is one for a resource after some creations: its inputs are the properties with references
replaced by what was created last for a name, under the same keys in the same order, and its hints are,
for those dependencies in order that name a resource created before, the objects created last for these
names. -/
structure CreateRequest.IsFor (request : CreateRequest) (r : PlannedResource)
    (earlier : List Creation) : Prop where
  name : request.name = r.name
  type : request.type = r.type
  keys : Entries.keys request.inputs = Entries.keys r.properties
  inputs : ∃ live, (∀ name, Entries.get? live name = lastCreated earlier name) ∧
    r.resolveInputs live = .ok request.inputs
  hints : List.Forall₂ (fun name o => lastCreated earlier name = some o)
    (r.dependsOn.filter fun name => name ∈ earlier.map fun c => c.resource.name) request.dependsOn

/-- Each creation was asked for after the ones before it, and is what the provider answered. -/
def Provider.Created (provider : Provider) (created : List Creation) : Prop :=
  ∀ before c after, created = before ++ c :: after →
    c.request.IsFor c.resource before ∧ provider.create c.request = .ok c.object

/-! ## Lists -/

section Lists

variable {α β ε : Type}

/-- What a partial function keeps of a list, beside the members that it keeps. -/
theorem forall₂_filterMap {f : α → Option β} {q : α → Bool} (test : ∀ x, q x = (f x).isSome)
    (xs : List α) : List.Forall₂ (fun x y => f x = some y) (xs.filter q) (xs.filterMap f) := by
  induction xs with
  | nil => exact .nil
  | cons x rest ih =>
    cases value : f x with
    | none =>
      have dropped : ¬ q x = true := by simp [test, value]
      rw [List.filter_cons_of_neg dropped, List.filterMap_cons_none value]
      exact ih
    | some y =>
      have kept : q x = true := by simp [test, value]
      rw [List.filter_cons_of_pos kept, List.filterMap_cons_some value]
      exact .cons value ih

/-- If a function succeeds on every entry, the results stand under the same keys in the same order. -/
theorem forall₂_of_mapM_entries {f : String × α → Except ε β} {es : Entries α} {ys : Entries β}
    (run : (es.mapM fun e => (f e).map fun y => (e.1, y)) = .ok ys) :
    List.Forall₂ (fun e y => y.1 = e.1 ∧ f e = .ok y.2) es ys := by
  induction es generalizing ys with
  | nil =>
    cases run
    exact .nil
  | cons e rest ih =>
    rw [List.mapM_cons] at run
    cases first : f e with
    | error x =>
      rw [first] at run
      cases run
    | ok y =>
      cases later : rest.mapM fun e => (f e).map fun y => (e.1, y) with
      | error x =>
        rw [first, later] at run
        cases run
      | ok zs =>
        rw [first, later] at run
        cases run
        exact .cons ⟨rfl, first⟩ (ih later)

/-- Entries that correspond have the same keys. -/
theorem keys_of_forall₂ {R : String × α → String × β → Prop} {es : Entries α} {ys : Entries β}
    (pairs : List.Forall₂ (fun e y => y.1 = e.1 ∧ R e y) es ys) :
    Entries.keys ys = Entries.keys es := by
  induction pairs with
  | nil => rfl
  | @cons e y es ys first _ ih =>
    show y.1 :: Entries.keys ys = e.1 :: Entries.keys es
    rw [first.1, ih]

end Lists

/-! ## Creations -/

/-- After one more creation its object is the last one of its name. -/
theorem lastCreated_concat (created : List Creation) (c : Creation) (name : String) :
    lastCreated (created ++ [c]) name =
      if c.resource.name = name then some c.object else lastCreated created name := by
  unfold lastCreated
  rw [List.reverse_append, List.reverse_singleton, List.singleton_append]
  by_cases same : c.resource.name = name
  · rw [List.find?_cons_of_pos (by simpa using same), if_pos same]
    rfl
  · rw [List.find?_cons_of_neg (by simpa using same), if_neg same]

/-- There is a last object for exactly the names of the resources that were created. -/
theorem lastCreated_isSome_iff {created : List Creation} {name : String} :
    (lastCreated created name).isSome = true ↔ name ∈ created.map fun c => c.resource.name := by
  rw [lastCreated, Option.isSome_map, List.find?_isSome, List.mem_map]
  simp

/-- One more creation that was asked for as it should be and answered makes a run of creations
again. -/
theorem Provider.Created.concat {provider : Provider} {created : List Creation} {c : Creation}
    (run : provider.Created created) (asked : c.request.IsFor c.resource created)
    (answered : provider.create c.request = .ok c.object) : provider.Created (created ++ [c]) := by
  intro before d after split
  -- the creation at the split is the new one, or one of the old ones
  rcases List.eq_nil_or_concat after with rfl | ⟨rest, last, rfl⟩
  · obtain ⟨rfl, single⟩ := List.append_inj' split rfl
    cases single
    exact ⟨asked, answered⟩
  · rw [List.concat_eq_append, ← List.cons_append, ← List.append_assoc] at split
    obtain ⟨whole, _⟩ := List.append_inj' split rfl
    exact run before d rest whole

/-! ## The loop -/

/-- How far an execution has come with some resources, told by the creations so far. -/
structure Progress.Tracks (provider : Provider) (progress : Progress) (done : List PlannedResource)
    (created : List Creation) : Prop where
  run : provider.Created created
  resources : created.map Creation.resource = done.filter fun r => provider.supports r.type
  live : ∀ name, Entries.get? progress.live name = lastCreated created name
  objects : progress.objects = created.map Creation.object
  calls : progress.calls = (created.map Creation.request).map CreateRequest.call
  skipped : progress.skipped =
    (done.filter fun r => !provider.supports r.type).map PlannedResource.name

namespace Progress.Tracks

variable {provider : Provider} {progress : Progress} {done : List PlannedResource}
  {created : List Creation}

/-- Before the first resource nothing is created or skipped. -/
theorem start (provider : Provider) : Progress.start.Tracks provider [] [] where
  run before c after split := by simp at split
  resources := rfl
  live _ := rfl
  objects := rfl
  calls := rfl
  skipped := rfl

/-- The request for a resource whose inputs can be resolved. -/
theorem isFor_request (tracks : progress.Tracks provider done created) {r : PlannedResource}
    {inputs : Entries Json} (resolved : r.resolveInputs progress.live = .ok inputs) :
    (r.request progress.live inputs).IsFor r created := by
  refine ⟨rfl, rfl, keys_of_forall₂ (forall₂_of_mapM_entries resolved),
    ⟨progress.live, tracks.live, resolved⟩, ?_⟩
  have hints : (r.request progress.live inputs).dependsOn =
      r.dependsOn.filterMap (lastCreated created) := by
    have same : Entries.get? progress.live = lastCreated created := funext tracks.live
    show r.dependsOn.filterMap (Entries.get? progress.live) = _
    rw [same]
  rw [hints]
  apply forall₂_filterMap
  intro name
  rw [Bool.eq_iff_iff, decide_eq_true_iff, lastCreated_isSome_iff]

/-- A resource that the provider does not support is passed by and noted. -/
theorem skip (tracks : progress.Tracks provider done created) {r : PlannedResource}
    (unsupported : ¬ provider.supports r.type = true) :
    Tracks provider { progress with skipped := progress.skipped ++ [r.name] } (done ++ [r])
      created where
  run := tracks.run
  resources := by simp [tracks.resources, unsupported]
  live := tracks.live
  objects := tracks.objects
  calls := tracks.calls
  skipped := by simp [tracks.skipped, unsupported]

/-- A resource that is made is created after all the others, and its object becomes the live one of
its name. -/
theorem create (tracks : progress.Tracks provider done created) {r : PlannedResource}
    (supported : provider.supports r.type = true) {inputs : Entries Json} {o : LiveObject}
    (resolved : r.resolveInputs progress.live = .ok inputs)
    (made : provider.create (r.request progress.live inputs) = .ok o) :
    Tracks provider
      { progress with
        live := Entries.insert progress.live r.name o
        objects := progress.objects ++ [o]
        calls := progress.calls ++ [(r.request progress.live inputs).call] }
      (done ++ [r]) (created ++ [⟨r, r.request progress.live inputs, o⟩]) where
  run := tracks.run.concat (tracks.isFor_request resolved) made
  resources := by simp [tracks.resources, supported]
  live name := by rw [Entries.get?_insert, lastCreated_concat, tracks.live]
  objects := by simp [tracks.objects]
  calls := by simp [tracks.calls]
  skipped := by simp [tracks.skipped, supported]

end Progress.Tracks

/-- However a resource passes, the progress has tracked it afterwards. -/
theorem Progress.Tracks.pass {provider : Provider} {progress next : Progress}
    {done : List PlannedResource} {created : List Creation} {r : PlannedResource}
    (tracks : progress.Tracks provider done created) (passes : r.Passes provider progress next) :
    ∃ made, next.Tracks provider (done ++ [r]) made := by
  cases passes with
  | skipped unsupported => exact ⟨_, tracks.skip unsupported⟩
  | created supported resolved answer => exact ⟨_, tracks.create supported resolved answer⟩

/-- A run goes through all resources, or fails at the first one that cannot be constructed. -/
theorem construct_tracks {provider : Provider} {progress : Progress} {done : List PlannedResource}
    {created : List Creation} (tracks : progress.Tracks provider done created)
    (rest : List PlannedResource) :
    (∃ last made, construct provider progress rest = (last, none) ∧
      Progress.Tracks provider last (done ++ rest) made) ∨
    ∃ before r after now made last x, rest = before ++ r :: after ∧
      provider.supports r.type = true ∧ Progress.Tracks provider now (done ++ before) made ∧
      construct provider progress rest = (last, some x) ∧ r.Fails provider now last x := by
  induction rest generalizing progress done created with
  | nil => exact Or.inl ⟨progress, created, rfl, by rwa [List.append_nil]⟩
  | cons r rest ih =>
    rcases construct_cons provider progress r rest with ⟨next, passes, run⟩ |
      ⟨last, x, fails, supported, run⟩
    · rw [run]
      obtain ⟨made, stepped⟩ := tracks.pass passes
      rcases ih stepped with ⟨last, made, run, ended⟩ |
        ⟨before, s, after, now, made, last, x, split, supported, reached, run, fails⟩
      · exact Or.inl ⟨last, made, run, by rwa [List.append_cons]⟩
      · refine Or.inr ⟨r :: before, s, after, now, made, last, x, by rw [split]; rfl, supported, ?_,
          run, fails⟩
        rwa [List.append_cons]
    · refine Or.inr ⟨[], r, rest, progress, created, last, x, rfl, supported, ?_, run, fails⟩
      rwa [List.append_nil]

/-! ## The ends of an execution -/

/-- Inputs that cannot be resolved are reported with the name of their resource. -/
theorem PlannedResource.reports_of_resolveInputs {r : PlannedResource} {live : LiveObjects}
    {x : LinkError} (fault : r.resolveInputs live = .error x) :
    (∃ target key, x = .unresolvedRef target r.name key) ∨
      ∃ target field, x = .unresolvedField target r.name field := by
  obtain ⟨e, _, ref, _, here⟩ := PlannedResource.error_of_resolveInputs fault
  cases Reference.resolve_eq_error_iff.mp here with
  | missing _ => exact Or.inl ⟨_, _, rfl⟩
  | lacking _ _ _ => exact Or.inr ⟨_, _, rfl⟩

/-- Outputs fail only with an invalid template or an unresolved output. -/
theorem reports_of_resolveOutputs {live : LiveObjects} {templates : Entries String} {x : LinkError}
    (fault : resolveOutputs live templates = .error x) :
    (∃ key template, x = .invalidTemplate key template) ∨
      ∃ key name field, x = .unresolvedOutput key name field := by
  obtain ⟨⟨key, template⟩, _, here⟩ := error_of_mapM_entries fault
  unfold resolveOutput at here
  split at here
  · cases here
    exact Or.inl ⟨_, _, rfl⟩
  · split at here
    · cases here
      exact Or.inr ⟨_, _, _, rfl⟩
    · cases here

/-- An output has the value of the named field of the object that was created last for the named
resource. -/
def Shows (created : List Creation) (template : String) (value : Json) : Prop :=
  ∃ name field o, parseTemplate? template = some (name, field) ∧
    lastCreated created name = some o ∧ o.field? field = some value

/-- An output that is resolved shows a field of the object that was created last for its resource. -/
theorem Progress.Tracks.shows {provider : Provider} {progress : Progress}
    {done : List PlannedResource} {created : List Creation}
    (tracks : progress.Tracks provider done created) {key template : String} {value : Json}
    (resolved : resolveOutput progress.live key template = .ok value) :
    Shows created template value := by
  unfold resolveOutput at resolved
  split at resolved
  · cases resolved
  · rename_i name field parsed
    split at resolved
    · cases resolved
    · rename_i j found
      cases resolved
      obtain ⟨o, live, value⟩ := Option.bind_eq_some_iff.mp found
      rw [tracks.live] at live
      exact ⟨name, field, o, parsed, live, value⟩

namespace Program

variable (p : Program) (created : List Creation)

/-- The planned resources of the types that the provider supports, in order. -/
def supported : List PlannedResource :=
  p.plan.resources.filter fun r => p.provider.supports r.type

/-- All supported resources have been created, in order, and nothing else was asked for. -/
structure CreatesAll : Prop where
  resources : created.map Creation.resource = p.supported
  calls : p.execute.calls = (created.map Creation.request).map CreateRequest.call

/-- Exactly the supported resources before `r` have been created, in order, and beside them only
`attempted` was asked for. -/
structure StopsAt (r : PlannedResource) (attempted : List CreateRequest) : Prop where
  reached : ∃ after, p.supported = created.map Creation.resource ++ r :: after
  calls : p.execute.calls =
    (created.map Creation.request ++ attempted).map CreateRequest.call

/-- What has been created when an execution ends, for each way in which it can end. -/
def Ends : Prop :=
  match p.execute.result with
  | .ok linked =>
    p.CreatesAll created ∧ linked.objects = created.map Creation.object ∧
      linked.skipped = (p.plan.resources.filter fun r => !p.provider.supports r.type).map
        PlannedResource.name ∧
      List.Forall₂ (fun template output => output.1 = template.1 ∧
        Shows created template.2 output.2) p.plan.outputs linked.outputs
  | .error (.unresolvedOutput _ _ _) | .error (.invalidTemplate _ _) => p.CreatesAll created
  | .error (.unresolvedRef _ resource _) | .error (.unresolvedField _ resource _) =>
    ∃ r, r.name = resource ∧ p.StopsAt created r []
  | .error (.construction resource type message) =>
    ∃ r request, r.name = resource ∧ r.type = type ∧ request.IsFor r created ∧
      p.provider.create request = .error message ∧ p.StopsAt created r [request]

end Program

/-- An execution that constructs everything ends well or with an output that has no value. -/
theorem Progress.Tracks.ends {p : Program} {last : Progress} {created : List Creation}
    (tracks : last.Tracks p.provider p.plan.resources created)
    (run : construct p.provider .start p.plan.resources = (last, none)) : p.Ends created := by
  have all : p.CreatesAll created := by
    refine ⟨tracks.resources, ?_⟩
    rw [Program.execute, run]
    exact tracks.calls
  cases resolved : resolveOutputs last.live p.plan.outputs with
  | error x =>
    have result : p.execute.result = .error x := by
      rw [Program.execute, run]
      simp only [resolved]
      rfl
    rcases reports_of_resolveOutputs resolved with ⟨_, _, rfl⟩ | ⟨_, _, _, rfl⟩
    · simp only [Program.Ends, result]
      exact all
    · simp only [Program.Ends, result]
      exact all
  | ok outputs =>
    have result := Program.execute_eq_ok run resolved
    simp only [Program.Ends, result]
    refine ⟨all, tracks.objects, tracks.skipped, ?_⟩
    refine (forall₂_of_mapM_entries resolved).imp ?_
    intro template output pair
    exact ⟨pair.1, tracks.shows pair.2⟩

/-- An execution that fails at a resource has created those before it. -/
theorem PlannedResource.Fails.ends {p : Program} {before after : List PlannedResource}
    {r : PlannedResource} {now last : Progress} {created : List Creation} {x : LinkError}
    (fails : r.Fails p.provider now last x) (split : p.plan.resources = before ++ r :: after)
    (supported : p.provider.supports r.type = true)
    (tracks : now.Tracks p.provider before created)
    (run : construct p.provider .start p.plan.resources = (last, some x)) : p.Ends created := by
  have reached : ∃ after, p.supported = created.map Creation.resource ++ r :: after := by
    refine ⟨after.filter fun r => p.provider.supports r.type, ?_⟩
    rw [Program.supported, split, List.filter_append, tracks.resources]
    simp only [List.filter_cons, supported, if_true]
  have result : p.execute.result = .error x := by
    rw [Program.execute, run]
  have calls : p.execute.calls = last.calls := by
    rw [Program.execute, run]
  -- without inputs nothing was asked of the provider; a refusal answers one more request
  cases fails with
  | unresolved fault =>
    have stops : p.StopsAt created r [] := by
      refine ⟨reached, ?_⟩
      rw [calls, tracks.calls, List.append_nil]
    rcases PlannedResource.reports_of_resolveInputs fault with ⟨_, _, rfl⟩ | ⟨_, _, rfl⟩
    · simp only [Program.Ends, result]
      exact ⟨r, rfl, stops⟩
    · simp only [Program.Ends, result]
      exact ⟨r, rfl, stops⟩
  | @refused inputs message resolved refusal =>
    have stops : p.StopsAt created r [r.request now.live inputs] := by
      refine ⟨reached, ?_⟩
      rw [calls, List.map_append, ← tracks.calls]
      rfl
    simp only [Program.Ends, result]
    exact ⟨r, _, rfl, rfl, tracks.isFor_request resolved, refusal, stops⟩

/-- The requests of a run are for its resources, by name and type. -/
theorem Provider.Created.requests {provider : Provider} {created : List Creation}
    (run : provider.Created created) :
    (created.map fun c => (c.request.name, c.request.type)) =
      created.map fun c => (c.resource.name, c.resource.type) := by
  apply List.map_congr_left
  intro c member
  obtain ⟨before, after, split⟩ := List.append_of_mem member
  obtain ⟨asked, _⟩ := run before c after split
  rw [asked.name, asked.type]

/-- The names and types that were asked for, when exactly the supported resources up to some point
were, are those at the beginning of the supported resources. -/
theorem Program.calls_isPrefix {p : Program} {created : List Creation} (run : p.provider.Created created)
    (attempted : List CreateRequest) (tried rest : List PlannedResource)
    (same : (attempted.map fun q => (q.name, q.type)) = tried.map fun r => (r.name, r.type))
    (reached : p.supported = created.map Creation.resource ++ tried ++ rest)
    (calls : p.execute.calls =
      (created.map Creation.request ++ attempted).map CreateRequest.call) :
    (p.execute.calls.map fun c => (c.name, c.type)) <+:
      p.supported.map fun r => (r.name, r.type) := by
  refine ⟨rest.map fun r => (r.name, r.type), ?_⟩
  have answered : ((created.map Creation.request).map CreateRequest.call).map
      (fun c => (c.name, c.type)) =
        (created.map Creation.resource).map fun r => (r.name, r.type) := by
    rw [List.map_map, List.map_map, List.map_map]
    exact run.requests
  have last : (attempted.map CreateRequest.call).map (fun c => (c.name, c.type)) =
      tried.map fun r => (r.name, r.type) := by
    rw [List.map_map]
    exact same
  rw [calls, reached, List.map_append, List.map_append, List.map_append, List.map_append, answered,
    last]

/-- However an execution ends, it has asked for a beginning of the supported resources. -/
theorem Program.Ends.calls_isPrefix {p : Program} {created : List Creation}
    (run : p.provider.Created created) (ends : p.Ends created) :
    (p.execute.calls.map fun c => (c.name, c.type)) <+:
      p.supported.map fun r => (r.name, r.type) := by
  -- the calls are those for what was created, and one more if the provider refused
  have all (whole : p.CreatesAll created) :
      (p.execute.calls.map fun c => (c.name, c.type)) <+:
        p.supported.map fun r => (r.name, r.type) := by
    apply Program.calls_isPrefix run [] [] [] rfl
    · rw [List.append_nil, List.append_nil, whole.resources]
    · rw [List.append_nil, whole.calls]
  have unresolved {r : PlannedResource} (stops : p.StopsAt created r []) :
      (p.execute.calls.map fun c => (c.name, c.type)) <+:
        p.supported.map fun r => (r.name, r.type) := by
    obtain ⟨after, reached⟩ := stops.reached
    apply Program.calls_isPrefix run [] [] (r :: after) rfl _ stops.calls
    rw [List.append_nil, reached]
  unfold Program.Ends at ends
  split at ends
  case h_1 => exact all ends.1
  case h_2 => exact all ends
  case h_3 => exact all ends
  case h_4 =>
    obtain ⟨r, _, stops⟩ := ends
    exact unresolved stops
  case h_5 =>
    obtain ⟨r, _, stops⟩ := ends
    exact unresolved stops
  case h_6 =>
    obtain ⟨r, request, _, _, asked, _, stops⟩ := ends
    obtain ⟨after, reached⟩ := stops.reached
    apply Program.calls_isPrefix run [request] [r] after _ _ stops.calls
    · rw [List.map_singleton, List.map_singleton, asked.name, asked.type]
    · rw [reached, List.append_assoc, List.singleton_append]

/-- **Execution is fail-stop in plan order.** For every plan and every provider there is a list of
creations, each the provider's answer to a request made for its resource after the creations before
it, such that the calls of the execution are a beginning of the supported resources and the result
says how far it goes: with outputs, or with one that has no value, everything has been created; at
inputs without a value exactly the supported resources before were asked for; and at a refusal these
and the refused one. The outputs show fields of what was created last. -/
theorem execute_failStop (p : Program) :
    ∃ created, p.provider.Created created ∧ p.Ends created ∧
      (p.execute.calls.map fun c => (c.name, c.type)) <+:
        p.supported.map fun r => (r.name, r.type) := by
  -- the loop has come to its end, or it has failed at a resource
  rcases construct_tracks (.start p.provider) p.plan.resources with ⟨last, made, run, ended⟩ |
    ⟨before, r, after, now, made, last, x, split, supported, reached, run, fails⟩
  · rw [List.nil_append] at ended
    have ends := ended.ends run
    exact ⟨made, ended.run, ends, ends.calls_isPrefix ended.run⟩
  · rw [List.nil_append] at reached
    have ends := fails.ends split supported reached run
    exact ⟨made, reached.run, ends, ends.calls_isPrefix reached.run⟩

end CloudPlan
