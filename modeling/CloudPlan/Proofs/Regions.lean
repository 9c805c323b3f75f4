import CloudPlan.Proofs.Linking

/-!
# Regions show in texts alone

What the local provider assigns depends on its region, and by references it may get into any later
input. But all that it assigns is text. So the shape of a value, which is the value with every text
blanked, is the same in two regions, whatever the value refers to (`Value.resolve_shape`), and no text
decides how a run goes on. Therefore two runs of one plan in two regions go alike: they make the same
calls, and they fail with one error or succeed with results of one shape (`execute_alike`).
-/

set_option autoImplicit false

namespace CloudPlan

/-! ## The same after a function -/

section Same

variable {α β γ δ ε : Type} {f : α → γ}

/-- Two options that are the same after a function are both empty, or both hold values that are the
same after it. -/
theorem none_or_some_of_map_eq {x y : Option α} (same : x.map f = y.map f) :
    x = none ∧ y = none ∨ ∃ a b, x = some a ∧ y = some b ∧ f a = f b := by
  cases x <;> cases y <;> simp_all

/-- Two results that are the same after a function have one error, or have values that are the same
after it. -/
theorem error_or_ok_of_map_eq {x y : Except ε α} (same : x.map f = y.map f) :
    (∃ e, x = .error e ∧ y = .error e) ∨ ∃ a b, x = .ok a ∧ y = .ok b ∧ f a = f b := by
  cases x <;> cases y <;> simp_all [Except.map]

/-- Two steps come to the same if the first ones do and the second ones keep it. -/
theorem map_bind_congr {x y : Except ε α} {g h : α → Except ε β} {k : β → δ}
    (same : x.map f = y.map f) (next : ∀ a b, f a = f b → (g a).map k = (h b).map k) :
    (x >>= g).map k = (y >>= h).map k := by
  rcases error_or_ok_of_map_eq same with ⟨e, rfl, rfl⟩ | ⟨a, b, rfl, rfl, alike⟩
  · rfl
  · exact next a b alike

/-- Values computed for the same keys come to the same if each of them does. -/
theorem mapM_entries_congr {g h : String × β → Except ε α} {es : Entries β}
    (same : ∀ e ∈ es, (g e).map f = (h e).map f) :
    (es.mapM fun e => (g e).map fun y => (e.1, y)).map (Entries.mapValues f) =
      (es.mapM fun e => (h e).map fun y => (e.1, y)).map (Entries.mapValues f) := by
  induction es with
  | nil => rfl
  | cons e rest ih =>
    have later := ih fun z member => same z (List.mem_cons_of_mem _ member)
    have here : ((g e).map fun y => (e.1, y)).map (fun pair => (pair.1, f pair.2)) =
        ((h e).map fun y => (e.1, y)).map fun pair => (pair.1, f pair.2) := by
      rcases error_or_ok_of_map_eq (same e List.mem_cons_self) with
        ⟨x, first, second⟩ | ⟨a, b, first, second, alike⟩
      · rw [first, second]
      · rw [first, second]
        show Except.ok (e.1, f a) = Except.ok (e.1, f b)
        rw [alike]
    rw [List.mapM_cons, List.mapM_cons]
    apply map_bind_congr here
    intro a b head
    apply map_bind_congr later
    intro ys zs tail
    show Except.ok ((a.1, f a.2) :: Entries.mapValues f ys) =
      Except.ok ((b.1, f b.2) :: Entries.mapValues f zs)
    rw [head, tail]

end Same

/-! ## Shapes -/

namespace Json

mutual

/-- The value with every text blanked. -/
def shape : Json → Json
  | .null => .null
  | .bool b => .bool b
  | .number n => .number n
  | .string _ => .string ""
  | .array items => .array (shapeItems items)
  | .object entries => .object (shapeEntries entries)

/-- The items of an array with every text blanked. -/
def shapeItems : List Json → List Json
  | [] => []
  | j :: rest => shape j :: shapeItems rest

/-- The entries of an object with every text among the values blanked. -/
def shapeEntries : List (String × Json) → List (String × Json)
  | [] => []
  | (k, j) :: rest => (k, shape j) :: shapeEntries rest

end

/-- The shape of entries is the shape of each value under its key. -/
theorem shapeEntries_eq (es : Entries Json) : shapeEntries es = Entries.mapValues shape es := by
  induction es with
  | nil => rfl
  | cons e rest ih =>
    rw [shapeEntries, ih]
    rfl

/-- Only a truth value has the shape of one. -/
theorem shape_eq_bool_iff {j : Json} {b : Bool} : j.shape = .bool b ↔ j = .bool b := by
  cases j <;> simp [shape]

end Json

/-- The object with every text in its fields blanked. -/
def LiveObject.shape (o : LiveObject) : LiveObject :=
  { o with fields := Entries.mapValues Json.shape o.fields }

/-- A field of the shape of an object is the shape of the field. -/
theorem LiveObject.field?_shape (o : LiveObject) (field : String) :
    o.shape.field? field = (o.field? field).map Json.shape :=
  Entries.get?_mapValues ..

/-- The objects have the same names and shapes. -/
def LiveObjects.Alike (live live' : LiveObjects) : Prop :=
  Entries.mapValues LiveObject.shape live = Entries.mapValues LiveObject.shape live'

namespace LiveObjects.Alike

variable {live live' : LiveObjects}

/-- Alike objects are found under the same names. -/
theorem get? (alike : live.Alike live') (name : String) :
    (Entries.get? live name).map LiveObject.shape =
      (Entries.get? live' name).map LiveObject.shape := by
  rw [← Entries.get?_mapValues, ← Entries.get?_mapValues, alike]

/-- They stay alike if objects of one shape are added under one name. -/
theorem insert (alike : live.Alike live') (name : String) {o o' : LiveObject}
    (same : o.shape = o'.shape) :
    LiveObjects.Alike (Entries.insert live name o) (Entries.insert live' name o') := by
  unfold LiveObjects.Alike
  rw [Entries.mapValues_insert, Entries.mapValues_insert, alike, same]

/-- Their fields are there or missing together, and have one shape. -/
theorem field? (alike : live.Alike live') (name field : String) :
    ((Entries.get? live name).bind fun o => o.field? field).map Json.shape =
      ((Entries.get? live' name).bind fun o => o.field? field).map Json.shape := by
  rcases none_or_some_of_map_eq (alike.get? name) with ⟨none, none'⟩ | ⟨o, o', some, some', same⟩
  · rw [none, none']
  · rw [some, some', Option.bind_some, Option.bind_some, ← o.field?_shape, same, o'.field?_shape]

end LiveObjects.Alike

/-! ## Resolving -/

/-- A reference stands for values of one shape among alike objects, or fails with one error. -/
theorem Reference.resolve_shape {live live' : LiveObjects} (alike : live.Alike live')
    (r : Reference) (site : Site) :
    (r.resolve site live).map Json.shape = (r.resolve site live').map Json.shape := by
  unfold resolve
  rcases none_or_some_of_map_eq (alike.get? r.resource) with
    ⟨none, none'⟩ | ⟨o, o', some, some', same⟩
  · rw [none, none']
  · have field : (o.field? (site.fieldOf r)).map Json.shape =
        (o'.field? (site.fieldOf r)).map Json.shape := by
      rw [← o.field?_shape, same, o'.field?_shape]
    rw [some, some']
    rcases none_or_some_of_map_eq field with ⟨none, none'⟩ | ⟨j, j', some, some', same⟩
    · simp only [none, none']
    · simp only [some, some', Except.map, same]

namespace Value

mutual

/-- What a value stands for among alike objects has one shape, or fails with one error. -/
theorem resolve_shape {live live' : LiveObjects} (alike : live.Alike live') (site : Site) :
    (v : Value) → (v.resolve site live).map Json.shape = (v.resolve site live').map Json.shape
  | .ref r => r.resolve_shape alike site
  | .bool _ => rfl
  | .number _ => rfl
  | .string _ => rfl
  | .null => rfl
  | .list items => by
    rw [resolve, resolve]
    apply map_bind_congr (resolveItems_shape alike site items)
    intro js js' same
    show Except.ok (Json.array (Json.shapeItems js)) = Except.ok (Json.array (Json.shapeItems js'))
    rw [same]
  | .map entries => by
    rw [resolve, resolve]
    apply map_bind_congr (resolveEntries_shape alike site entries)
    intro js js' same
    show Except.ok (Json.object (Json.shapeEntries (Entries.sortedOfList js))) =
      Except.ok (Json.object (Json.shapeEntries (Entries.sortedOfList js')))
    rw [Json.shapeEntries_eq, Json.shapeEntries_eq, Entries.mapValues_sortedOfList, same,
      Entries.mapValues_sortedOfList]

/-- The same for the items of a list. -/
theorem resolveItems_shape {live live' : LiveObjects} (alike : live.Alike live') (site : Site) :
    (items : List Value) → (resolveItems site live items).map Json.shapeItems =
      (resolveItems site live' items).map Json.shapeItems
  | [] => rfl
  | v :: rest => by
    rw [resolveItems, resolveItems]
    apply map_bind_congr (resolve_shape alike site v)
    intro j j' same
    apply map_bind_congr (resolveItems_shape alike site rest)
    intro js js' later
    show Except.ok (j.shape :: Json.shapeItems js) = Except.ok (j'.shape :: Json.shapeItems js')
    rw [same, later]

/-- The same for the values of a map. -/
theorem resolveEntries_shape {live live' : LiveObjects} (alike : live.Alike live') (site : Site) :
    (entries : List (String × Value)) →
    (resolveEntries site live entries).map (Entries.mapValues Json.shape) =
      (resolveEntries site live' entries).map (Entries.mapValues Json.shape)
  | [] => rfl
  | (k, v) :: rest => by
    rw [resolveEntries, resolveEntries]
    apply map_bind_congr (resolve_shape alike site v)
    intro j j' same
    apply map_bind_congr (resolveEntries_shape alike site rest)
    intro js js' later
    show Except.ok ((k, j.shape) :: Entries.mapValues Json.shape js) =
      Except.ok ((k, j'.shape) :: Entries.mapValues Json.shape js')
    rw [same, later]

end

end Value

section Resolve

variable {live live' : LiveObjects} (alike : live.Alike live')

include alike

/-- So the inputs of a resource have one shape among alike objects, or fail with one error. -/
theorem PlannedResource.resolveInputs_shape (r : PlannedResource) :
    (r.resolveInputs live).map (Entries.mapValues Json.shape) =
      (r.resolveInputs live').map (Entries.mapValues Json.shape) := by
  apply mapM_entries_congr
  intro e _
  exact e.2.resolve_shape alike _

/-- So has the value of an output template. -/
theorem resolveOutput_shape (key template : String) :
    (resolveOutput live key template).map Json.shape =
      (resolveOutput live' key template).map Json.shape := by
  unfold resolveOutput
  cases parseTemplate? template with
  | none => rfl
  | some parts =>
    obtain ⟨name, field⟩ := parts
    simp only
    rcases none_or_some_of_map_eq (alike.field? name field) with
      ⟨none, none'⟩ | ⟨j, j', some, some', same⟩
    · rw [none, none']
    · rw [some, some']
      simp only [Except.map, same]

/-- So have all outputs of a plan. -/
theorem resolveOutputs_shape (templates : Entries String) :
    (resolveOutputs live templates).map (Entries.mapValues Json.shape) =
      (resolveOutputs live' templates).map (Entries.mapValues Json.shape) := by
  apply mapM_entries_congr
  intro e _
  exact resolveOutput_shape alike e.1 e.2

/-- A request is remembered by names and types, which are the same among alike objects. -/
theorem PlannedResource.call_request_eq (r : PlannedResource) (inputs inputs' : Entries Json) :
    (r.request live inputs).call = (r.request live' inputs').call := by
  have name : ∀ dependency, (Entries.get? live dependency).map LiveObject.name =
      (Entries.get? live' dependency).map LiveObject.name := by
    intro dependency
    have kept : ∀ o : Option LiveObject,
        o.map LiveObject.name = (o.map LiveObject.shape).map LiveObject.name := by
      intro o
      rw [Option.map_map]
      rfl
    rw [kept, alike.get? dependency, ← kept]
  show CreateCall.mk r.name r.type _ = CreateCall.mk r.name r.type _
  rw [request, request, List.map_filterMap, List.map_filterMap, funext name]

end Resolve

/-! ## What the local provider assigns -/

namespace LocalProvider

variable {region region' : String}

/-- Which fields are assigned does not depend on the region, and it depends on the shape of the inputs
alone. -/
theorem keys_assigned {name : String} {inputs inputs' : Entries Json} (kind : ResourceKind)
    (same : Entries.mapValues Json.shape inputs = Entries.mapValues Json.shape inputs') :
    Entries.keys (assigned region name inputs kind) =
      Entries.keys (assigned region' name inputs' kind) := by
  cases kind with
  | table =>
    -- a table alone looks at its inputs, and there for a truth value
    have streams : ∀ given : Entries Json, Entries.get? given "streamEnabled" = some (.bool true) ↔
        Entries.get? (Entries.mapValues Json.shape given) "streamEnabled" =
          some (.bool true) := by
      intro given
      rw [Entries.get?_mapValues, Option.map_eq_some_iff]
      simp [Json.shape_eq_bool_iff]
    have both : Entries.get? inputs "streamEnabled" = some (.bool true) ↔
        Entries.get? inputs' "streamEnabled" = some (.bool true) := by
      rw [streams, same, ← streams]
    unfold assigned
    by_cases stream : Entries.get? inputs "streamEnabled" = some (.bool true)
    · rw [if_pos stream, if_pos (both.mp stream)]
      rfl
    · rw [if_neg stream, if_neg fun other => stream (both.mpr other)]
      rfl
  | _ => simp only [assigned, Entries.keys, List.map_cons, List.map_nil]

/-- The shape of what is assigned depends on the keys alone. -/
theorem mapValues_shape_foldl (pairs : Entries String) (fields : Entries Json) :
    Entries.mapValues Json.shape
        (pairs.foldl (fun fields e => Entries.insert fields e.1 (.string e.2)) fields) =
      (Entries.keys pairs).foldl (fun fields key => Entries.insert fields key (.string ""))
        (Entries.mapValues Json.shape fields) := by
  induction pairs generalizing fields with
  | nil => rfl
  | cons e rest ih =>
    rw [List.foldl_cons, ih, Entries.mapValues_insert]
    rfl

/-- Requests that differ in texts among their inputs construct objects of one shape in any two
regions. -/
theorem object_shape {r r' : CreateRequest} (name : r.name = r'.name) (type : r.type = r'.type)
    (inputs : Entries.mapValues Json.shape r.inputs = Entries.mapValues Json.shape r'.inputs) :
    (object region r).shape = (object region' r').shape := by
  have keys : Entries.keys (assignedTo region r) = Entries.keys (assignedTo region' r') := by
    unfold assignedTo
    rw [type, name]
    cases ResourceKind.ofToken? r'.type with
    | none => rfl
    | some kind => exact keys_assigned kind inputs
  unfold object LiveObject.shape
  simp only [mapValues_shape_foldl, Entries.mapValues_insert, keys, inputs, name, type, Json.shape]

end LocalProvider

/-! ## Two runs -/

/-- How far two runs have come if they went alike. -/
structure Progress.Alike (p q : Progress) : Prop where
  live : p.live.Alike q.live
  objects : p.objects.map LiveObject.shape = q.objects.map LiveObject.shape
  skipped : p.skipped = q.skipped
  calls : p.calls = q.calls

namespace Progress.Alike

variable {p q : Progress}

/-- Both runs pass a resource over. -/
theorem skip (alike : p.Alike q) (name : String) :
    Progress.Alike { p with skipped := p.skipped ++ [name] }
      { q with skipped := q.skipped ++ [name] } where
  live := alike.live
  objects := alike.objects
  skipped := by rw [alike.skipped]
  calls := alike.calls

/-- Both runs create a resource, each in its region, from inputs of one shape. -/
theorem create (alike : p.Alike q) (region region' : String) (r : PlannedResource)
    {inputs inputs' : Entries Json}
    (same : Entries.mapValues Json.shape inputs = Entries.mapValues Json.shape inputs') :
    Progress.Alike
      { p with
        live := Entries.insert p.live r.name (LocalProvider.object region (r.request p.live inputs))
        objects := p.objects ++ [LocalProvider.object region (r.request p.live inputs)]
        calls := p.calls ++ [(r.request p.live inputs).call] }
      { q with
        live := Entries.insert q.live r.name
          (LocalProvider.object region' (r.request q.live inputs'))
        objects := q.objects ++ [LocalProvider.object region' (r.request q.live inputs')]
        calls := q.calls ++ [(r.request q.live inputs').call] } := by
  have shape : (LocalProvider.object region (r.request p.live inputs)).shape =
      (LocalProvider.object region' (r.request q.live inputs')).shape :=
    LocalProvider.object_shape rfl rfl same
  constructor
  · exact alike.live.insert r.name shape
  · show List.map _ (_ ++ _) = List.map _ (_ ++ _)
    rw [List.map_append, List.map_append, alike.objects, List.map_singleton, List.map_singleton,
      shape]
  · exact alike.skipped
  · show p.calls ++ [_] = q.calls ++ [_]
    rw [alike.calls, r.call_request_eq alike.live inputs inputs']

end Progress.Alike

/-- Two runs in two regions that went alike so far go on alike and end with the same error or with
none. -/
theorem construct_alike (region region' : String) {p q : Progress} (alike : p.Alike q)
    (rs : List PlannedResource) :
    (construct (LocalProvider.ofRegion region).provider p rs).1.Alike
        (construct (LocalProvider.ofRegion region').provider q rs).1 ∧
      (construct (LocalProvider.ofRegion region).provider p rs).2 =
        (construct (LocalProvider.ofRegion region').provider q rs).2 := by
  have supports : ∀ region, (LocalProvider.ofRegion region).provider.supports =
      LocalProvider.supports := fun _ => rfl
  induction rs generalizing p q with
  | nil => exact ⟨alike, rfl⟩
  | cons r rest ih =>
    by_cases supported : LocalProvider.supports r.type = true
    · rw [construct, construct, supports, supports, if_pos supported, if_pos supported]
      rcases error_or_ok_of_map_eq (r.resolveInputs_shape alike.live) with
        ⟨e, failed, failed'⟩ | ⟨inputs, inputs', resolved, resolved', same⟩
      · rw [failed, failed']
        exact ⟨alike, rfl⟩
      · rw [resolved, resolved']
        exact ih (alike.create region region' r same)
    · rw [construct, construct, supports, supports, if_neg supported, if_neg supported]
      exact ih (alike.skip r.name)

/-- Two results have skipped the same, their objects are the same up to texts in fields, and so are
their outputs, under the same keys. -/
structure LinkedOutputs.Alike (a b : LinkedOutputs) : Prop where
  objects : a.objects.map LiveObject.shape = b.objects.map LiveObject.shape
  skipped : a.skipped = b.skipped
  outputs : Entries.mapValues Json.shape a.outputs = Entries.mapValues Json.shape b.outputs

/-- Alike results have objects of the same names and types with the same fields, and outputs under the
same keys, all in the same order. -/
theorem LinkedOutputs.Alike.keys {a b : LinkedOutputs} (alike : a.Alike b) :
    a.objects.map (fun o => (o.name, o.type, Entries.keys o.fields)) =
        b.objects.map (fun o => (o.name, o.type, Entries.keys o.fields)) ∧
      Entries.keys a.outputs = Entries.keys b.outputs := by
  have kept : ∀ objects : List LiveObject,
      objects.map (fun o => (o.name, o.type, Entries.keys o.fields)) =
        (objects.map LiveObject.shape).map fun o => (o.name, o.type, Entries.keys o.fields) := by
    intro objects
    rw [List.map_map]
    apply List.map_congr_left
    intro o _
    show (o.name, o.type, Entries.keys o.fields) =
      (o.name, o.type, Entries.keys (Entries.mapValues Json.shape o.fields))
    rw [Entries.keys_mapValues]
  constructor
  · rw [kept, alike.objects, ← kept]
  · rw [← Entries.keys_mapValues Json.shape a.outputs, alike.outputs, Entries.keys_mapValues]

/-- Two executions make the same calls, and they fail with the same error or come to results that are
alike. -/
structure Execution.Alike (a b : Execution) : Prop where
  calls : a.calls = b.calls
  result : (∃ e, a.result = .error e ∧ b.result = .error e) ∨
    ∃ x y, a.result = .ok x ∧ b.result = .ok y ∧ x.Alike y

/-- A program is executed alike in any two regions. -/
theorem execute_alike (p : Program) (region region' : String) :
    (p.withProvider (LocalProvider.ofRegion region).provider).execute.Alike
      (p.withProvider (LocalProvider.ofRegion region').provider).execute := by
  have start : Progress.start.Alike Progress.start := ⟨rfl, rfl, rfl, rfl⟩
  obtain ⟨alike, same⟩ := construct_alike region region' start p.plan.resources
  unfold Program.execute Program.withProvider
  simp only
  cases first : construct (LocalProvider.ofRegion region).provider .start p.plan.resources with
  | mk last fault =>
    cases second : construct (LocalProvider.ofRegion region').provider .start p.plan.resources with
    | mk last' fault' =>
      rw [first, second] at alike same
      obtain rfl : fault = fault' := same
      -- outputs are resolved among the objects that each run has left
      cases fault with
      | some e => exact ⟨alike.calls, Or.inl ⟨e, rfl, rfl⟩⟩
      | none =>
        refine ⟨alike.calls, ?_⟩
        rcases error_or_ok_of_map_eq (resolveOutputs_shape alike.live p.plan.outputs) with
          ⟨e, failed, failed'⟩ | ⟨outputs, outputs', resolved, resolved', shapes⟩
        · simp only [failed, failed']
          exact Or.inl ⟨e, rfl, rfl⟩
        · simp only [resolved, resolved']
          exact Or.inr ⟨_, _, rfl, rfl, alike.objects, alike.skipped, shapes⟩

end CloudPlan
