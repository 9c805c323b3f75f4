import CloudPlan.Resource.Basic

/-!
# What is read back

A value that was written as JSON is read back as it was, unless somewhere in it a list consists of
exactly one text: that is taken for a reference. So is a map whose only key is `ref`, with a text.
`Value.decode_json_iff` says that these two shapes are all that is lost. Reading a written plan never
fails (`Plan.decode_json`), so a plan is read back as it was if its values are (`Plan.decode_json_iff`).
-/

set_option autoImplicit false

namespace CloudPlan

namespace Value

mutual

/-- Whether no list of exactly one text, and no map with a text under the only key `ref`, stands
anywhere in a value. -/
def legible : Value → Bool
  | .list [.string _] => false
  | .list items => legibleItems items
  | .map [("ref", .string _)] => false
  | .map entries => legibleEntries entries
  | .ref _ | .bool _ | .number _ | .string _ | .null => true

/-- Whether that holds in the items of a list. -/
def legibleItems : List Value → Bool
  | [] => true
  | v :: rest => legible v && legibleItems rest

/-- Whether that holds in the values of a map. -/
def legibleEntries : List (String × Value) → Bool
  | [] => true
  | (_, v) :: rest => legible v && legibleEntries rest

end

@[simp] theorem legible_ref {r : Reference} : (ref r).legible = true := rfl

@[simp] theorem legible_bool {b : Bool} : (bool b).legible = true := rfl

@[simp] theorem legible_string {s : String} : (string s).legible = true := rfl

/-! ## Lists and maps of other shapes -/

section Shapes

variable {items : List Value} {entries : List (String × Value)}

/-- A list is legible if its items are, unless it is exactly one text. -/
theorem legible_list (several : ∀ t, items ≠ [.string t]) :
    legible (.list items) = legibleItems items := by
  rw [legible]
  exact several

/-- A map is legible if its values are, unless it is a text under the only key `ref`. -/
theorem legible_map (other : ∀ t, entries ≠ [("ref", .string t)]) :
    legible (.map entries) = legibleEntries entries := by
  rw [legible]
  exact other

/-- An array is read as a list, unless it is exactly one text. -/
theorem decode_array {items : List Json} (several : ∀ t, items ≠ [.string t]) :
    decode (.array items) = .list (decodeItems items) := by
  rw [decode]
  exact several

/-- An object is read as a map, unless it is a text under the only key `ref`. -/
theorem decode_object {entries : List (String × Json)} (other : ∀ t, entries ≠ [("ref", .string t)]) :
    decode (.object entries) = .map (decodeEntries entries) := by
  rw [decode]
  exact other

/-- Only a text is written as a text. -/
theorem json_eq_string_iff {v : Value} {t : String} : v.json = .string t ↔ v = .string t := by
  cases v <;> simp [json]

/-- Only a list of exactly one text is written as such an array. -/
theorem jsonItems_eq_singleton_iff {t : String} :
    jsonItems items = [.string t] ↔ items = [.string t] := by
  match items with
  | [] => simp [jsonItems]
  | [v] => simp [jsonItems, json_eq_string_iff]
  | _ :: _ :: _ => simp [jsonItems]

/-- Only a map of exactly one text is written as such an object. -/
theorem jsonEntries_eq_singleton_iff {k t : String} :
    jsonEntries entries = [(k, .string t)] ↔ entries = [(k, .string t)] := by
  match entries with
  | [] => simp [jsonEntries]
  | [(l, v)] => simp [jsonEntries, json_eq_string_iff]
  | _ :: _ :: _ => simp [jsonEntries]

end Shapes

/-! ## What is read back as it was -/

mutual

/-- A written value is read back as it was exactly if it is legible. -/
theorem decode_json_iff : (v : Value) → (decode v.json = v ↔ v.legible = true)
  | .ref r => by simp [json, decode, legible]
  | .bool b => by simp [json, decode, legible]
  | .number n => by simp [json, decode, legible]
  | .string s => by simp [json, decode, legible]
  | .null => by simp [json, decode, legible]
  | .list items => by
    by_cases lone : ∃ t, items = [.string t]
    · obtain ⟨t, rfl⟩ := lone
      simp [json, jsonItems, decode, legible]
    · have several : ∀ t, items ≠ [.string t] := fun t same => lone ⟨t, same⟩
      have written : ∀ t, jsonItems items ≠ [.string t] :=
        fun t => mt jsonItems_eq_singleton_iff.mp (several t)
      rw [json, decode_array written, legible_list several, list.injEq]
      exact decodeItems_json_iff items
  | .map entries => by
    by_cases lone : ∃ t, entries = [("ref", .string t)]
    · obtain ⟨t, rfl⟩ := lone
      simp [json, jsonEntries, decode, legible]
    · have other : ∀ t, entries ≠ [("ref", .string t)] := fun t same => lone ⟨t, same⟩
      have written : ∀ t, jsonEntries entries ≠ [("ref", .string t)] :=
        fun t => mt jsonEntries_eq_singleton_iff.mp (other t)
      rw [json, decode_object written, legible_map other, map.injEq]
      exact decodeEntries_json_iff entries

/-- Items are read back as they were exactly if all of them are legible. -/
theorem decodeItems_json_iff : (items : List Value) →
    (decodeItems (jsonItems items) = items ↔ legibleItems items = true)
  | [] => by simp [jsonItems, decodeItems, legibleItems]
  | v :: rest => by
    rw [jsonItems, decodeItems, legibleItems, List.cons.injEq, Bool.and_eq_true]
    exact and_congr (decode_json_iff v) (decodeItems_json_iff rest)

/-- The entries of a map are read back as they were exactly if all their values are legible. -/
theorem decodeEntries_json_iff : (entries : List (String × Value)) →
    (decodeEntries (jsonEntries entries) = entries ↔ legibleEntries entries = true)
  | [] => by simp [jsonEntries, decodeEntries, legibleEntries]
  | (k, v) :: rest => by
    rw [jsonEntries, decodeEntries, legibleEntries, List.cons.injEq, Prod.mk.injEq,
      Bool.and_eq_true]
    exact and_congr ((and_iff_right rfl).trans (decode_json_iff v)) (decodeEntries_json_iff rest)

end

end Value

/-! ## Records -/

section Lists

variable {α β ε : Type} {xs : List α}

/-- A list of values can be computed if each of them can. -/
theorem mapM_eq_ok {f : α → Except ε β} {g : α → β} (each : ∀ x ∈ xs, f x = .ok (g x)) :
    xs.mapM f = .ok (xs.map g) := by
  induction xs with
  | nil => rfl
  | cons x rest ih =>
    have first := each x List.mem_cons_self
    have later := ih fun y present => each y (List.mem_cons_of_mem _ present)
    rw [List.mapM_cons, first, later]
    rfl

/-- A function leaves a list as it is exactly if it leaves each item as it is. -/
theorem map_eq_self_iff {f : α → α} : xs.map f = xs ↔ ∀ x ∈ xs, f x = x := by
  have pointwise := @List.map_inj_left α α xs f id
  rwa [List.map_id] at pointwise

end Lists

/-- All values of some properties are legible. -/
def Legible (properties : Properties) : Prop :=
  ∀ e ∈ properties, e.2.legible = true

namespace Value

/-- Items are legible if each of them is. -/
theorem legibleItems_iff {items : List Value} :
    legibleItems items = true ↔ ∀ v ∈ items, v.legible = true := by
  induction items with
  | nil => simp [legibleItems]
  | cons v rest ih => rw [legibleItems, Bool.and_eq_true, ih, List.forall_mem_cons]

/-- Entries are legible if each of their values is. -/
theorem legibleEntries_iff {entries : List (String × Value)} :
    legibleEntries entries = true ↔ Legible entries := by
  unfold Legible
  induction entries with
  | nil => simp [legibleEntries]
  | cons e rest ih => rw [legibleEntries, Bool.and_eq_true, ih, List.forall_mem_cons]

/-- A list is legible if it is not exactly one text and its items are legible. -/
theorem legible_list_iff {items : List Value} :
    (list items).legible = true ↔
      (∀ t, items ≠ [.string t]) ∧ ∀ v ∈ items, v.legible = true := by
  by_cases lone : ∃ t, items = [.string t]
  · obtain ⟨t, rfl⟩ := lone
    simp [legible]
  · have several : ∀ t, items ≠ [.string t] := fun t same => lone ⟨t, same⟩
    rw [legible_list several, legibleItems_iff, and_iff_right several]

/-- A map is legible if it is not a text under `ref` alone and its values are legible. -/
theorem legible_map_iff {entries : List (String × Value)} :
    (map entries).legible = true ↔ (∀ t, entries ≠ [("ref", .string t)]) ∧ Legible entries := by
  by_cases lone : ∃ t, entries = [("ref", .string t)]
  · obtain ⟨t, rfl⟩ := lone
    simp [legible]
  · have other : ∀ t, entries ≠ [("ref", .string t)] := fun t same => lone ⟨t, same⟩
    rw [legible_map other, legibleEntries_iff, and_iff_right other]

end Value

namespace Properties

/-- Properties as they are read back. -/
def reread (properties : Properties) : Properties :=
  properties.map fun e => (e.1, Value.decode e.2.json)

/-- Properties are read back as they were exactly if all their values are legible. -/
theorem reread_eq_iff {properties : Properties} :
    reread properties = properties ↔ Legible properties := by
  unfold reread Legible
  rw [map_eq_self_iff]
  refine forall_congr' fun e => imp_congr_right fun _ => ?_
  rw [← Value.decode_json_iff, Prod.ext_iff]
  exact and_iff_right rfl

/-- Properties are written one by one. -/
theorem jsonEntries_eq_map (properties : Properties) :
    Value.jsonEntries properties = properties.map fun e => (e.1, e.2.json) := by
  induction properties with
  | nil => rfl
  | cons e rest ih =>
    rw [Value.jsonEntries, ih]
    rfl

/-- Written properties can be read. -/
theorem decode_json (properties : Properties) :
    decode (json properties) = .ok (reread properties) := by
  rw [json, decode, Json.keyed, jsonEntries_eq_map, List.mapM_map]
  exact mapM_eq_ok fun e _ => rfl

end Properties

/-- A field that is there and can be read is read. -/
theorem Record.readField_of_ok {α : Type} {r : Record} {field : String} {decode : Decoder α}
    {absent : Fields α} {j : Json} {a : α} (given : r.value? field = some j)
    (ok : decode j = .ok a) : r.readField field decode absent = .read a := by
  simp only [readField, given, ok]

/-- Written texts can be read. -/
theorem Json.sequence_ofStrings (texts : List String) :
    Json.sequence Json.text (Json.ofStrings texts) = .ok texts := by
  rw [Json.ofStrings, Json.sequence, List.mapM_map]
  refine (mapM_eq_ok (g := id) fun _ _ => rfl).trans ?_
  rw [List.map_id]

namespace PlannedResource

/-- A planned resource as it is read back. -/
def reread (r : PlannedResource) : PlannedResource :=
  { r with properties := Properties.reread r.properties }

/-- A written resource can be read. -/
theorem decode_json (r : PlannedResource) : decode r.json = .ok r.reread := by
  let record : Record := ⟨recordType, .keyed
    [("name", .string r.name), ("resource_type", .string r.type),
      ("properties", Properties.json r.properties), ("depends_on", Json.ofStrings r.dependsOn)],
    false⟩
  have name : record.required "name" Json.text = .read r.name :=
    Record.readField_of_ok rfl rfl
  have type : record.required "resource_type" Json.text = .read r.type :=
    Record.readField_of_ok rfl rfl
  have properties : record.withDefault "properties" Properties.decode [] =
      .read (Properties.reread r.properties) :=
    Record.readField_of_ok rfl (Properties.decode_json r.properties)
  have names : record.withDefault "depends_on" (Json.sequence Json.text) [] = .read r.dependsOn :=
    Record.readField_of_ok rfl (Json.sequence_ofStrings r.dependsOn)
  have fields : decode r.json = record.settle (mk <$> record.required "name" Json.text
      <*> record.required "resource_type" Json.text
      <*> record.withDefault "properties" Properties.decode []
      <*> record.withDefault "depends_on" (Json.sequence Json.text) []) := rfl
  rw [fields, name, type, properties, names]
  rfl

/-- It is read back as it was exactly if all its properties are legible. -/
theorem reread_eq_iff {r : PlannedResource} : r.reread = r ↔ Legible r.properties := by
  rw [← Properties.reread_eq_iff]
  cases r
  simp [reread]

end PlannedResource

namespace Plan

/-- A plan as it is read back. -/
def reread (plan : Plan) : Plan :=
  ⟨plan.resources.map PlannedResource.reread, plan.outputs⟩

/-- A written plan can be read, whatever its values are. -/
theorem decode_json (plan : Plan) : decode plan.json = .ok plan.reread := by
  let record : Record := ⟨recordType, .keyed
    [("resources", .array (plan.resources.map PlannedResource.json)),
      ("outputs", .object (Entries.mapValues Json.string plan.outputs))], false⟩
  have resources : record.required "resources" (Json.sequence PlannedResource.decode) =
      .read (plan.resources.map PlannedResource.reread) := by
    refine Record.readField_of_ok rfl ?_
    rw [Json.sequence, List.mapM_map]
    exact mapM_eq_ok fun r _ => r.decode_json
  have outputs : record.withDefault "outputs" (Json.keyed Json.text) [] = .read plan.outputs := by
    refine Record.readField_of_ok rfl ?_
    rw [Json.keyed, Entries.mapValues, List.mapM_map]
    refine (mapM_eq_ok (g := id) fun _ _ => rfl).trans ?_
    rw [List.map_id]
  have fields : decode plan.json = record.settle (mk <$>
      record.required "resources" (Json.sequence PlannedResource.decode)
      <*> record.withDefault "outputs" (Json.keyed Json.text) []) := rfl
  rw [fields, resources, outputs]
  rfl

/-- A written plan is read back as it was exactly if all values of its properties are legible. -/
theorem decode_json_iff {plan : Plan} :
    decode plan.json = .ok plan ↔ ∀ r ∈ plan.resources, Legible r.properties := by
  rw [decode_json, Except.ok.injEq]
  have sameResources : plan.reread = plan ↔
      plan.resources.map PlannedResource.reread = plan.resources := by
    cases plan
    simp [reread]
  rw [sameResources, map_eq_self_iff]
  exact forall_congr' fun r => imp_congr_right fun _ => PlannedResource.reread_eq_iff

end Plan

end CloudPlan
