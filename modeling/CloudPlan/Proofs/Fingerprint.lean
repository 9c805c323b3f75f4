import CloudPlan.Plan.Basic
import CloudPlan.Proofs.CompactJson

/-!
# The text of a plan determines the plan

A fingerprint is the digest of the compact JSON text of a plan. JSON without doubles can be told
from its text, and property values from their JSON unless a map is spelled like a reference
(`Value.ofJson_json_iff`). So two plans whose numbers are integers, and in which no map poses as a
reference, have one text only if they are the same plan, down to the order of entries; and one
fingerprint only if they are the same or the digest function collides on their texts
(`fingerprint_determines`).
-/

set_option autoImplicit false

namespace CloudPlan

/-! ## Property values -/

namespace Value

mutual

/-- A property value and all values in it, at any depth. -/
def parts : Value → List Value
  | .list items => .list items :: partsOfItems items
  | .map entries => .map entries :: partsOfEntries entries
  | .ref r => [.ref r]
  | .bool b => [.bool b]
  | .number n => [.number n]
  | .string s => [.string s]
  | .null => [.null]

/-- The parts of the items of a list. -/
def partsOfItems : List Value → List Value
  | [] => []
  | v :: rest => v.parts ++ partsOfItems rest

/-- The parts of the values of a map. -/
def partsOfEntries : List (String × Value) → List Value
  | [] => []
  | (_, v) :: rest => v.parts ++ partsOfEntries rest

end

mutual

/-- A written value holds the numbers that the value holds. -/
theorem number_mem_parts_json {n : JsonNumber} :
    (v : Value) → (.number n ∈ v.json.parts ↔ .number n ∈ v.parts)
  | .ref r => by simp [json, Json.parts, Json.partsOfEntries, parts]
  | .bool b => by simp [json, Json.parts, parts]
  | .number m => by simp [json, Json.parts, parts]
  | .string s => by simp [json, Json.parts, parts]
  | .null => by simp [json, Json.parts, parts]
  | .list items => by simp [json, Json.parts, parts, number_mem_partsOfItems_json items]
  | .map entries => by simp [json, Json.parts, parts, number_mem_partsOfEntries_json entries]

/-- The numbers in the JSON form of items are those in the items. -/
theorem number_mem_partsOfItems_json {n : JsonNumber} : (items : List Value) →
    (.number n ∈ Json.partsOfItems (jsonItems items) ↔ .number n ∈ partsOfItems items)
  | [] => by simp [jsonItems, Json.partsOfItems, partsOfItems]
  | v :: rest => by
    rw [jsonItems, Json.partsOfItems, partsOfItems, List.mem_append, List.mem_append,
      number_mem_parts_json v, number_mem_partsOfItems_json rest]

/-- The numbers in the JSON form of entries are those in the entries. -/
theorem number_mem_partsOfEntries_json {n : JsonNumber} : (entries : List (String × Value)) →
    (.number n ∈ Json.partsOfEntries (jsonEntries entries) ↔ .number n ∈ partsOfEntries entries)
  | [] => by simp [jsonEntries, Json.partsOfEntries, partsOfEntries]
  | (k, v) :: rest => by
    rw [jsonEntries, Json.partsOfEntries, partsOfEntries, List.mem_append, List.mem_append,
      number_mem_parts_json v, number_mem_partsOfEntries_json rest]

end

mutual

/-- A written value is read back as it was, taking objects with a text under the only key `ref` for
references, exactly if no map in it is of that shape. -/
theorem ofJson_json_iff : (v : Value) →
    (ofJson v.json = v ↔ ∀ t, .map [("ref", .string t)] ∉ v.parts)
  | .ref r => by simp [json, ofJson, parts]
  | .bool b => by simp [json, ofJson, parts]
  | .number n => by simp [json, ofJson, parts]
  | .string s => by simp [json, ofJson, parts]
  | .null => by simp [json, ofJson, parts]
  | .list items => by
    simp only [json, ofJson, parts, List.mem_cons, reduceCtorEq, false_or, list.injEq]
    exact ofJsonItems_jsonItems_iff items
  | .map entries => by
    by_cases lone : ∃ t, entries = [("ref", .string t)]
    · obtain ⟨t, rfl⟩ := lone
      refine iff_of_false ?_ fun none => none t List.mem_cons_self
      simp [json, jsonEntries, ofJson]
    · have other : ∀ t, entries ≠ [("ref", .string t)] := fun t same => lone ⟨t, same⟩
      -- A reference under the key is written as an object, not as a text.
      have written : ∀ t, jsonEntries entries ≠ [("ref", .string t)] :=
        fun t => mt jsonEntries_eq_singleton_iff.mp (other t)
      have inner : ∀ t, map [("ref", .string t)] ∈ (map entries).parts ↔
          map [("ref", .string t)] ∈ partsOfEntries entries := by
        intro t
        rw [parts, List.mem_cons, map.injEq, or_iff_right fun same => other t same.symm]
      rw [json, ofJson_object written, map.injEq, ofJsonEntries_jsonEntries_iff entries]
      exact forall_congr' fun t => not_congr (inner t).symm

/-- Items come back from their JSON form exactly if none of the maps in them is a text under the
only key `ref`. -/
theorem ofJsonItems_jsonItems_iff : (items : List Value) →
    (ofJsonItems (jsonItems items) = items ↔ ∀ t, .map [("ref", .string t)] ∉ partsOfItems items)
  | [] => by simp [jsonItems, ofJsonItems, partsOfItems]
  | v :: rest => by
    simp only [jsonItems, ofJsonItems, partsOfItems, List.cons.injEq, List.mem_append, not_or,
      forall_and, ofJson_json_iff v, ofJsonItems_jsonItems_iff rest]

/-- The same for the entries of a map. -/
theorem ofJsonEntries_jsonEntries_iff : (entries : List (String × Value)) →
    (ofJsonEntries (jsonEntries entries) = entries ↔
      ∀ t, .map [("ref", .string t)] ∉ partsOfEntries entries)
  | [] => by simp [jsonEntries, ofJsonEntries, partsOfEntries]
  | (k, v) :: rest => by
    simp only [jsonEntries, ofJsonEntries, partsOfEntries, List.cons.injEq, Prod.mk.injEq, true_and,
      List.mem_append, not_or, forall_and, ofJson_json_iff v, ofJsonEntries_jsonEntries_iff rest]

end

end Value

/-! ## Resources and plans -/

/-- Lists that look alike through a function that tells their members apart are the same. -/
theorem eq_of_map_eq {α β : Type} {f : α → β} {xs ys : List α}
    (inj : ∀ x ∈ xs, ∀ y ∈ ys, f x = f y → x = y) (same : xs.map f = ys.map f) : xs = ys := by
  induction xs generalizing ys with
  | nil => exact (List.map_eq_nil_iff.mp same.symm).symm
  | cons x rest ih =>
    obtain ⟨y, later, rfl, first, others⟩ := List.map_eq_cons_iff.mp same.symm
    rw [inj x List.mem_cons_self y List.mem_cons_self first.symm,
      ih (fun a here b there =>
        inj a (List.mem_cons_of_mem _ here) b (List.mem_cons_of_mem _ there)) others.symm]

/-- Values of properties that can be told from their JSON text: every number is an integer, and no
map is a text under the only key `ref`, which is written like a reference. -/
structure Unmistakable (values : List Value) : Prop where
  integers : ∀ x, .number (.real x) ∉ values
  maps : ∀ t, .map [("ref", .string t)] ∉ values

namespace Json

/-- A text holds no number. -/
theorem integral_string (s : String) : Integral (.string s) := by
  simp [Integral, parts]

/-- Nor does an array of texts. -/
theorem integral_ofStrings (texts : List String) : Integral (ofStrings texts) := by
  refine integral_array_iff.mpr fun j there => ?_
  obtain ⟨s, _, rfl⟩ := List.mem_map.mp there
  exact integral_string s

end Json

namespace Properties

variable {properties others : Properties}

/-- Unmistakable properties are told by their JSON form. -/
theorem json_inj (told : Unmistakable (Value.partsOfEntries properties))
    (told' : Unmistakable (Value.partsOfEntries others))
    (same : Properties.json properties = Properties.json others) : properties = others := by
  have entries : Value.jsonEntries properties = Value.jsonEntries others := Json.object.inj same
  calc properties
      = Value.ofJsonEntries (Value.jsonEntries properties) :=
        ((Value.ofJsonEntries_jsonEntries_iff _).mpr told.maps).symm
    _ = Value.ofJsonEntries (Value.jsonEntries others) := by rw [entries]
    _ = others := (Value.ofJsonEntries_jsonEntries_iff _).mpr told'.maps

/-- The JSON form of unmistakable properties holds no double. -/
theorem integral_json (told : Unmistakable (Value.partsOfEntries properties)) :
    (Properties.json properties).Integral := by
  intro x there
  simp only [json, Json.parts, List.mem_cons, reduceCtorEq, false_or,
    Value.number_mem_partsOfEntries_json] at there
  exact told.integers x there

end Properties

namespace PlannedResource

variable {r s : PlannedResource}

/-- A planned resource is told by its JSON form if its properties are unmistakable. -/
theorem json_inj (told : Unmistakable (Value.partsOfEntries r.properties))
    (told' : Unmistakable (Value.partsOfEntries s.properties)) (same : r.json = s.json) :
    r = s := by
  simp only [json, Json.object.injEq, List.cons.injEq, Prod.mk.injEq, true_and, and_true,
    Json.string.injEq] at same
  obtain ⟨name, type, properties, dependsOn⟩ := same
  have names : r.dependsOn = s.dependsOn :=
    List.map_injective_iff.mpr (fun _ _ => Json.string.inj) (Json.array.inj dependsOn)
  cases r
  cases s
  simp only [mk.injEq]
  exact ⟨name, type, Properties.json_inj told told' properties, names⟩

/-- The JSON form of such a resource holds no double. -/
theorem integral_json (told : Unmistakable (Value.partsOfEntries r.properties)) :
    r.json.Integral := by
  refine Json.integral_object_iff.mpr ?_
  rintro e there
  simp only [List.mem_cons, List.not_mem_nil, or_false] at there
  obtain rfl | rfl | rfl | rfl := there
  · exact Json.integral_string _
  · exact Json.integral_string _
  · exact Properties.integral_json told
  · exact Json.integral_ofStrings _

end PlannedResource

namespace Plan

/-- All values in the properties of the resources of a plan, at any depth. -/
def parts (plan : Plan) : List Value :=
  plan.resources.flatMap fun r => Value.partsOfEntries r.properties

/-- If the values of a plan are unmistakable, so are those of each of its resources. -/
theorem unmistakable_of_mem {plan : Plan} (told : Unmistakable plan.parts) {r : PlannedResource}
    (planned : r ∈ plan.resources) : Unmistakable (Value.partsOfEntries r.properties) where
  integers x there := told.integers x (List.mem_flatMap_of_mem planned there)
  maps t there := told.maps t (List.mem_flatMap_of_mem planned there)

variable {p q : Plan}

/-- A plan is told by its JSON form if all its values are unmistakable. -/
theorem json_inj (told : Unmistakable p.parts) (told' : Unmistakable q.parts)
    (same : p.json = q.json) : p = q := by
  simp only [json, Json.object.injEq, List.cons.injEq, Prod.mk.injEq, true_and, and_true,
    Json.array.injEq] at same
  obtain ⟨resources, outputs⟩ := same
  have planned : p.resources = q.resources :=
    eq_of_map_eq (fun r there s there' => PlannedResource.json_inj (unmistakable_of_mem told there)
      (unmistakable_of_mem told' there')) resources
  have templates : p.outputs = q.outputs :=
    eq_of_map_eq (by rintro ⟨k, s⟩ _ ⟨l, t⟩ _; simp) outputs
  cases p
  cases q
  simp only [mk.injEq]
  exact ⟨planned, templates⟩

/-- The JSON form of such a plan holds no double. -/
theorem integral_json (told : Unmistakable p.parts) : p.json.Integral := by
  refine Json.integral_object_iff.mpr ?_
  rintro e there
  simp only [List.mem_cons, List.not_mem_nil, or_false] at there
  obtain rfl | rfl := there
  · refine Json.integral_array_iff.mpr fun j there => ?_
    obtain ⟨r, planned, rfl⟩ := List.mem_map.mp there
    exact PlannedResource.integral_json (unmistakable_of_mem told planned)
  · refine Json.integral_object_iff.mpr fun e there => ?_
    obtain ⟨output, _, rfl⟩ := List.mem_map.mp there
    exact Json.integral_string _

end Plan

/-! ## What texts and fingerprints tell -/

/-- **The text that is digested determines the plan.** Two plans whose values can be told from their
text have one compact text only if they are the same plan, order of map entries, resources,
dependencies and outputs included. So they have one fingerprint only if they are the same, or else
the digest function gives one digest for their two texts. -/
theorem fingerprint_determines {p q : Plan} (told : Unmistakable p.parts)
    (told' : Unmistakable q.parts) :
    (p.json.compact = q.json.compact → p = q) ∧
      (p.fingerprint = q.fingerprint → p = q ∨ (p.json.compact ≠ q.json.compact ∧
        Blake3.hexOfText p.json.compact = Blake3.hexOfText q.json.compact)) := by
  have texts : p.json.compact = q.json.compact → p = q := fun same =>
    Plan.json_inj told told'
      (Json.compact_inj (Plan.integral_json told) (Plan.integral_json told') same)
  refine ⟨texts, fun same => ?_⟩
  have digests : Blake3.hexOfText p.json.compact = Blake3.hexOfText q.json.compact :=
    (String.append_right_inj _).mp same
  by_cases equal : p.json.compact = q.json.compact
  · exact .inl (texts equal)
  · exact .inr ⟨equal, digests⟩

/-- A plan of one queue with the given tags and dead letter queue. -/
def queuePlan (tags deadQueue : Value) : Plan :=
  ⟨[⟨"jobs-queue", "aws:sqs/queue:Queue",
      [("delaySeconds", .number (.int (-1))), ("redrivePolicy", .map [("target", deadQueue)]),
        ("tags", tags)], ["dead-queue"]⟩],
    [("jobs-queue-url", outputTemplate "jobs-queue" "url")]⟩

/-- A list of two texts is told from a list of one text that spells the separator between them. -/
theorem queuePlan_separators :
    let two := queuePlan (.list [.string "a", .string "b"]) (.refTo "dead-queue")
    let one := queuePlan (.list [.string "a\",\"b"]) (.refTo "dead-queue")
    Unmistakable two.parts ∧ Unmistakable one.parts ∧ two.json.compact ≠ one.json.compact := by
  intro two one
  have told : Unmistakable two.parts := by
    constructor <;> simp [two, queuePlan, Plan.parts, Value.partsOfEntries, Value.partsOfItems,
      Value.parts, Value.refTo]
  have told' : Unmistakable one.parts := by
    constructor <;> simp [one, queuePlan, Plan.parts, Value.partsOfEntries, Value.partsOfItems,
      Value.parts, Value.refTo]
  refine ⟨told, told', fun same => ?_⟩
  have equal : two = one := (fingerprint_determines told told').1 same
  exact absurd equal (by decide)

end CloudPlan
