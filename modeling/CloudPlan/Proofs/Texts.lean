import CloudPlan.Proofs.Entries
import CloudPlan.Resource.Basic
import CloudPlan.Document

/-!
# The texts in a document and in a resource

`Document.texts` collects every text that a document holds, at any depth, and `Resource.texts` every
text in the properties of a resource: keys, strings and targets of references. Reading a part of a
JSON value, or making a property value of it, brings up no text that is not there.
-/

set_option autoImplicit false

namespace CloudPlan

/-! ## JSON values -/

namespace Json

mutual

/-- The texts in a JSON value: its strings and the keys of its objects. -/
def texts : Json → List String
  | .string s => [s]
  | .array items => textsOfItems items
  | .object entries => textsOfEntries entries
  | .null | .bool _ | .number _ => []

/-- The texts in the items of an array. -/
def textsOfItems : List Json → List String
  | [] => []
  | j :: rest => j.texts ++ textsOfItems rest

/-- The texts in the entries of an object. -/
def textsOfEntries : List (String × Json) → List String
  | [] => []
  | (k, j) :: rest => k :: (j.texts ++ textsOfEntries rest)

end

/-- The texts in entries are their keys and the texts in their values. -/
theorem mem_textsOfEntries {entries : Entries Json} {s : String} :
    s ∈ textsOfEntries entries ↔ ∃ e ∈ entries, s = e.1 ∨ s ∈ e.2.texts := by
  induction entries with
  | nil => simp [textsOfEntries]
  | cons e rest ih =>
    obtain ⟨k, j⟩ := e
    simp [textsOfEntries, ih, or_assoc]

/-- The texts of a value that is found are among them. -/
theorem mem_textsOfEntries_of_get? {entries : Entries Json} {key : String} {j : Json}
    (found : Entries.get? entries key = some j) {s : String} (member : s ∈ j.texts) :
    s ∈ textsOfEntries entries :=
  mem_textsOfEntries.mpr ⟨_, Entries.mem_of_get? found, Or.inr member⟩

/-- What stands under a key has no other texts. -/
theorem mem_texts_of_get? {j found : Json} {key : String} (present : j.get? key = some found)
    {s : String} (member : s ∈ found.texts) : s ∈ j.texts := by
  cases j with
  | object entries => exact mem_textsOfEntries_of_get? present member
  | null => cases present
  | bool b => cases present
  | number n => cases present
  | string s => cases present
  | array items => cases present

/-- A value that is a text holds that text. -/
theorem mem_texts_of_asString? {j : Json} {s : String} (text : j.asString? = some s) :
    s ∈ j.texts := by
  cases j with
  | string t =>
    cases text
    exact List.mem_singleton_self _
  | null => cases text
  | bool b => cases text
  | number n => cases text
  | array items => cases text
  | object entries => cases text

end Json

/-! ## Property values -/

namespace Value

mutual

/-- The texts in a value: its strings, the keys of its maps and the targets of its references. -/
def texts : Value → List String
  | .ref r => [r.target]
  | .string s => [s]
  | .list items => textsOfItems items
  | .map entries => textsOfEntries entries
  | .null | .bool _ | .number _ => []

/-- The texts in the items of a list. -/
def textsOfItems : List Value → List String
  | [] => []
  | v :: rest => v.texts ++ textsOfItems rest

/-- The texts in the entries of a map. -/
def textsOfEntries : List (String × Value) → List String
  | [] => []
  | (k, v) :: rest => k :: (v.texts ++ textsOfEntries rest)

end

@[simp] theorem texts_string (s : String) : (string s).texts = [s] := rfl

@[simp] theorem texts_ref (r : Reference) : (ref r).texts = [r.target] := rfl

@[simp] theorem texts_refTo (name : String) : (refTo name).texts = [name] := rfl

@[simp] theorem texts_refToField (name field : String) :
    (refToField name field).texts = [(Reference.toField name field).target] := rfl

@[simp] theorem texts_ofNat (n : Nat) : (ofNat n).texts = [] := rfl

@[simp] theorem texts_bool (b : Bool) : (bool b).texts = [] := rfl

@[simp] theorem texts_map (entries : List (String × Value)) :
    (map entries).texts = textsOfEntries entries := rfl

@[simp] theorem texts_list (items : List Value) : (list items).texts = textsOfItems items := rfl

/-- The texts in a list of texts are these texts. -/
theorem textsOfItems_strings (texts : List String) : textsOfItems (texts.map .string) = texts := by
  induction texts with
  | nil => rfl
  | cons s rest ih => simp [textsOfItems, ih]

/-- The texts in a list are those in its items. -/
theorem mem_textsOfItems {items : List Value} {s : String} :
    s ∈ textsOfItems items ↔ ∃ v ∈ items, s ∈ v.texts := by
  induction items with
  | nil => simp [textsOfItems]
  | cons v rest ih => simp [textsOfItems, ih]

/-- The texts in a map are its keys and the texts in its values. -/
theorem mem_textsOfEntries {entries : List (String × Value)} {s : String} :
    s ∈ textsOfEntries entries ↔ ∃ e ∈ entries, s = e.1 ∨ s ∈ e.2.texts := by
  induction entries with
  | nil => simp [textsOfEntries]
  | cons e rest ih =>
    obtain ⟨k, v⟩ := e
    simp [textsOfEntries, ih, or_assoc]

mutual

/-- A value made from JSON has no other texts. -/
theorem mem_texts_of_ofJson : (j : Json) → {s : String} → s ∈ (ofJson j).texts → s ∈ j.texts
  | .null, _, member => by simp [ofJson, texts] at member
  | .bool b, _, member => by simp [ofJson] at member
  | .number n, _, member => by simp [ofJson, texts] at member
  | .string t, _, member => by simpa [ofJson, texts, Json.texts] using member
  | .array items, _, member => by
    rw [ofJson, texts] at member
    rw [Json.texts]
    exact mem_textsOfItems_of_ofJson items member
  | .object entries, s, member => by
    by_cases lone : ∃ t, entries = [("ref", .string t)]
    · obtain ⟨t, rfl⟩ := lone
      have target : s = t := by simpa [ofJson, texts] using member
      simp [Json.texts, Json.textsOfEntries, target]
    · have general : ofJson (.object entries) = .map (ofJsonEntries entries) := by
        rw [ofJson]
        exact fun t same => lone ⟨t, same⟩
      rw [general, texts] at member
      rw [Json.texts]
      exact mem_textsOfEntries_of_ofJson entries member

/-- The items of an array have no texts as property values that they did not have in the array. -/
theorem mem_textsOfItems_of_ofJson : (items : List Json) → {s : String} →
    s ∈ textsOfItems (ofJsonItems items) → s ∈ Json.textsOfItems items
  | [], _, member => by simp [ofJsonItems, textsOfItems] at member
  | j :: rest, _, member => by
    rw [ofJsonItems, textsOfItems, List.mem_append] at member
    rw [Json.textsOfItems, List.mem_append]
    exact member.imp (mem_texts_of_ofJson j) (mem_textsOfItems_of_ofJson rest)

/-- The same for the entries of an object. -/
theorem mem_textsOfEntries_of_ofJson : (entries : List (String × Json)) → {s : String} →
    s ∈ textsOfEntries (ofJsonEntries entries) → s ∈ Json.textsOfEntries entries
  | [], _, member => by simp [ofJsonEntries, textsOfEntries] at member
  | (k, j) :: rest, _, member => by
    rw [ofJsonEntries, textsOfEntries, List.mem_cons, List.mem_append] at member
    rw [Json.textsOfEntries, List.mem_cons, List.mem_append]
    exact member.imp_right (Or.imp (mem_texts_of_ofJson j) (mem_textsOfEntries_of_ofJson rest))

end

end Value

/-- The texts in the properties of a resource. -/
def Resource.texts (r : Resource) : List String :=
  Value.textsOfEntries r.properties

/-! ## Documents -/

/-- The texts in settings. -/
def Config.texts (config : Config) : List String :=
  [config.region, config.serviceName] ++ config.codePath.toList ++
    config.codeStore.toList.flatMap fun code => [code.bucket, code.key]

/-- The texts in a scope of access. -/
def AccessScope.texts : AccessScope → List String
  | .specific => []
  | .pattern text => text.toList

/-- The texts in a value source. -/
def ValueSource.texts : ValueSource → List String
  | .literal value => [value]
  | .reference node field => node :: field.toList
  | .secret name => [name]

/-- The texts in the fields of an intent. -/
def Intent.texts : Intent → List String
  | .access i => [i.edge, i.principal, i.resource] ++ i.scope.toList.flatMap AccessScope.texts
  | .network i => [i.edge, i.source, i.target] ++ i.protocol.toList
  | .config i => [i.edge, i.target, i.key] ++ i.source.texts
  | .telemetry i => i.edge :: i.target.toList
  | .other i => [i.typeName, i.edge] ++ Json.textsOfEntries i.fields

/-- The texts in a node: its id, and keys and strings in its properties. -/
def Node.texts (n : Node) : List String :=
  n.id :: Json.textsOfEntries n.properties

/-- The texts in an edge: its id, its ends and the values of its binding. -/
def Edge.texts (e : Edge) : List String :=
  [e.id, e.source, e.target] ++ (Entries.values e.binding).flatMap Json.texts

/-- The texts in a document. -/
def Document.texts (doc : Document) : List String :=
  doc.config.texts ++ doc.intents.flatMap Intent.texts ++
    (doc.graph.nodes.flatMap Node.texts ++ doc.graph.edges.flatMap Edge.texts)

/-- A property of a node has no other texts than the node. -/
theorem Node.mem_texts_of_get? {n : Node} {key : String} {j : Json}
    (found : Entries.get? n.properties key = some j) {s : String} (member : s ∈ j.texts) :
    s ∈ n.texts :=
  List.mem_cons_of_mem _ (Json.mem_textsOfEntries_of_get? found member)

/-- A text property of a node is among its texts. -/
theorem Node.mem_texts_of_string? {n : Node} {key s : String} (text : n.string? key = some s) :
    s ∈ n.texts := by
  obtain ⟨j, found, string⟩ := Option.bind_eq_some_iff.mp text
  exact mem_texts_of_get? found (Json.mem_texts_of_asString? string)

/-- What stands under a key of an edge's binding has no other texts than the edge. -/
theorem Edge.mem_texts_of_binding {e : Edge} {key : String} {j : Json}
    (found : Entries.get? e.binding key = some j) {s : String} (member : s ∈ j.texts) :
    s ∈ e.texts := by
  have value : j ∈ Entries.values e.binding :=
    List.mem_map.mpr ⟨_, Entries.mem_of_get? found, rfl⟩
  exact List.mem_append_right _ (List.mem_flatMap.mpr ⟨j, value, member⟩)

end CloudPlan
