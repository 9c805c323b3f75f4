import CloudPlan.Proofs.PlanRoundTrip

/-!
# The two readings of a property value

`Value.ofJson` and `Value.decode` read JSON as property values. They differ in one shape only: an
array of exactly one text is a list for the first and a reference for the second
(`readings_agree_iff`). So reading with `Value.decode` is reading with `Value.ofJson` once every
such array is spelled as a reference, and what was read is written in that spelling and read back
from it (`read_normalizes`).

`Value.untagged?` says where the second reading comes from: a value that does not name its kind is
tried as each of the seven kinds in order, and a reference may come as an object or as a sequence of
its one field. It might fail, but never does.
-/

set_option autoImplicit false

namespace CloudPlan

/-! ## Values at any depth -/

namespace Json

mutual

/-- A JSON value and all values in it, at any depth. -/
def parts : Json → List Json
  | .array items => .array items :: partsOfItems items
  | .object entries => .object entries :: partsOfEntries entries
  | .null => [.null]
  | .bool b => [.bool b]
  | .number n => [.number n]
  | .string s => [.string s]

/-- The parts of the items of an array. -/
def partsOfItems : List Json → List Json
  | [] => []
  | j :: rest => j.parts ++ partsOfItems rest

/-- The parts of the values of an object. -/
def partsOfEntries : List (String × Json) → List Json
  | [] => []
  | (_, j) :: rest => j.parts ++ partsOfEntries rest

end

variable {part : Json}

/-- The parts of the items are the parts of one of them. -/
theorem mem_partsOfItems {items : List Json} :
    part ∈ partsOfItems items ↔ ∃ j ∈ items, part ∈ j.parts := by
  induction items with
  | nil => simp [partsOfItems]
  | cons j rest ih => simp [partsOfItems, ih]

/-- The parts of the entries are the parts of one of their values. -/
theorem mem_partsOfEntries {entries : List (String × Json)} :
    part ∈ partsOfEntries entries ↔ ∃ e ∈ entries, part ∈ e.2.parts := by
  induction entries with
  | nil => simp [partsOfEntries]
  | cons e rest ih => simp [partsOfEntries, ih]

/-! ## Arrays of exactly one text -/

mutual

/-- A value with every array of exactly one text, at any depth, written as a reference. -/
def loneTextsAsRefs : Json → Json
  | .array [.string target] => .object [("ref", .string target)]
  | .array items => .array (loneTextsAsRefsInItems items)
  | .object entries => .object (loneTextsAsRefsInEntries entries)
  | .null => .null
  | .bool b => .bool b
  | .number n => .number n
  | .string s => .string s

/-- The items of an array with such arrays written as references. -/
def loneTextsAsRefsInItems : List Json → List Json
  | [] => []
  | j :: rest => loneTextsAsRefs j :: loneTextsAsRefsInItems rest

/-- The entries of an object with such arrays written as references. -/
def loneTextsAsRefsInEntries : List (String × Json) → List (String × Json)
  | [] => []
  | (k, j) :: rest => (k, loneTextsAsRefs j) :: loneTextsAsRefsInEntries rest

end

/-- An array of anything but one text is rewritten item by item. -/
theorem loneTextsAsRefs_array {items : List Json} (several : ∀ t, items ≠ [.string t]) :
    loneTextsAsRefs (.array items) = .array (loneTextsAsRefsInItems items) := by
  rw [loneTextsAsRefs]
  exact several

/-- Only a text is rewritten as a text. -/
theorem loneTextsAsRefs_eq_string_iff {j : Json} {t : String} :
    j.loneTextsAsRefs = .string t ↔ j = .string t := by
  cases j with
  | array items =>
    by_cases lone : ∃ s, items = [.string s]
    · obtain ⟨s, rfl⟩ := lone
      simp [loneTextsAsRefs]
    · rw [loneTextsAsRefs_array fun s same => lone ⟨s, same⟩]
      simp
  | _ => simp [loneTextsAsRefs]

/-- Items are rewritten as exactly one text only if they are exactly that text. -/
theorem loneTextsAsRefsInItems_eq_singleton_iff {items : List Json} {t : String} :
    loneTextsAsRefsInItems items = [.string t] ↔ items = [.string t] := by
  match items with
  | [] => simp [loneTextsAsRefsInItems]
  | [j] => simp [loneTextsAsRefsInItems, loneTextsAsRefs_eq_string_iff]
  | _ :: _ :: _ => simp [loneTextsAsRefsInItems]

/-- Entries are rewritten as a text under one key only if they are exactly that. -/
theorem loneTextsAsRefsInEntries_eq_singleton_iff {entries : List (String × Json)} {k t : String} :
    loneTextsAsRefsInEntries entries = [(k, .string t)] ↔ entries = [(k, .string t)] := by
  match entries with
  | [] => simp [loneTextsAsRefsInEntries]
  | [(l, j)] => simp [loneTextsAsRefsInEntries, loneTextsAsRefs_eq_string_iff]
  | _ :: _ :: _ => simp [loneTextsAsRefsInEntries]

mutual

/-- An array of exactly one text stands in a value exactly if it is one of its parts. -/
theorem holdsLoneText_iff : (j : Json) →
    (j.holdsLoneText = true ↔ ∃ t, .array [.string t] ∈ j.parts)
  | .null => by simp [holdsLoneText, parts]
  | .bool b => by simp [holdsLoneText, parts]
  | .number n => by simp [holdsLoneText, parts]
  | .string s => by simp [holdsLoneText, parts]
  | .array items => by
    by_cases lone : ∃ t, items = [.string t]
    · obtain ⟨t, rfl⟩ := lone
      simp [holdsLoneText, parts]
    · have several : ∀ t, items ≠ [.string t] := fun t same => lone ⟨t, same⟩
      have inner : ∀ t, array [.string t] ∈ (array items).parts ↔
          array [.string t] ∈ partsOfItems items := by
        intro t
        rw [parts, List.mem_cons, array.injEq, or_iff_right fun same => several t same.symm]
      rw [holdsLoneText_array several, lonesInItems_iff items]
      exact exists_congr fun t => (inner t).symm
  | .object entries => by
    have inner : ∀ t, array [.string t] ∈ (object entries).parts ↔
        array [.string t] ∈ partsOfEntries entries := by
      intro t
      rw [parts, List.mem_cons, or_iff_right nofun]
    rw [holdsLoneText, lonesInEntries_iff entries]
    exact exists_congr fun t => (inner t).symm

/-- The same for the items of an array. -/
theorem lonesInItems_iff : (items : List Json) →
    (lonesInItems items = true ↔ ∃ t, .array [.string t] ∈ partsOfItems items)
  | [] => by simp [lonesInItems, partsOfItems]
  | j :: rest => by
    simp only [lonesInItems, partsOfItems, Bool.or_eq_true, List.mem_append, exists_or,
      holdsLoneText_iff j, lonesInItems_iff rest]

/-- The same for the values of an object. -/
theorem lonesInEntries_iff : (entries : List (String × Json)) →
    (lonesInEntries entries = true ↔ ∃ t, .array [.string t] ∈ partsOfEntries entries)
  | [] => by simp [lonesInEntries, partsOfEntries]
  | (k, j) :: rest => by
    simp only [lonesInEntries, partsOfEntries, Bool.or_eq_true, List.mem_append, exists_or,
      holdsLoneText_iff j, lonesInEntries_iff rest]

end

mutual

/-- After the respelling no such array is left, and none has come up. -/
theorem holdsLoneText_loneTextsAsRefs : (j : Json) → j.loneTextsAsRefs.holdsLoneText = false
  | .null => rfl
  | .bool b => rfl
  | .number n => rfl
  | .string s => rfl
  | .array items => by
    by_cases lone : ∃ t, items = [.string t]
    · obtain ⟨t, rfl⟩ := lone
      rfl
    · have several : ∀ t, items ≠ [.string t] := fun t same => lone ⟨t, same⟩
      -- Respelling the items must not make the outer array one of the shape.
      have still : ∀ t, loneTextsAsRefsInItems items ≠ [.string t] :=
        fun t => mt loneTextsAsRefsInItems_eq_singleton_iff.mp (several t)
      rw [loneTextsAsRefs_array several, holdsLoneText_array still]
      exact lonesInItems_loneTextsAsRefs items
  | .object entries => by
    rw [loneTextsAsRefs, holdsLoneText]
    exact lonesInEntries_loneTextsAsRefs entries

/-- No array of one text is left among rewritten items. -/
theorem lonesInItems_loneTextsAsRefs : (items : List Json) →
    lonesInItems (loneTextsAsRefsInItems items) = false
  | [] => rfl
  | j :: rest => by
    rw [loneTextsAsRefsInItems, lonesInItems, holdsLoneText_loneTextsAsRefs j,
      lonesInItems_loneTextsAsRefs rest, Bool.or_self]

/-- Nor among rewritten entries. -/
theorem lonesInEntries_loneTextsAsRefs : (entries : List (String × Json)) →
    lonesInEntries (loneTextsAsRefsInEntries entries) = false
  | [] => rfl
  | (k, j) :: rest => by
    rw [loneTextsAsRefsInEntries, lonesInEntries, holdsLoneText_loneTextsAsRefs j,
      lonesInEntries_loneTextsAsRefs rest, Bool.or_self]

end

end Json

namespace Value

/-! ## Trying one kind after the other -/

/-- A reference, given as an object with the only key `ref` or as a sequence of that one field. -/
def readRef? : Json → Option Value
  | .object [("ref", .string target)] => some (.ref ⟨target⟩)
  | .array [.string target] => some (.ref ⟨target⟩)
  | _ => none

/-- A truth value. -/
def readBool? : Json → Option Value
  | .bool b => some (.bool b)
  | _ => none

/-- A number. -/
def readNumber? : Json → Option Value
  | .number n => some (.number n)
  | _ => none

/-- A text. -/
def readString? : Json → Option Value
  | .string s => some (.string s)
  | _ => none

/-- No value. -/
def readNull? : Json → Option Value
  | .null => some .null
  | _ => none

/-- The first kind that a JSON value can be read as, where `items` and `entries` are what its items
or its entries were read as. -/
def firstKind? (j : Json) (items : Option (List Value)) (entries : Option (List (String × Value))) :
    Option Value :=
  readRef? j <|> readBool? j <|> readNumber? j <|> readString? j <|> items.map .list <|>
    entries.map .map <|> readNull? j

mutual

/-- A value that does not name its kind, tried as a reference, a truth value, a number, a text, a
list, a map and null, in this order and at every depth. -/
def untagged? : Json → Option Value
  | .array items => firstKind? (.array items) (untaggedItems? items) none
  | .object entries => firstKind? (.object entries) none (untaggedEntries? entries)
  | .null => firstKind? .null none none
  | .bool b => firstKind? (.bool b) none none
  | .number n => firstKind? (.number n) none none
  | .string s => firstKind? (.string s) none none

/-- The items of an array, each tried so; a list if all can be read. -/
def untaggedItems? : List Json → Option (List Value)
  | [] => some []
  | j :: rest => do
    let v ← untagged? j
    return v :: (← untaggedItems? rest)

/-- The entries of an object, each tried so; a map if all can be read. -/
def untaggedEntries? : List (String × Json) → Option (List (String × Value))
  | [] => some []
  | (k, j) :: rest => do
    let v ← untagged? j
    return (k, v) :: (← untaggedEntries? rest)

end

/-- An array of anything but one text is no reference. -/
theorem readRef?_array {items : List Json} (several : ∀ t, items ≠ [.string t]) :
    readRef? (.array items) = none := by
  unfold readRef?
  split
  · simp at *
  · rename_i t same
    exact absurd (Json.array.inj same) (several t)
  · rfl

/-- An object with anything but a text under the only key `ref` is no reference. -/
theorem readRef?_object {entries : List (String × Json)}
    (other : ∀ t, entries ≠ [("ref", .string t)]) : readRef? (.object entries) = none := by
  unfold readRef?
  split
  · rename_i t same
    exact absurd (Json.object.inj same) (other t)
  · simp at *
  · rfl

mutual

/-- Every JSON value can be read so, and `decode` says as what. -/
theorem untagged?_eq : (j : Json) → untagged? j = some (decode j)
  | .null => by
    simp [untagged?, firstKind?, readRef?, readBool?, readNumber?, readString?, readNull?, decode]
  | .bool b => by simp [untagged?, firstKind?, readRef?, readBool?, decode]
  | .number n => by simp [untagged?, firstKind?, readRef?, readBool?, readNumber?, decode]
  | .string s => by
    simp [untagged?, firstKind?, readRef?, readBool?, readNumber?, readString?, decode]
  | .array items => by
    by_cases lone : ∃ t, items = [.string t]
    · obtain ⟨t, rfl⟩ := lone
      simp [untagged?, firstKind?, readRef?, decode]
    · have several : ∀ t, items ≠ [.string t] := fun t same => lone ⟨t, same⟩
      rw [untagged?, firstKind?, readRef?_array several, decode_array several,
        untaggedItems?_eq items]
      rfl
  | .object entries => by
    by_cases lone : ∃ t, entries = [("ref", .string t)]
    · obtain ⟨t, rfl⟩ := lone
      simp [untagged?, firstKind?, readRef?, decode]
    · have other : ∀ t, entries ≠ [("ref", .string t)] := fun t same => lone ⟨t, same⟩
      rw [untagged?, firstKind?, readRef?_object other, decode_object other,
        untaggedEntries?_eq entries]
      rfl

/-- Items are read one by one, by the first alternative that fits each. -/
theorem untaggedItems?_eq : (items : List Json) → untaggedItems? items = some (decodeItems items)
  | [] => rfl
  | j :: rest => by
    rw [untaggedItems?, untagged?_eq j, untaggedItems?_eq rest]
    rfl

/-- So are the values of entries. -/
theorem untaggedEntries?_eq : (entries : List (String × Json)) →
    untaggedEntries? entries = some (decodeEntries entries)
  | [] => rfl
  | (k, j) :: rest => by
    rw [untaggedEntries?, untagged?_eq j, untaggedEntries?_eq rest]
    rfl

end

/-! ## What the readings make of a value -/

mutual

/-- Whatever JSON value a property is made from, it is written as that value again. -/
theorem json_ofJson : (j : Json) → (ofJson j).json = j
  | .null => by simp [ofJson, json]
  | .bool b => by simp [ofJson, json]
  | .number n => by simp [ofJson, json]
  | .string s => by simp [ofJson, json]
  | .array items => by
    rw [ofJson, json, jsonItems_ofJsonItems items]
  | .object entries => by
    by_cases lone : ∃ t, entries = [("ref", .string t)]
    · obtain ⟨t, rfl⟩ := lone
      simp [ofJson, json]
    · rw [ofJson_object fun t same => lone ⟨t, same⟩, json, jsonEntries_ofJsonEntries entries]

/-- The same for the items of an array. -/
theorem jsonItems_ofJsonItems : (items : List Json) → jsonItems (ofJsonItems items) = items
  | [] => rfl
  | j :: rest => by rw [ofJsonItems, jsonItems, json_ofJson j, jsonItems_ofJsonItems rest]

/-- The same for the values of an object. -/
theorem jsonEntries_ofJsonEntries : (entries : List (String × Json)) →
    jsonEntries (ofJsonEntries entries) = entries
  | [] => rfl
  | (k, j) :: rest => by
    rw [ofJsonEntries, jsonEntries, json_ofJson j, jsonEntries_ofJsonEntries rest]

end

mutual

/-- The second reading is the first one after the respelling. -/
theorem decode_eq_ofJson : (j : Json) → decode j = ofJson j.loneTextsAsRefs
  | .null => by simp [decode, ofJson, Json.loneTextsAsRefs]
  | .bool b => by simp [decode, ofJson, Json.loneTextsAsRefs]
  | .number n => by simp [decode, ofJson, Json.loneTextsAsRefs]
  | .string s => by simp [decode, ofJson, Json.loneTextsAsRefs]
  | .array items => by
    by_cases lone : ∃ t, items = [.string t]
    · obtain ⟨t, rfl⟩ := lone
      simp [decode, ofJson, Json.loneTextsAsRefs]
    · have several : ∀ t, items ≠ [.string t] := fun t same => lone ⟨t, same⟩
      rw [decode_array several, Json.loneTextsAsRefs_array several, ofJson,
        decodeItems_eq_ofJsonItems items]
  | .object entries => by
    by_cases lone : ∃ t, entries = [("ref", .string t)]
    · obtain ⟨t, rfl⟩ := lone
      simp [decode, ofJson, Json.loneTextsAsRefs, Json.loneTextsAsRefsInEntries]
    · have other : ∀ t, entries ≠ [("ref", .string t)] := fun t same => lone ⟨t, same⟩
      -- No object becomes a reference, since only a text is respelled as a text.
      have still : ∀ t, Json.loneTextsAsRefsInEntries entries ≠ [("ref", .string t)] :=
        fun t => mt Json.loneTextsAsRefsInEntries_eq_singleton_iff.mp (other t)
      rw [decode_object other, Json.loneTextsAsRefs, ofJson_object still,
        decodeEntries_eq_ofJsonEntries entries]

/-- The same for the items of an array. -/
theorem decodeItems_eq_ofJsonItems : (items : List Json) →
    decodeItems items = ofJsonItems (Json.loneTextsAsRefsInItems items)
  | [] => rfl
  | j :: rest => by
    rw [decodeItems, Json.loneTextsAsRefsInItems, ofJsonItems, decode_eq_ofJson j,
      decodeItems_eq_ofJsonItems rest]

/-- The same for the values of an object. -/
theorem decodeEntries_eq_ofJsonEntries : (entries : List (String × Json)) →
    decodeEntries entries = ofJsonEntries (Json.loneTextsAsRefsInEntries entries)
  | [] => rfl
  | (k, j) :: rest => by
    rw [decodeEntries, Json.loneTextsAsRefsInEntries, ofJsonEntries, decode_eq_ofJson j,
      decodeEntries_eq_ofJsonEntries rest]

end

/-- A value that was read is written with references in place of arrays of exactly one text. -/
theorem json_decode (j : Json) : (decode j).json = j.loneTextsAsRefs := by
  rw [decode_eq_ofJson, json_ofJson]

/-- What is read is legible: it is written in a way that is read as the same again. -/
theorem legible_decode (j : Json) : (decode j).legible = true := by
  rw [decode_eq_ofJson, legible_ofJson, Json.holdsLoneText_loneTextsAsRefs]
  rfl

/-- What was read and written again is read as the same value. -/
theorem decode_json_decode (j : Json) : decode (decode j).json = decode j :=
  (decode_json_iff _).mpr (legible_decode j)

end Value

/-! ## The readings compared, and the second one as a normal form -/

/-- **The two readings agree off one shape.** Trying the kinds in order always comes to `decode`,
and that is what `ofJson` makes of a value exactly if no array of exactly one text stands in it, at
any depth. -/
theorem readings_agree_iff (j : Json) :
    Value.untagged? j = some (Value.decode j) ∧
      (Value.ofJson j = Value.decode j ↔ ∀ t, .array [.string t] ∉ j.parts) := by
  refine ⟨Value.untagged?_eq j, ?_⟩
  have rewritten : Value.decode (Value.ofJson j).json = Value.decode j := by
    rw [Value.json_ofJson]
  calc Value.ofJson j = Value.decode j
      ↔ Value.decode (Value.ofJson j).json = Value.ofJson j := by rw [rewritten, eq_comm]
    _ ↔ (Value.ofJson j).legible = true := Value.decode_json_iff _
    _ ↔ ¬ j.holdsLoneText = true := by rw [Value.legible_ofJson]; simp
    _ ↔ ∀ t, .array [.string t] ∉ j.parts := by rw [Json.holdsLoneText_iff]; exact not_exists

/-- Under the key `ref` an array of one text makes a map either way, of a list or of a reference. -/
example : Value.ofJson (.object [("ref", .array [.string "jobs-queue"])]) =
      .map [("ref", .list [.string "jobs-queue"])] ∧
    Value.decode (.object [("ref", .array [.string "jobs-queue"])]) =
      .map [("ref", .refTo "jobs-queue")] :=
  ⟨rfl, rfl⟩

/-- **Reading always succeeds and normalizes.** Every JSON value is read as some property value.
Written again it is the same JSON but for arrays of exactly one text, which are references now; and
that JSON is read as the same property value and written as it is. -/
theorem read_normalizes (j : Json) :
    Value.untagged? j = some (Value.decode j) ∧ (Value.decode j).json = j.loneTextsAsRefs ∧
      Value.untagged? (Value.decode j).json = some (Value.decode j) ∧
      (Value.decode (Value.decode j).json).json = (Value.decode j).json := by
  refine ⟨Value.untagged?_eq j, Value.json_decode j, ?_, ?_⟩
  · rw [Value.untagged?_eq, Value.decode_json_decode]
  · rw [Value.decode_json_decode]

end CloudPlan
