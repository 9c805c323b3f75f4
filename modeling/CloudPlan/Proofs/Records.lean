import CloudPlan.Proofs.Rereading
import Mathlib.Data.List.Forall2

/-!
# Records that were read, and records that are written

A record is read if each of its fields is, and every field that was read comes from a value that was
given or was left out. A record written as an object is read back if its fields are. Lists, optional
values and keyed values are read back if what they hold is.
-/

set_option autoImplicit false

namespace CloudPlan

/-! ## What a record was read from -/

namespace Fields

variable {α β : Type}

/-- What is made of a field is read exactly if the field is. -/
theorem map_eq_read_iff {f : α → β} {x : Fields α} {b : β} :
    f <$> x = .read b ↔ ∃ a, x = .read a ∧ f a = b := by
  cases x with
  | read a =>
    show read (f a) = read b ↔ _
    simp
  | faulty first rest =>
    show faulty first rest = read b ↔ _
    simp

/-- Two fields are read together exactly if each of them is. -/
theorem seq_eq_read_iff {f : Fields (α → β)} {x : Fields α} {b : β} :
    f <*> x = .read b ↔ ∃ g a, f = .read g ∧ x = .read a ∧ g a = b := by
  cases f with
  | read g =>
    cases x with
    | read a =>
      show read (g a) = read b ↔ _
      simp
    | faulty first rest =>
      show faulty first rest = read b ↔ _
      simp
  | faulty first rest =>
    show faulty first (rest ++ x.faults) = read b ↔ _
    simp

/-- Something is made of a field that is read. -/
theorem map_read {f : α → β} {x : Fields α} {a : α} (read : x = .read a) :
    f <$> x = .read (f a) :=
  map_eq_read_iff.mpr ⟨a, read, rfl⟩

/-- Fields that are read are read together. -/
theorem seq_read {f : Fields (α → β)} {g : α → β} {x : Fields α} {a : α} (function : f = .read g)
    (read : x = .read a) : f <*> x = .read (g a) :=
  seq_eq_read_iff.mpr ⟨g, a, function, read, rfl⟩

end Fields

namespace Record

variable {α : Type} {r : Record} {a : α}

/-- A field that was read was left out, or a value for it was given and could be read. -/
theorem given_of_readField {field : String} {decode : Decoder α} {absent : Fields α}
    (ok : r.readField field decode absent = .read a) :
    (r.value? field = none ∧ absent = .read a) ∨
      ∃ j, r.value? field = some j ∧ decode j = .ok a := by
  unfold readField at ok
  split at ok
  · exact .inl ⟨‹_›, ok⟩
  · split at ok
    · cases ok
      exact .inr ⟨_, ‹_›, ‹_›⟩
    · cases ok

/-- An optional field that holds a value was given. -/
theorem given_of_optional {field : String} {decode : Decoder α}
    (ok : r.optional field decode = .read (some a)) :
    ∃ j, r.value? field = some j ∧ Json.nullable decode j = .ok (some a) := by
  obtain ⟨_, none⟩ | given := given_of_readField ok
  · cases none
  · exact given

/-- Nothing but fields that were all read is settled without an error. -/
theorem read_of_settle {fields : Fields α} (ok : r.settle fields = .ok a) : fields = .read a := by
  cases fields with
  | faulty first rest => cases ok
  | read b =>
    have same : Except.ok b = Except.ok (ε := DecodeError) a := by
      unfold settle at ok
      split at ok <;> rename_i given
      · cases given
      · cases given
        split at ok
        · exact ok
        · split at ok
          · cases ok
          · exact ok
    cases same
    rfl

/-- What was read of a value was read of the record that the value is seen as. -/
theorem exists_of_settle {type : RecordType} {nested : Bool} {read : Record → Fields α} {j : Json}
    (ok : (ofJson type nested j >>= fun r => r.settle (read r)) = .ok a) :
    ∃ r, ofJson type nested j = .ok r ∧ read r = .read a := by
  cases seen : ofJson type nested j with
  | error e =>
    rw [seen] at ok
    cases ok
  | ok r =>
    rw [seen] at ok
    exact ⟨r, rfl, read_of_settle ok⟩

/-! ## What a written record is read as -/

/-- A required field is read from its value. -/
theorem required_given {field : String} {decode : Decoder α} {j : Json}
    (given : r.value? field = some j) (ok : decode j = .ok a) :
    r.required field decode = .read a :=
  readField_of_ok given ok

/-- A field with a default is read from its value if there is one. -/
theorem withDefault_given {field : String} {decode : Decoder α} {default : α} {j : Json}
    (given : r.value? field = some j) (ok : decode j = .ok a) :
    r.withDefault field decode default = .read a :=
  readField_of_ok given ok

/-- So is an optional field. -/
theorem optional_given {field : String} {decode : Decoder α} {o : Option α} {j : Json}
    (given : r.value? field = some j) (ok : Json.nullable decode j = .ok o) :
    r.optional field decode = .read o :=
  readField_of_ok given ok

/-- A record that is given as an object is read if its fields are. -/
theorem settle_keyed {type : RecordType} {nested : Bool} {read : Record → Fields α}
    {entries : Entries Json} (fields : read ⟨type, .keyed entries, nested⟩ = .read a) :
    (ofJson type nested (.object entries) >>= fun r => r.settle (read r)) = .ok a := by
  show settle ⟨type, .keyed entries, nested⟩ (read ⟨type, .keyed entries, nested⟩) = .ok a
  rw [fields]
  rfl

end Record

/-- What is made of an outcome is a success exactly if the outcome is. -/
theorem map_eq_ok_iff {α β ε : Type} {f : α → β} {x : Except ε α} {b : β} :
    f <$> x = .ok b ↔ ∃ a, x = .ok a ∧ f a = b := by
  cases x <;> simp [Functor.map, Except.map]

namespace Json

variable {α : Type} {decode : Decoder α} {json : α → Json}

/-- Values that are read back one by one are read back as a list. -/
theorem sequence_written {xs : List α} (each : ∀ x ∈ xs, decode (json x) = .ok x) :
    sequence decode (.array (xs.map json)) = .ok xs := by
  rw [sequence, List.mapM_map]
  refine (mapM_eq_ok (g := id) each).trans ?_
  rw [List.map_id]

/-- An optional value, written as null if there is none, is read back. -/
theorem nullable_written {o : Option α} (each : ∀ a, o = some a → decode (json a) = .ok a)
    (given : ∀ a, json a ≠ .null) : nullable decode ((o.map json).getD .null) = .ok o := by
  cases o with
  | none => rfl
  | some a =>
    show nullable decode (json a) = .ok (some a)
    rw [nullable]
    · rw [each a rfl]
      rfl
    · exact given a

/-- An optional text is read back as it was written. -/
theorem nullable_ofString? (o : Option String) : nullable text (ofString? o) = .ok o := by
  cases o <;> rfl

/-- A value that was read where null is allowed was itself read, or was null. -/
theorem decode_of_nullable {j : Json} {a : α} (ok : nullable decode j = .ok (some a)) :
    decode j = .ok a := by
  unfold nullable at ok
  split at ok
  · cases ok
  · cases read : decode j with
    | error e =>
      rw [read] at ok
      cases ok
    | ok b =>
      rw [read] at ok
      cases ok
      rfl

/-- Free-form entries are read as they are. -/
theorem keyed_anything (entries : Entries Json) :
    keyed anything (.object entries) = .ok entries := by
  rw [keyed]
  refine (mapM_eq_ok (g := id) fun _ _ => rfl).trans ?_
  rw [List.map_id]

/-- A written number is read back if it is within the range. -/
theorem natBelow_ofNat {name : String} {bound n : Nat} (small : n < bound) :
    natBelow name bound (ofNat n) = .ok n := by
  show (if 0 ≤ (n : Int) ∧ (n : Int) < bound then _ else _) = _
  rw [if_pos ⟨Int.natCast_nonneg n, Int.ofNat_lt.mpr small⟩, Int.toNat_natCast]

/-- A number that was read is within the range. -/
theorem lt_of_natBelow {name : String} {bound n : Nat} {j : Json}
    (ok : natBelow name bound j = .ok n) : n < bound := by
  unfold natBelow at ok
  split at ok
  · split at ok
    · cases ok
      omega
    · cases ok
  · cases ok

/-- What a list was read from, item by item. -/
theorem exists_items_of_sequence {j : Json} {xs : List α} (ok : sequence decode j = .ok xs) :
    ∃ items, j = .array items ∧ List.Forall₂ (fun item x => decode item = .ok x) items xs := by
  unfold sequence at ok
  split at ok
  · refine ⟨_, rfl, ?_⟩
    rename_i items
    induction items generalizing xs with
    | nil =>
      cases ok
      exact .nil
    | cons item rest ih =>
      rw [List.mapM_cons] at ok
      cases first : decode item with
      | error e =>
        rw [first] at ok
        cases ok
      | ok x =>
        cases later : rest.mapM decode with
        | error e =>
          rw [first, later] at ok
          cases ok
        | ok ys =>
          rw [first, later] at ok
          cases ok
          exact .cons first (ih later)
  · cases ok

end Json

end CloudPlan
