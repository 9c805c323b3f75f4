import CloudPlan.Json.Decode

/-!
# Records in JSON

A record is written as an object, whose unknown keys are ignored, or as an array of its fields in
declaration order, of which trailing ones may be left out when they have a default. Fields are read
one by one and gathered with `Fields`, which collects every fault; `Record.settle` then reports the
one that counts: in an object the bad value with the smallest key, and only without one the first
missing field; in an array the first fault of either kind, and after that surplus items.
-/

set_option autoImplicit false

namespace CloudPlan

/-- A type of records: how messages name it and its fields in declaration order. -/
structure RecordType where
  title : String
  fields : List String

/-- What is wrong with one field. -/
inductive Fault where
  | missing (field : String)
  | bad (field : String) (error : DecodeError)

/-- The outcome of reading some fields of a record. -/
inductive Fields (α : Type) where
  | read (value : α)
  | faulty (first : Fault) (rest : List Fault)

namespace Fields

variable {α β : Type}

/-- All faults found. -/
def faults : Fields α → List Fault
  | .read _ => []
  | .faulty first rest => first :: rest

/-- Applies a function to what was read. -/
def map (f : α → β) : Fields α → Fields β
  | .read a => .read (f a)
  | .faulty first rest => .faulty first rest

/-- Both outcomes; the faults of both are kept in order. -/
def both (f : Fields (α → β)) (a : Fields α) : Fields β :=
  match f, a with
  | .read f, .read a => .read (f a)
  | .read _, .faulty first rest => .faulty first rest
  | .faulty first rest, a => .faulty first (rest ++ a.faults)

instance : Functor Fields where
  map := map

instance : Applicative Fields where
  pure := .read
  seq f a := both f (a ())

end Fields

/-- How the fields of a record are given. -/
inductive RecordBody where
  | keyed (entries : List (String × Json))
  | positional (items : List Json)

/-- A record about to be read. In a `nested` one surplus items are worded in their own way. -/
structure Record where
  type : RecordType
  body : RecordBody
  nested : Bool

namespace Record

/-- A value seen as a record. -/
def ofJson (type : RecordType) (nested : Bool) : Decoder Record
  | .object entries => .ok ⟨type, .keyed entries, nested⟩
  | .array items => .ok ⟨type, .positional items, nested⟩
  | j => Json.notA type.title j

/-- The value given for a field. -/
def value? (r : Record) (field : String) : Option Json :=
  match r.body with
  | .keyed entries => Entries.get? entries field
  | .positional items => items[r.type.fields.idxOf field]?

/-- A field that is read when it is there; otherwise `absent` is its outcome. -/
def readField {α : Type} (r : Record) (field : String) (decode : Decoder α) (absent : Fields α) :
    Fields α :=
  match r.value? field with
  | none => absent
  | some j =>
    match decode j with
    | .ok a => .read a
    | .error e => .faulty (.bad field e) []

/-- A field that has to be there. -/
def required {α : Type} (r : Record) (field : String) (decode : Decoder α) : Fields α :=
  r.readField field decode (.faulty (.missing field) [])

/-- A field with a default. -/
def withDefault {α : Type} (r : Record) (field : String) (decode : Decoder α) (default : α) :
    Fields α :=
  r.readField field decode (.read default)

/-- A field that may be left out or null. -/
def optional {α : Type} (r : Record) (field : String) (decode : Decoder α) : Fields (Option α) :=
  r.withDefault field (Json.nullable decode) none

/-- A number of elements in words. -/
def elementCount (n : Nat) : String :=
  if n = 1 then "1 element" else toString n ++ " elements"

/-- The bad field with the smallest name. -/
def smallestBad (faults : List Fault) : Option (String × DecodeError) :=
  faults.foldl (fun best fault =>
    match fault, best with
    | .missing _, _ => best
    | .bad field e, none => some (field, e)
    | .bad field e, some b => if field < b.1 then some (field, e) else best) none

/-- The error that stands for the faults of a record. -/
def errorOf (r : Record) (first : Fault) (rest : List Fault) : DecodeError :=
  match r.body, first with
  | .keyed _, first =>
    match smallestBad (first :: rest), first with
    | some (_, e), _ => e
    | none, .missing field => .missingField field
    | none, .bad _ e => e
  | .positional _, .bad _ e => e
  | .positional _, .missing field =>
    .wrongLength (r.type.fields.idxOf field)
      (r.type.title ++ " with " ++ elementCount r.type.fields.length)

/-- The error for items after the last field. -/
def surplusError (r : Record) (given : Nat) : DecodeError :=
  .wrongLength given
    (if r.nested then elementCount r.type.fields.length ++ " in sequence"
     else "fewer elements in array")

/-- The record that was read, or the error that counts. -/
def settle {α : Type} (r : Record) : Fields α → Except DecodeError α
  | .faulty first rest => .error (r.errorOf first rest)
  | .read a =>
    match r.body with
    | .keyed _ => .ok a
    | .positional items =>
      if r.type.fields.length < items.length then .error (r.surplusError items.length) else .ok a

end Record

/-- Reads a record of the given type. -/
def Json.record {α : Type} (type : RecordType) (read : Record → Fields α) : Decoder α :=
  fun j => do
    let r ← Record.ofJson type false j
    r.settle (read r)

/-- Reads a record that stands inside a tagged value. -/
def Json.nestedRecord {α : Type} (type : RecordType) (read : Record → Fields α) : Decoder α :=
  fun j => do
    let r ← Record.ofJson type true j
    r.settle (read r)

end CloudPlan
