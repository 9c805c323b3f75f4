/-!
# Entries

Keyed data in a fixed order: a list of pairs. `insert` replaces in place or adds at the end, so the
order is that of first insertion; `insertSorted` keeps keys in ascending order. Equality of two
lists of entries is equality of everything that can be observed of them.
-/

set_option autoImplicit false

namespace CloudPlan

/-- Pairs of a key and a value, in order. -/
abbrev Entries (α : Type) := List (String × α)

namespace Entries

variable {α β : Type}

/-- The value of the first entry with the given key. -/
def get? (es : Entries α) (key : String) : Option α :=
  match es with
  | [] => none
  | (k, v) :: rest => if k = key then some v else get? rest key

/-- Whether an entry has the given key. -/
def contains (es : Entries α) (key : String) : Bool :=
  (get? es key).isSome

/-- The keys in order. -/
def keys (es : Entries α) : List String :=
  es.map Prod.fst

/-- The values in order. -/
def values (es : Entries α) : List α :=
  es.map Prod.snd

/-- Replaces the value of a present key where it stands and adds a new key at the end. -/
def insert (es : Entries α) (key : String) (value : α) : Entries α :=
  match es with
  | [] => [(key, value)]
  | (k, v) :: rest => if k = key then (key, value) :: rest else (k, v) :: insert rest key value

/-- Replaces the value of a present key and puts a new key before the first greater one. -/
def insertSorted (es : Entries α) (key : String) (value : α) : Entries α :=
  match es with
  | [] => [(key, value)]
  | (k, v) :: rest =>
    if k = key then (key, value) :: rest
    else if key < k then (key, value) :: (k, v) :: rest
    else (k, v) :: insertSorted rest key value

/-- Changes the value of a present key. -/
def modify (es : Entries α) (key : String) (f : α → α) : Entries α :=
  match es with
  | [] => []
  | (k, v) :: rest => if k = key then (k, f v) :: rest else (k, v) :: modify rest key f

/-- The entries without the given key. -/
def erase (es : Entries α) (key : String) : Entries α :=
  es.filter fun e => e.1 ≠ key

/-- The entries with a function applied to each value. -/
def mapValues (f : α → β) (es : Entries α) : Entries β :=
  es.map fun e => (e.1, f e.2)

/-- Entries from pairs, a later pair winning over an earlier one of the same key. -/
def ofList (pairs : List (String × α)) : Entries α :=
  pairs.foldl (fun es e => insert es e.1 e.2) []

/-- Entries in ascending order of keys, a later pair winning over an earlier one. -/
def sortedOfList (pairs : List (String × α)) : Entries α :=
  pairs.foldl (fun es e => insertSorted es e.1 e.2) []

end Entries

end CloudPlan
