import CloudPlan.Text.Cut

/-!
# Paths

A path is a text of names with slashes between them. An empty name leads nowhere, and neither does a
single dot, except at the start of a path. What is around a path are the shorter paths that end in a
name that leads somewhere.
-/

set_option autoImplicit false

namespace CloudPlan

/-- A part of a path between two slashes, and whether it leads from one place to another. -/
structure PathSegment where
  name : String
  leads : Bool
deriving DecidableEq, Repr

namespace Path

/-- What stands between the slashes of a path. -/
def parts (path : String) : List String :=
  (Text.splitChars '/' path.toList).map String.ofList

/-- The parts of a path that are not empty. -/
def names (path : String) : List String :=
  (parts path).filter (· != "")

/-- Whether a path ends with a slash. -/
def endsWithSlash (path : String) : Bool :=
  path.toList.getLast? == some '/'

/-- Whether a path starts with a slash. -/
def startsWithSlash (path : String) : Bool :=
  path.toList.head? == some '/'

/-- The segments of a path. -/
def segments (path : String) : List PathSegment :=
  match parts path with
  | [] => []
  | first :: rest =>
    ⟨first, first != ""⟩ :: rest.map fun name => ⟨name, name != "" && name != "."⟩

/-- The path of some segments, which are given last first. -/
def ofReversed (reversed : List PathSegment) : String :=
  String.intercalate "/" (reversed.reverse.map PathSegment.name)

/-- The beginnings of a path that end in a segment that leads somewhere, the longest first. Segments
are given and returned last first. -/
def beginnings : List PathSegment → List (List PathSegment)
  | [] => []
  | segment :: before =>
    if segment.leads then (segment :: before) :: beginnings before else beginnings before

/-- The path without its last name, unless it has no name at all. -/
def parent? (path : String) : Option String :=
  match beginnings (segments path).reverse with
  | [] => none
  | [_] => some (if startsWithSlash path then "/" else "")
  | _ :: outer :: _ => some (ofReversed outer)

/-- A path and those around it, the longest first. A path without a name has none. -/
def withAncestors (path : String) : List String :=
  match beginnings (segments path).reverse with
  | [] => []
  | _ :: outer => path :: outer.map ofReversed

end Path

end CloudPlan
