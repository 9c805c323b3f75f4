/-!
# Cutting a text at separators
-/

set_option autoImplicit false

namespace CloudPlan.Text

/-- The characters before and after the first `sep`, if there is one. -/
def cutChars (sep : Char) : List Char → Option (List Char × List Char)
  | [] => none
  | c :: cs => if c = sep then some ([], cs) else (cutChars sep cs).map fun (l, r) => (c :: l, r)

/-- The texts before and after the first `sep`, if there is one. -/
def cut (sep : Char) (s : String) : Option (String × String) :=
  (cutChars sep s.toList).map fun (l, r) => (String.ofList l, String.ofList r)

/-- The characters between separators, of which there may be none. -/
def splitChars (sep : Char) : List Char → List (List Char)
  | [] => [[]]
  | c :: cs =>
    if c = sep then [] :: splitChars sep cs
    else
      match splitChars sep cs with
      | [] => [[c]]
      | part :: rest => (c :: part) :: rest

/-- Texts with a separator between each two. -/
def joinWith (sep : String) : List String → String
  | [] => ""
  | [s] => s
  | s :: rest => s ++ sep ++ joinWith sep rest

end CloudPlan.Text
