import CloudPlan.Link.Reference
import CloudPlan.Text.Quoted

/-!
# Failures of stack operations

`StackError.message` is the wording shown to people, and `StackError.details` the structure of the
error as it is kept beside a classified failure.
-/

set_option autoImplicit false

namespace CloudPlan

/-- Why a stack operation failed. -/
inductive StackError where
  | link (error : LinkError)
  | timeout (millis : Nat)
  | conflict (stack : String)
  | config (key message : String)
  | backend (message : String)
  | value (text : String)
deriving DecidableEq, Repr

/-- The wording of an error. -/
def StackError.message : StackError → String
  | .link e => e.message
  | .timeout millis => "Operation timed out after " ++ toString millis ++ "ms"
  | .conflict stack => "stack '" ++ stack ++ "' is already being updated"
  | .config key message => "invalid stack config " ++ key ++ ": " ++ message
  | .backend message => message
  | .value text => text

/-- A name with named parts in braces. -/
def namedParts (name : String) (parts : Entries String) : String :=
  name ++ " \x7b " ++ Text.joinWith ", " (parts.map fun (k, v) => k ++ ": " ++ v) ++ " \x7d"

/-- The structure of a link error. -/
def LinkError.details : LinkError → String
  | .unresolvedRef target resource property =>
    namedParts "UnresolvedRef" [("target", Text.quoted target), ("resource", Text.quoted resource),
      ("property", Text.quoted property)]
  | .unresolvedField target resource field =>
    namedParts "UnresolvedField" [("target", Text.quoted target),
      ("resource", Text.quoted resource), ("field", Text.quoted field)]
  | .unresolvedOutput key resource field =>
    namedParts "UnresolvedOutput" [("key", Text.quoted key), ("resource", Text.quoted resource),
      ("field", Text.quoted field)]
  | .invalidTemplate key template =>
    namedParts "InvalidTemplate" [("key", Text.quoted key), ("template", Text.quoted template)]
  | .construction resource type message =>
    namedParts "Construction" [("resource", Text.quoted resource),
      ("resource_type", Text.quoted type), ("message", Text.quoted message)]

/-- The structure of an error. -/
def StackError.details : StackError → String
  | .link e => "Link(" ++ e.details ++ ")"
  | .timeout millis => namedParts "Timeout" [("millis", toString millis)]
  | .conflict stack => namedParts "Conflict" [("stack", Text.quoted stack)]
  | .config key message =>
    namedParts "Config" [("key", Text.quoted key), ("message", Text.quoted message)]
  | .backend message => "Backend(" ++ Text.quoted message ++ ")"
  | .value text => "Value(" ++ Text.quoted text ++ ")"

end CloudPlan
