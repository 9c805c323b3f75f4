import CloudPlan.Config
import CloudPlan.Document
import CloudPlan.Platform
import CloudPlan.Resource.Basic
import CloudPlan.Resource.Kind

/-!
# What lowering works with

`Context` is what every lowerer may consult, and `LowerError` says why one fails. Resources are
built up with `Resource.ofKind`, `Resource.set` and `Resource.after`, and traced back to what they
were made for by tags.
-/

set_option autoImplicit false

namespace CloudPlan

/-- What lowerers may consult: a document. -/
abbrev Context := Document

namespace Context

/-- The platform of the first node with an id. -/
def platformOf? (ctx : Context) (id : String) : Option String :=
  ctx.graph.platformOf? id

/-- The platform of the first node with an id, if it is a known one. -/
def knownPlatformOf? (ctx : Context) (id : String) : Option Platform :=
  (ctx.platformOf? id).bind Platform.ofName?

end Context

/-- Why an intent or a node cannot be lowered. -/
inductive LowerError where
  | noActions (edge : String)
  | resourceNotFound (node edge : String)
  | undefinedActions (level : AccessLevel) (platform : String)
  | emptyPattern (edge : String)
  | emptyKey (edge : String)
  | wrongIntent (lowerer : String) (kind : IntentKind)
  | parameterTaken (name owner : String)
  | malformedKey (node key : String)
  | rejected (message : String)
deriving DecidableEq, Repr

/-- The wording of an error. -/
def LowerError.message : LowerError → String
  | .noActions edge => "identity-access intent " ++ edge ++ " requests no actions"
  | .resourceNotFound node edge =>
    "resource node '" ++ node ++ "' not found for identity-access intent " ++ edge
  | .undefinedActions level platform =>
    "no " ++ level.name ++ " actions defined for platform '" ++ platform ++ "'"
  | .emptyPattern edge =>
    "identity-access intent " ++ edge ++ " has pattern scope but no pattern"
  | .emptyKey edge => "config intent " ++ edge ++ " has an empty key"
  | .wrongIntent lowerer kind => lowerer ++ " lowerer cannot lower " ++ kind.name ++ " intent"
  | .parameterTaken name owner =>
    "parameter '" ++ name ++ "' is already generated by intent '" ++ owner ++ "'"
  | .malformedKey node key => "node '" ++ node ++ "' has a malformed keySchema." ++ key
  | .rejected message => message

/-- What lowering one intent or node yields. -/
abbrev Lowered := Except LowerError (List Resource)

namespace Resource

/-- A resource of a kind without properties and dependencies. -/
def ofKind (kind : ResourceKind) (name source : String) : Resource :=
  ⟨name, kind.token, [], source, []⟩

/-- The resource with a property set. -/
def set (r : Resource) (key : String) (value : Value) : Resource :=
  { r with properties := Entries.insert r.properties key value }

/-- The resource with a property set to a text. -/
def setText (r : Resource) (key : String) (text : String) : Resource :=
  r.set key (.string text)

/-- The resource with a property set, if there is a value. -/
def set? (r : Resource) (key : String) (value : Option Value) : Resource :=
  match value with
  | some v => r.set key v
  | none => r

/-- The resource with further dependencies. -/
def after (r : Resource) (names : List String) : Resource :=
  { r with dependsOn := r.dependsOn ++ names }

end Resource

/-- The tag for the node that a resource was made for. -/
def nodeTag : String := "cirrus:node"

/-- The tag for the platform of that node. -/
def platformTag : String := "cirrus:platform"

/-- The tag for the edge that a resource was made for. -/
def edgeTag : String := "cirrus:edge"

/-- The tags of a resource made for a node. -/
def nodeTags (node : Node) (platform : String) : Value :=
  .map [(nodeTag, .string node.id), (platformTag, .string platform)]

/-- The tags of a resource made for an edge. -/
def edgeTags (edge : Edge) : Value :=
  .map [(edgeTag, .string edge.id)]

/-- The name of a resource that belongs to something with a name. -/
def resourceName (short kind : String) : String :=
  short ++ "-" ++ kind

end CloudPlan
