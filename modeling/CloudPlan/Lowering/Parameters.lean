import CloudPlan.Lowering.Context

/-!
# Parameters

A config intent becomes one parameter `/service/target/key`. Its value is a text, a reference to the
primary resource of a node, or a marker with the name of a secret. The name of the parameter is made
from the slug of the key, so two keys with one slug meet in one name.
-/

set_option autoImplicit false

namespace CloudPlan

/-- The value that a source stands for. A node of no known platform is referred to by its id, so
that linking fails where it is used. -/
def ValueSource.value (source : ValueSource) (ctx : Context) : Value :=
  match source with
  | .literal v => .string v
  | .secret name => .map [("secret", .string name)]
  | .reference node field =>
    match ctx.knownPlatformOf? node with
    | some p => .refToField (p.resourceName (shortName node)) (field.getD p.defaultField)
    | none => .refToField node (field.getD "id")

/-- Adds a character to a slug, whose characters stand in reverse. -/
def slugStep (slug : List Char) (c : Char) : List Char :=
  if c.isAlphanum then c.toLower :: slug
  else if slug.head? == some '-' then slug
  else '-' :: slug

/-- Drops dashes at both ends. -/
def trimDashes (cs : List Char) : List Char :=
  ((cs.dropWhile (· == '-')).reverse.dropWhile (· == '-')).reverse

/-- The letters and digits of a key in lower case, everything between them one dash. -/
def keySlug (key : String) : String :=
  String.ofList (trimDashes (key.toList.foldl slugStep []).reverse)

/-- The name of the parameter of a config intent. -/
def ConfigIntent.parameterName (i : ConfigIntent) : String :=
  resourceName (shortName i.target) (keySlug i.key ++ "-param")

/-- The type of the parameter for a value source. -/
def ValueSource.parameterType : ValueSource → String
  | .secret _ => "SecureString"
  | _ => "String"

/-- The names that a value as a whole refers to. -/
def Value.directDependency (v : Value) : List String :=
  match v with
  | .ref r => [r.resource]
  | _ => []

/-- The parameter of a config intent. -/
def ConfigIntent.parameter (i : ConfigIntent) (ctx : Context) : Resource :=
  let value := i.source.value ctx
  (((((Resource.ofKind .parameter i.parameterName i.edge).setText "name"
    ("/" ++ ctx.config.serviceName ++ "/" ++ shortName i.target ++ "/" ++ i.key)).setText "type"
    i.source.parameterType).set "value" value).set "tags"
    (.map [(nodeTag, .string i.target)])).after value.directDependency

/-- Lowers a config intent. -/
def ConfigIntent.lower (i : ConfigIntent) (ctx : Context) : Lowered :=
  if Text.isBlankText i.key then .error (.emptyKey i.edge) else .ok [i.parameter ctx]

end CloudPlan
