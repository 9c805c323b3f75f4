import CloudPlan.Lowering.Context

/-!
# Access

An access intent becomes a role that functions may assume, with the basic execution policy attached,
and a policy that allows the requested actions on the resource, attached to that role.
-/

set_option autoImplicit false

namespace CloudPlan

/-- The managed policy that every execution role gets. -/
def basicExecutionPolicy : String :=
  "arn:aws:iam::aws:policy/service-role/AWSLambdaBasicExecutionRole"

/-- The name of the execution role of a node. -/
def execRoleName (id : String) : String :=
  resourceName (shortName id) "exec-role"

/-- The policy document with one statement. -/
def policyDocument (statement : Entries Value) : Value :=
  .map [("Version", .string "2012-10-17"), ("Statement", .list [.map statement])]

/-- The document that lets a service assume a role. -/
def assumeRolePolicy (service : String) : Value :=
  policyDocument
    [("Effect", .string "Allow"), ("Principal", .map [("Service", .string service)]),
     ("Action", .string "sts:AssumeRole")]

/-- The execution role of a node, which functions may assume. -/
def executionRole (id source : String) : Resource :=
  (Resource.ofKind .role (execRoleName id) source).set "assumeRolePolicy"
    (assumeRolePolicy "lambda.amazonaws.com")

/-- The attachment of the basic policy to the execution role of a node. -/
def basicAttachment (id source : String) : Resource :=
  let role := execRoleName id
  (((Resource.ofKind .rolePolicyAttachment (role ++ "-basic") source).set "role"
    (.refTo role)).setText "policyArn" basicExecutionPolicy).after [role]

/-- The execution role of a node and the attachment of its basic policy. -/
def execRole (id source : String) : List Resource :=
  [executionRole id source, basicAttachment id source]

/-- The provider actions of some levels, without repeats, in order of first mention. -/
def Platform.actionsFor (p : Platform) (levels : List AccessLevel) : List String :=
  (levels.flatMap p.actions).foldl (fun seen a => if seen.contains a then seen else seen ++ [a]) []

/-- The provider actions of some levels for a platform by name. -/
def providerActions (platform : String) (levels : List AccessLevel) :
    Except LowerError (List String) :=
  match Platform.ofName? platform, levels with
  | some p, levels => .ok (p.actionsFor levels)
  | none, [] => .ok []
  | none, level :: _ => .error (.undefinedActions level platform)

/-- What a policy statement applies to. -/
def scopeValue (i : AccessIntent) (p : Platform) : Except LowerError Value :=
  match i.scope with
  | some (.pattern (some pattern)) =>
    if Text.isBlankText pattern then .error (.emptyPattern i.edge) else .ok (.string pattern)
  | some (.pattern none) => .error (.emptyPattern i.edge)
  | some .specific | none =>
    .ok (.refToField (p.resourceName (shortName i.resource)) p.arnField)

/-- The name of the policy for access of one node to another. -/
def policyName (i : AccessIntent) : String :=
  resourceName (shortName i.principal) (shortName i.resource ++ "-policy")

/-- The statement that allows actions on what is in scope. -/
def accessStatement (actions : List String) (scope : Value) : Entries Value :=
  [("Effect", .string "Allow"), ("Action", .list (actions.map .string)), ("Resource", scope)]

/-- The policy of an access intent. -/
def accessPolicy (i : AccessIntent) (p : Platform) (actions : List String) (scope : Value) :
    Resource :=
  (((Resource.ofKind .policy (policyName i) i.edge).setText "description"
    (shortName i.principal ++ " access to " ++ shortName i.resource)).set "policy"
    (policyDocument (accessStatement actions scope))).after
    [p.resourceName (shortName i.resource)]

/-- The attachment of that policy to the role of the principal. -/
def accessAttachment (i : AccessIntent) : Resource :=
  let role := execRoleName i.principal
  let policy := policyName i
  (((Resource.ofKind .rolePolicyAttachment (policy ++ "-attachment") i.edge).set "role"
    (.refTo role)).set "policyArn" (.refToField policy "arn")).after [role, policy]

/-- Lowers an access intent. -/
def AccessIntent.lower (i : AccessIntent) (ctx : Context) : Lowered :=
  if i.levels.isEmpty then .error (.noActions i.edge)
  else
    match ctx.platformOf? i.resource with
    | none => .error (.resourceNotFound i.resource i.edge)
    | some platform =>
      match Platform.ofName? platform with
      | none => .error (.undefinedActions (i.levels.headD .read) platform)
      | some p => do
        let scope ← scopeValue i p
        return execRole i.principal i.edge ++
          [accessPolicy i p (p.actionsFor i.levels) scope, accessAttachment i]

end CloudPlan
