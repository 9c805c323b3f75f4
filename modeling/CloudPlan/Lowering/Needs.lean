import CloudPlan.Lowering.Access
import CloudPlan.Lowering.Parameters

/-!
# What intents say about nodes

`needsOf` gathers, for every node of the graph, the execution role that some access intent gives it
and the environment that config intents ask for. The first config intent for a key wins.
-/

set_option autoImplicit false

namespace CloudPlan

/-- What the intents say about one node. The environment is sorted by key. -/
structure Needs where
  role : Option String
  environment : Entries Value
  securityGroups : List String
deriving DecidableEq, Repr

namespace Needs

/-- The needs of a node that no intent mentions. -/
def none : Needs := ⟨.none, [], []⟩

/-- Adds an environment entry, unless its key is there. -/
def addVariable (needs : Needs) (key : String) (value : Value) : Needs :=
  if Entries.contains needs.environment key then needs
  else { needs with environment := Entries.insertSorted needs.environment key value }

/-- Gives a role, unless there is one. -/
def addRole (needs : Needs) (role : String) : Needs :=
  { needs with role := some (needs.role.getD role) }

/-- Needs as JSON. -/
def json (needs : Needs) : Json :=
  .object [("role_name", Json.ofString? needs.role),
    ("env_vars", .object (Entries.mapValues Value.json needs.environment)),
    ("security_groups", Json.ofStrings needs.securityGroups)]

end Needs

/-- Needs by node id. -/
abbrev NeedsIndex := Entries Needs

namespace NeedsIndex

/-- Every node of the graph with no needs, sorted by id. -/
def initial (graph : Graph) : NeedsIndex :=
  Entries.sortedOfList (graph.nodes.map fun n => (n.id, Needs.none))

/-- Adds what one intent says. -/
def addIntent (ctx : Context) (index : NeedsIndex) : Intent → NeedsIndex
  | .access i => Entries.modify index i.principal fun n => n.addRole (execRoleName i.principal)
  | .config i => Entries.modify index i.target fun n => n.addVariable i.key (i.source.value ctx)
  | .network _ | .telemetry _ | .other _ => index

end NeedsIndex

/-- What the intents say about each node of the graph. -/
def needsOf (ctx : Context) : NeedsIndex :=
  ctx.intents.foldl (NeedsIndex.addIntent ctx) (NeedsIndex.initial ctx.graph)

end CloudPlan
