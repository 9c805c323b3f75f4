import CloudPlan.Lowering.Needs

/-!
# Functions

A node of the platform `compute-function` becomes a function. Without a role from an access intent
it gets an execution role of its own. An edge that binds a function to a queue becomes an event
source mapping.
-/

set_option autoImplicit false

namespace CloudPlan

/-- The code of functions: a stored bundle, or else a local path. -/
def setCode (r : Resource) (config : Config) : Resource :=
  match config.codeStore, config.codePath with
  | some code, _ => (r.setText "s3Bucket" code.bucket).setText "s3Key" code.key
  | none, some path => r.set "code" (.map [("archive", .string path)])
  | none, none => r

/-- The environment of a function, unless it is empty. -/
def setEnvironment (r : Resource) (environment : Entries Value) : Resource :=
  if environment.isEmpty then r
  else r.set "environment" (.map [("variables", .map environment)])

/-- The security groups of a function, unless there are none. -/
def setSecurityGroups (r : Resource) (groups : List String) : Resource :=
  if groups.isEmpty then r
  else r.set "vpcConfig" (.map [("securityGroupIds", .list (groups.map .string))])

/-- Adds a dependency, unless it is there. -/
def Resource.afterOnce (r : Resource) (name : String) : Resource :=
  if r.dependsOn.contains name then r else r.after [name]

/-- The function of a node, given its role. -/
def functionOf (node : Node) (config : Config) (needs : Needs) (role : String) : Resource :=
  let name := Platform.computeFunction.resourceName node.shortName
  let r := (((((Resource.ofKind .function name node.id).set "role" (.refTo role)).setText "runtime"
    ((node.string? "runtime").getD "nodejs20.x")).setText "handler"
    ((node.string? "handler").getD "index.handler")).set "memorySize"
    (.ofNat ((node.nat? "memory").getD 128))).set "timeout"
    (.ofNat ((node.nat? "timeout").getD 30))
  let r := setSecurityGroups (setEnvironment (setCode r config) needs.environment)
    needs.securityGroups
  let r := (r.set "tags" (nodeTags node Platform.computeFunction.name)).after [role]
  (needs.environment.flatMap fun entry => entry.2.directDependency).foldl Resource.afterOnce r

/-- Lowers a function node. -/
def lowerFunction (node : Node) (ctx : Context) (needs : Needs) : Lowered :=
  match needs.role with
  | some role => .ok [functionOf node ctx.config needs role]
  | none =>
    .ok (execRole node.id node.id ++ [functionOf node ctx.config needs (execRoleName node.id)])

/-- The event source mapping of an edge from a function to a queue. -/
def eventMapping (edge : Edge) : Resource :=
  let source := shortName edge.source
  let target := shortName edge.target
  let function := Platform.computeFunction.resourceName source
  let queue := Platform.queue.resourceName target
  (((((Resource.ofKind .eventSourceMapping (source ++ "-" ++ target ++ "-event-mapping")
    edge.id).set "eventSourceArn" (.refTo queue)).set "functionName" (.refTo function)).set
    "batchSize" (.ofNat 10)).set "enabled" (.bool true)).after [function, queue]

/-- The edges of a type that connect nodes of two platforms. -/
def Context.edgesBetween (ctx : Context) (type : EdgeType) (source target : Platform) :
    List Edge :=
  ctx.graph.edges.filter fun edge =>
    edge.type == type && ctx.platformOf? edge.source == some source.name &&
      ctx.platformOf? edge.target == some target.name

/-- The event source mappings of a graph. -/
def eventMappings (ctx : Context) : List Resource :=
  (ctx.edgesBetween .bindsTo .computeFunction .queue).map eventMapping

end CloudPlan
