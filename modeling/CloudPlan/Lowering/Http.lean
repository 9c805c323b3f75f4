import CloudPlan.Lowering.Compute
import CloudPlan.Text.Blank
import CloudPlan.Text.Upper

/-!
# Gateways and routes

A gateway node becomes an API with a stage that deploys by itself. An edge on which a gateway
triggers a function becomes an integration, a route and the permission to invoke the function.
-/

set_option autoImplicit false

namespace CloudPlan

/-- The API of a gateway node. -/
def apiOf (node : Node) (config : Config) : Resource :=
  ((((Resource.ofKind .api (Platform.httpGateway.resourceName node.shortName) node.id).setText
    "name" (config.serviceName ++ "-" ++ node.shortName)).setText "protocolType" "HTTP").set?
    "corsConfiguration" ((Entries.get? node.properties "cors").map Value.ofJson)).set "tags"
    (nodeTags node Platform.httpGateway.name)

/-- The stage of a gateway node. -/
def stageOf (node : Node) : Resource :=
  let api := Platform.httpGateway.resourceName node.shortName
  (((((Resource.ofKind .stage (resourceName node.shortName "stage") node.id).set "apiId"
    (.refTo api)).setText "name" "$default").set "autoDeploy" (.bool true)).set "tags"
    (nodeTags node Platform.httpGateway.name)).after [api]

/-- Lowers a gateway node. -/
def lowerGateway (node : Node) (ctx : Context) : Lowered :=
  .ok [apiOf node ctx.config, stageOf node]

/-- A text in the binding of an edge, trimmed, unless it is blank. -/
def Edge.bindingText? (edge : Edge) (key : String) : Option String :=
  (((Entries.get? edge.binding key).bind Json.asString?).map Text.trim).filter fun s => s ≠ ""

/-- The key of a route: method and path if both are given, and otherwise the default route. -/
def Edge.routeKey (edge : Edge) : String :=
  match edge.bindingText? "method", edge.bindingText? "route" with
  | some method, some path => Text.upper method ++ " " ++ path
  | _, _ => "$default"

/-- The API of the gateway at the start of an edge. -/
def Edge.apiName (edge : Edge) : String :=
  Platform.httpGateway.resourceName (shortName edge.source)

/-- The function at the end of an edge. -/
def Edge.functionName (edge : Edge) : String :=
  Platform.computeFunction.resourceName (shortName edge.target)

/-- What the names of the resources of an edge begin with. -/
def Edge.pairName (edge : Edge) : String :=
  shortName edge.source ++ "-" ++ shortName edge.target

/-- The name of the integration of an edge. -/
def Edge.integrationName (edge : Edge) : String :=
  edge.pairName ++ "-integration"

/-- The integration of an edge from a gateway to a function. -/
def integrationOf (edge : Edge) : Resource :=
  ((((((Resource.ofKind .integration edge.integrationName edge.id).set "apiId"
    (.refTo edge.apiName)).setText "integrationType" "AWS_PROXY").set "integrationUri"
    (.refTo edge.functionName)).setText "integrationMethod" "POST").setText
    "payloadFormatVersion" "2.0").set "tags" (edgeTags edge)
    |>.after [edge.apiName, edge.functionName]

/-- The route of an edge from a gateway to a function. -/
def routeOf (edge : Edge) : Resource :=
  ((((Resource.ofKind .route (edge.pairName ++ "-route") edge.id).set "apiId"
    (.refTo edge.apiName)).setText "routeKey" edge.routeKey).set "target"
    (.refTo edge.integrationName)).set "tags" (edgeTags edge)
    |>.after [edge.apiName, edge.integrationName]

/-- The permission of a gateway to invoke the function at the end of an edge. -/
def permissionOf (edge : Edge) : Resource :=
  (((((Resource.ofKind .permission (edge.pairName ++ "-invoke-permission") edge.id).setText
    "action" "lambda:InvokeFunction").set "function" (.refTo edge.functionName)).setText
    "principal" "apigateway.amazonaws.com").set "sourceArn" (.refTo edge.apiName)).set "tags"
    (edgeTags edge) |>.after [edge.functionName, edge.apiName]

/-- The integration, the route and the permission of an edge from a gateway to a function. -/
def httpIntegration (edge : Edge) : List Resource :=
  [integrationOf edge, routeOf edge, permissionOf edge]

/-- The integrations, routes and permissions of a graph. -/
def httpIntegrations (ctx : Context) : List Resource :=
  (ctx.edgesBetween .triggers .httpGateway .computeFunction).flatMap httpIntegration

end CloudPlan
