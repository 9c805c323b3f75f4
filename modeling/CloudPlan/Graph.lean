import CloudPlan.Json.Record
import CloudPlan.Text.Cut

/-!
# The service graph

Nodes carry free-form properties, among them the platform that a node runs on; typed edges connect
nodes by id. An id has the form `kind:name`, and the part after its first colon is the short name.
-/

set_option autoImplicit false

namespace CloudPlan

/-- The part of an id after its first colon, or all of it without one. -/
def shortName (id : String) : String :=
  match Text.cut ':' id with
  | some (_, rest) => rest
  | none => id

/-- A node of the graph. -/
structure Node where
  id : String
  properties : Entries Json
deriving DecidableEq, Repr

namespace Node

/-- The short name of the node's id. -/
def shortName (node : Node) : String :=
  CloudPlan.shortName node.id

/-- A property that is a text. -/
def string? (node : Node) (key : String) : Option String :=
  (Entries.get? node.properties key).bind Json.asString?

/-- A property that is a whole number and not negative. -/
def nat? (node : Node) (key : String) : Option Nat :=
  (Entries.get? node.properties key).bind Json.asNat?

/-- A property that is a truth value. -/
def bool? (node : Node) (key : String) : Option Bool :=
  (Entries.get? node.properties key).bind Json.asBool?

/-- The platform of the node; an empty one counts as none. -/
def platform? (node : Node) : Option String :=
  (node.string? "platform").filter fun p => p ≠ ""

/-- The record type of nodes. -/
def type : RecordType := ⟨"struct GraphNode", ["id", "properties"]⟩

/-- A node from JSON. -/
def decode : Decoder Node :=
  Json.record type fun r =>
    mk <$> r.required "id" Json.text <*> r.withDefault "properties" (Json.keyed Json.anything) []

/-- A node as JSON. -/
def json (node : Node) : Json :=
  .object [("id", .string node.id), ("properties", .object node.properties)]

end Node

/-- What an edge means. -/
inductive EdgeType where
  | bindsTo
  | triggers
  | dependsOn
  | contains
deriving DecidableEq, Repr

namespace EdgeType

/-- The name of an edge type. -/
def name : EdgeType → String
  | .bindsTo => "bindsTo"
  | .triggers => "triggers"
  | .dependsOn => "dependsOn"
  | .contains => "contains"

/-- Every edge type under its name. -/
def all : Entries EdgeType :=
  [.bindsTo, .triggers, .dependsOn, .contains].map fun t => (t.name, t)

end EdgeType

/-- An edge of the graph. -/
structure Edge where
  id : String
  type : EdgeType
  source : String
  target : String
  binding : Entries Json
deriving DecidableEq, Repr

namespace Edge

/-- The record type of edges. -/
def recordType : RecordType :=
  ⟨"struct GraphEdge", ["id", "type", "source", "target", "binding_config"]⟩

/-- An edge from JSON. -/
def decode : Decoder Edge :=
  Json.record recordType fun r =>
    mk <$> r.required "id" Json.text <*> r.required "type" (Json.choice EdgeType.all false)
      <*> r.required "source" Json.text <*> r.required "target" Json.text
      <*> r.withDefault "binding_config" (Json.keyed Json.anything) []

/-- An edge as JSON. -/
def json (edge : Edge) : Json :=
  .object [("id", .string edge.id), ("type", .string edge.type.name),
    ("source", .string edge.source), ("target", .string edge.target),
    ("binding_config", .object edge.binding)]

end Edge

/-- A graph of nodes and edges. -/
structure Graph where
  nodes : List Node
  edges : List Edge
deriving DecidableEq, Repr

namespace Graph

/-- The graph without nodes and edges. -/
def empty : Graph := ⟨[], []⟩

/-- The first node with an id. -/
def node? (graph : Graph) (id : String) : Option Node :=
  graph.nodes.find? fun n => n.id == id

/-- The platform of the first node with an id. -/
def platformOf? (graph : Graph) (id : String) : Option String :=
  (graph.node? id).bind Node.platform?

/-- The record type of graphs. -/
def type : RecordType := ⟨"struct Graph", ["nodes", "edges"]⟩

/-- A graph from JSON. -/
def decode : Decoder Graph :=
  Json.record type fun r =>
    mk <$> r.withDefault "nodes" (Json.sequence Node.decode) []
      <*> r.withDefault "edges" (Json.sequence Edge.decode) []

/-- A graph as JSON. -/
def json (graph : Graph) : Json :=
  .object [("nodes", .array (graph.nodes.map Node.json)),
    ("edges", .array (graph.edges.map Edge.json))]

end Graph

end CloudPlan
