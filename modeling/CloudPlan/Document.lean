import CloudPlan.Config
import CloudPlan.Graph
import CloudPlan.Intent.Wire
import CloudPlan.Text.Blank

/-!
# Documents

A document is the input of one compilation: settings, intents and the graph. `Document.problems`
lists what is wrong with one that could be read: blank settings, ids without a kind, repeated ids
and edges that end at no node.
-/

set_option autoImplicit false

namespace CloudPlan

/-- The input of one compilation. -/
structure Document where
  config : Config
  intents : List Intent
  graph : Graph
deriving DecidableEq, Repr

/-- An end of an edge. -/
inductive EdgeEnd where
  | source
  | target
deriving DecidableEq, Repr

/-- The name of an end. -/
def EdgeEnd.name : EdgeEnd → String
  | .source => "source"
  | .target => "target"

/-- The node id at an end of an edge. -/
def EdgeEnd.of (e : EdgeEnd) (edge : Edge) : String :=
  match e with
  | .source => edge.source
  | .target => edge.target

/-- What can be wrong with a document. -/
inductive Problem where
  | blankRegion
  | blankServiceName
  | idWithoutKind (id : String)
  | repeatedId (id : String)
  | unknownNode (edge : String) (edgeEnd : EdgeEnd) (id : String)
deriving DecidableEq, Repr

/-- The wording of a problem. -/
def Problem.message : Problem → String
  | .blankRegion => "config.region must not be empty"
  | .blankServiceName => "config.service_name must not be empty"
  | .idWithoutKind id => "node id '" ++ id ++ "' must be of the form kind:name"
  | .repeatedId id => "duplicate node id '" ++ id ++ "'"
  | .unknownNode edge edgeEnd id =>
    "edge '" ++ edge ++ "' " ++ edgeEnd.name ++ " references unknown node '" ++ id ++ "'"

namespace Document

/-- The record type of documents. -/
def type : RecordType := ⟨"struct Document", ["config", "intents", "graph"]⟩

/-- A document from JSON. -/
def decode : Decoder Document :=
  Json.record type fun r =>
    mk <$> r.required "config" Config.decode
      <*> r.withDefault "intents" (Json.sequence Intent.decode) []
      <*> r.withDefault "graph" Graph.decode Graph.empty

/-- A document as JSON. -/
def json (doc : Document) : Json :=
  .object [("config", doc.config.json), ("intents", .array (doc.intents.map Intent.json)),
    ("graph", doc.graph.json)]

/-- The problems of the settings. -/
def configProblems (config : Config) : List Problem :=
  (if Text.isBlankText config.region then [.blankRegion] else []) ++
    (if Text.isBlankText config.serviceName then [.blankServiceName] else [])

/-- The problems of nodes, given the ids before them. -/
def nodeProblems (earlier : List String) : List Node → List Problem
  | [] => []
  | node :: rest =>
    (if node.id.toList.contains ':' then [] else [.idWithoutKind node.id]) ++
      (if earlier.contains node.id then [.repeatedId node.id] else []) ++
      nodeProblems (node.id :: earlier) rest

/-- The problem of one end of an edge. -/
def endProblems (ids : List String) (edge : Edge) (edgeEnd : EdgeEnd) : List Problem :=
  if ids.contains (edgeEnd.of edge) then [] else [.unknownNode edge.id edgeEnd (edgeEnd.of edge)]

/-- The problems of a document, in order. -/
def problems (doc : Document) : List Problem :=
  let ids := doc.graph.nodes.map Node.id
  configProblems doc.config ++ nodeProblems [] doc.graph.nodes ++
    doc.graph.edges.flatMap fun edge =>
      endProblems ids edge .source ++ endProblems ids edge .target

end Document

end CloudPlan
