import CloudPlan.Diagnostic
import CloudPlan.Lowering.Registry

/-!
# Lowering a document

An adapter lowers intents, then nodes, then the edges between nodes. What one of them yields is
recorded in a `Pass`, a failure becomes a diagnostic, and the rest goes on. At the end the first
resource of each name is kept and resources are sorted by name. Two config intents must not make the
same parameter: the later one is an error.
-/

set_option autoImplicit false

namespace CloudPlan

/-- Where node lowerers are looked up. -/
inductive LookupMode where
  | registry
  | legacy
deriving DecidableEq, Repr

/-- The name of a lookup mode. -/
def LookupMode.name : LookupMode → String
  | .registry => "registry"
  | .legacy => "legacy"

/-- Every lookup mode under its name. -/
def LookupMode.all : Entries LookupMode :=
  [.registry, .legacy].map fun m => (m.name, m)

/-- The outcome of lowering a document: resources by name, the names made for each source, and
diagnostics. -/
structure LoweringResult where
  resources : List Resource
  resourceMap : Entries (List String)
  diagnostics : List Diagnostic
  success : Bool
deriving DecidableEq, Repr

namespace LoweringResult

/-- The diagnostics that are errors. -/
def errors (r : LoweringResult) : List Diagnostic :=
  r.diagnostics.filter fun d => d.severity == .error

/-- The first resource of a name. -/
def resource? (r : LoweringResult) (name : String) : Option Resource :=
  r.resources.find? fun x => x.name == name

/-- The record type of results. -/
def type : RecordType :=
  ⟨"struct AdapterResult", ["resources", "resource_map", "diagnostics", "success"]⟩

/-- A result from JSON. -/
def decode : Decoder LoweringResult :=
  Json.record type fun r =>
    mk <$> r.required "resources" (Json.sequence Resource.decode)
      <*> r.required "resource_map" (Json.keyed (Json.sequence Json.text))
      <*> r.required "diagnostics" (Json.sequence Diagnostic.decode)
      <*> r.required "success" Json.truth

/-- A result as JSON. -/
def json (r : LoweringResult) : Json :=
  .object [("resources", .array (r.resources.map Resource.json)),
    ("resource_map", .object (Entries.mapValues Json.ofStrings r.resourceMap)),
    ("diagnostics", .array (r.diagnostics.map Diagnostic.json)), ("success", .bool r.success)]

end LoweringResult

/-- What one run of lowering has gathered so far. `parameters` tells for each parameter name the
intent that made it. -/
structure Pass where
  resources : List Resource
  resourceMap : Entries (List String)
  diagnostics : List Diagnostic
  parameters : Entries String

namespace Pass

/-- Nothing gathered yet. -/
def start : Pass := ⟨[], [], [], []⟩

/-- Adds a name, unless it is there. -/
def addName (names : List String) (name : String) : List String :=
  if names.contains name then names else names ++ [name]

/-- Records resources made for a source. -/
def record (pass : Pass) (source : String) (resources : List Resource) : Pass :=
  let names := (Entries.get? pass.resourceMap source).getD []
  { pass with
    resources := pass.resources ++ resources
    resourceMap := Entries.insertSorted pass.resourceMap source
      ((resources.map Resource.name).foldl addName names) }

/-- Adds a diagnostic. -/
def report (pass : Pass) (d : Diagnostic) : Pass :=
  { pass with diagnostics := pass.diagnostics ++ [d] }

/-- The first of some resources whose name another intent has made a parameter of, with that
intent. -/
def takenParameter? (pass : Pass) (resources : List Resource) : Option (String × String) :=
  resources.findSome? fun r => (Entries.get? pass.parameters r.name).map fun owner => (r.name, owner)

/-- Claims parameter names for an intent. -/
def claim (pass : Pass) (source : String) (resources : List Resource) : Except LowerError Pass :=
  match pass.takenParameter? resources with
  | some (name, owner) => .error (.parameterTaken name owner)
  | none =>
    .ok { pass with
      parameters := resources.foldl (fun ps r => Entries.insert ps r.name source) pass.parameters }

/-- The first resource of each name, in order. -/
def firstOfEachName (seen : List String) : List Resource → List Resource
  | [] => []
  | r :: rest =>
    if seen.contains r.name then firstOfEachName seen rest
    else r :: firstOfEachName (r.name :: seen) rest

/-- What a finished run amounts to. -/
def finish (pass : Pass) : LoweringResult where
  resources := (firstOfEachName [] pass.resources).mergeSort fun a b => a.name ≤ b.name
  resourceMap := pass.resourceMap
  diagnostics := pass.diagnostics
  success := !pass.diagnostics.any fun d => d.severity == .error

end Pass

/-- The steps of lowering, as they are announced. -/
inductive Phase where
  | intents
  | nodes
  | eventMappings
  | integrations
  | complete
deriving DecidableEq, Repr

/-- The name of a phase. -/
def Phase.name : Phase → String
  | .intents => "intents"
  | .nodes => "nodes"
  | .eventMappings => "event-mappings"
  | .integrations => "integrations"
  | .complete => "complete"

/-- A choice of lowerers. -/
structure Adapter where
  mode : LookupMode
  intentLowerers : List IntentLowerer
  registry : Registry
  legacy : List NodeLowerer

namespace Adapter

/-- The adapter with a given registry. -/
def withRegistry (mode : LookupMode) (registry : Registry) : Adapter :=
  ⟨mode, IntentLowerer.builtins, registry, NodeLowerer.builtins⟩

/-- The adapter with all built-in lowerers. -/
def standard (mode : LookupMode) : Adapter :=
  withRegistry mode .builtin

/-- The adapter with given intent lowerers. -/
def withIntentLowerers (mode : LookupMode) (lowerers : List IntentLowerer) : Adapter :=
  { standard mode with intentLowerers := lowerers }

/-- The lowerer for a kind of intents. -/
def intentLowerer? (a : Adapter) (kind : IntentKind) : Option IntentLowerer :=
  a.intentLowerers.find? fun l => l.kind == kind

/-- The lowerer for the nodes of a platform. -/
def nodeLowerer? (a : Adapter) (platform : String) : Option NodeLowerer :=
  match a.mode with
  | .registry => a.registry.get? platform
  | .legacy => NodeLowerer.lookup a.legacy platform

/-- Lowers an intent, claims the parameters that it makes, and records the resources. -/
def runIntent (l : IntentLowerer) (ctx : Context) (pass : Pass) (intent : Intent) :
    Except LowerError Pass := do
  let resources ← l.lower intent ctx
  let pass ← if intent.kind = .config then pass.claim intent.edge resources else .ok pass
  return pass.record intent.edge resources

/-- Lowers one intent. -/
def lowerIntent (a : Adapter) (ctx : Context) (pass : Pass) (intent : Intent) : Pass :=
  if intent.kind = .network then
    pass.report (.warn intent.edge "network intents are not supported by this adapter; skipped")
  else
    match a.intentLowerer? intent.kind with
    | none =>
      if intent.kind = .telemetry then pass
      else
        pass.report (.warn intent.edge
          ("no lowerer registered for intent type '" ++ intent.typeName ++ "'"))
    | some l =>
      match runIntent l ctx pass intent with
      | .ok pass => pass
      | .error e => pass.report (.failed intent.edge l.name e.message)

/-- Lowers one node. -/
def lowerNode (a : Adapter) (ctx : Context) (needs : NeedsIndex) (pass : Pass) (node : Node) :
    Pass :=
  match node.platform? with
  | none => pass
  | some platform =>
    match a.nodeLowerer? platform with
    | none =>
      pass.report (.warn node.id ("no lowerer registered for platform '" ++ platform ++ "'"))
    | some l =>
      match l.lower node ctx ((Entries.get? needs node.id).getD .none) with
      | .ok resources => pass.record node.id resources
      | .error e => pass.report (.failed node.id platform e.message)

/-- Lowers all intents. -/
def lowerIntents (a : Adapter) (ctx : Context) (pass : Pass) : Pass :=
  ctx.intents.foldl (a.lowerIntent ctx) pass

/-- Lowers all nodes. -/
def lowerNodes (a : Adapter) (ctx : Context) (pass : Pass) : Pass :=
  ctx.graph.nodes.foldl (a.lowerNode ctx (needsOf ctx)) pass

/-- Records resources one by one, each for its own source. -/
def recordEach (pass : Pass) (resources : List Resource) : Pass :=
  resources.foldl (fun pass r => pass.record r.source [r]) pass

/-- The work of a phase. -/
def runPhase (a : Adapter) (ctx : Context) (pass : Pass) : Phase → Pass
  | .intents => a.lowerIntents ctx pass
  | .nodes => a.lowerNodes ctx pass
  | .eventMappings => recordEach pass (eventMappings ctx)
  | .integrations => recordEach pass (httpIntegrations ctx)
  | .complete => pass

/-- The phases in order. -/
def phases : List Phase :=
  [.intents, .nodes, .eventMappings, .integrations, .complete]

/-- Everything that lowering gathers. -/
def gather (a : Adapter) (ctx : Context) : Pass :=
  phases.foldl (a.runPhase ctx) .start

/-- Lowers a document. -/
def lower (a : Adapter) (ctx : Context) : LoweringResult :=
  (a.gather ctx).finish

/-- Lowers a document, announcing each phase when it is done. -/
def lowerAnnounced (a : Adapter) (ctx : Context) : LoweringResult × List Phase :=
  let (pass, announced) := phases.foldl
    (fun (pass, announced) phase => (a.runPhase ctx pass phase, announced ++ [phase]))
    (Pass.start, [])
  (pass.finish, announced)

end Adapter

end CloudPlan
