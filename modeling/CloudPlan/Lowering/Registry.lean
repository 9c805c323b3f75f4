import CloudPlan.Lowering.Data
import CloudPlan.Lowering.Http
import CloudPlan.Lowering.Messaging

/-!
# Lowerers

A node lowerer serves the nodes of one platform, an intent lowerer the intents of one kind. Node
lowerers are found in a registry, sorted by platform, or in a list in which the first of a platform
counts. A registry refuses a second lowerer for a platform unless it may overwrite the first.
-/

set_option autoImplicit false

namespace CloudPlan

/-- A lowerer of the nodes of one platform. -/
structure NodeLowerer where
  platform : String
  lower : Node → Context → Needs → Lowered

/-- A lowerer of the intents of one kind. -/
structure IntentLowerer where
  kind : IntentKind
  lower : Intent → Context → Lowered

/-- The name of an intent lowerer in diagnostics. -/
def IntentLowerer.name (l : IntentLowerer) : String :=
  l.kind.name

/-- The resources of a node of a known platform. -/
def Platform.lower (p : Platform) (node : Node) (ctx : Context) (needs : Needs) : Lowered :=
  match p with
  | .computeFunction => lowerFunction node ctx needs
  | .queue => lowerQueue node
  | .keyValueTable => lowerTable node
  | .objectStore => lowerBucket node
  | .httpGateway => lowerGateway node ctx
  | .pubsubTopic => lowerTopic node

namespace NodeLowerer

/-- The lowerer of a known platform. -/
def ofPlatform (p : Platform) : NodeLowerer := ⟨p.name, p.lower⟩

/-- The lowerers of the known platforms. -/
def builtins : List NodeLowerer := Platform.all.map ofPlatform

/-- The first lowerer for a platform. -/
def lookup (lowerers : List NodeLowerer) (platform : String) : Option NodeLowerer :=
  lowerers.find? fun l => l.platform == platform

end NodeLowerer

namespace IntentLowerer

/-- The lowerer of access intents. -/
def access : IntentLowerer where
  kind := .access
  lower
    | .access i, ctx => i.lower ctx
    | other, _ => .error (.wrongIntent "identity-access" other.kind)

/-- The lowerer of network intents, which makes no resources of them. -/
def network : IntentLowerer := ⟨.network, fun _ _ => .ok []⟩

/-- The lowerer of config intents. -/
def config : IntentLowerer where
  kind := .config
  lower
    | .config i, ctx => i.lower ctx
    | other, _ => .error (.wrongIntent "config" other.kind)

/-- The lowerers of the kinds of intents that are understood. -/
def builtins : List IntentLowerer := [access, network, config]

end IntentLowerer

/-- Node lowerers by platform, in ascending order of platforms. -/
structure Registry where
  lowerers : Entries NodeLowerer

/-- The platform of a registration is taken. -/
structure PlatformTaken where
  platform : String
deriving DecidableEq, Repr

/-- The wording of a refused registration. -/
def PlatformTaken.message (e : PlatformTaken) : String :=
  "lowerer for platform '" ++ e.platform ++ "' is already registered"

namespace Registry

/-- The registry without lowerers. -/
def empty : Registry := ⟨[]⟩

/-- The lowerer for a platform. -/
def get? (r : Registry) (platform : String) : Option NodeLowerer :=
  Entries.get? r.lowerers platform

/-- Adds a lowerer. One for a platform that has one already is refused unless it overwrites. -/
def register (r : Registry) (l : NodeLowerer) (overwrite : Bool) :
    Except PlatformTaken Registry :=
  if !overwrite && Entries.contains r.lowerers l.platform then .error ⟨l.platform⟩
  else .ok ⟨Entries.insertSorted r.lowerers l.platform l⟩

/-- Adds a lowerer unless it is refused. -/
def registerIfFree (r : Registry) (l : NodeLowerer) : Registry :=
  match r.register l false with
  | .ok r => r
  | .error _ => r

/-- The registry of the known platforms. -/
def builtin : Registry :=
  NodeLowerer.builtins.foldl registerIfFree empty

/-- All lowerers with their platforms. -/
def toList (r : Registry) : Entries NodeLowerer := r.lowerers

/-- The number of lowerers. -/
def size (r : Registry) : Nat := r.lowerers.length

/-- Whether there are no lowerers. -/
def isEmpty (r : Registry) : Bool := r.lowerers.isEmpty

end Registry

end CloudPlan
