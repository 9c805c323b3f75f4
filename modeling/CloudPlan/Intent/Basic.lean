import CloudPlan.Json.Basic

/-!
# Intents

An intent states something that the wiring of a service needs: access of one node to another, a
network path, a configuration value or telemetry. Intents of other types are kept as they are.
-/

set_option autoImplicit false

namespace CloudPlan

/-- A level of access. -/
inductive AccessLevel where
  | read
  | write
  | admin
deriving DecidableEq, Repr

/-- The name of an access level. -/
def AccessLevel.name : AccessLevel → String
  | .read => "read"
  | .write => "write"
  | .admin => "admin"

/-- Every access level under its name. -/
def AccessLevel.all : Entries AccessLevel :=
  [.read, .write, .admin].map fun l => (l.name, l)

/-- What part of a resource access is granted to. -/
inductive AccessScope where
  | specific
  | pattern (pattern : Option String)
deriving DecidableEq, Repr

/-- The principal needs some levels of access to the resource. -/
structure AccessIntent where
  edge : String
  principal : String
  resource : String
  levels : List AccessLevel
  scope : Option AccessScope
deriving DecidableEq, Repr

/-- The source needs a network path to the target. -/
structure NetworkIntent where
  edge : String
  source : String
  target : String
  port : Option Nat
  protocol : Option String
deriving DecidableEq, Repr

/-- Where a configuration value comes from. -/
inductive ValueSource where
  | literal (value : String)
  | reference (node : String) (field : Option String)
  | secret (name : String)
deriving DecidableEq, Repr

/-- The target needs a configuration value under a key. -/
structure ConfigIntent where
  edge : String
  target : String
  key : String
  source : ValueSource
deriving DecidableEq, Repr

/-- Telemetry is wanted. -/
structure TelemetryIntent where
  edge : String
  target : Option String
deriving DecidableEq, Repr

/-- An intent of some other type, with its remaining fields. -/
structure OtherIntent where
  typeName : String
  edge : String
  fields : Entries Json
deriving DecidableEq, Repr

/-- An intent. -/
inductive Intent where
  | access (intent : AccessIntent)
  | network (intent : NetworkIntent)
  | config (intent : ConfigIntent)
  | telemetry (intent : TelemetryIntent)
  | other (intent : OtherIntent)
deriving DecidableEq, Repr

/-- The kinds of intents. -/
inductive IntentKind where
  | access
  | network
  | config
  | telemetry
  | other
deriving DecidableEq, Repr

/-- The name of a kind of intents. -/
def IntentKind.name : IntentKind → String
  | .access => "identity-access"
  | .network => "network"
  | .config => "config"
  | .telemetry => "telemetry"
  | .other => "unknown"

namespace Intent

/-- The id of the edge that an intent was made for. -/
def edge : Intent → String
  | .access i => i.edge
  | .network i => i.edge
  | .config i => i.edge
  | .telemetry i => i.edge
  | .other i => i.edge

/-- The kind of an intent. -/
def kind : Intent → IntentKind
  | .access _ => .access
  | .network _ => .network
  | .config _ => .config
  | .telemetry _ => .telemetry
  | .other _ => .other

/-- The type of an intent as it was written. -/
def typeName : Intent → String
  | .other i => i.typeName
  | i => i.kind.name

end Intent

end CloudPlan
