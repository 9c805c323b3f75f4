import CloudPlan.Json.Record

/-!
# Live objects and their providers

A provider says which types of resources it can construct and constructs them one at a time. Both
are functions of what they are given. What it remembers, the calls made on it, lies in the log that it
names; a provider that is made for one purpose gets a log that no other provider names.
-/

set_option autoImplicit false

namespace CloudPlan

/-- A constructed resource: its inputs and what the provider assigned. -/
structure LiveObject where
  name : String
  type : String
  fields : Entries Json
deriving DecidableEq, Repr

namespace LiveObject

/-- The value of a field. -/
def field? (o : LiveObject) (field : String) : Option Json :=
  Entries.get? o.fields field

/-- The record type of live objects. -/
def recordType : RecordType := ⟨"struct LiveObject", ["name", "resource_type", "fields"]⟩

/-- A live object from JSON. -/
def decode : Decoder LiveObject :=
  Json.record recordType fun r =>
    mk <$> r.required "name" Json.text <*> r.required "resource_type" Json.text
      <*> r.required "fields" (Json.keyed Json.anything)

/-- A live object as JSON. -/
def json (o : LiveObject) : Json :=
  .object [("name", .string o.name), ("resource_type", .string o.type),
    ("fields", .object o.fields)]

end LiveObject

/-- What a provider is asked to construct. The inputs hold no references any more. -/
structure CreateRequest where
  name : String
  type : String
  inputs : Entries Json
  dependsOn : List LiveObject

/-- What is remembered of a request. -/
structure CreateCall where
  name : String
  type : String
  dependsOn : List String
deriving DecidableEq, Repr

/-- The call of a request: its name and type, and the names of the objects it depends on. -/
def CreateRequest.call (r : CreateRequest) : CreateCall :=
  ⟨r.name, r.type, r.dependsOn.map LiveObject.name⟩

/-- A constructor of resources. A failure comes with a message. The calls made on it are in the log
with its number. -/
structure Provider where
  supports : String → Bool
  create : CreateRequest → Except String LiveObject
  log : Nat := 0

/-- The provider with another log. -/
def Provider.withLog (p : Provider) (log : Nat) : Provider :=
  { p with log }

/-- The calls made on the providers in use, by the number of the log. -/
abbrev CallLogs := List (List CreateCall)

namespace CallLogs

/-- Logs without calls, as many as a provider needs for its own to be among them. -/
def forProvider (p : Provider) : CallLogs :=
  List.replicate (p.log + 1) []

/-- The calls made on a provider. -/
def calls (logs : CallLogs) (p : Provider) : List CreateCall :=
  logs[p.log]?.getD []

/-- Adds calls made on the provider with a log. -/
def add (logs : CallLogs) (log : Nat) (calls : List CreateCall) : CallLogs :=
  logs.modify log (· ++ calls)

/-- The logs with one more, for a provider that is new. Its number is the number of the logs. -/
def opened (logs : CallLogs) : CallLogs :=
  logs ++ [[]]

/-- The logs without the one that was opened last, whose provider is gone. -/
def dropped (logs : CallLogs) : CallLogs :=
  logs.dropLast

end CallLogs

end CloudPlan
