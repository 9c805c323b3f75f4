import CloudPlan.Deploy.Classification

/-!
# Progress events and results
-/

set_option autoImplicit false

namespace CloudPlan

/-- What an event announces. -/
inductive EventType where
  | stackCreating
  | stackConfiguring
  | deploying
  | previewing
  | complete
  | error
deriving DecidableEq, Repr

namespace EventType

/-- The name of a type of events. -/
def name : EventType → String
  | .stackCreating => "stack-creating"
  | .stackConfiguring => "stack-configuring"
  | .deploying => "deploying"
  | .previewing => "previewing"
  | .complete => "complete"
  | .error => "error"

/-- Every type of events under its name. -/
def all : Entries EventType :=
  [.stackCreating, .stackConfiguring, .deploying, .previewing, .complete, .error].map fun t =>
    (t.name, t)

end EventType

/-- A progress event of a stack. -/
structure ProgressEvent where
  type : EventType
  stack : String
  error : Option ClassifiedError
deriving DecidableEq, Repr

namespace ProgressEvent

/-- An event without an error. -/
def ofType (type : EventType) (stack : String) : ProgressEvent := ⟨type, stack, none⟩

/-- The record type of events. -/
def recordType : RecordType := ⟨"struct ProgressEvent", ["type", "stackName", "error"]⟩

/-- An event from JSON, whose names may be written as `Json.choice` allows. -/
def decodeWith (relaxed : Bool) : Decoder ProgressEvent :=
  Json.record recordType fun r =>
    mk <$> r.required "type" (Json.choice EventType.all relaxed)
      <*> r.required "stackName" Json.text
      <*> r.optional "error" (ClassifiedError.decodeWith relaxed)

/-- An event from JSON. -/
def decode : Decoder ProgressEvent := decodeWith false

/-- The entries of an event. -/
def entries (e : ProgressEvent) : Entries Json :=
  [("type", .string e.type.name), ("stackName", .string e.stack)] ++
    ClassifiedError.entry? "error" (e.error.map ClassifiedError.json)

/-- An event as JSON. -/
def json (e : ProgressEvent) : Json := .object e.entries

end ProgressEvent

/-- Numbers of resources by operation. -/
abbrev ChangeCounts := Entries Nat

namespace ChangeCounts

/-- Counts from JSON. -/
def decode : Decoder ChangeCounts := Json.keyed Json.nat64

/-- Counts as JSON. -/
def json (counts : ChangeCounts) : Json := .object (Entries.mapValues Json.ofNat counts)

end ChangeCounts

/-- A stack output. -/
structure OutputValue where
  value : Json
  secret : Bool
deriving DecidableEq, Repr

namespace OutputValue

/-- The record type of stack outputs. -/
def type : RecordType := ⟨"struct OutputValue", ["value", "secret"]⟩

/-- A stack output from JSON. -/
def decode : Decoder OutputValue :=
  Json.record type fun r =>
    mk <$> r.required "value" Json.anything <*> r.withDefault "secret" Json.truth false

/-- A stack output as JSON. -/
def json (o : OutputValue) : Json :=
  .object [("value", o.value), ("secret", .bool o.secret)]

end OutputValue

/-- The counts of a deployment, if it got that far. -/
structure DeploySummary where
  changes : Option ChangeCounts
deriving DecidableEq, Repr

namespace DeploySummary

/-- The record type of summaries. -/
def type : RecordType := ⟨"struct DeploySummary", ["resourceChanges"]⟩

/-- A summary from JSON. -/
def decode : Decoder DeploySummary :=
  Json.record type fun r => mk <$> r.optional "resourceChanges" ChangeCounts.decode

/-- A summary as JSON. -/
def json (s : DeploySummary) : Json :=
  .object (ClassifiedError.entry? "resourceChanges" (s.changes.map ChangeCounts.json))

end DeploySummary

/-- What a deployment comes to. -/
structure DeployResult where
  success : Bool
  stack : String
  outputs : Entries Json
  summary : DeploySummary
  error : Option String
  detail : Option ClassifiedError
deriving DecidableEq, Repr

namespace DeployResult

/-- The record type of deployment results. -/
def type : RecordType :=
  ⟨"struct DeployResult", ["success", "stackName", "outputs", "summary", "error", "errorDetail"]⟩

/-- A deployment result from JSON. -/
def decode : Decoder DeployResult :=
  Json.record type fun r =>
    mk <$> r.required "success" Json.truth <*> r.required "stackName" Json.text
      <*> r.required "outputs" (Json.keyed Json.anything)
      <*> r.required "summary" DeploySummary.decode
      <*> r.optional "error" Json.text <*> r.optional "errorDetail" ClassifiedError.decode

/-- A deployment result as JSON. -/
def json (r : DeployResult) : Json :=
  .object ([("success", .bool r.success), ("stackName", .string r.stack),
    ("outputs", .object r.outputs), ("summary", r.summary.json)] ++
    ClassifiedError.entry? "error" (r.error.map .string) ++
    ClassifiedError.entry? "errorDetail" (r.detail.map ClassifiedError.json))

end DeployResult

/-- What a preview comes to. -/
structure PreviewResult where
  success : Bool
  stack : String
  changes : Option ChangeCounts
  error : Option String
  detail : Option ClassifiedError
deriving DecidableEq, Repr

namespace PreviewResult

/-- The record type of preview results. -/
def type : RecordType :=
  ⟨"struct PreviewResult", ["success", "stackName", "changeSummary", "error", "errorDetail"]⟩

/-- A preview result from JSON. -/
def decode : Decoder PreviewResult :=
  Json.record type fun r =>
    mk <$> r.required "success" Json.truth <*> r.required "stackName" Json.text
      <*> r.optional "changeSummary" ChangeCounts.decode
      <*> r.optional "error" Json.text <*> r.optional "errorDetail" ClassifiedError.decode

/-- A preview result as JSON. -/
def json (r : PreviewResult) : Json :=
  .object ([("success", .bool r.success), ("stackName", .string r.stack)] ++
    ClassifiedError.entry? "changeSummary" (r.changes.map ChangeCounts.json) ++
    ClassifiedError.entry? "error" (r.error.map .string) ++
    ClassifiedError.entry? "errorDetail" (r.detail.map ClassifiedError.json))

end PreviewResult

end CloudPlan
