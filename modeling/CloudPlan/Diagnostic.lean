import CloudPlan.Json.Record

/-!
# Diagnostics
-/

set_option autoImplicit false

namespace CloudPlan

/-- How serious a diagnostic is. -/
inductive Severity where
  | error
  | warning
  | info
deriving DecidableEq, Repr

/-- The name of a severity. -/
def Severity.name : Severity → String
  | .error => "error"
  | .warning => "warning"
  | .info => "info"

/-- Every severity under its name. -/
def Severity.all : Entries Severity :=
  [.error, .warning, .info].map fun s => (s.name, s)

/-- A problem met while lowering an intent or a node. -/
structure Diagnostic where
  severity : Severity
  source : String
  lowerer : Option String
  message : String
deriving DecidableEq, Repr

namespace Diagnostic

/-- The diagnostic of a lowerer that failed. -/
def failed (source lowerer message : String) : Diagnostic :=
  ⟨.error, source, some lowerer, message⟩

/-- A diagnostic that does not spoil the result. -/
def warn (source message : String) : Diagnostic :=
  ⟨.warning, source, none, message⟩

/-- A diagnostic on one line. -/
def describe (d : Diagnostic) : String :=
  let origin := match d.lowerer with
    | some lowerer => d.source ++ " (" ++ lowerer ++ ")"
    | none => d.source
  "[" ++ d.severity.name ++ "] " ++ origin ++ ": " ++ d.message

/-- The record type of diagnostics. -/
def type : RecordType :=
  ⟨"struct Diagnostic", ["severity", "source_id", "lowerer", "message"]⟩

/-- A diagnostic from JSON. -/
def decode : Decoder Diagnostic :=
  Json.record type fun r =>
    mk <$> r.required "severity" (Json.choice Severity.all false)
      <*> r.required "source_id" Json.text <*> r.optional "lowerer" Json.text
      <*> r.required "message" Json.text

/-- A diagnostic as JSON. -/
def json (d : Diagnostic) : Json :=
  .object [("severity", .string d.severity.name), ("source_id", .string d.source),
    ("lowerer", Json.ofString? d.lowerer), ("message", .string d.message)]

end Diagnostic

end CloudPlan
