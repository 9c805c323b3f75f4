import CloudPlan.Json.Record

/-!
# Settings of a compilation

The region and the service that resources are made for, and where the code of functions lies.
-/

set_option autoImplicit false

namespace CloudPlan

/-- A code bundle in an object store. -/
structure StoredCode where
  bucket : String
  key : String
deriving DecidableEq, Repr

namespace StoredCode

/-- The record type of stored code. -/
def type : RecordType := ⟨"struct CodeS3", ["bucket", "key"]⟩

/-- Stored code from JSON. -/
def decode : Decoder StoredCode :=
  Json.record type fun r => mk <$> r.required "bucket" Json.text <*> r.required "key" Json.text

/-- Stored code as JSON. -/
def json (code : StoredCode) : Json :=
  .object [("bucket", .string code.bucket), ("key", .string code.key)]

end StoredCode

/-- What every step of a compilation may consult. -/
structure Config where
  region : String
  serviceName : String
  codePath : Option String
  codeStore : Option StoredCode
deriving DecidableEq, Repr

namespace Config

/-- The record type of settings. -/
def type : RecordType :=
  ⟨"struct AdapterConfig", ["region", "service_name", "code_path", "code_s3"]⟩

/-- Settings from JSON. -/
def decode : Decoder Config :=
  Json.record type fun r =>
    mk <$> r.required "region" Json.text <*> r.required "service_name" Json.text
      <*> r.optional "code_path" Json.text <*> r.optional "code_s3" StoredCode.decode

/-- Settings as JSON. -/
def json (config : Config) : Json :=
  .object [("region", .string config.region), ("service_name", .string config.serviceName),
    ("code_path", Json.ofString? config.codePath),
    ("code_s3", (config.codeStore.map StoredCode.json).getD .null)]

end Config

end CloudPlan
