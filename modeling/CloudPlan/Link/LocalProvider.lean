import CloudPlan.Digest.Blake3
import CloudPlan.Link.Object
import CloudPlan.Resource.Kind

/-!
# A provider without a cloud

The local provider makes up what a cloud would assign: a live object has the inputs of its resource,
an `id`, and the fields of its kind, all derived from its name and the region.
-/

set_option autoImplicit false

namespace CloudPlan

/-- A provider for one region; construction fails for the names in `failures`. -/
structure LocalProvider where
  region : String
  failures : Entries String
deriving DecidableEq, Repr

namespace LocalProvider

/-- The provider of a region, without failures. -/
def ofRegion (region : String) : LocalProvider := ⟨region, []⟩

/-- The account in made-up identifiers. -/
def account : String := "000000000000"

/-- The identifier of a regional resource. -/
def arn (region service resource : String) : String :=
  "arn:aws:" ++ service ++ ":" ++ region ++ ":" ++ account ++ ":" ++ resource

/-- Ten digits derived from a name. -/
def shortId (name : String) : String :=
  String.ofList ((Blake3.hexOfText name).toList.take 10)

/-- The path of a parameter without leading slashes. -/
def parameterPath (name : String) (inputs : Entries Json) : String :=
  let given := ((Entries.get? inputs "name").bind Json.asString?).getD name
  String.ofList (given.toList.dropWhile (· == '/'))

/-- The fields that are assigned to a resource of a kind. -/
def assigned (region name : String) (inputs : Entries Json) : ResourceKind → Entries String
  | .role => [("arn", "arn:aws:iam::" ++ account ++ ":role/" ++ name), ("name", name)]
  | .policy => [("arn", "arn:aws:iam::" ++ account ++ ":policy/" ++ name), ("name", name)]
  | .function =>
    let functionArn := arn region "lambda" ("function:" ++ name)
    [("invokeArn", "arn:aws:apigateway:" ++ region ++ ":lambda:path/2015-03-31/functions/" ++
        functionArn ++ "/invocations"),
     ("arn", functionArn), ("name", name)]
  | .queue =>
    [("arn", arn region "sqs" name),
     ("url", "https://sqs." ++ region ++ ".amazonaws.com/" ++ account ++ "/" ++ name),
     ("name", name)]
  | .table =>
    [("arn", arn region "dynamodb" ("table/" ++ name)), ("name", name)] ++
      if Entries.get? inputs "streamEnabled" = some (.bool true) then
        [("streamArn", arn region "dynamodb" ("table/" ++ name ++ "/stream/local"))]
      else []
  | .bucket =>
    [("arn", "arn:aws:s3:::" ++ name), ("bucket", name),
     ("bucketDomainName", name ++ ".s3.amazonaws.com")]
  | .api =>
    let id := shortId name
    [("apiEndpoint", "https://" ++ id ++ ".execute-api." ++ region ++ ".amazonaws.com"),
     ("executionArn", arn region "execute-api" id), ("id", id)]
  | .topic => [("arn", arn region "sns" name), ("name", name)]
  | .parameter =>
    let path := parameterPath name inputs
    [("arn", arn region "ssm" ("parameter/" ++ path)), ("name", "/" ++ path)]
  | .eventSourceMapping => [("uuid", shortId name)]
  | _ => []

/-- The fields that are assigned to a resource of a type. -/
def assignedTo (region : String) (r : CreateRequest) : Entries String :=
  match ResourceKind.ofToken? r.type with
  | some kind => assigned region r.name r.inputs kind
  | none => []

/-- The object that a request constructs. -/
def object (region : String) (r : CreateRequest) : LiveObject :=
  ⟨r.name, r.type,
    (assignedTo region r).foldl (fun fields e => Entries.insert fields e.1 (.string e.2))
      (Entries.insert r.inputs "id" (.string r.name))⟩

/-- Constructs a resource. -/
def create (p : LocalProvider) (r : CreateRequest) : Except String LiveObject :=
  match Entries.get? p.failures r.name with
  | some message => .error message
  | none => .ok (object p.region r)

/-- Every known type is supported. -/
def supports (type : String) : Bool :=
  (ResourceKind.ofToken? type).isSome

/-- The local provider as a provider. -/
def provider (p : LocalProvider) : Provider := { supports, create := p.create }

end LocalProvider

end CloudPlan
