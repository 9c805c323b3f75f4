import CloudPlan.Entries

/-!
# Kinds of resources

The kinds of resources that lowering makes, and the token that names each to a provider.
-/

set_option autoImplicit false

namespace CloudPlan

/-- A kind of resources. -/
inductive ResourceKind where
  | role
  | policy
  | rolePolicyAttachment
  | policyAttachment
  | function
  | eventSourceMapping
  | permission
  | queue
  | parameter
  | securityGroupRule
  | table
  | bucket
  | bucketVersioning
  | api
  | stage
  | integration
  | route
  | topic
deriving DecidableEq, Repr

namespace ResourceKind

/-- The token of a kind. -/
def token : ResourceKind → String
  | .role => "aws:iam/role:Role"
  | .policy => "aws:iam/policy:Policy"
  | .rolePolicyAttachment => "aws:iam/rolePolicyAttachment:RolePolicyAttachment"
  | .policyAttachment => "aws:iam/policyAttachment:PolicyAttachment"
  | .function => "aws:lambda/function:Function"
  | .eventSourceMapping => "aws:lambda/eventSourceMapping:EventSourceMapping"
  | .permission => "aws:lambda/permission:Permission"
  | .queue => "aws:sqs/queue:Queue"
  | .parameter => "aws:ssm/parameter:Parameter"
  | .securityGroupRule => "aws:ec2/securityGroupRule:SecurityGroupRule"
  | .table => "aws:dynamodb/table:Table"
  | .bucket => "aws:s3/bucketV2:BucketV2"
  | .bucketVersioning => "aws:s3/bucketVersioningV2:BucketVersioningV2"
  | .api => "aws:apigatewayv2/api:Api"
  | .stage => "aws:apigatewayv2/stage:Stage"
  | .integration => "aws:apigatewayv2/integration:Integration"
  | .route => "aws:apigatewayv2/route:Route"
  | .topic => "aws:sns/topic:Topic"

/-- Every kind. -/
def all : List ResourceKind :=
  [.role, .policy, .rolePolicyAttachment, .policyAttachment, .function, .eventSourceMapping,
   .permission, .queue, .parameter, .securityGroupRule, .table, .bucket, .bucketVersioning, .api,
   .stage, .integration, .route, .topic]

/-- The kind that a token names. -/
def ofToken? (token : String) : Option ResourceKind :=
  all.find? fun kind => kind.token == token

/-- The stack outputs of a kind: the suffix of the key and the field that is shown. -/
def outputFields : ResourceKind → Entries String
  | .function => [("arn", "arn")]
  | .queue => [("url", "url"), ("arn", "arn")]
  | .api => [("id", "id"), ("url", "apiEndpoint")]
  | .table => [("name", "name"), ("arn", "arn")]
  | .bucket => [("name", "bucket"), ("arn", "arn")]
  | .topic => [("arn", "arn")]
  | .role => [("arn", "arn")]
  | _ => []

/-- The stack outputs of a type; one that is not of a known kind has none. -/
def outputFieldsOf (type : String) : Entries String :=
  match ofToken? type with
  | some kind => kind.outputFields
  | none => []

end ResourceKind

end CloudPlan
