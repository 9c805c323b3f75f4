import CloudPlan.Entries
import CloudPlan.Intent.Basic

/-!
# Platforms

A node of the graph names the platform that it runs on. Each platform has a primary resource, whose
name ends in the platform's suffix, and a field that a reference without a field means. Access to a
platform is granted by provider actions.
-/

set_option autoImplicit false

namespace CloudPlan

/-- A platform that nodes can run on. -/
inductive Platform where
  | computeFunction
  | queue
  | keyValueTable
  | objectStore
  | httpGateway
  | pubsubTopic
deriving DecidableEq, Repr

namespace Platform

/-- The name of a platform. -/
def name : Platform → String
  | .computeFunction => "compute-function"
  | .queue => "queue"
  | .keyValueTable => "key-value-table"
  | .objectStore => "object-store"
  | .httpGateway => "http-gateway"
  | .pubsubTopic => "pubsub-topic"

/-- Every platform. -/
def all : List Platform :=
  [.computeFunction, .queue, .keyValueTable, .objectStore, .httpGateway, .pubsubTopic]

/-- The platform of a name. -/
def ofName? (name : String) : Option Platform :=
  all.find? fun p => p.name == name

/-- The last part of the name of a primary resource. -/
def suffix : Platform → String
  | .computeFunction => "function"
  | .queue => "queue"
  | .keyValueTable => "table"
  | .objectStore => "bucket"
  | .httpGateway => "api"
  | .pubsubTopic => "topic"

/-- The field that a reference without a field means. -/
def defaultField : Platform → String
  | .computeFunction => "arn"
  | .queue => "url"
  | .keyValueTable => "name"
  | .objectStore => "bucket"
  | .httpGateway => "apiEndpoint"
  | .pubsubTopic => "arn"

/-- The field that identifies a primary resource in policies. -/
def arnField : Platform → String
  | .httpGateway => "executionArn"
  | _ => "arn"

/-- The provider actions that a level of access takes. -/
def actions : Platform → AccessLevel → List String
  | .queue, .read => ["sqs:ReceiveMessage", "sqs:DeleteMessage", "sqs:GetQueueAttributes"]
  | .queue, .write => ["sqs:SendMessage", "sqs:GetQueueAttributes"]
  | .queue, .admin => ["sqs:*"]
  | .keyValueTable, .read =>
    ["dynamodb:GetItem", "dynamodb:Query", "dynamodb:Scan", "dynamodb:BatchGetItem",
     "dynamodb:DescribeTable"]
  | .keyValueTable, .write =>
    ["dynamodb:PutItem", "dynamodb:UpdateItem", "dynamodb:DeleteItem", "dynamodb:BatchWriteItem",
     "dynamodb:DescribeTable"]
  | .keyValueTable, .admin => ["dynamodb:*"]
  | .objectStore, .read => ["s3:GetObject", "s3:ListBucket"]
  | .objectStore, .write => ["s3:PutObject", "s3:DeleteObject", "s3:ListBucket"]
  | .objectStore, .admin => ["s3:*"]
  | .pubsubTopic, .read => ["sns:GetTopicAttributes"]
  | .pubsubTopic, .write => ["sns:Publish", "sns:GetTopicAttributes"]
  | .pubsubTopic, .admin => ["sns:*"]
  | .computeFunction, .read => ["lambda:GetFunction"]
  | .computeFunction, .write => ["lambda:InvokeFunction"]
  | .computeFunction, .admin => ["lambda:*"]
  | .httpGateway, .read => ["execute-api:Invoke"]
  | .httpGateway, .write => ["execute-api:Invoke"]
  | .httpGateway, .admin => ["execute-api:*"]

/-- The name of the primary resource of a node with the given short name. -/
def resourceName (p : Platform) (short : String) : String :=
  short ++ "-" ++ p.suffix

end Platform

end CloudPlan
