import CloudPlan.Deploy.Failure
import CloudPlan.Json.Record
import CloudPlan.Text.Pattern

/-!
# Classified failures

Failures are classified by the wording of their message: the first rule whose pattern occurs in it
applies, and a message that no rule knows counts as a dependency that is unavailable for now. A bare
value is not looked at.
-/

set_option autoImplicit false

namespace CloudPlan

/-- What a failure is about. -/
inductive ErrorCategory where
  | credentials
  | stackConflict
  | timeout
  | toolRuntime
  | unknown
deriving DecidableEq, Repr

namespace ErrorCategory

/-- The name of a category. -/
def name : ErrorCategory → String
  | .credentials => "aws-credentials"
  | .stackConflict => "stack-conflict"
  | .timeout => "timeout"
  | .toolRuntime => "pulumi-runtime"
  | .unknown => "unknown"

/-- Every category under its name. -/
def all : Entries ErrorCategory :=
  [.credentials, .stackConflict, .timeout, .toolRuntime, .unknown].map fun c => (c.name, c)

end ErrorCategory

/-- The code of a failure. -/
inductive ErrorCode where
  | credentials
  | stackConflict
  | timeout
  | rateLimited
  | toolRuntime
  | unknown
deriving DecidableEq, Repr

namespace ErrorCode

/-- The name of a code. -/
def name : ErrorCode → String
  | .credentials => "AWS_CREDENTIALS"
  | .stackConflict => "STACK_CONFLICT"
  | .timeout => "TIMEOUT"
  | .rateLimited => "RATE_LIMITED"
  | .toolRuntime => "PULUMI_RUNTIME"
  | .unknown => "UNKNOWN"

/-- Every code under its name. -/
def all : Entries ErrorCode :=
  [.credentials, .stackConflict, .timeout, .rateLimited, .toolRuntime, .unknown].map fun c =>
    (c.name, c)

end ErrorCode

/-- Why another attempt may succeed. -/
inductive RetriableReason where
  | upstreamTimeout
  | rateLimit
  | dependencyUnavailable
deriving DecidableEq, Repr

namespace RetriableReason

/-- The name of a reason. -/
def name : RetriableReason → String
  | .upstreamTimeout => "upstream_timeout"
  | .rateLimit => "rate_limit"
  | .dependencyUnavailable => "dependency_unavailable"

/-- Every reason under its name. -/
def all : Entries RetriableReason :=
  [.upstreamTimeout, .rateLimit, .dependencyUnavailable].map fun r => (r.name, r)

end RetriableReason

/-- A failure with its classification. -/
structure ClassifiedError where
  code : ErrorCode
  category : ErrorCategory
  retryable : Bool
  reason : Option RetriableReason
  message : String
  details : Option String
deriving DecidableEq, Repr

namespace ClassifiedError

/-- The record type of classified failures. -/
def type : RecordType :=
  ⟨"struct ClassifiedError",
    ["code", "category", "retryable", "retriableReason", "message", "original"]⟩

/-- A classified failure from JSON, whose names may be written as `Json.choice` allows. -/
def decodeWith (relaxed : Bool) : Decoder ClassifiedError :=
  Json.record type fun r =>
    mk <$> r.required "code" (Json.choice ErrorCode.all relaxed)
      <*> r.required "category" (Json.choice ErrorCategory.all relaxed)
      <*> r.required "retryable" Json.truth
      <*> r.optional "retriableReason" (Json.choice RetriableReason.all relaxed)
      <*> r.required "message" Json.text <*> r.optional "original" Json.text

/-- A classified failure from JSON. -/
def decode : Decoder ClassifiedError := decodeWith false

/-- An entry that is left out when there is no value. -/
def entry? (key : String) (value : Option Json) : Entries Json :=
  (value.map fun j => (key, j)).toList

/-- A classified failure as JSON. -/
def json (e : ClassifiedError) : Json :=
  .object ([("code", .string e.code.name), ("category", .string e.category.name),
    ("retryable", .bool e.retryable)] ++
    entry? "retriableReason" (e.reason.map fun r => .string r.name) ++
    [("message", .string e.message)] ++ entry? "original" (e.details.map .string))

end ClassifiedError

/-- A rule: the messages that it applies to and what it says of them. -/
structure ClassificationRule where
  pattern : Text.Pattern
  code : ErrorCode
  category : ErrorCategory
  retryable : Bool
  reason : Option RetriableReason

namespace ClassificationRule

open Text.Pattern

/-- Messages about credentials. -/
def credentials : ClassificationRule where
  pattern := oneOf
    [text "expiredtoken",
     inOrder [text "token ", optional (text "has "), text "expired"],
     inOrder [text "security token included in the request is ",
       oneOf [text "invalid", text "expired"]],
     text "invalidclienttokenid", text "unrecognizedclient", text "no valid credential",
     text "unable to locate credentials", text "could not load credentials",
     inOrder [text "credential", optional (char 's'), char ' ',
       optional (oneOf [text "are ", text "is "]),
       oneOf [text "missing", text "invalid", text "expired"]]]
  code := .credentials
  category := .credentials
  retryable := false
  reason := none

/-- Messages about a stack that is being updated. -/
def stackConflict : ClassificationRule where
  pattern := oneOf
    [text "conflict", text "already being updated", text "currently being updated",
     inOrder [text "another update is ", optional (text "currently "), text "in progress"],
     text "concurrent update", text "stack is locked"]
  code := .stackConflict
  category := .stackConflict
  retryable := false
  reason := none

/-- Messages about time that has run out. -/
def timeout : ClassificationRule where
  pattern := oneOf [text "timed out", text "timeout", text "etimedout"]
  code := .timeout
  category := .timeout
  retryable := true
  reason := some .upstreamTimeout

/-- Messages about too many requests. -/
def rateLimited : ClassificationRule where
  pattern := oneOf
    [inOrder [text "rate", optional any, text "limit"], text "throttl", text "too many requests",
     inOrder [boundary, text "429", boundary],
     inOrder [text "slow", optional (char ' '), text "down"]]
  code := .rateLimited
  category := .unknown
  retryable := true
  reason := some .rateLimit

/-- Messages about the deployment tool and its plugins. -/
def toolRuntime : ClassificationRule where
  pattern := oneOf
    [text "pulumi", text "plugin",
     inOrder [text "language ", oneOf [text "host", text "runtime"]],
     text "resource monitor", text "failed to load"]
  code := .toolRuntime
  category := .toolRuntime
  retryable := false
  reason := none

/-- Messages that no other rule knows. -/
def unmatched : ClassificationRule where
  pattern := .empty
  code := .unknown
  category := .unknown
  retryable := true
  reason := some .dependencyUnavailable

/-- The rules in the order in which they are tried. -/
def all : List ClassificationRule :=
  [credentials, stackConflict, timeout, rateLimited, toolRuntime]

/-- The rule that applies to a message. -/
def select (message : String) : ClassificationRule :=
  (all.find? fun rule => rule.pattern.occursIn message).getD unmatched

end ClassificationRule

/-- The classification of a failure. -/
def StackError.classify : StackError → ClassifiedError
  | .value text => ⟨.unknown, .unknown, false, none, text, none⟩
  | e =>
    let rule := ClassificationRule.select e.message
    ⟨rule.code, rule.category, rule.retryable, rule.reason, e.message, some e.details⟩

end CloudPlan
