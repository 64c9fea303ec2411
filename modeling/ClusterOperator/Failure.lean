import ClusterOperator.Duration.Basic
import ClusterOperator.Http.Target
import ClusterOperator.Text.Quoted
import ClusterOperator.Validation.Violation

namespace ClusterOperator

/-- What an API server says about a request that it refuses. -/
structure ApiStatus where
  status : String
  message : String
  reason : String
  code : Nat
deriving DecidableEq, Repr, Inhabited

/-- Why a request to an API server cannot be made. -/
inductive RequestError where
  /-- The request is about an object whose name is empty. -/
  | nameless
  | address (reason : Http.Malformed)
deriving DecidableEq, Repr

def RequestError.message : RequestError → String
  | nameless => "failed to validate request: A non-empty name is required"
  | address reason => "failed to build request: " ++ reason.message

/-- Why an operation failed. -/
inductive Failure where
  | internal (detail : String)
  | configuration (detail : String)
  /-- A request breaks a rule. -/
  | invalid (severity : Severity) (reason : String)
  /-- The body of a request cannot be read. -/
  | undecodable (text : String)
  /-- The name of a new entry is taken. -/
  | duplicated (title name : String)
  /-- The configuration object does not exist. -/
  | noConfiguration
  | noEntry (title name : String)
  /-- An object was written with a version that is not the current one. -/
  | conflict (kind name message : String)
  /-- An API server refused a request. -/
  | api (status : ApiStatus)
  /-- A request to an API server was not made. -/
  | unsent (reason : RequestError)
  /-- The answer of an API server was not understood. -/
  | misunderstood (detail : String)
  | noObject (kind name : String)
  | objectExists (kind name : String)
  /-- No storage class is the default one. -/
  | noDefaultClass
  | duration (detail : String)
  | json (detail : String)
  | yaml (detail : String)
  /-- The operation panics: it gives back nothing, and its caller does not go on. -/
  | panicked
deriving DecidableEq, Repr

/-- When an operation that failed is tried again. -/
inductive Recovery where
  | withBackoff
  | after (delay : Duration)
  /-- Not before something changes. -/
  | never
deriving DecidableEq, Repr

namespace ApiStatus

def describe (s : ApiStatus) : String :=
  "ApiError: " ++ s.message ++ ": " ++ s.reason ++
    " (ErrorResponse \x7b status: " ++ Text.quoted s.status ++
    ", message: " ++ Text.quoted s.message ++
    ", reason: " ++ Text.quoted s.reason ++
    ", code: " ++ toString s.code ++ " \x7d)"

end ApiStatus

namespace Failure

def ofViolation : Violation → Failure
  | .panicked => .panicked
  | v => .invalid v.severity v.reason

/-- The wording of a failure; for a panic, what the panic says. -/
def message : Failure → String
  | internal detail => "Internal error: " ++ detail
  | configuration detail => "Configuration error: " ++ detail
  | invalid _ reason => reason
  | undecodable text => text
  | duplicated title name => title ++ " \"" ++ name ++ "\" duplicated"
  | noConfiguration => "OperatorConfig is not created"
  | noEntry title name => title ++ " \"" ++ name ++ "\" is not created"
  | conflict kind name message => "Conflict writing " ++ kind ++ "/" ++ name ++ ": " ++ message
  | api status => "Kubernetes API error: " ++ status.describe
  | unsent reason => "Kubernetes API error: Failed to build request: " ++ reason.message
  | misunderstood detail =>
      "Kubernetes API error: Error deserializing response: " ++ detail
  | noObject kind name => "Resource not found: " ++ kind ++ "/" ++ name
  | objectExists kind name => "Resource already exists: " ++ kind ++ "/" ++ name
  | noDefaultClass => "No default StorageClass found in cluster"
  | duration detail => "Duration parse error: " ++ detail
  | json detail => "JSON parse error: " ++ detail
  | yaml detail => "YAML error: " ++ detail
  | panicked => "attempt to add with overflow"

/-- What is done about a failure. What the user has to put right is not tried again. -/
def recovery : Failure → Recovery
  | noDefaultClass => .after (.ofMillis 60000)
  | configuration _ => .never
  | invalid _ _ => .never
  | undecodable _ => .never
  | duration _ => .never
  | _ => .withBackoff

/-- Whether the operation is tried again by itself. -/
def isRetryable (f : Failure) : Bool :=
  f.recovery ≠ .never

/-- Whether a write was refused because of its version. -/
def isConflict : Failure → Bool
  | conflict _ _ _ => true
  | api s => s.code = 409 ∧ s.reason = "Conflict"
  | _ => false

/-- Whether a creation was refused because the object is there. -/
def isAlreadyExists : Failure → Bool
  | objectExists _ _ => true
  | api s => s.reason = "AlreadyExists"
  | _ => false

def isNotFound : Failure → Bool
  | noEntry _ _ => true
  | noObject _ _ => true
  | api s => s.code = 404
  | _ => false

/-- The status of the response to a request that failed. -/
def httpStatus : Failure → Nat
  | invalid .semantic _ => 400
  | invalid .length _ => 403
  | noEntry _ _ => 404
  | _ => 500

end Failure

end ClusterOperator
