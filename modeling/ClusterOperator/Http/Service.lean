import ClusterOperator.Entry.View
import ClusterOperator.Http.MediaType
import ClusterOperator.Http.Message
import ClusterOperator.Http.Route
import ClusterOperator.Json.Place
import ClusterOperator.Request.Kind
import ClusterOperator.Store.Operations

/-!
The service: requests answered by operations of the store.

A request that creates or changes an entry is read, validated and carried out, in this order, and
the first step that fails decides the response. A response that breaks a rule gives the reason as
JSON, any other failure is plain text. Every answered request is counted once, with the status that
is sent. A request whose operation panics is not answered, and not counted.
-/

namespace ClusterOperator.Http

open Json
open Repository (interface Job)

/-- How the service works. -/
structure ServiceSettings where
  store : StoreSettings
  /-- The greatest length of a body in bytes. -/
  maxBody : Nat
deriving Repr, Inhabited

namespace ServiceSettings

/-- The greatest length of a body unless the settings say otherwise. -/
def defaultMaxBody : Nat := 2 * 1024 * 1024

/-- The settings of a service that is told nothing. -/
def default : ServiceSettings :=
  ⟨.default, defaultMaxBody⟩

end ServiceSettings

/-- The operations on entries, as metrics call them. -/
inductive Operation where
  | create
  | update
  | get
  | list
  | delete
deriving DecidableEq, Repr

def Operation.name : Operation → String
  | create => "create"
  | update => "update"
  | get => "get"
  | list => "list"
  | delete => "delete"

/-- What is done about a request. It ends with a response, unless it panics. -/
abbrev Handling := Program interface (Option Response)

/-- The text about a body that does not decode: whether it is no JSON or not of the wanted shape, the
path to the trouble, and what its reader reports. -/
def troubleText (source : List Text.Utf8.Symbol) (trouble : Trouble) : String :=
  (if trouble.problem.isGrammar then "Failed to parse the request body as JSON: "
    else "Failed to deserialize the JSON body into the target type: ") ++
  trouble.location ++ trouble.report source

/-- Decodes JSON text. What follows the first value is not looked at. Nothing that is read from a body
has a text whose reader panics. -/
def decodeBody {α : Type} (decode : Decoder α) (body : List UInt8) : Except Failure α :=
  let source := Text.Utf8.decode body
  match Decode.leading decode source with
  | .ok a => .ok a
  | .error trouble => .error (.undecodable (troubleText source trouble))

/-- Reads the body of a request: its type first, then its length, then its content. -/
def readBody {α : Type} (maxBody : Nat) (decode : Decoder α) (request : Request) :
    Except Failure α :=
  if !saysJson request.contentType then
    .error (.undecodable "Expected request with `Content-Type: application/json`")
  else if maxBody < request.body.length then
    .error (.undecodable "Failed to buffer the request body: length limit exceeded")
  else decodeBody decode request.body

def orInvalid {α : Type} : Except Violation α → Except Failure α
  | .ok a => .ok a
  | .error v => .error (.ofViolation v)

def readEntry [Cron.Library] (s : ServiceSettings) (k : Kind) (request : Request) :
    Except Failure k.Entry := do
  let asked ← readBody s.maxBody k.decodeRequest request
  orInvalid (k.validateRequest asked)
  orInvalid (k.entryOf asked)

def readPatch [Cron.Library] (s : ServiceSettings) (k : Kind) (request : Request) :
    Except Failure k.Patch := do
  let patch ← readBody s.maxBody k.decodePatch request
  orInvalid (k.validatePatch patch)
  return patch

/-- The body of a response to a request that failed. -/
def failureBody : Failure → Body
  | .invalid _ reason => .json (.obj [("reason", .str reason)])
  | other => .text other.message

/-- The status of a response to a request that failed. Only a look-up says that an entry is not
found. -/
def failureStatus (operation : Operation) (failure : Failure) : Nat :=
  match operation, failure with
  | .update, .noEntry _ _ => 500
  | _, _ => failure.httpStatus

/-- The response to an operation. There is none to one that panics. -/
def responseTo? (operation : Operation) : Except Failure Body → Option Response
  | .ok body => some (.of 200 body)
  | .error .panicked => none
  | .error failure => some (.of (failureStatus operation failure) (failureBody failure))

/-- Answers with the outcome of an operation, and counts it. -/
def respond (k : Kind) (operation : Operation) (job : Job Body) : Handling :=
  job.bind fun result =>
    match responseTo? operation result with
    | none => .done none
    | some response =>
        .count (.request k.title operation.name response.status) (.done (some response))

def showing {α : Type} (body : α → Body) (job : Job α) : Job Body :=
  job.andThen fun a => .done (.ok (body a))

/-- An operation on what has been read, if it could be read. -/
def ifRead {α β : Type} (read : Except Failure α) (job : α → Job β) : Job β :=
  match read with
  | .ok a => job a
  | .error failure => .done (.error failure)

def createEntry [Cron.Library] (s : ServiceSettings) (k : Kind) (request : Request) : Handling :=
  respond k .create <|
    ifRead (readEntry s k request) fun entry =>
      showing (fun name => .json (k.nameJson name)) (Store.create s.store k entry)

def updateEntry [Cron.Library] (s : ServiceSettings) (k : Kind) (name : String)
    (request : Request) : Handling :=
  respond k .update <|
    ifRead (readPatch s k request) fun patch =>
      showing (fun entry => .json (k.viewJson entry)) (Store.update s.store k name (k.change patch))

def getEntry (k : Kind) (name : String) : Handling :=
  respond k .get <| showing (fun entry => .json (k.viewJson entry)) (Store.get k name)

def listEntries (k : Kind) : Handling :=
  respond k .list <| showing (fun entries => .json (k.listJson entries)) (Store.list k)

def deleteEntry (s : ServiceSettings) (k : Kind) (name : String) : Handling :=
  respond k .delete <| showing (fun () => .empty) (Store.delete s.store k name)

/-- Whether the service is ready: its repository answers. -/
def readiness : Handling :=
  Store.isReachable.bind fun
    | .ok true => .done (some (.of 200 (.text "ready")))
    | .ok false => .done (some (.of 503 (.text "OperatorConfig store unreachable")))
    | .error _ => .done none

def notFound : Response := .of 404 .empty

def methodNotAllowed : Response := .of 405 .empty

def badName : Response := .of 400 (.text "Invalid URL: Invalid UTF-8 in `name`")

def serveCollection [Cron.Library] (s : ServiceSettings) (k : Kind) (method : String)
    (request : Request) : Handling :=
  if method = "POST" then createEntry s k request
  else if method = "GET" then listEntries k
  else .done (some methodNotAllowed)

def serveEntry [Cron.Library] (s : ServiceSettings) (k : Kind) (segment : List UInt8)
    (method : String) (request : Request) : Handling :=
  let named := fun (answer : String → Handling) =>
    match segmentText? segment with
    | some name => answer name
    | none => .done (some badName)
  if method = "PUT" then named fun name => updateEntry s k name request
  else if method = "GET" then named fun name => getEntry k name
  else if method = "DELETE" then named fun name => deleteEntry s k name
  else .done (some methodNotAllowed)

def serveMethod [Cron.Library] (s : ServiceSettings) (method : String) (request : Request) :
    Handling :=
  match resource? request.path with
  | none => .done (some notFound)
  | some (.collection k) => serveCollection s k method request
  | some (.entry k segment) => serveEntry s k segment method request
  | some .health =>
      if method = "GET" then .done (some (.of 200 (.text "ok"))) else .done (some methodNotAllowed)
  | some .ready => if method = "GET" then readiness else .done (some methodNotAllowed)

/-- Answers a request. The head of a resource is what getting it answers, without the body. -/
def serve [Cron.Library] (s : ServiceSettings) (request : Request) : Handling :=
  if request.method = "HEAD" then
    (serveMethod s "GET" request).bind fun response => .done (response.map Response.headOnly)
  else serveMethod s request.method request

end ClusterOperator.Http
