import ClusterOperator.Cluster.Api
import ClusterOperator.Json.Place

namespace ClusterOperator.Cluster

open Json

/-- The statuses that refuse a request, with their names. -/
def refusals : List (Nat × String) :=
  [(400, "Bad Request"), (401, "Unauthorized"), (402, "Payment Required"), (403, "Forbidden"),
    (404, "Not Found"), (405, "Method Not Allowed"), (406, "Not Acceptable"),
    (407, "Proxy Authentication Required"), (408, "Request Timeout"), (409, "Conflict"),
    (410, "Gone"), (411, "Length Required"), (412, "Precondition Failed"),
    (413, "Payload Too Large"), (414, "URI Too Long"), (415, "Unsupported Media Type"),
    (416, "Range Not Satisfiable"), (417, "Expectation Failed"), (418, "I'm a teapot"),
    (421, "Misdirected Request"), (422, "Unprocessable Entity"), (423, "Locked"),
    (424, "Failed Dependency"), (425, "Too Early"), (426, "Upgrade Required"),
    (428, "Precondition Required"), (429, "Too Many Requests"),
    (431, "Request Header Fields Too Large"), (451, "Unavailable For Legal Reasons"),
    (500, "Internal Server Error"), (501, "Not Implemented"), (502, "Bad Gateway"),
    (503, "Service Unavailable"), (504, "Gateway Timeout"), (505, "HTTP Version Not Supported"),
    (506, "Variant Also Negotiates"), (507, "Insufficient Storage"), (508, "Loop Detected"),
    (510, "Not Extended"), (511, "Network Authentication Required")]

def statusText (code : Nat) : String :=
  toString code ++ " " ++ (refusals.lookup code).getD "<unknown status code>"

def decodeStatus : Decoder ApiStatus :=
  Decode.record "struct ErrorResponse" <|
    (fun status message reason (code : Int) => ⟨status, message, reason, code.toNat⟩) <$>
    Fields.required "status" Decode.text <*>
    Fields.text "message" <*>
    Fields.text "reason" <*>
    Fields.required "code" Decode.word16

namespace Response

def isRefusal (r : Response) : Bool :=
  400 ≤ r.status && r.status < 600

def source (r : Response) : List Text.Utf8.Symbol :=
  r.body.toList.map some

/-- What the API says about a refusal; a body that does not say it is quoted. -/
def refusal (r : Response) : ApiStatus :=
  match Decode.whole decodeStatus r.source with
  | .ok status => status
  | .error _ =>
      ⟨statusText r.status, Text.quoted r.body, "Failed to parse error data", r.status⟩

def object {α : Type} (decode : Decoder α) (r : Response) : Except Failure α :=
  if r.isRefusal then .error (.api r.refusal)
  else
    match Decode.whole decode r.source with
    | .ok a => .ok a
    | .error trouble =>
        match trouble.problem with
        | .panicked => .error .panicked
        | _ => .error (.misunderstood (trouble.report r.source))

end Response

/-- Sends a request, if it can be made, and reads the object in the answer. -/
def ask {α : Type} (decode : Decoder α) : Except Failure Request → Job α
  | .error failure => .done (.error failure)
  | .ok request => .call (Call.send request) fun response => .done (response.object decode)

/-- The object that was looked for, if there is one. -/
def ifFound {α : Type} : Except Failure α → Except Failure (Option α)
  | .ok a => .ok (some a)
  | .error (.api status) =>
      if status.reason = "NotFound" then .ok none else .error (.api status)
  | .error failure => .error failure

/-- A creation is no failure if the object is there. -/
def creationOf {α : Type} : Except Failure α → Except Failure Creation
  | .ok _ => .ok .created
  | .error failure => if failure.isAlreadyExists then .ok .alreadyExists else .error failure

end ClusterOperator.Cluster
