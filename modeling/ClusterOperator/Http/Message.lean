import ClusterOperator.Json.Value

namespace ClusterOperator.Http

/-- A request. -/
structure Request where
  method : String
  /-- The path as sent, with its escapes. -/
  path : List UInt8
  /-- The header that names the type of the body. -/
  contentType : Option String
  body : List UInt8
deriving Repr, Inhabited

/-- The body of a response. -/
inductive Body where
  | empty
  | text (content : String)
  | json (content : Json)
deriving Repr, Inhabited

namespace Body

def contentType : Body → Option String
  | empty => none
  | text _ => some "text/plain; charset=utf-8"
  | json _ => some "application/json"

end Body

/-- A response. -/
structure Response where
  status : Nat
  contentType : Option String
  body : Body
deriving Repr, Inhabited

namespace Response

/-- A response whose header names the type of its body. -/
def of (status : Nat) (body : Body) : Response :=
  ⟨status, body.contentType, body⟩

def headOnly (r : Response) : Response :=
  { r with body := .empty }

end Response

end ClusterOperator.Http
