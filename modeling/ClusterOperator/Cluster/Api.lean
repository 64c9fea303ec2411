import ClusterOperator.Disk.Backend

namespace ClusterOperator.Cluster

/-- A request to the API. -/
structure Request where
  method : String
  target : Http.Target
  contentType : Option String
  body : Option Json
deriving Repr, Inhabited

/-- The answer to a request: its status and the text of its body. -/
structure Response where
  status : Nat
  body : String
deriving Repr, Inhabited

/-- What can be asked of the API. -/
inductive Call where
  | send (request : Request)
  | publish (disk : DiskVolume) (notice : Notice)

/-- The answers. A notice has none, whatever becomes of it. -/
@[reducible] def Reply : Call → Type
  | .send _ => Response
  | .publish _ _ => Unit

@[reducible] def interface : Interface := ⟨Call, Reply⟩

abbrev Job (α : Type) := Program interface (Except Failure α)

/-- The address of a collection of objects in a namespace. -/
def collectionAddress (group space plural : String) : String :=
  group ++ "/namespaces/" ++ space ++ "/" ++ plural

/-- The address of an object in a collection. An object without a name has none. -/
def objectAddress (collection name : String) : Except Failure String :=
  if name = "" then .error (.unsent .nameless) else .ok (collection ++ "/" ++ name)

namespace Request

def of (method address : String) (contentType : Option String) (body : Option Json) :
    Except Failure Request :=
  match Http.Target.parse address with
  | .ok target => .ok ⟨method, target, contentType, body⟩
  | .error reason => .error (.unsent (.address reason))

def list (collection : String) : Except Failure Request :=
  of "GET" (collection ++ "?") none none

def get (collection name : String) : Except Failure Request := do
  let address ← objectAddress collection name
  of "GET" address none none

def post (collection : String) (body : Json) : Except Failure Request :=
  of "POST" (collection ++ "?") (some "application/json") (some body)

/-- A request to replace an object of a collection. -/
def put (collection name : String) (body : Json) : Except Failure Request := do
  let address ← objectAddress collection name
  of "PUT" (address ++ "?") (some "application/json") (some body)

/-- A request to merge changes into a part of an object of a collection. -/
def merge (collection name part : String) (body : Json) : Except Failure Request := do
  let address ← objectAddress collection name
  of "PATCH" (address ++ part ++ "?") (some "application/merge-patch+json") (some body)

end Request

end ClusterOperator.Cluster
