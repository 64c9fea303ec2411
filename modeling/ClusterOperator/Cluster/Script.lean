import ClusterOperator.Cluster.Recorder

namespace ClusterOperator.Cluster

/-- One answer of a script. -/
inductive ScriptedAnswer where
  /-- The body of the request is sent back. -/
  | echo (status : Nat)
  | body (status : Nat) (text : String)
  /-- A refusal that says why. -/
  | refusal (status : Nat) (message reason : String)
deriving DecidableEq, Repr

namespace ScriptedAnswer

def refusalJson (status : Nat) (message reason : String) : Json :=
  .obj [("kind", .str "Status"), ("apiVersion", .str "v1"), ("status", .str "Failure"),
    ("message", .str message), ("reason", .str reason), ("code", .int status)]

def respond (request : Request) : ScriptedAnswer → Response
  | echo status => ⟨status, (request.body.map Json.render).getD ""⟩
  | body status text => ⟨status, text⟩
  | refusal status message reason => ⟨status, (refusalJson status message reason).render⟩

end ScriptedAnswer

/-- An API that answers from a script. -/
structure Script where
  answers : List ScriptedAnswer
  recorder : Recorder
  /-- Whether events are refused. -/
  refusesEvents : Bool
  /-- The requests so far, last first. -/
  log : List Request
deriving Inhabited

namespace Script

def empty : Script :=
  ⟨[], [], false, []⟩

def exhausted : ScriptedAnswer :=
  .refusal 500 "script exhausted" "InternalError"

def respond (request : Request) (s : Script) : Response × Script :=
  let s := { s with log := request :: s.log }
  match s.answers with
  | [] => (exhausted.respond request, s)
  | first :: rest => (first.respond request, { s with answers := rest })

/-- Publishes a notice, if the request for it can be made, and remembers the event unless it is
refused. Events take no answer from the script. -/
def publish (disk : DiskVolume) (notice : Notice) (s : Script) : Script :=
  let event := s.recorder.event disk notice
  match event.request with
  | .error _ => s
  | .ok request =>
      let s := { s with log := request :: s.log }
      if s.refusesEvents then s else { s with recorder := s.recorder.remember event }

def answer : Handler interface Script
  | .send request, s => s.respond request
  | .publish disk notice, s => ((), s.publish disk notice)

end Script

end ClusterOperator.Cluster
