import ClusterOperator.Store.Repository

namespace ClusterOperator.Repository

/-- The calls by name. -/
inductive Method where
  | fetch
  | create
  | replace
deriving DecidableEq, Repr

namespace Method

def name : Method → String
  | fetch => "fetch"
  | create => "create"
  | replace => "replace"

def ofName? (name : String) : Option Method :=
  [fetch, create, replace].find? (·.name = name)

end Method

def Call.method : Call → Method
  | .fetch => .fetch
  | .create _ => .create
  | .replace _ => .replace

/-- What happens before a call is made. -/
inductive Fault where
  /-- The call fails instead. -/
  | failure (failure : Failure)
  /-- Another writer writes the object as it is, or creates it without entries. -/
  | race
deriving DecidableEq, Repr

/-- A repository with the faults that its calls are to meet. -/
structure Faulty (σ : Type) where
  state : σ
  faults : FaultQueue Method Fault
  /-- The calls so far, last first. -/
  calls : List Method

def refuse (failure : Failure) : (c : Call) → Reply c
  | .fetch => .error failure
  | .create _ => .error failure
  | .replace _ => .error failure

namespace Faulty

variable {σ : Type}

/-- What another writer does: it writes the object with the version that it has, or creates it. -/
def overtake (inner : Handler interface σ) (name space : String) (s : σ) : σ :=
  match inner .fetch s with
  | (.ok (some current), s) => (inner (.replace current) s).2
  | (.ok none, s) => (inner (.create (.empty name space)) s).2
  | (.error _, s) => s

/-- Notes a call, lets the fault that waits for it happen, and answers it. -/
def answer (inner : Handler interface σ) (name space : String) : Handler interface (Faulty σ) :=
  fun c s =>
    let (fault, faults) := s.faults.take c.method
    let calls := c.method :: s.calls
    match fault with
    | some (.failure failure) => (refuse failure c, ⟨s.state, faults, calls⟩)
    | some .race =>
        let (reply, state) := inner c (overtake inner name space s.state)
        (reply, ⟨state, faults, calls⟩)
    | none =>
        let (reply, state) := inner c s.state
        (reply, ⟨state, faults, calls⟩)

end Faulty

end ClusterOperator.Repository
