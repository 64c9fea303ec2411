/-!
Programs that call a service.

A program is a tree: it is done with a result, or counts an event, or makes a call and goes on with
the answer. What the answers are is not part of it. `Program.run` takes them from a handler that
keeps a state; `Program.over` replaces every call by a program over another service.
-/

namespace ClusterOperator

/-- What the services do that is worth counting. -/
inductive Metric where
  /-- A request was answered: the kind of entry, the operation, the status. -/
  | request (title operation : String) (status : Nat)
  /-- A write was refused and is tried again. -/
  | retry
  /-- A disk was reconciled, with success or not. -/
  | reconcile (success : Bool)
deriving DecidableEq, Repr

/-- The calls of a service and the types of their answers. -/
structure Interface where
  Call : Type
  Reply : Call → Type

/-- A program over a service. -/
inductive Program (I : Interface) (α : Type) where
  | done (result : α)
  | count (metric : Metric) (next : Program I α)
  | call (c : I.Call) (next : I.Reply c → Program I α)

abbrev Handler (I : Interface) (σ : Type) := (c : I.Call) → σ → I.Reply c × σ

/-- What a run leaves: the result, the state of the service, and the events in order. -/
structure Outcome (σ α : Type) where
  result : α
  state : σ
  metrics : List Metric

namespace Program

variable {I J : Interface} {σ α β : Type}

def bind : Program I α → (α → Program I β) → Program I β
  | done a, f => f a
  | count m next, f => count m (next.bind f)
  | call c next, f => call c fun r => (next r).bind f

instance : Monad (Program I) where
  pure := done
  bind := bind

/-- One program after another unless the first one fails. -/
def andThen {ε : Type} (p : Program I (Except ε α)) (f : α → Program I (Except ε β)) :
    Program I (Except ε β) :=
  p.bind fun
    | .ok a => f a
    | .error e => done (.error e)

def run (handler : Handler I σ) : Program I α → σ → Outcome σ α
  | done a, s => ⟨a, s, []⟩
  | count m next, s =>
      let o := next.run handler s
      ⟨o.result, o.state, m :: o.metrics⟩
  | call c next, s =>
      let (reply, s) := handler c s
      (next reply).run handler s

/-- Replaces every call by a program over another service. -/
def «over» (translate : (c : I.Call) → Program J (I.Reply c)) : Program I α → Program J α
  | done a => done a
  | count m next => count m (next.«over» translate)
  | call c next => (translate c).bind fun r => (next r).«over» translate

end Program

/-- Faults, each with the name of the call that it waits for, in the order in which they happen. -/
abbrev FaultQueue (κ φ : Type) := List (κ × φ)

namespace FaultQueue

variable {κ φ : Type} [DecidableEq κ]

def take (name : κ) : FaultQueue κ φ → Option φ × FaultQueue κ φ
  | [] => (none, [])
  | (n, fault) :: rest =>
      if n = name then (some fault, rest)
      else
        let (found, rest) := take name rest
        (found, (n, fault) :: rest)

/-- Adds a fault a number of times behind those that wait. -/
def add (queue : FaultQueue κ φ) (name : κ) (fault : φ) (times : Nat) : FaultQueue κ φ :=
  queue ++ List.replicate times (name, fault)

end FaultQueue

/-- A handler whose service is itself a program over another one. The events of that program are not
counted. -/
def Handler.through {I J : Interface} {σ : Type}
    (translate : (c : I.Call) → Program J (I.Reply c)) (handler : Handler J σ) : Handler I σ :=
  fun c s =>
    let o := (translate c).run handler s
    (o.result, o.state)

namespace Metric

def outcome (success : Bool) : String :=
  if success then "success" else "error"

/-- The series that an event increments, each with its labels in order of their names. -/
def series : Metric → List (String × List (String × String))
  | request title operation status =>
      [("clustersync_api_requests_total",
        [("entity", title), ("operation", operation), ("status", toString status)])]
  | retry => [("clustersync_operatorconfig_conflict_retries_total", [])]
  | reconcile success =>
      [("clustersync_diskvolume_reconcile_duration_seconds_count",
          [("outcome", outcome success)]),
        ("clustersync_diskvolume_reconciles_total", [("outcome", outcome success)])]

end Metric

end ClusterOperator
