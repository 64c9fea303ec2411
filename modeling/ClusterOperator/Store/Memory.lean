import ClusterOperator.Store.Repository
import ClusterOperator.Text.Quoted

namespace ClusterOperator.Repository

/-- The stored object and the number of the last write. -/
structure Memory where
  stored : Option Configuration
  writes : UInt64
deriving DecidableEq, Repr

namespace Memory

instance : Inhabited Memory := ⟨⟨none, 0⟩⟩

def empty : Memory :=
  ⟨none, 0⟩

def store (m : Memory) (config : Configuration) : Except Failure Configuration × Memory :=
  let writes := m.writes + 1
  let stored := config.withVersion (toString writes.toNat)
  (.ok stored, ⟨some stored, writes⟩)

/-- The message about a version that is not the current one. -/
def staleMessage (seen current : Option String) : String :=
  "resourceVersion " ++ Text.quotedOption seen ++ " is stale, current is " ++
    Text.quotedOption current

def create (m : Memory) (config : Configuration) : Except Failure Configuration × Memory :=
  match m.stored with
  | some _ => (.error (.objectExists Configuration.kind config.metadata.anyName), m)
  | none => m.store config

/-- Replaces the object if the writer has seen its version. -/
def replace (m : Memory) (config : Configuration) : Except Failure Configuration × Memory :=
  match m.stored with
  | none => (.error (.noObject Configuration.kind config.metadata.anyName), m)
  | some current =>
      let seen := config.metadata.resourceVersion
      if current.metadata.resourceVersion ≠ seen then
        (.error (.conflict Configuration.kind config.metadata.anyName
          (staleMessage seen current.metadata.resourceVersion)), m)
      else m.store config

def answer : Handler interface Memory
  | .fetch, m => (.ok m.stored, m)
  | .create config, m => m.create config
  | .replace config, m => m.replace config

end Memory

end ClusterOperator.Repository
