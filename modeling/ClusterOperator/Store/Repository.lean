import ClusterOperator.Entry.Configuration
import ClusterOperator.Failure
import ClusterOperator.Program

/-!
Where the configuration object is kept.

A repository fetches, creates and replaces the one object. A replacement carries the version that
its writer has seen; the repository refuses it unless that is the current one.
-/

namespace ClusterOperator.Repository

/-- What can be asked of a repository. -/
inductive Call where
  | fetch
  | create (config : Configuration)
  | replace (config : Configuration)

@[reducible] def Reply : Call → Type
  | .fetch => Except Failure (Option Configuration)
  | .create _ => Except Failure Configuration
  | .replace _ => Except Failure Configuration

@[reducible] def interface : Interface := ⟨Call, Reply⟩

abbrev Job (α : Type) := Program interface (Except Failure α)

def fetch : Job (Option Configuration) :=
  .call Call.fetch .done

def create (config : Configuration) : Job Configuration :=
  .call (Call.create config) .done

def replace (config : Configuration) : Job Configuration :=
  .call (Call.replace config) .done

/-- Writes an object: creates it if there was none before, else replaces it. -/
def put (current : Option Configuration) (config : Configuration) : Job Configuration :=
  match current with
  | none => create config
  | some _ => replace config

end ClusterOperator.Repository
