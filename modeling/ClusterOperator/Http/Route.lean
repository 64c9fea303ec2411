import ClusterOperator.Entry.Kind
import ClusterOperator.Http.Target

namespace ClusterOperator

/-- What the collection of a kind is called in paths. -/
def Kind.plural : Kind → String
  | storage => "storageconfigs"
  | backup => "backupconfigs"
  | restore => "restoreconfigs"
  | schedule => "scheduleconfigs"

namespace Http

/-- What can be asked for. The name of an entry is still escaped. -/
inductive Resource where
  | collection (kind : Kind)
  | entry (kind : Kind) (segment : List UInt8)
  | health
  | ready
deriving DecidableEq, Repr

/-- The front of the paths of collections and entries. -/
def basePath : String := "/apis/clustersync.kubesphere.io/v1"

def stripped? (front : String) (path : List UInt8) : Option (List UInt8) :=
  let bytes := Text.Utf8.encode front
  if bytes.isPrefixOf path then some (path.drop bytes.length) else none

/-- The collection of a kind or an entry in it, if the rest of a path names one. -/
def resourceOf? (k : Kind) (rest : List UInt8) : Option Resource :=
  match stripped? ("/" ++ k.plural) rest with
  | some [] => some (.collection k)
  | some (c :: segment) =>
      if c = slash ∧ !segment.isEmpty ∧ !segment.contains slash then some (.entry k segment)
      else none
  | none => none

def resource? (path : List UInt8) : Option Resource :=
  if path = Text.Utf8.encode "/health" then some .health
  else if path = Text.Utf8.encode "/ready" then some .ready
  else
    (stripped? basePath path).bind fun rest =>
      [Kind.storage, .backup, .restore, .schedule].findSome? (resourceOf? · rest)

end Http

end ClusterOperator
