import ClusterOperator.Entry.Kind
import ClusterOperator.Metadata

/-!
The configuration object: four ordered collections of entries in one object of the cluster, of which
there is at most one.
-/

namespace ClusterOperator

open Json

/-- The four collections. -/
structure Collections where
  storages : List Storage
  backups : List Backup
  restores : List Restore
  schedules : List Schedule
deriving DecidableEq, Repr, Inhabited

namespace Collections

def empty : Collections :=
  ⟨[], [], [], []⟩

def entries (c : Collections) : (k : Kind) → List k.Entry
  | .storage => c.storages
  | .backup => c.backups
  | .restore => c.restores
  | .schedule => c.schedules

/-- The same collections but for that of one kind. -/
def withEntries (c : Collections) : (k : Kind) → List k.Entry → Collections
  | .storage, es => { c with storages := es }
  | .backup, es => { c with backups := es }
  | .restore, es => { c with restores := es }
  | .schedule, es => { c with schedules := es }

@[simp] theorem entries_withEntries (c : Collections) (k : Kind) (es : List k.Entry) :
    (c.withEntries k es).entries k = es := by
  cases k <;> rfl

theorem entries_withEntries_of_ne (c : Collections) {k j : Kind} (h : j ≠ k) (es : List k.Entry) :
    (c.withEntries k es).entries j = c.entries j := by
  cases k <;> cases j <;> first | rfl | exact absurd rfl h

@[simp] theorem withEntries_entries (c : Collections) (k : Kind) :
    c.withEntries k (c.entries k) = c := by
  cases k <;> rfl

/-- The stored form; an empty collection is left out. -/
def toJson (c : Collections) : Json :=
  .obj (nonemptyList "storageConfigs" (c.storages.map Storage.toJson) ++
    nonemptyList "backupConfigs" (c.backups.map Backup.toJson) ++
    nonemptyList "restoreConfigs" (c.restores.map Restore.toJson) ++
    nonemptyList "scheduleConfigs" (c.schedules.map Schedule.toJson))

def decode : Decoder Collections :=
  Decode.record "struct OperatorConfigSpec" <|
    Collections.mk <$>
    Fields.defaulted "storageConfigs" (Decode.list Storage.decode) [] <*>
    Fields.defaulted "backupConfigs" (Decode.list Backup.decode) [] <*>
    Fields.defaulted "restoreConfigs" (Decode.list Restore.decode) [] <*>
    Fields.defaulted "scheduleConfigs" (Decode.list Schedule.decode) []

end Collections

/-- The configuration object. -/
structure Configuration where
  metadata : Metadata
  collections : Collections
deriving DecidableEq, Repr, Inhabited

namespace Configuration

def apiVersion : String := "clustersync.kubesphere.io/v1"

def kind : String := "OperatorConfig"

/-- The name of the object unless the settings say otherwise. -/
def defaultName : String := "operatorconfig"

/-- The namespace of the object unless the settings say otherwise. -/
def defaultSpace : String := "default"

def empty (name space : String) : Configuration :=
  ⟨{ name := some name, space := some space }, .empty⟩

def toJson (c : Configuration) : Json :=
  .obj [("apiVersion", .str apiVersion), ("kind", .str kind), ("metadata", c.metadata.toJson),
    ("spec", c.collections.toJson)]

/-- Reads the object; its version and kind are not looked at. -/
def decode : Decoder Configuration :=
  Decode.record "struct OperatorConfig" <|
    Configuration.mk <$>
    Fields.required "metadata" (Metadata.decode 1) <*>
    Fields.required "spec" Collections.decode

def entries (c : Configuration) (k : Kind) : List k.Entry :=
  c.collections.entries k

/-- The same object but for the collection of one kind. -/
def withEntries (c : Configuration) (k : Kind) (es : List k.Entry) : Configuration :=
  { c with collections := c.collections.withEntries k es }

def withVersion (c : Configuration) (version : String) : Configuration :=
  { c with metadata := { c.metadata with resourceVersion := some version } }

end Configuration

end ClusterOperator
