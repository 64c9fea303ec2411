import ClusterOperator.Entry.Kind

/-!
Entries as clients see them: nothing is missing. An absent list is empty, an unset truth value is
false, and a lifetime is its canonical text. Only a port may be absent.
-/

namespace ClusterOperator

open Json

/-- A storage location as seen. -/
structure StorageView where
  name : String
  provider : String
  bucket : String
  root : String
  region : String
  ip : String
  port : Option Int32
  accessKey : String
  secretKey : String
  isDefault : Bool
deriving DecidableEq, Repr, Inhabited

/-- The terms of a backup as seen. -/
structure BackupTermsView where
  includedNamespaces : List String
  excludedNamespaces : List String
  ttl : String
  storageLocation : String
  defaultVolumesToFsBackup : Bool
  volumeSnapshotLocations : List String
  snapshotMoveData : Bool
deriving DecidableEq, Repr, Inhabited

/-- A backup as seen. Its terms stand beside its name. -/
structure BackupView where
  name : String
  isOneTime : Bool
  terms : BackupTermsView
deriving DecidableEq, Repr, Inhabited

/-- A restore as seen. -/
structure RestoreView where
  name : String
  backupName : String
  includedNamespaces : List String
  excludedNamespaces : List String
deriving DecidableEq, Repr, Inhabited

/-- A schedule as seen. -/
structure ScheduleView where
  name : String
  schedule : String
  paused : Bool
  template : BackupTermsView
deriving DecidableEq, Repr, Inhabited

def requiredNames (key : String) : Fields (List String) :=
  Fields.required key (Decode.list Decode.text)

namespace StorageView

def toJson (v : StorageView) : Json :=
  .obj ([("storageName", .str v.name), ("provider", .str v.provider), ("bucket", .str v.bucket),
      ("prefix", .str v.root), ("region", .str v.region), ("ip", .str v.ip)] ++
    member? "port" (v.port.map fun n => .int n.toInt) ++
    [("accessKey", .str v.accessKey), ("secretKey", .str v.secretKey),
      ("isDefault", .bool v.isDefault)])

def decode : Decoder StorageView :=
  Decode.record "struct StorageResponse" <|
    StorageView.mk <$>
    Fields.required "storageName" Decode.text <*>
    Fields.required "provider" Decode.text <*>
    Fields.required "bucket" Decode.text <*>
    Fields.required "prefix" Decode.text <*>
    Fields.required "region" Decode.text <*>
    Fields.required "ip" Decode.text <*>
    Fields.nullable "port" portNumber <*>
    Fields.required "accessKey" Decode.text <*>
    Fields.required "secretKey" Decode.text <*>
    Fields.required "isDefault" Decode.flag

end StorageView

namespace BackupTermsView

def members (v : BackupTermsView) : List (String × Json) :=
  [("includedNamespaces", strs v.includedNamespaces),
    ("excludedNamespaces", strs v.excludedNamespaces),
    ("ttl", .str v.ttl),
    ("storageLocation", .str v.storageLocation),
    ("defaultVolumesToFsBackup", .bool v.defaultVolumesToFsBackup),
    ("volumeSnapshotLocations", strs v.volumeSnapshotLocations),
    ("snapshotMoveData", .bool v.snapshotMoveData)]

def toJson (v : BackupTermsView) : Json :=
  .obj v.members

def fields : Fields BackupTermsView :=
  BackupTermsView.mk <$>
  requiredNames "includedNamespaces" <*>
  requiredNames "excludedNamespaces" <*>
  Fields.required "ttl" Decode.text <*>
  Fields.required "storageLocation" Decode.text <*>
  Fields.required "defaultVolumesToFsBackup" Decode.flag <*>
  requiredNames "volumeSnapshotLocations" <*>
  Fields.required "snapshotMoveData" Decode.flag

def decode : Decoder BackupTermsView :=
  Decode.record "struct BackupSpecResponse" fields

end BackupTermsView

namespace BackupView

def toJson (v : BackupView) : Json :=
  .obj ([("backupName", .str v.name), ("isOneTime", .bool v.isOneTime)] ++ v.terms.members)

def ownFields : Fields (String × Bool) :=
  Prod.mk <$> Fields.required "backupName" Decode.text <*> Fields.required "isOneTime" Decode.flag

/-- Reads a backup from an object. The terms are read after the whole object. -/
def decode : Decoder BackupView
  | .object members stop => do
      let (name, isOneTime) ←
        Decode.sharedRecord "struct BackupResponse" ownFields (.object members stop)
      Decode.checkMembers BackupTermsView.fields.slots (fun _ => .ok ()) false 0 [] members
      let terms ← BackupTermsView.fields.build (Decode.lastOf members)
      return ⟨name, isOneTime, terms⟩
  | other => fail (other.mismatch "struct BackupResponse")

end BackupView

namespace RestoreView

def toJson (v : RestoreView) : Json :=
  .obj [("restoreName", .str v.name), ("backupName", .str v.backupName),
    ("includedNamespaces", strs v.includedNamespaces),
    ("excludedNamespaces", strs v.excludedNamespaces)]

def decode : Decoder RestoreView :=
  Decode.record "struct RestoreResponse" <|
    RestoreView.mk <$>
    Fields.required "restoreName" Decode.text <*>
    Fields.required "backupName" Decode.text <*>
    requiredNames "includedNamespaces" <*>
    requiredNames "excludedNamespaces"

end RestoreView

namespace ScheduleView

def toJson (v : ScheduleView) : Json :=
  .obj [("scheduleName", .str v.name), ("schedule", .str v.schedule), ("paused", .bool v.paused),
    ("template", v.template.toJson)]

def decode : Decoder ScheduleView :=
  Decode.record "struct ScheduleResponse" <|
    ScheduleView.mk <$>
    Fields.required "scheduleName" Decode.text <*>
    Fields.required "schedule" Decode.text <*>
    Fields.required "paused" Decode.flag <*>
    Fields.required "template" BackupTermsView.decode

end ScheduleView

def Storage.view (s : Storage) : StorageView :=
  ⟨s.name, s.provider, s.bucket, s.root, s.region, s.ip, s.port, s.accessKey, s.secretKey,
    s.isDefault.getD false⟩

def BackupTerms.view (t : BackupTerms) : BackupTermsView :=
  ⟨t.includedNamespaces.getD [], t.excludedNamespaces.getD [], t.ttl.text, t.storageLocation,
    t.defaultVolumesToFsBackup.getD false, t.volumeSnapshotLocations.getD [],
    t.snapshotMoveData.getD false⟩

def Backup.view (b : Backup) : BackupView :=
  ⟨b.name, b.isOneTime.getD false, b.terms.view⟩

def Restore.view (r : Restore) : RestoreView :=
  ⟨r.name, r.backupName, r.includedNamespaces.getD [], r.excludedNamespaces.getD []⟩

def Schedule.view (s : Schedule) : ScheduleView :=
  ⟨s.name, s.schedule, s.paused.getD false, s.template.view⟩

def namedJson (key name : String) : Json :=
  .obj [(key, .str name)]

namespace Kind

def viewJson : (k : Kind) → k.Entry → Json
  | storage, e => (Storage.view e).toJson
  | backup, e => (Backup.view e).toJson
  | restore, e => (Restore.view e).toJson
  | schedule, e => (Schedule.view e).toJson

def nameJson (k : Kind) (name : String) : Json :=
  namedJson k.nameKey name

def listJson (k : Kind) (entries : List k.Entry) : Json :=
  .obj [("total_count", .int entries.length), ("items", .arr (entries.map k.viewJson))]

end Kind

end ClusterOperator
