import ClusterOperator.Duration.Parser
import ClusterOperator.Duration.Printer
import ClusterOperator.Json.Decode

namespace ClusterOperator

open Json

/-- An object storage location. -/
structure Storage where
  name : String
  provider : String
  bucket : String
  /-- Where in the bucket the objects begin. -/
  root : String
  region : String
  ip : String
  port : Option Int32
  accessKey : String
  secretKey : String
  isDefault : Option Bool
deriving DecidableEq, Repr, Inhabited

/-- What a backup takes and where it goes. -/
structure BackupTerms where
  includedNamespaces : Option (List String)
  excludedNamespaces : Option (List String)
  /-- How long the backup is kept. -/
  ttl : Duration
  storageLocation : String
  defaultVolumesToFsBackup : Option Bool
  volumeSnapshotLocations : Option (List String)
  snapshotMoveData : Option Bool
deriving DecidableEq, Repr, Inhabited

/-- A named backup. -/
structure Backup where
  name : String
  isOneTime : Option Bool
  terms : BackupTerms
deriving DecidableEq, Repr, Inhabited

/-- A restore from a named backup. -/
structure Restore where
  name : String
  backupName : String
  includedNamespaces : Option (List String)
  excludedNamespaces : Option (List String)
deriving DecidableEq, Repr, Inhabited

/-- Backups that a cron expression starts. -/
structure Schedule where
  name : String
  schedule : String
  paused : Option Bool
  template : BackupTerms
deriving DecidableEq, Repr, Inhabited

def names? (key : String) (names : Option (List String)) : List (String × Json) :=
  member? key (names.map strs)

def flag? (key : String) (value : Option Bool) : List (String × Json) :=
  member? key (value.map .bool)

def nameList (key : String) : Fields (Option (List String)) :=
  Fields.optional key (Decode.list Decode.text)

def optionalFlag (key : String) : Fields (Option Bool) :=
  Fields.optional key Decode.flag

def portNumber : Decoder Int32 := fun value =>
  (Decode.int32 value).map Int32.ofInt

namespace Duration

/-- The stored form of a duration is its canonical text. -/
def toJson (d : Duration) : Json :=
  .str d.text

def decode : Decoder Duration := fun value => do
  let text ← Decode.text value
  match Duration.parse text with
  | .ok d => .ok d
  | .error (.refused e) =>
      Json.fail (.rejected ("Duration parse error: " ++ e.message text) true)
  | .error .panicked => Json.fail .panicked

end Duration

namespace Storage

def toJson (s : Storage) : Json :=
  .obj (("storageName", .str s.name) ::
    nonempty "provider" s.provider ++
    nonempty "bucket" s.bucket ++
    nonempty "prefix" s.root ++
    nonempty "region" s.region ++
    nonempty "ip" s.ip ++
    member? "port" (s.port.map fun n => .int n.toInt) ++
    nonempty "accessKey" s.accessKey ++
    nonempty "secretKey" s.secretKey ++
    flag? "isDefault" s.isDefault)

def decode : Decoder Storage :=
  Decode.record "struct StorageConfig" <|
    Storage.mk <$>
    Fields.required "storageName" Decode.text <*>
    Fields.text "provider" <*>
    Fields.text "bucket" <*>
    Fields.text "prefix" <*>
    Fields.text "region" <*>
    Fields.text "ip" <*>
    Fields.optional "port" portNumber <*>
    Fields.text "accessKey" <*>
    Fields.text "secretKey" <*>
    optionalFlag "isDefault"

end Storage

namespace BackupTerms

def absent : BackupTerms :=
  ⟨none, none, ⟨0⟩, "", none, none, none⟩

def toJson (t : BackupTerms) : Json :=
  .obj (names? "includedNamespaces" t.includedNamespaces ++
    names? "excludedNamespaces" t.excludedNamespaces ++
    ("ttl", t.ttl.toJson) ::
    nonempty "storageLocation" t.storageLocation ++
    flag? "defaultVolumesToFsBackup" t.defaultVolumesToFsBackup ++
    names? "volumeSnapshotLocations" t.volumeSnapshotLocations ++
    flag? "snapshotMoveData" t.snapshotMoveData)

def decode : Decoder BackupTerms :=
  Decode.record "struct BackupSpec" <|
    BackupTerms.mk <$>
    nameList "includedNamespaces" <*>
    nameList "excludedNamespaces" <*>
    Fields.defaulted "ttl" Duration.decode ⟨0⟩ <*>
    Fields.text "storageLocation" <*>
    optionalFlag "defaultVolumesToFsBackup" <*>
    nameList "volumeSnapshotLocations" <*>
    optionalFlag "snapshotMoveData"

end BackupTerms

namespace Backup

def toJson (b : Backup) : Json :=
  .obj (("backupName", .str b.name) ::
    flag? "isOneTime" b.isOneTime ++
    [("spec", b.terms.toJson)])

def decode : Decoder Backup :=
  Decode.record "struct BackupConfig" <|
    Backup.mk <$>
    Fields.required "backupName" Decode.text <*>
    optionalFlag "isOneTime" <*>
    Fields.defaulted "spec" BackupTerms.decode .absent

end Backup

namespace Restore

def toJson (r : Restore) : Json :=
  .obj ([("restoreName", .str r.name), ("backupName", .str r.backupName)] ++
    names? "includedNamespaces" r.includedNamespaces ++
    names? "excludedNamespaces" r.excludedNamespaces)

def decode : Decoder Restore :=
  Decode.record "struct RestoreConfig" <|
    Restore.mk <$>
    Fields.required "restoreName" Decode.text <*>
    Fields.required "backupName" Decode.text <*>
    nameList "includedNamespaces" <*>
    nameList "excludedNamespaces"

end Restore

namespace Schedule

def toJson (s : Schedule) : Json :=
  .obj ([("scheduleName", .str s.name), ("schedule", .str s.schedule)] ++
    flag? "paused" s.paused ++
    [("template", s.template.toJson)])

def decode : Decoder Schedule :=
  Decode.record "struct ScheduleConfig" <|
    Schedule.mk <$>
    Fields.required "scheduleName" Decode.text <*>
    Fields.required "schedule" Decode.text <*>
    optionalFlag "paused" <*>
    Fields.defaulted "template" BackupTerms.decode .absent

end Schedule

end ClusterOperator
