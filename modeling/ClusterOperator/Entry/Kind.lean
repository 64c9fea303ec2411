import ClusterOperator.Entry.Basic

namespace ClusterOperator

/-- The kinds of entries. -/
inductive Kind where
  | storage
  | backup
  | restore
  | schedule
deriving DecidableEq, Repr

namespace Kind

@[reducible] def Entry : Kind → Type
  | storage => Storage
  | backup => Backup
  | restore => Restore
  | schedule => Schedule

/-- What a kind is called in messages and metrics. -/
def title : Kind → String
  | storage => "StorageConfig"
  | backup => "BackupConfig"
  | restore => "RestoreConfig"
  | schedule => "ScheduleConfig"

def nameKey : Kind → String
  | storage => "storageName"
  | backup => "backupName"
  | restore => "restoreName"
  | schedule => "scheduleName"

/-- The name of an entry, by which its collection knows it. -/
def nameOf : (k : Kind) → k.Entry → String
  | storage, e => Storage.name e
  | backup, e => Backup.name e
  | restore, e => Restore.name e
  | schedule, e => Schedule.name e

def toJson : (k : Kind) → k.Entry → Json
  | storage, e => Storage.toJson e
  | backup, e => Backup.toJson e
  | restore, e => Restore.toJson e
  | schedule, e => Schedule.toJson e

def decode : (k : Kind) → Json.Decoder k.Entry
  | storage => Storage.decode
  | backup => Backup.decode
  | restore => Restore.decode
  | schedule => Schedule.decode

instance : (k : Kind) → DecidableEq k.Entry
  | storage => inferInstanceAs (DecidableEq Storage)
  | backup => inferInstanceAs (DecidableEq Backup)
  | restore => inferInstanceAs (DecidableEq Restore)
  | schedule => inferInstanceAs (DecidableEq Schedule)

end Kind

end ClusterOperator
