import ClusterOperator.Entry.Kind
import ClusterOperator.Failure
import ClusterOperator.Request.Restore
import ClusterOperator.Request.Schedule

namespace ClusterOperator.Kind

@[reducible] def Request : Kind → Type
  | storage => StorageRequest
  | backup => BackupRequest
  | restore => RestoreRequest
  | schedule => ScheduleRequest

@[reducible] def Patch : Kind → Type
  | storage => StoragePatch
  | backup => BackupPatch
  | restore => RestorePatch
  | schedule => SchedulePatch

def decodeRequest : (k : Kind) → Json.Decoder k.Request
  | storage => StorageRequest.decode
  | backup => BackupRequest.decode
  | restore => RestoreRequest.decode
  | schedule => ScheduleRequest.decode

def decodePatch : (k : Kind) → Json.Decoder k.Patch
  | storage => StoragePatch.decode
  | backup => BackupPatch.decode
  | restore => RestorePatch.decode
  | schedule => SchedulePatch.decode

def requestJson : (k : Kind) → k.Request → Json
  | storage, r => StorageRequest.toJson r
  | backup, r => BackupRequest.toJson r
  | restore, r => RestoreRequest.toJson r
  | schedule, r => ScheduleRequest.toJson r

def patchJson : (k : Kind) → k.Patch → Json
  | storage, p => StoragePatch.toJson p
  | backup, p => BackupPatch.toJson p
  | restore, p => RestorePatch.toJson p
  | schedule, p => SchedulePatch.toJson p

def validateRequest [Cron.Library] : (k : Kind) → k.Request → Verdict
  | storage, r => StorageRequest.validate r
  | backup, r => BackupRequest.validate r true
  | restore, r => RestoreRequest.validate r
  | schedule, r => ScheduleRequest.validate r

def validatePatch [Cron.Library] : (k : Kind) → k.Patch → Verdict
  | storage, p => StoragePatch.validate p
  | backup, p => BackupPatch.validate p
  | restore, p => RestorePatch.validate p
  | schedule, p => SchedulePatch.validate p

def entryOf : (k : Kind) → k.Request → Except Violation k.Entry
  | storage, r => .ok (StorageRequest.entry r)
  | backup, r => BackupRequest.entry r
  | restore, r => .ok (RestoreRequest.entry r)
  | schedule, r => ScheduleRequest.entry r

/-- Changes an entry. The first part is what it is afterwards, also where the change breaks a
rule. -/
def applyPatch : (k : Kind) → k.Patch → k.Entry → k.Entry × Verdict
  | storage, p, e => (StoragePatch.apply p e, .ok ())
  | backup, p, e => BackupPatch.apply p e
  | restore, p, e => RestorePatch.apply p e
  | schedule, p, e => SchedulePatch.apply p e

/-- Changes an entry, or fails as the change breaks a rule. -/
def change (k : Kind) (p : k.Patch) (e : k.Entry) : Except Failure k.Entry :=
  match k.applyPatch p e with
  | (changed, .ok ()) => .ok changed
  | (_, .error v) => .error (.ofViolation v)

end ClusterOperator.Kind
