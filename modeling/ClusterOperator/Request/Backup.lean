import ClusterOperator.Entry.Basic
import ClusterOperator.Request.Storage
import ClusterOperator.Validation.Namespaces

namespace ClusterOperator

open Json

/-- Changes of a backup. The rules that join fields are checked again on what the patch makes of the
stored terms, since it may change one of the joined fields only. -/
structure BackupPatch where
  isOneTime : Option Bool
  includedNamespaces : Option (List String)
  excludedNamespaces : Option (List String)
  ttl : String
  storageLocation : String
  defaultVolumesToFsBackup : Option Bool
  volumeSnapshotLocations : Option (List String)
  snapshotMoveData : Option Bool
deriving DecidableEq, Repr, Inhabited

/-- A request to create a backup, or the template of a schedule, which needs no name. -/
structure BackupRequest where
  name : String
  fields : BackupPatch
deriving DecidableEq, Repr, Inhabited

namespace BackupPatch

def empty : BackupPatch :=
  ⟨none, none, none, "", "", none, none, none⟩

def members (p : BackupPatch) : List (String × Json) :=
  [("isOneTime", nullable .bool p.isOneTime),
    ("includedNamespaces", nullable strs p.includedNamespaces),
    ("excludedNamespaces", nullable strs p.excludedNamespaces),
    ("ttl", .str p.ttl),
    ("storageLocation", .str p.storageLocation),
    ("defaultVolumesToFsBackup", nullable .bool p.defaultVolumesToFsBackup),
    ("volumeSnapshotLocations", nullable strs p.volumeSnapshotLocations),
    ("snapshotMoveData", nullable .bool p.snapshotMoveData)]

def toJson (p : BackupPatch) : Json :=
  .obj p.members

def fields : Fields BackupPatch :=
  BackupPatch.mk <$>
  optionalFlag "isOneTime" <*>
  nameList "includedNamespaces" <*>
  nameList "excludedNamespaces" <*>
  Fields.text "ttl" <*>
  Fields.text "storageLocation" <*>
  optionalFlag "defaultVolumesToFsBackup" <*>
  nameList "volumeSnapshotLocations" <*>
  optionalFlag "snapshotMoveData"

def decode : Decoder BackupPatch :=
  Decode.record "struct BackupModifyRequest" fields

def movesData (p : BackupPatch) : Bool :=
  p.snapshotMoveData.getD false

def validate (p : BackupPatch) : Verdict := do
  if p.storageLocation ≠ "" then Limits.storageLocation.checkDnsName p.storageLocation
  if p.ttl ≠ "" then discard (Limits.ttl.readTtl p.ttl)
  checkNamespaceRange p.includedNamespaces p.excludedNamespaces
  if p.volumeSnapshotLocations.isSome then
    discard (distinctLocations false p.volumeSnapshotLocations)

/-- The rules that join the fields of stored terms; the locations lose their repetitions. -/
def settle (t : BackupTerms) : BackupTerms × Verdict :=
  match checkNamespaceRange t.includedNamespaces t.excludedNamespaces with
  | .error v => (t, .error v)
  | .ok () =>
      match distinctLocations (t.snapshotMoveData.getD false) t.volumeSnapshotLocations with
      | .error v => (t, .error v)
      | .ok locations =>
          ({ t with volumeSnapshotLocations := t.volumeSnapshotLocations.map fun _ => locations },
            .ok ())

/-- Changes the terms of a backup. The first part is what they are afterwards, also where the change
breaks a rule. -/
def applyToTerms (p : BackupPatch) (t : BackupTerms) : BackupTerms × Verdict :=
  let selected := { t with
    includedNamespaces := p.includedNamespaces.or t.includedNamespaces
    excludedNamespaces := p.excludedNamespaces.or t.excludedNamespaces }
  match if p.ttl = "" then .ok t.ttl else Limits.ttl.readTtl p.ttl with
  | .error v => (selected, .error v)
  | .ok ttl =>
      settle { selected with
        ttl
        storageLocation := overwrite t.storageLocation p.storageLocation
        defaultVolumesToFsBackup := p.defaultVolumesToFsBackup.or t.defaultVolumesToFsBackup
        snapshotMoveData := p.snapshotMoveData.or t.snapshotMoveData
        volumeSnapshotLocations := p.volumeSnapshotLocations.or t.volumeSnapshotLocations }

def apply (p : BackupPatch) (b : Backup) : Backup × Verdict :=
  let (terms, verdict) := p.applyToTerms b.terms
  (⟨b.name, p.isOneTime.or b.isOneTime, terms⟩, verdict)

end BackupPatch

namespace BackupRequest

def empty : BackupRequest :=
  ⟨"", .empty⟩

def toJson (r : BackupRequest) : Json :=
  .obj (("backupName", .str r.name) :: r.fields.members)

def decode : Decoder BackupRequest :=
  Decode.record "struct BackupRequest" <|
    BackupRequest.mk <$>
    Fields.text "backupName" <*>
    BackupPatch.fields

def validateTerms (p : BackupPatch) : Verdict := do
  Limits.storageLocation.checkDnsName p.storageLocation
  discard (Limits.ttl.readTtl p.ttl)
  checkNamespaceRange p.includedNamespaces p.excludedNamespaces
  discard (distinctLocations p.movesData p.volumeSnapshotLocations)

/-- The rules for a new backup. A template, which is not `topLevel`, needs no name and does not say
whether it is for one time. -/
def validate (r : BackupRequest) (topLevel : Bool) : Verdict := do
  if topLevel then
    Limits.backupName.checkDnsName r.name
    if r.fields.isOneTime.isNone then throw (.unset Limits.isOneTime.field)
  validateTerms r.fields

def terms (r : BackupRequest) : Except Violation BackupTerms := do
  let ttl ← Limits.ttl.readTtl r.fields.ttl
  let locations ← match r.fields.volumeSnapshotLocations with
    | none => pure none
    | some locations => some <$> distinctLocations r.fields.movesData (some locations)
  return {
    includedNamespaces := r.fields.includedNamespaces
    excludedNamespaces := r.fields.excludedNamespaces
    ttl
    storageLocation := r.fields.storageLocation
    defaultVolumesToFsBackup := r.fields.defaultVolumesToFsBackup
    volumeSnapshotLocations := locations
    snapshotMoveData := r.fields.snapshotMoveData }

def entry (r : BackupRequest) : Except Violation Backup := do
  let terms ← r.terms
  return ⟨r.name, r.fields.isOneTime, terms⟩

end BackupRequest

end ClusterOperator
