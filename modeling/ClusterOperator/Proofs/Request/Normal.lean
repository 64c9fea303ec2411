import ClusterOperator.Entry.View
import ClusterOperator.Proofs.Request.Asking

namespace ClusterOperator

open Json

/-- The canonical text of a lifetime. An empty one stands for thirty days. -/
def canonicalTtl (text : String) : String :=
  if text = "" then "720h0m0s"
  else
    match Duration.parse text with
    | .ok d => d.text
    | .error _ => text

def StorageRequest.normal (r : StorageRequest) : Json :=
  .obj ([("storageName", .str r.name), ("provider", .str r.fields.provider),
      ("bucket", .str r.fields.bucket), ("prefix", .str r.fields.root),
      ("region", .str r.fields.region), ("ip", .str r.fields.ip)] ++
    member? "port" (r.fields.port.map fun n => .int n.toInt) ++
    [("accessKey", .str r.fields.accessKey), ("secretKey", .str r.fields.secretKey),
      ("isDefault", .bool (r.fields.isDefault.getD false))])

def BackupPatch.normal (p : BackupPatch) : List (String × Json) :=
  [("includedNamespaces", strs (p.includedNamespaces.getD [])),
    ("excludedNamespaces", strs (p.excludedNamespaces.getD [])),
    ("ttl", .str (canonicalTtl p.ttl)),
    ("storageLocation", .str p.storageLocation),
    ("defaultVolumesToFsBackup", .bool (p.defaultVolumesToFsBackup.getD false)),
    ("volumeSnapshotLocations", strs (p.volumeSnapshotLocations.getD []).eraseDups),
    ("snapshotMoveData", .bool (p.snapshotMoveData.getD false))]

def BackupRequest.normal (r : BackupRequest) : Json :=
  .obj ([("backupName", .str r.name), ("isOneTime", .bool (r.fields.isOneTime.getD false))] ++
    r.fields.normal)

def RestoreRequest.normal (r : RestoreRequest) : Json :=
  .obj [("restoreName", .str r.name), ("backupName", .str r.fields.backupName),
    ("includedNamespaces", strs (r.fields.includedNamespaces.getD [])),
    ("excludedNamespaces", strs (r.fields.excludedNamespaces.getD []))]

def ScheduleRequest.normal (r : ScheduleRequest) : Json :=
  .obj [("scheduleName", .str r.name), ("schedule", .str r.schedule),
    ("paused", .bool (r.paused.getD false)), ("template", .obj r.template.fields.normal)]

namespace Kind

/-- The name that a request asks for. -/
def nameAsked : (k : Kind) → k.Request → String
  | storage, r => StorageRequest.name r
  | backup, r => BackupRequest.name r
  | restore, r => RestoreRequest.name r
  | schedule, r => ScheduleRequest.name r

def normal : (k : Kind) → k.Request → Json
  | storage, r => StorageRequest.normal r
  | backup, r => BackupRequest.normal r
  | restore, r => RestoreRequest.normal r
  | schedule, r => ScheduleRequest.normal r

end Kind

theorem canonicalTtl_of_readTtl {limit : Limit} {text : String} {ttl : Duration}
    (h : limit.readTtl text = .ok ttl) : canonicalTtl text = ttl.text := by
  rw [canonicalTtl]
  rcases readTtl_eq_ok_iff.mp h with ⟨hempty, rfl⟩ | ⟨hgiven, hparse⟩
  · rw [if_pos hempty]
    decide
  · rw [if_neg hgiven, hparse]

theorem BackupRequest.exists_terms {r : BackupRequest} (h : validateTerms r.fields = .ok ()) :
    ∃ t, r.terms = .ok t ∧ t.view.members = r.fields.normal := by
  obtain ⟨-, ⟨ttl, httl⟩, -, locations, hlocations⟩ := validateTerms_eq_ok.mp h
  refine ⟨_, terms_eq httl hlocations, ?_⟩
  have hdistinct : ((r.fields.volumeSnapshotLocations.map fun _ => locations).getD []) =
      (r.fields.volumeSnapshotLocations.getD []).eraseDups := by
    obtain ⟨-, -, hdns, -⟩ := distinctLocations_ok hlocations
    rw [distinctLocations_eq _ hdns] at hlocations
    split at hlocations
    · cases hlocations
    · cases hlocations
      cases r.fields.volumeSnapshotLocations with
      | none => rfl
      | some asked => rfl
  simp only [BackupTerms.view, BackupTermsView.members, BackupPatch.normal, hdistinct,
    canonicalTtl_of_readTtl httl]

namespace Kind

/-- A valid request asks for an entry, which has the name asked for and is seen as the request with
nothing missing. -/
theorem exists_entry [Cron.Library] {k : Kind} {r : k.Request} (h : k.validateRequest r = .ok ()) :
    ∃ e, k.entryOf r = .ok e ∧ k.nameOf e = k.nameAsked r ∧ k.viewJson e = k.normal r := by
  cases k with
  | storage =>
      refine ⟨StorageRequest.entry r, rfl, rfl, ?_⟩
      obtain ⟨-, hfields⟩ := StorageRequest.validate_eq_ok.mp h
      obtain ⟨-, -, -, -, -, hport, -⟩ := StoragePatch.validate_eq_ok.mp hfields
      have hkept : (StorageRequest.entry r).port.map (fun n => Json.int n.toInt) =
          r.fields.port.map fun n => Json.int n.toInt := by
        simp only [StorageRequest.entry, StoragePatch.apply, Option.or_none]
        cases hasked : r.fields.port with
        | none => rfl
        | some n =>
            rw [hasked] at hport
            simp only [Option.map_some, toInt_toInt32_of_port hport]
      simp only [viewJson, Storage.view, StorageView.toJson, hkept]
      simp only [StorageRequest.entry, StoragePatch.apply, overwrite_empty, Option.or_none]
      rfl
  | backup =>
      obtain ⟨-, -, hterms⟩ := BackupRequest.validate_eq_ok.mp h
      obtain ⟨t, ht, hview⟩ := BackupRequest.exists_terms hterms
      refine ⟨_, BackupRequest.entry_eq_ok.mpr ⟨t, ht, rfl⟩, rfl, ?_⟩
      simp only [viewJson, Backup.view, BackupView.toJson, hview]
      rfl
  | restore => exact ⟨RestoreRequest.entry r, rfl, rfl, rfl⟩
  | schedule =>
      obtain ⟨-, -, hterms⟩ := ScheduleRequest.validate_eq_ok.mp h
      obtain ⟨t, ht, hview⟩ := BackupRequest.exists_terms hterms
      refine ⟨_, ScheduleRequest.entry_eq_ok.mpr ⟨t, ht, rfl⟩, rfl, ?_⟩
      simp only [viewJson, Schedule.view, ScheduleView.toJson, BackupTermsView.toJson, hview]
      rfl

theorem Sound.viewJson_eq [Cron.Library] {k : Kind} {e : k.Entry} (h : k.Sound e) :
    k.viewJson e = k.normal (k.asking e) := by
  obtain ⟨e', hentry, -, hview⟩ := exists_entry h.valid
  rw [h.entry] at hentry
  cases hentry
  exact hview

end Kind

end ClusterOperator
