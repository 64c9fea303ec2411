import ClusterOperator.Proofs.Entry.Stored
import ClusterOperator.Proofs.Metadata
import ClusterOperator.Proofs.Request.Normal

namespace ClusterOperator

open Json

/-- A storage location that says whether it is the default one. -/
def Storage.complete (s : Storage) : Storage :=
  { s with isDefault := some (s.isDefault.getD false) }

def BackupTerms.complete (t : BackupTerms) : BackupTerms where
  includedNamespaces := some (t.includedNamespaces.getD [])
  excludedNamespaces := some (t.excludedNamespaces.getD [])
  ttl := t.ttl
  storageLocation := t.storageLocation
  defaultVolumesToFsBackup := some (t.defaultVolumesToFsBackup.getD false)
  volumeSnapshotLocations := some (t.volumeSnapshotLocations.getD [])
  snapshotMoveData := some (t.snapshotMoveData.getD false)

def Backup.complete (b : Backup) : Backup :=
  ⟨b.name, some (b.isOneTime.getD false), b.terms.complete⟩

def Restore.complete (r : Restore) : Restore :=
  ⟨r.name, r.backupName, some (r.includedNamespaces.getD []), some (r.excludedNamespaces.getD [])⟩

def Schedule.complete (s : Schedule) : Schedule :=
  ⟨s.name, s.schedule, some (s.paused.getD false), s.template.complete⟩

def Kind.complete : (k : Kind) → k.Entry → k.Entry
  | storage, e => Storage.complete e
  | backup, e => Backup.complete e
  | restore, e => Restore.complete e
  | schedule, e => Schedule.complete e

namespace Storage

/-- What is seen of a storage location, with its port as in a request. -/
def seen (s : Storage) : List (String × Option Json) :=
  [("storageName", some (.str s.name)), ("provider", some (.str s.provider)),
    ("bucket", some (.str s.bucket)), ("prefix", some (.str s.root)),
    ("region", some (.str s.region)), ("ip", some (.str s.ip)),
    ("port", (s.port.map Int32.toInt64).map wordJson), ("accessKey", some (.str s.accessKey)),
    ("secretKey", some (.str s.secretKey)), ("isDefault", some (.bool (s.isDefault.getD false)))]

theorem view_toJson (s : Storage) : s.view.toJson = .obj (present s.seen) := by
  obtain ⟨name, provider, bucket, root, region, ip, port, accessKey, secretKey, isDefault⟩ := s
  cases port with
  | none => rfl
  | some n =>
      have hport : wordJson n.toInt64 = .int n.toInt := congrArg Json.int n.toInt_toInt64
      simp only [view, StorageView.toJson, seen, Option.map_some, hport]
      rfl

theorem isPlain_view (s : Storage) : s.view.toJson.IsPlain := by
  rw [view_toJson]
  exact (plainTable_nil.some (.bool _) |>.some (.str _) |>.some (.str _)
    |>.optional Metadata.isPlain_int64 _ |>.some (.str _) |>.some (.str _) |>.some (.str _)
    |>.some (.str _) |>.some (.str _) |>.some (.str _)).isPlain

theorem yields_seen (s : Storage) :
    StoragePatch.fields.Yields (outlined s.seen) s.complete.asking.fields := by
  have hprovider : (Fields.text "provider").Yields (outlined s.seen) s.provider := .given rfl rfl
  have hbucket : (Fields.text "bucket").Yields (outlined s.seen) s.bucket := .given rfl rfl
  have hroot : (Fields.text "prefix").Yields (outlined s.seen) s.root := .given rfl rfl
  have hregion : (Fields.text "region").Yields (outlined s.seen) s.region := .given rfl rfl
  have hip : (Fields.text "ip").Yields (outlined s.seen) s.ip := .given rfl rfl
  have hport : (Fields.optional "port" Metadata.word).Yields (outlined s.seen)
      (s.port.map Int32.toInt64) := .optional rfl (fun n _ => Metadata.word_int n) nofun
  have haccess : (Fields.text "accessKey").Yields (outlined s.seen) s.accessKey := .given rfl rfl
  have hsecret : (Fields.text "secretKey").Yields (outlined s.seen) s.secretKey := .given rfl rfl
  have hdefault : (optionalFlag "isDefault").Yields (outlined s.seen)
      (some (s.isDefault.getD false)) := yields_flag rfl
  exact hprovider.map StoragePatch.mk |>.seq hbucket |>.seq hroot |>.seq hregion |>.seq hip
    |>.seq hport |>.seq haccess |>.seq hsecret |>.seq hdefault

theorem decode_view (s : Storage) :
    StorageRequest.decode (outline s.view.toJson) = .ok s.complete.asking := by
  have hname : (Fields.text "storageName").Yields (outlined s.seen) s.name := .given rfl rfl
  have hkeys : (s.seen.map Prod.fst).Nodup := by simp [seen]
  rw [view_toJson]
  exact Decode.record_obj (hname.map StorageRequest.mk |>.seq s.yields_seen) hkeys _

end Storage

namespace BackupTerms

/-- What is seen of the terms of a backup, or of a template, which has no name. -/
def seen (t : BackupTerms) (name : Option String) (isOneTime : Option Bool) :
    List (String × Option Json) :=
  [("backupName", name.map .str), ("isOneTime", isOneTime.map .bool),
    ("includedNamespaces", some (strs (t.includedNamespaces.getD []))),
    ("excludedNamespaces", some (strs (t.excludedNamespaces.getD []))),
    ("ttl", some (.str t.ttl.text)), ("storageLocation", some (.str t.storageLocation)),
    ("defaultVolumesToFsBackup", some (.bool (t.defaultVolumesToFsBackup.getD false))),
    ("volumeSnapshotLocations", some (strs (t.volumeSnapshotLocations.getD []))),
    ("snapshotMoveData", some (.bool (t.snapshotMoveData.getD false)))]

theorem isPlain_seen (t : BackupTerms) (name : Option String) (isOneTime : Option Bool) :
    (Json.obj (present (t.seen name isOneTime))).IsPlain :=
  (plainTable_nil.some (.bool _) |>.some (isPlain_strs _) |>.some (.bool _) |>.some (.str _)
    |>.some (.str _) |>.some (isPlain_strs _) |>.some (isPlain_strs _) |>.optional .bool _
    |>.optional .str _).isPlain

theorem yields_seen (t : BackupTerms) (name : Option String) (isOneTime : Option Bool) :
    BackupPatch.fields.Yields (outlined (t.seen name isOneTime)) (t.complete.asking isOneTime) := by
  let seen := outlined (t.seen name isOneTime)
  have honce : (optionalFlag "isOneTime").Yields seen isOneTime := yields_flag rfl
  have hincluded : (nameList "includedNamespaces").Yields seen
      (some (t.includedNamespaces.getD [])) := yields_names rfl
  have hexcluded : (nameList "excludedNamespaces").Yields seen
      (some (t.excludedNamespaces.getD [])) := yields_names rfl
  have httl : (Fields.text "ttl").Yields seen t.ttl.text := .given rfl rfl
  have hlocation : (Fields.text "storageLocation").Yields seen t.storageLocation := .given rfl rfl
  have hvolumes : (optionalFlag "defaultVolumesToFsBackup").Yields seen
      (some (t.defaultVolumesToFsBackup.getD false)) := yields_flag rfl
  have hsnapshots : (nameList "volumeSnapshotLocations").Yields seen
      (some (t.volumeSnapshotLocations.getD [])) := yields_names rfl
  have hmoves : (optionalFlag "snapshotMoveData").Yields seen
      (some (t.snapshotMoveData.getD false)) := yields_flag rfl
  exact honce.map BackupPatch.mk |>.seq hincluded |>.seq hexcluded |>.seq httl |>.seq hlocation
    |>.seq hvolumes |>.seq hsnapshots |>.seq hmoves

theorem decode_seen (t : BackupTerms) (name : Option String) (isOneTime : Option Bool) :
    BackupRequest.decode (outline (.obj (present (t.seen name isOneTime)))) =
      .ok ⟨name.getD "", t.complete.asking isOneTime⟩ := by
  have hname : (Fields.text "backupName").Yields (outlined (t.seen name isOneTime))
      (name.getD "") := by
    cases name with
    | none => exact .defaulted rfl nofun fun _ => rfl
    | some name => exact .given rfl rfl
  have hkeys : ((t.seen name isOneTime).map Prod.fst).Nodup := by simp [seen]
  have hfields := t.yields_seen name isOneTime
  exact Decode.record_obj (hname.map BackupRequest.mk |>.seq hfields) hkeys _

theorem Sound.complete {t : BackupTerms} (h : t.Sound) : t.complete.Sound :=
  ⟨h.storageLocation, h.ttl, h.namespaces, h.locations⟩

end BackupTerms

theorem Backup.decode_view (b : Backup) :
    BackupRequest.decode (outline b.view.toJson) = .ok b.complete.asking :=
  b.terms.decode_seen (some b.name) (some (b.isOneTime.getD false))

namespace Restore

def seen (r : Restore) : List (String × Option Json) :=
  [("restoreName", some (.str r.name)), ("backupName", some (.str r.backupName)),
    ("includedNamespaces", some (strs (r.includedNamespaces.getD []))),
    ("excludedNamespaces", some (strs (r.excludedNamespaces.getD [])))]

theorem isPlain_view (r : Restore) : r.view.toJson.IsPlain := by
  have hseen : PlainTable r.seen := plainTable_nil.some (isPlain_strs _) |>.some (isPlain_strs _)
    |>.some (.str _) |>.some (.str _)
  exact hseen.isPlain

theorem yields_seen (r : Restore) :
    RestorePatch.fields.Yields (outlined r.seen) r.complete.asking.fields := by
  have hbackup : (Fields.text "backupName").Yields (outlined r.seen) r.backupName :=
    .given rfl rfl
  have hincluded : (nameList "includedNamespaces").Yields (outlined r.seen)
      (some (r.includedNamespaces.getD [])) := yields_names rfl
  have hexcluded : (nameList "excludedNamespaces").Yields (outlined r.seen)
      (some (r.excludedNamespaces.getD [])) := yields_names rfl
  exact hbackup.map RestorePatch.mk |>.seq hincluded |>.seq hexcluded

theorem decode_view (r : Restore) :
    RestoreRequest.decode (outline r.view.toJson) = .ok r.complete.asking := by
  have hname : (Fields.text "restoreName").Yields (outlined r.seen) r.name := .given rfl rfl
  have hkeys : (r.seen.map Prod.fst).Nodup := by simp [seen]
  exact Decode.record_obj (hname.map RestoreRequest.mk |>.seq r.yields_seen) hkeys _

end Restore

namespace Schedule

def seen (s : Schedule) : List (String × Option Json) :=
  [("scheduleName", some (.str s.name)), ("schedule", some (.str s.schedule)),
    ("paused", some (.bool (s.paused.getD false))),
    ("template", some (.obj (present (s.template.seen none none))))]

theorem isPlain_view (s : Schedule) : s.view.toJson.IsPlain := by
  have hseen : PlainTable s.seen := plainTable_nil.some (s.template.isPlain_seen none none)
    |>.some (.bool _) |>.some (.str _) |>.some (.str _)
  exact hseen.isPlain

theorem decode_view (s : Schedule) :
    ScheduleRequest.decode (outline s.view.toJson) = .ok s.complete.asking := by
  have hname : (Fields.text "scheduleName").Yields (outlined s.seen) s.name := .given rfl rfl
  have hschedule : (Fields.text "schedule").Yields (outlined s.seen) s.schedule := .given rfl rfl
  have hpaused : (optionalFlag "paused").Yields (outlined s.seen) (some (s.paused.getD false)) :=
    yields_flag rfl
  have htemplate : (Fields.defaulted "template" BackupRequest.decode .empty).Yields
      (outlined s.seen) s.complete.asking.template :=
    .given rfl (s.template.decode_seen none none)
  have hkeys : (s.seen.map Prod.fst).Nodup := by simp [seen]
  have hfields := hname.map ScheduleRequest.mk |>.seq hschedule |>.seq hpaused |>.seq htemplate
  exact Decode.record_obj hfields hkeys _

end Schedule

namespace Kind

variable {k : Kind}

theorem nameOf_complete (e : k.Entry) : k.nameOf (k.complete e) = k.nameOf e := by
  cases k <;> rfl

theorem viewJson_complete (e : k.Entry) : k.viewJson (k.complete e) = k.viewJson e := by
  cases k <;> rfl

theorem nameAsked_asking (e : k.Entry) : k.nameAsked (k.asking e) = k.nameOf e := by
  cases k <;> rfl

theorem Sound.complete [Cron.Library] {e : k.Entry} (h : k.Sound e) : k.Sound (k.complete e) := by
  cases k with
  | storage => exact ⟨h.valid, congrArg Except.ok (Storage.entry_asking _)⟩
  | backup =>
      obtain ⟨hname, -, hterms⟩ := sound_backup_iff.mp h
      exact sound_backup_iff.mpr ⟨hname, rfl, hterms.complete⟩
  | restore => exact ⟨h.valid, rfl⟩
  | schedule =>
      obtain ⟨hname, hcron, hterms⟩ := sound_schedule_iff.mp h
      exact sound_schedule_iff.mpr ⟨hname, hcron, hterms.complete⟩

/-- What is seen of an entry is read as a request for it. -/
theorem decode_viewJson (e : k.Entry) :
    k.decodeRequest (outline (k.viewJson e)) = .ok (k.asking (k.complete e)) := by
  cases k with
  | storage => exact Storage.decode_view e
  | backup => exact Backup.decode_view e
  | restore => exact Restore.decode_view e
  | schedule => exact Schedule.decode_view e

theorem isPlain_viewJson (e : k.Entry) : (k.viewJson e).IsPlain := by
  cases k with
  | storage => exact Storage.isPlain_view e
  | backup => exact BackupTerms.isPlain_seen _ (some _) (some _)
  | restore => exact Restore.isPlain_view e
  | schedule => exact Schedule.isPlain_view e

end Kind

end ClusterOperator
