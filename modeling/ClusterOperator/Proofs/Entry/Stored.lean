import ClusterOperator.Proofs.Duration.RoundTrip
import ClusterOperator.Proofs.Json.Records
import ClusterOperator.Proofs.Store.Validity

namespace ClusterOperator

open Json

theorem portNumber_int (n : Int32) : portNumber (outline (.int n.toInt)) = .ok n := by
  have hlow := n.le_toInt
  have hhigh := n.toInt_lt
  have hrange : -(2 ^ 31) ≤ n.toInt ∧ n.toInt ≤ 2 ^ 31 - 1 := ⟨hlow, by omega⟩
  have hpow : (Nat.pow 2 31 : Int) = 2 ^ 31 := rfl
  rw [portNumber, outline, Decode.int32, Decode.integer, hpow, if_pos hrange]
  exact congrArg _ (Int32.ofInt_toInt n)

theorem isPlain_int32 (n : Int32) : (Json.int n.toInt).IsPlain := by
  have hlow := n.le_toInt
  have hhigh := n.toInt_lt
  have hmax : (wordMax : Int) = 2 ^ 64 - 1 := rfl
  exact .int ⟨by omega, by omega⟩

theorem Duration.decode_toJson {d : Duration} (h : d.nanos ≤ longest) :
    decode (outline d.toJson) = .ok d := by
  simp only [decode, toJson, outline, Decode.text, bind_eq_ok]
  refine ⟨d.text, rfl, ?_⟩
  rw [parse_text h]

theorem Duration.le_of_decode {value : Outline} {d : Duration} (h : decode value = .ok d) :
    d.nanos ≤ longest := by
  simp only [decode, bind_eq_ok] at h
  obtain ⟨text, -, h⟩ := h
  split at h
  · rename_i hparse
    cases h
    exact parse_le hparse
  · cases h
  · cases h

section Fields

variable {table : List (String × Option Outline)} {key : String}

theorem yields_flag {value : Option Bool}
    (h : table.lookup key = some ((value.map Json.bool).map outline)) :
    (optionalFlag key).Yields table value :=
  .optional h (fun _ _ => rfl) nofun

theorem yields_names {names : Option (List String)}
    (h : table.lookup key = some ((names.map strs).map outline)) :
    (nameList key).Yields table names :=
  .optional h (fun names _ => Decode.list_strs names) nofun

end Fields

namespace Storage

def table (s : Storage) : List (String × Option Json) :=
  [("storageName", some (.str s.name)), ("provider", text? s.provider),
    ("bucket", text? s.bucket), ("prefix", text? s.root), ("region", text? s.region),
    ("ip", text? s.ip), ("port", s.port.map fun n => .int n.toInt),
    ("accessKey", text? s.accessKey), ("secretKey", text? s.secretKey),
    ("isDefault", s.isDefault.map .bool)]

theorem toJson_eq (s : Storage) : s.toJson = .obj (present s.table) := by
  simp only [toJson, nonempty_eq, member?_eq, flag?, present_append, present_cons]
  rfl

theorem isPlain_toJson (s : Storage) : s.toJson.IsPlain := by
  rw [toJson_eq]
  exact (plainTable_nil.optional .bool _ |>.text _ |>.text _ |>.optional isPlain_int32 _ |>.text _
    |>.text _ |>.text _ |>.text _ |>.text _ |>.some (.str _)).isPlain

theorem decode_toJson (s : Storage) : decode (outline s.toJson) = .ok s := by
  have hname : (Fields.required "storageName" Decode.text).Yields (outlined s.table) s.name :=
    .required rfl rfl
  have hprovider : (Fields.text "provider").Yields (outlined s.table) s.provider := .text rfl
  have hbucket : (Fields.text "bucket").Yields (outlined s.table) s.bucket := .text rfl
  have hroot : (Fields.text "prefix").Yields (outlined s.table) s.root := .text rfl
  have hregion : (Fields.text "region").Yields (outlined s.table) s.region := .text rfl
  have hip : (Fields.text "ip").Yields (outlined s.table) s.ip := .text rfl
  have hport : (Fields.optional "port" portNumber).Yields (outlined s.table) s.port :=
    .optional rfl (fun n _ => portNumber_int n) nofun
  have haccess : (Fields.text "accessKey").Yields (outlined s.table) s.accessKey := .text rfl
  have hsecret : (Fields.text "secretKey").Yields (outlined s.table) s.secretKey := .text rfl
  have hdefault : (optionalFlag "isDefault").Yields (outlined s.table) s.isDefault :=
    yields_flag rfl
  have hkeys : (s.table.map Prod.fst).Nodup := by simp [table]
  have hfields := hname.map Storage.mk |>.seq hprovider |>.seq hbucket |>.seq hroot |>.seq hregion
    |>.seq hip |>.seq hport |>.seq haccess |>.seq hsecret |>.seq hdefault
  rw [toJson_eq]
  exact Decode.record_obj hfields hkeys _

end Storage

namespace BackupTerms

def table (t : BackupTerms) : List (String × Option Json) :=
  [("includedNamespaces", t.includedNamespaces.map strs),
    ("excludedNamespaces", t.excludedNamespaces.map strs), ("ttl", some t.ttl.toJson),
    ("storageLocation", text? t.storageLocation),
    ("defaultVolumesToFsBackup", t.defaultVolumesToFsBackup.map .bool),
    ("volumeSnapshotLocations", t.volumeSnapshotLocations.map strs),
    ("snapshotMoveData", t.snapshotMoveData.map .bool)]

theorem toJson_eq (t : BackupTerms) : t.toJson = .obj (present t.table) := by
  simp only [toJson, nonempty_eq, member?_eq, flag?, names?, present_append, present_cons]
  rfl

theorem isPlain_toJson (t : BackupTerms) : t.toJson.IsPlain := by
  rw [toJson_eq]
  exact (plainTable_nil.optional .bool _ |>.optional isPlain_strs _ |>.optional .bool _ |>.text _
    |>.some (.str _) |>.optional isPlain_strs _ |>.optional isPlain_strs _).isPlain

theorem decode_toJson {t : BackupTerms} (h : t.ttl.nanos ≤ Duration.longest) :
    decode (outline t.toJson) = .ok t := by
  have hincluded : (nameList "includedNamespaces").Yields (outlined t.table)
      t.includedNamespaces := yields_names rfl
  have hexcluded : (nameList "excludedNamespaces").Yields (outlined t.table)
      t.excludedNamespaces := yields_names rfl
  have httl : (Fields.defaulted "ttl" Duration.decode ⟨0⟩).Yields (outlined t.table) t.ttl :=
    .given rfl (Duration.decode_toJson h)
  have hlocation : (Fields.text "storageLocation").Yields (outlined t.table) t.storageLocation :=
    .text rfl
  have hvolumes : (optionalFlag "defaultVolumesToFsBackup").Yields (outlined t.table)
      t.defaultVolumesToFsBackup := yields_flag rfl
  have hsnapshots : (nameList "volumeSnapshotLocations").Yields (outlined t.table)
      t.volumeSnapshotLocations := yields_names rfl
  have hmoves : (optionalFlag "snapshotMoveData").Yields (outlined t.table) t.snapshotMoveData :=
    yields_flag rfl
  have hkeys : (t.table.map Prod.fst).Nodup := by simp [table]
  have hfields := hincluded.map BackupTerms.mk |>.seq hexcluded |>.seq httl |>.seq hlocation
    |>.seq hvolumes |>.seq hsnapshots |>.seq hmoves
  rw [toJson_eq]
  exact Decode.record_obj hfields hkeys _

theorem ttl_le_of_decode {value : Outline} {t : BackupTerms} (h : decode value = .ok t) :
    t.ttl.nanos ≤ Duration.longest := by
  revert h
  apply Fields.Ensures.record (P := fun t : BackupTerms => t.ttl.nanos ≤ Duration.longest)
  -- Nothing is asked of the fields behind the lifetime, which is the third one.
  iterate 4 refine .seq ?_
  refine .seq_of (.seq (.map ?_)) (.defaulted ?_ fun _ _ => Duration.le_of_decode)
  · intro included excluded ttl h storageLocation volumes locations moves
    exact h
  · exact Nat.zero_le _

end BackupTerms

namespace Backup

def table (b : Backup) : List (String × Option Json) :=
  [("backupName", some (.str b.name)), ("isOneTime", b.isOneTime.map .bool),
    ("spec", some b.terms.toJson)]

theorem toJson_eq (b : Backup) : b.toJson = .obj (present b.table) := by
  obtain ⟨name, isOneTime, terms⟩ := b
  cases isOneTime <;> rfl

theorem isPlain_toJson (b : Backup) : b.toJson.IsPlain := by
  rw [toJson_eq]
  exact (plainTable_nil.some b.terms.isPlain_toJson |>.optional .bool _ |>.some (.str _)).isPlain

theorem decode_toJson {b : Backup} (h : b.terms.ttl.nanos ≤ Duration.longest) :
    decode (outline b.toJson) = .ok b := by
  have hname : (Fields.required "backupName" Decode.text).Yields (outlined b.table) b.name :=
    .required rfl rfl
  have honce : (optionalFlag "isOneTime").Yields (outlined b.table) b.isOneTime := yields_flag rfl
  have hterms : (Fields.defaulted "spec" BackupTerms.decode .absent).Yields (outlined b.table)
      b.terms := .given rfl (BackupTerms.decode_toJson h)
  have hkeys : (b.table.map Prod.fst).Nodup := by simp [table]
  rw [toJson_eq]
  exact Decode.record_obj (hname.map Backup.mk |>.seq honce |>.seq hterms) hkeys _

theorem ttl_le_of_decode {value : Outline} {b : Backup} (h : decode value = .ok b) :
    b.terms.ttl.nanos ≤ Duration.longest := by
  revert h
  apply Fields.Ensures.record (P := fun b : Backup => b.terms.ttl.nanos ≤ Duration.longest)
  refine .seq_of (.seq (.map ?_)) (.defaulted ?_ fun _ _ => BackupTerms.ttl_le_of_decode)
  · intro name isOneTime terms h
    exact h
  · exact Nat.zero_le _

end Backup

namespace Restore

def table (r : Restore) : List (String × Option Json) :=
  [("restoreName", some (.str r.name)), ("backupName", some (.str r.backupName)),
    ("includedNamespaces", r.includedNamespaces.map strs),
    ("excludedNamespaces", r.excludedNamespaces.map strs)]

theorem toJson_eq (r : Restore) : r.toJson = .obj (present r.table) := by
  obtain ⟨name, backupName, included, excluded⟩ := r
  cases included <;> cases excluded <;> rfl

theorem isPlain_toJson (r : Restore) : r.toJson.IsPlain := by
  rw [toJson_eq]
  exact (plainTable_nil.optional isPlain_strs _ |>.optional isPlain_strs _ |>.some (.str _)
    |>.some (.str _)).isPlain

theorem decode_toJson (r : Restore) : decode (outline r.toJson) = .ok r := by
  have hname : (Fields.required "restoreName" Decode.text).Yields (outlined r.table) r.name :=
    .required rfl rfl
  have hbackup : (Fields.required "backupName" Decode.text).Yields (outlined r.table)
      r.backupName := .required rfl rfl
  have hincluded : (nameList "includedNamespaces").Yields (outlined r.table)
      r.includedNamespaces := yields_names rfl
  have hexcluded : (nameList "excludedNamespaces").Yields (outlined r.table)
      r.excludedNamespaces := yields_names rfl
  have hkeys : (r.table.map Prod.fst).Nodup := by simp [table]
  have hfields := hname.map Restore.mk |>.seq hbackup |>.seq hincluded |>.seq hexcluded
  rw [toJson_eq]
  exact Decode.record_obj hfields hkeys _

end Restore

namespace Schedule

def table (s : Schedule) : List (String × Option Json) :=
  [("scheduleName", some (.str s.name)), ("schedule", some (.str s.schedule)),
    ("paused", s.paused.map .bool), ("template", some s.template.toJson)]

theorem toJson_eq (s : Schedule) : s.toJson = .obj (present s.table) := by
  obtain ⟨name, schedule, paused, template⟩ := s
  cases paused <;> rfl

theorem isPlain_toJson (s : Schedule) : s.toJson.IsPlain := by
  rw [toJson_eq]
  exact (plainTable_nil.some s.template.isPlain_toJson |>.optional .bool _ |>.some (.str _)
    |>.some (.str _)).isPlain

theorem decode_toJson {s : Schedule} (h : s.template.ttl.nanos ≤ Duration.longest) :
    decode (outline s.toJson) = .ok s := by
  have hname : (Fields.required "scheduleName" Decode.text).Yields (outlined s.table) s.name :=
    .required rfl rfl
  have hschedule : (Fields.required "schedule" Decode.text).Yields (outlined s.table) s.schedule :=
    .required rfl rfl
  have hpaused : (optionalFlag "paused").Yields (outlined s.table) s.paused := yields_flag rfl
  have htemplate : (Fields.defaulted "template" BackupTerms.decode .absent).Yields
      (outlined s.table) s.template := .given rfl (BackupTerms.decode_toJson h)
  have hkeys : (s.table.map Prod.fst).Nodup := by simp [table]
  have hfields := hname.map Schedule.mk |>.seq hschedule |>.seq hpaused |>.seq htemplate
  rw [toJson_eq]
  exact Decode.record_obj hfields hkeys _

theorem ttl_le_of_decode {value : Outline} {s : Schedule} (h : decode value = .ok s) :
    s.template.ttl.nanos ≤ Duration.longest := by
  revert h
  apply Fields.Ensures.record (P := fun s : Schedule => s.template.ttl.nanos ≤ Duration.longest)
  refine .seq_of (.seq (.seq (.map ?_))) (.defaulted ?_ fun _ _ => BackupTerms.ttl_le_of_decode)
  · intro name schedule paused template h
    exact h
  · exact Nat.zero_le _

end Schedule

namespace Collections

def table (c : Collections) : List (String × Option Json) :=
  [("storageConfigs", list? (c.storages.map Storage.toJson)),
    ("backupConfigs", list? (c.backups.map Backup.toJson)),
    ("restoreConfigs", list? (c.restores.map Restore.toJson)),
    ("scheduleConfigs", list? (c.schedules.map Schedule.toJson))]

/-- Whether every lifetime is one that a text can give. -/
def Bounded (c : Collections) : Prop :=
  ∀ t ∈ c.allTerms, t.ttl.nanos ≤ Duration.longest

theorem bounded_iff {c : Collections} :
    c.Bounded ↔ (∀ b ∈ c.backups, b.terms.ttl.nanos ≤ Duration.longest) ∧
      ∀ s ∈ c.schedules, s.template.ttl.nanos ≤ Duration.longest := by
  simp [Bounded, allTerms, or_imp, forall_and]

theorem Valid.bounded [Cron.Library] {c : Collections} (h : c.Valid) : c.Bounded :=
  fun _ ht => (h.sound_terms ht).ttl

theorem toJson_eq (c : Collections) : c.toJson = .obj (present c.table) := by
  simp only [toJson, nonemptyList_eq, present_append]
  rfl

theorem isPlain_toJson (c : Collections) : c.toJson.IsPlain := by
  rw [toJson_eq]
  have hmap {α : Type} {encode : α → Json} (h : ∀ a, (encode a).IsPlain) (items : List α) :
      ∀ item ∈ items.map encode, item.IsPlain := by
    rintro item hitem
    obtain ⟨a, -, rfl⟩ := List.mem_map.mp hitem
    exact h a
  exact (plainTable_nil.list (hmap Schedule.isPlain_toJson _)
    |>.list (hmap Restore.isPlain_toJson _) |>.list (hmap Backup.isPlain_toJson _)
    |>.list (hmap Storage.isPlain_toJson _)).isPlain

theorem decode_toJson {c : Collections} (h : c.Bounded) : decode (outline c.toJson) = .ok c := by
  obtain ⟨hbackupTtls, hscheduleTtls⟩ := bounded_iff.mp h
  have hstorages : (Fields.defaulted "storageConfigs" (Decode.list Storage.decode) []).Yields
      (outlined c.table) c.storages := .list rfl (Decode.list_arr fun s _ => s.decode_toJson)
  have hbackups : (Fields.defaulted "backupConfigs" (Decode.list Backup.decode) []).Yields
      (outlined c.table) c.backups :=
    .list rfl (Decode.list_arr fun b hb => Backup.decode_toJson (hbackupTtls b hb))
  have hrestores : (Fields.defaulted "restoreConfigs" (Decode.list Restore.decode) []).Yields
      (outlined c.table) c.restores := .list rfl (Decode.list_arr fun r _ => r.decode_toJson)
  have hschedules : (Fields.defaulted "scheduleConfigs" (Decode.list Schedule.decode) []).Yields
      (outlined c.table) c.schedules :=
    .list rfl (Decode.list_arr fun s hs => Schedule.decode_toJson (hscheduleTtls s hs))
  have hkeys : (c.table.map Prod.fst).Nodup := by simp [table]
  have hfields := hstorages.map Collections.mk |>.seq hbackups |>.seq hrestores |>.seq hschedules
  rw [toJson_eq]
  exact Decode.record_obj hfields hkeys _

theorem bounded_of_decode {value : Outline} {c : Collections} (h : decode value = .ok c) :
    c.Bounded := by
  revert h
  apply Fields.Ensures.record (P := Bounded)
  have hbackups : ∀ value items, Decode.list Backup.decode value = .ok items →
      ∀ b ∈ items, b.terms.ttl.nanos ≤ Duration.longest := by
    intro value items h b hb
    obtain ⟨item, hitem⟩ := Decode.exists_of_mem_list h b hb
    exact Backup.ttl_le_of_decode hitem
  have hschedules : ∀ value items, Decode.list Schedule.decode value = .ok items →
      ∀ s ∈ items, s.template.ttl.nanos ≤ Duration.longest := by
    intro value items h s hs
    obtain ⟨item, hitem⟩ := Decode.exists_of_mem_list h s hs
    exact Schedule.ttl_le_of_decode hitem
  refine .seq_of (.seq (.seq_of (.map ?_) (.defaulted nofun hbackups))) (.defaulted nofun hschedules)
  intro storages backups hbackups restores schedules hschedules
  exact bounded_iff.mpr ⟨hbackups, hschedules⟩

end Collections

end ClusterOperator
