import ClusterOperator.Proofs.Duration.RoundTrip
import ClusterOperator.Proofs.Validation.Namespaces
import ClusterOperator.Request.Kind

namespace ClusterOperator

/-- The request that asks for a storage location. -/
def Storage.asking (s : Storage) : StorageRequest :=
  ⟨s.name, ⟨s.provider, s.bucket, s.root, s.region, s.ip, s.port.map Int32.toInt64, s.accessKey,
    s.secretKey, s.isDefault⟩⟩

/-- The fields of a request that asks for certain terms. -/
def BackupTerms.asking (t : BackupTerms) (isOneTime : Option Bool) : BackupPatch :=
  ⟨isOneTime, t.includedNamespaces, t.excludedNamespaces, t.ttl.text, t.storageLocation,
    t.defaultVolumesToFsBackup, t.volumeSnapshotLocations, t.snapshotMoveData⟩

def Backup.asking (b : Backup) : BackupRequest :=
  ⟨b.name, b.terms.asking b.isOneTime⟩

def Restore.asking (r : Restore) : RestoreRequest :=
  ⟨r.name, ⟨r.backupName, r.includedNamespaces, r.excludedNamespaces⟩⟩

/-- The request that asks for a schedule. Its template has no name. -/
def Schedule.asking (s : Schedule) : ScheduleRequest :=
  ⟨s.name, s.schedule, s.paused, ⟨"", s.template.asking none⟩⟩

namespace Kind

/-- The request that asks for an entry. -/
def asking : (k : Kind) → k.Entry → k.Request
  | storage, e => Storage.asking e
  | backup, e => Backup.asking e
  | restore, e => Restore.asking e
  | schedule, e => Schedule.asking e

/-- The request that asks for the entry is valid, and asks for nothing else. -/
structure Sound [Cron.Library] (k : Kind) (e : k.Entry) : Prop where
  valid : k.validateRequest (k.asking e) = .ok ()
  entry : k.entryOf (k.asking e) = .ok e

end Kind

theorem check_overwrite (check : String → Verdict) {old new : String} (hold : check old = .ok ())
    (hnew : new ≠ "" → check new = .ok ()) : check (overwrite old new) = .ok () := by
  rw [overwrite]
  split
  · exact hold
  · exact hnew ‹_›

@[simp] theorem overwrite_empty (new : String) : overwrite "" new = new := by
  rw [overwrite]
  split
  · exact Eq.symm ‹_›
  · rfl

section Storages

theorem range_of_checkOptionalPort {n : Int}
    (h : Limits.port.checkOptionalPort (some n) = .ok ()) : 1 ≤ n ∧ n ≤ 65535 := by
  simp only [Limit.checkOptionalPort] at h
  split at h
  · cases h
  · rename_i hrange
    change ¬(n < 1 ∨ 65535 < n) at hrange
    omega

theorem toInt64_toInt32_of_port {n : Int64}
    (h : Limits.port.checkOptionalPort (some n.toInt) = .ok ()) : n.toInt32.toInt64 = n := by
  obtain ⟨hpositive, hsmall⟩ := range_of_checkOptionalPort h
  apply Int64.toInt_inj.mp
  rw [Int32.toInt_toInt64, Int64.toInt_toInt32]
  exact Int.bmod_eq_of_le (by omega) (by omega)

theorem toInt_toInt32_of_port {n : Int64}
    (h : Limits.port.checkOptionalPort (some n.toInt) = .ok ()) : n.toInt32.toInt = n.toInt := by
  rw [← Int32.toInt_toInt64, toInt64_toInt32_of_port h]

theorem StoragePatch.validate_eq_ok {p : StoragePatch} : p.validate = .ok () ↔
    Limits.provider.checkOptionalName p.provider = .ok () ∧
    Limits.bucket.checkOptionalName p.bucket = .ok () ∧
    Limits.root.checkOptionalName p.root = .ok () ∧
    Limits.region.checkOptionalName p.region = .ok () ∧
    Limits.ip.checkOptionalAddress p.ip = .ok () ∧
    Limits.port.checkOptionalPort (p.port.map Int64.toInt) = .ok () ∧
    Limits.accessKey.checkLength p.accessKey = .ok () ∧
    Limits.secretKey.checkLength p.secretKey = .ok () := by
  simp only [validate, bind_eq_ok, exists_unit_eq_ok]

theorem StorageRequest.validate_eq_ok {r : StorageRequest} : r.validate = .ok () ↔
    Limits.storageName.checkDnsName r.name = .ok () ∧ r.fields.validate = .ok () := by
  simp only [validate, bind_eq_ok, exists_unit_eq_ok]

theorem Storage.entry_asking (s : Storage) : s.asking.entry = s := by
  obtain ⟨name, provider, bucket, root, region, ip, port, accessKey, secretKey, isDefault⟩ := s
  simp only [asking, StorageRequest.entry, StoragePatch.apply, overwrite_empty, Option.or_none,
    Option.map_map]
  congr 1
  cases port with
  | none => rfl
  | some n => exact congrArg some n.toInt32_toInt64

theorem checkOptionalPort_or {new : Option Int64} {old : Option Int32}
    (hnew : Limits.port.checkOptionalPort (new.map Int64.toInt) = .ok ())
    (hold : Limits.port.checkOptionalPort ((old.map Int32.toInt64).map Int64.toInt) = .ok ()) :
    Limits.port.checkOptionalPort
      ((((new.map Int64.toInt32).or old).map Int32.toInt64).map Int64.toInt) = .ok () := by
  cases new with
  | none => exact hold
  | some n =>
      simp only [Option.map_some, Option.some_or] at hnew ⊢
      rw [toInt64_toInt32_of_port hnew]
      exact hnew

theorem StoragePatch.validate_apply {p : StoragePatch} {s : Storage} (hp : p.validate = .ok ())
    (hs : s.asking.validate = .ok ()) : (p.apply s).asking.validate = .ok () := by
  rw [StorageRequest.validate_eq_ok, validate_eq_ok] at hs ⊢
  rw [validate_eq_ok] at hp
  obtain ⟨hprovider, hbucket, hroot, hregion, hip, hport, haccess, hsecret⟩ := hp
  obtain ⟨hname, hprovider', hbucket', hroot', hregion', hip', hport', haccess', hsecret'⟩ := hs
  refine ⟨hname, ?_, ?_, ?_, ?_, ?_, ?_, ?_, ?_⟩
  · exact check_overwrite Limits.provider.checkOptionalName hprovider' fun _ => hprovider
  · exact check_overwrite Limits.bucket.checkOptionalName hbucket' fun _ => hbucket
  · exact check_overwrite Limits.root.checkOptionalName hroot' fun _ => hroot
  · exact check_overwrite Limits.region.checkOptionalName hregion' fun _ => hregion
  · exact check_overwrite Limits.ip.checkOptionalAddress hip' fun _ => hip
  · exact checkOptionalPort_or hport hport'
  · exact check_overwrite Limits.accessKey.checkLength haccess' fun _ => haccess
  · exact check_overwrite Limits.secretKey.checkLength hsecret' fun _ => hsecret

theorem StorageRequest.validate_asking_entry {r : StorageRequest} (h : r.validate = .ok ()) :
    r.entry.asking.validate = .ok () := by
  obtain ⟨hname, hfields⟩ := validate_eq_ok.mp h
  apply StoragePatch.validate_apply hfields
  rw [validate_eq_ok]
  have hempty : StoragePatch.empty.validate = .ok () := rfl
  exact ⟨hname, hempty⟩

end Storages

section Terms

structure BackupTerms.Sound (t : BackupTerms) : Prop where
  storageLocation : Limits.storageLocation.checkDnsName t.storageLocation = .ok ()
  ttl : t.ttl.nanos ≤ Duration.longest
  namespaces : checkNamespaceRange t.includedNamespaces t.excludedNamespaces = .ok ()
  locations : distinctLocations (t.snapshotMoveData.getD false) t.volumeSnapshotLocations =
    .ok (t.volumeSnapshotLocations.getD [])

theorem readTtl_eq_ok_iff {limit : Limit} {text : String} {d : Duration} :
    limit.readTtl text = .ok d ↔
      text = "" ∧ defaultTtl = d ∨ text ≠ "" ∧ Duration.parse text = .ok d := by
  rw [Limit.readTtl]
  by_cases hempty : text = ""
  · simp [hempty]
  · rw [if_neg hempty]
    split <;> simp [*]

theorem readTtl_le {limit : Limit} {text : String} {d : Duration}
    (h : limit.readTtl text = .ok d) : d.nanos ≤ Duration.longest := by
  rcases readTtl_eq_ok_iff.mp h with ⟨-, rfl⟩ | ⟨-, hparse⟩
  · decide
  · exact Duration.parse_le hparse

theorem readTtl_text {limit : Limit} {d : Duration} (h : d.nanos ≤ Duration.longest) :
    limit.readTtl d.text = .ok d :=
  readTtl_eq_ok_iff.mpr (.inr ⟨Duration.text_ne_empty h, Duration.parse_text h⟩)

theorem distinctLocations_map {needed : Bool} {locations : Option (List String)}
    {result : List String} (h : distinctLocations needed locations = .ok result) :
    distinctLocations needed (locations.map fun _ => result) =
      .ok ((locations.map fun _ => result).getD []) := by
  cases locations with
  | none =>
      have hresult : result = [] := by
        obtain ⟨-, hmem, -⟩ := distinctLocations_ok h
        exact List.eq_nil_iff_forall_not_mem.mpr fun n hn => absurd ((hmem n).mp hn) nofun
      rw [hresult] at h
      exact h
  | some locations => exact distinctLocations_again h

theorem BackupRequest.validateTerms_eq_ok {p : BackupPatch} : validateTerms p = .ok () ↔
    Limits.storageLocation.checkDnsName p.storageLocation = .ok () ∧
    (∃ ttl, Limits.ttl.readTtl p.ttl = .ok ttl) ∧
    checkNamespaceRange p.includedNamespaces p.excludedNamespaces = .ok () ∧
    ∃ locations, distinctLocations p.movesData p.volumeSnapshotLocations = .ok locations := by
  simp only [validateTerms, bind_eq_ok, exists_unit_eq_ok, discard_eq_ok, exists_const]

theorem BackupRequest.terms_eq {r : BackupRequest} {ttl : Duration} {locations : List String}
    (httl : Limits.ttl.readTtl r.fields.ttl = .ok ttl)
    (hlocations : distinctLocations r.fields.movesData r.fields.volumeSnapshotLocations =
      .ok locations) :
    r.terms = .ok {
      includedNamespaces := r.fields.includedNamespaces
      excludedNamespaces := r.fields.excludedNamespaces
      ttl
      storageLocation := r.fields.storageLocation
      defaultVolumesToFsBackup := r.fields.defaultVolumesToFsBackup
      volumeSnapshotLocations := r.fields.volumeSnapshotLocations.map fun _ => locations
      snapshotMoveData := r.fields.snapshotMoveData } := by
  rw [terms, httl]
  cases hasked : r.fields.volumeSnapshotLocations with
  | none => rfl
  | some asked =>
      rw [hasked] at hlocations
      simp only [bind, Except.bind, hlocations]
      rfl

theorem BackupRequest.sound_of_terms {r : BackupRequest} {t : BackupTerms}
    (hvalid : validateTerms r.fields = .ok ()) (hterms : r.terms = .ok t) : t.Sound := by
  obtain ⟨hstorage, ⟨ttl, httl⟩, hnamespaces, locations, hlocations⟩ :=
    validateTerms_eq_ok.mp hvalid
  rw [terms_eq httl hlocations] at hterms
  cases hterms
  exact ⟨hstorage, readTtl_le httl, hnamespaces, distinctLocations_map hlocations⟩

theorem BackupTerms.Sound.asking {t : BackupTerms} (h : t.Sound) (name : String)
    (isOneTime : Option Bool) :
    BackupRequest.validateTerms (t.asking isOneTime) = .ok () ∧
      (BackupRequest.mk name (t.asking isOneTime)).terms = .ok t := by
  have httl : Limits.ttl.readTtl (t.asking isOneTime).ttl = .ok t.ttl := readTtl_text h.ttl
  refine ⟨BackupRequest.validateTerms_eq_ok.mpr
    ⟨h.storageLocation, ⟨_, httl⟩, h.namespaces, _, h.locations⟩, ?_⟩
  have hlocations : (t.volumeSnapshotLocations.map fun _ => t.volumeSnapshotLocations.getD []) =
      t.volumeSnapshotLocations := by
    cases t.volumeSnapshotLocations <;> rfl
  rw [BackupRequest.terms_eq (r := ⟨name, t.asking isOneTime⟩) httl h.locations]
  change Except.ok { t with
    volumeSnapshotLocations := t.volumeSnapshotLocations.map fun _ => _ } = Except.ok t
  rw [hlocations]

theorem BackupPatch.validate_eq_ok {p : BackupPatch} : p.validate = .ok () ↔
    (p.storageLocation ≠ "" → Limits.storageLocation.checkDnsName p.storageLocation = .ok ()) ∧
    (p.ttl ≠ "" → ∃ ttl, Limits.ttl.readTtl p.ttl = .ok ttl) ∧
    checkNamespaceRange p.includedNamespaces p.excludedNamespaces = .ok () ∧
    (p.volumeSnapshotLocations.isSome →
      ∃ locations, distinctLocations false p.volumeSnapshotLocations = .ok locations) := by
  simp only [validate, ite_check_eq_ok, ite_pure_eq_ok, bind_eq_ok, exists_unit_eq_ok,
    discard_eq_ok]

theorem BackupPatch.settle_ok {t t' : BackupTerms} (h : settle t = (t', .ok ())) :
    ∃ locations, distinctLocations (t.snapshotMoveData.getD false) t.volumeSnapshotLocations =
        .ok locations ∧
      checkNamespaceRange t.includedNamespaces t.excludedNamespaces = .ok () ∧
      t' = { t with volumeSnapshotLocations := t.volumeSnapshotLocations.map fun _ => locations } := by
  simp only [settle] at h
  split at h
  · cases h
  · rename_i hnamespaces
    split at h
    · cases h
    · rename_i locations hlocations
      cases h
      exact ⟨locations, hlocations, hnamespaces, rfl⟩

theorem BackupPatch.sound_applyToTerms {p : BackupPatch} {t t' : BackupTerms}
    (hp : p.validate = .ok ()) (ht : t.Sound) (h : p.applyToTerms t = (t', .ok ())) : t'.Sound := by
  obtain ⟨hstorage, -⟩ := validate_eq_ok.mp hp
  simp only [applyToTerms] at h
  split at h
  · cases h
  · rename_i ttl httl
    obtain ⟨locations, hlocations, hnamespaces, rfl⟩ := settle_ok h
    refine ⟨?_, ?_, hnamespaces, distinctLocations_map hlocations⟩
    · exact check_overwrite Limits.storageLocation.checkDnsName ht.storageLocation hstorage
    · split at httl
      · cases httl
        exact ht.ttl
      · exact readTtl_le httl

end Terms

section Backups

theorem BackupRequest.validate_eq_ok {r : BackupRequest} : r.validate true = .ok () ↔
    Limits.backupName.checkDnsName r.name = .ok () ∧ r.fields.isOneTime.isSome ∧
      validateTerms r.fields = .ok () := by
  simp only [validate, if_true, bind_eq_ok, exists_unit_eq_ok]
  cases r.fields.isOneTime with
  | none => simp only [Option.isNone_none, if_true, bind_eq_ok, throw_ne_ok, false_and,
      exists_false, and_false, Option.isSome_none, Bool.false_eq_true]
  | some isOneTime => simp only [Option.isNone_some, Bool.false_eq_true, if_false,
      Option.isSome_some, true_and]

theorem BackupRequest.entry_eq_ok {r : BackupRequest} {b : Backup} :
    r.entry = .ok b ↔ ∃ t, r.terms = .ok t ∧ ⟨r.name, r.fields.isOneTime, t⟩ = b := by
  simp only [entry, bind_eq_ok, pure_eq_ok]

theorem Kind.sound_backup_iff [Cron.Library] {b : Backup} : Kind.backup.Sound b ↔
    Limits.backupName.checkDnsName b.name = .ok () ∧ b.isOneTime.isSome ∧ b.terms.Sound := by
  constructor
  · rintro ⟨hvalid, hentry⟩
    obtain ⟨hname, hone, hterms⟩ := BackupRequest.validate_eq_ok.mp hvalid
    obtain ⟨t, ht, hb⟩ := BackupRequest.entry_eq_ok.mp hentry
    have hsame : t = b.terms := congrArg Backup.terms hb
    rw [hsame] at ht
    exact ⟨hname, hone, BackupRequest.sound_of_terms hterms ht⟩
  · rintro ⟨hname, hone, hterms⟩
    obtain ⟨hvalid, hentry⟩ := hterms.asking b.name b.isOneTime
    exact ⟨BackupRequest.validate_eq_ok.mpr ⟨hname, hone, hvalid⟩,
      BackupRequest.entry_eq_ok.mpr ⟨_, hentry, rfl⟩⟩

end Backups

section Restores

theorem RestoreRequest.validate_eq_ok {r : RestoreRequest} : r.validate = .ok () ↔
    Limits.restoreName.checkDnsName r.name = .ok () ∧
    Limits.backupName.checkDnsName r.fields.backupName = .ok () ∧
    checkNamespaceRange r.fields.includedNamespaces r.fields.excludedNamespaces = .ok () := by
  simp only [validate, bind_eq_ok, exists_unit_eq_ok]

theorem RestorePatch.validate_eq_ok {p : RestorePatch} : p.validate = .ok () ↔
    (p.backupName ≠ "" → Limits.backupName.checkDnsName p.backupName = .ok ()) ∧
      checkNamespaceRange p.includedNamespaces p.excludedNamespaces = .ok () := by
  simp only [validate, ite_check_eq_ok]

end Restores

section Schedules

theorem ScheduleRequest.validate_eq_ok [Cron.Library] {r : ScheduleRequest} : r.validate = .ok () ↔
    Limits.scheduleName.checkDnsName r.name = .ok () ∧
    Limits.schedule.checkCron r.schedule = .ok () ∧
    BackupRequest.validateTerms r.template.fields = .ok () := by
  simp only [validate, bind_eq_ok, exists_unit_eq_ok, BackupRequest.validate, Bool.false_eq_true,
    if_false]

theorem ScheduleRequest.entry_eq_ok {r : ScheduleRequest} {s : Schedule} :
    r.entry = .ok s ↔ ∃ t, r.template.terms = .ok t ∧ ⟨r.name, r.schedule, r.paused, t⟩ = s := by
  simp only [entry, bind_eq_ok, pure_eq_ok]

theorem SchedulePatch.validate_eq_ok [Cron.Library] {p : SchedulePatch} : p.validate = .ok () ↔
    (p.schedule ≠ "" → Limits.schedule.checkCron p.schedule = .ok ()) ∧
      ∀ template, p.template = some template → template.isOneTime = none ∧
        template.validate = .ok () := by
  simp only [validate, ite_check_eq_ok]
  apply and_congr_right
  intro _
  cases p.template with
  | none => exact ⟨fun _ => nofun, fun _ => rfl⟩
  | some template =>
      simp only [validateTemplate, Option.some.injEq, forall_eq']
      cases template.isOneTime with
      | none => simp only [Option.isSome_none, Bool.false_eq_true, if_false, true_and]
      | some isOneTime => simp only [Option.isSome_some, if_true, bind_eq_ok, throw_ne_ok, false_and,
          exists_false, reduceCtorEq]

theorem Kind.sound_schedule_iff [Cron.Library] {s : Schedule} : Kind.schedule.Sound s ↔
    Limits.scheduleName.checkDnsName s.name = .ok () ∧
      Limits.schedule.checkCron s.schedule = .ok () ∧ s.template.Sound := by
  constructor
  · rintro ⟨hvalid, hentry⟩
    obtain ⟨hname, hcron, hterms⟩ := ScheduleRequest.validate_eq_ok.mp hvalid
    obtain ⟨t, ht, hs⟩ := ScheduleRequest.entry_eq_ok.mp hentry
    have hsame : t = s.template := congrArg Schedule.template hs
    rw [hsame] at ht
    exact ⟨hname, hcron, BackupRequest.sound_of_terms hterms ht⟩
  · rintro ⟨hname, hcron, hterms⟩
    obtain ⟨hvalid, hentry⟩ := hterms.asking "" none
    exact ⟨ScheduleRequest.validate_eq_ok.mpr ⟨hname, hcron, hvalid⟩,
      ScheduleRequest.entry_eq_ok.mpr ⟨_, hentry, rfl⟩⟩

end Schedules

namespace Kind

/-- The entry that a valid request asks for is sound. -/
theorem sound_of_request [Cron.Library] (k : Kind) {r : k.Request} {e : k.Entry}
    (hvalid : k.validateRequest r = .ok ()) (hentry : k.entryOf r = .ok e) : k.Sound e := by
  cases k with
  | storage =>
      cases hentry
      exact ⟨StorageRequest.validate_asking_entry hvalid,
        congrArg Except.ok (Storage.entry_asking _)⟩
  | backup =>
      obtain ⟨hname, hone, hterms⟩ := BackupRequest.validate_eq_ok.mp hvalid
      obtain ⟨t, ht, rfl⟩ := BackupRequest.entry_eq_ok.mp hentry
      exact sound_backup_iff.mpr ⟨hname, hone, BackupRequest.sound_of_terms hterms ht⟩
  | restore =>
      cases hentry
      exact ⟨hvalid, rfl⟩
  | schedule =>
      obtain ⟨hname, hcron, hterms⟩ := ScheduleRequest.validate_eq_ok.mp hvalid
      obtain ⟨t, ht, rfl⟩ := ScheduleRequest.entry_eq_ok.mp hentry
      exact sound_schedule_iff.mpr ⟨hname, hcron, BackupRequest.sound_of_terms hterms ht⟩

theorem change_eq_ok {k : Kind} {p : k.Patch} {e changed : k.Entry} :
    k.change p e = .ok changed ↔ k.applyPatch p e = (changed, .ok ()) := by
  rw [change]
  split
  · rename_i entry happly
    rw [happly]
    exact ⟨fun h => by cases h; rfl, fun h => by cases h; rfl⟩
  · rename_i entry violation happly
    rw [happly]
    exact ⟨nofun, fun h => by cases h⟩

theorem sound_change [Cron.Library] {k : Kind} {p : k.Patch} {e changed : k.Entry}
    (hvalid : k.validatePatch p = .ok ()) (he : k.Sound e) (h : k.change p e = .ok changed) :
    k.Sound changed := by
  rw [change_eq_ok] at h
  cases k with
  | storage =>
      cases h
      exact ⟨StoragePatch.validate_apply hvalid he.valid,
        congrArg Except.ok (Storage.entry_asking _)⟩
  | backup =>
      obtain ⟨hname, hone, hterms⟩ := sound_backup_iff.mp he
      simp only [applyPatch, BackupPatch.apply, Prod.mk.injEq] at h
      obtain ⟨rfl, hverdict⟩ := h
      refine sound_backup_iff.mpr ⟨hname, ?_, BackupPatch.sound_applyToTerms hvalid hterms ?_⟩
      · rw [Option.isSome_or, hone, Bool.or_true]
      · exact Prod.ext rfl hverdict
  | restore =>
      obtain ⟨hname, hbackup, -⟩ := RestoreRequest.validate_eq_ok.mp he.valid
      obtain ⟨hbackup', -⟩ := RestorePatch.validate_eq_ok.mp hvalid
      simp only [applyPatch, RestorePatch.apply, Prod.mk.injEq] at h
      obtain ⟨rfl, hnamespaces⟩ := h
      have hchecked := check_overwrite Limits.backupName.checkDnsName hbackup hbackup'
      exact ⟨RestoreRequest.validate_eq_ok.mpr ⟨hname, hchecked, hnamespaces⟩, rfl⟩
  | schedule =>
      obtain ⟨hname, hcron, hterms⟩ := sound_schedule_iff.mp he
      obtain ⟨hcron', htemplate⟩ := SchedulePatch.validate_eq_ok.mp hvalid
      have hchecked := check_overwrite Limits.schedule.checkCron hcron hcron'
      simp only [applyPatch, SchedulePatch.apply] at h
      cases hpatch : p.template with
      | none =>
          simp only [hpatch, Prod.mk.injEq, and_true] at h
          rw [← h]
          exact sound_schedule_iff.mpr ⟨hname, hchecked, hterms⟩
      | some template =>
          simp only [hpatch, Prod.mk.injEq] at h
          obtain ⟨rfl, hverdict⟩ := h
          refine sound_schedule_iff.mpr ⟨hname, hchecked, ?_⟩
          exact BackupPatch.sound_applyToTerms (htemplate template hpatch).2 hterms
            (Prod.ext rfl hverdict)

theorem nameOf_change {k : Kind} {p : k.Patch} {e changed : k.Entry}
    (h : k.change p e = .ok changed) : k.nameOf changed = k.nameOf e := by
  rw [change_eq_ok] at h
  have hchanged := congrArg Prod.fst h
  cases k with
  | storage =>
      cases hchanged
      rfl
  | backup =>
      cases hchanged
      rfl
  | restore =>
      cases hchanged
      rfl
  | schedule =>
      cases hchanged
      rfl

end Kind

end ClusterOperator
