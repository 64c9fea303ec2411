import ClusterOperator.Proofs.Request.Completion
import ClusterOperator.Proofs.Request.Composing

namespace ClusterOperator

open Json

/-- The patch that says again all that is seen of an entry but its name. -/
def Kind.restating : (k : Kind) → k.Entry → k.Patch
  | storage, e => (Storage.asking (Storage.complete e)).fields
  | backup, e => (Backup.asking (Backup.complete e)).fields
  | restore, e => (Restore.asking (Restore.complete e)).fields
  | schedule, e =>
      ⟨Schedule.schedule e, some ((Schedule.paused e).getD false),
        some ((Schedule.template e).complete.asking none)⟩

theorem Storage.decodePatch_view (s : Storage) :
    StoragePatch.decode (outline s.view.toJson) = .ok s.complete.asking.fields := by
  have hkeys : (s.seen.map Prod.fst).Nodup := by simp [seen]
  rw [view_toJson]
  exact Decode.record_obj s.yields_seen hkeys _

theorem BackupTerms.decodePatch_seen (t : BackupTerms) (name : Option String)
    (isOneTime : Option Bool) :
    BackupPatch.decode (outline (.obj (present (t.seen name isOneTime)))) =
      .ok (t.complete.asking isOneTime) := by
  have hkeys : ((t.seen name isOneTime).map Prod.fst).Nodup := by simp [seen]
  exact Decode.record_obj (t.yields_seen name isOneTime) hkeys _

theorem Restore.decodePatch_view (r : Restore) :
    RestorePatch.decode (outline r.view.toJson) = .ok r.complete.asking.fields := by
  have hkeys : (r.seen.map Prod.fst).Nodup := by simp [seen]
  exact Decode.record_obj r.yields_seen hkeys _

theorem Schedule.decodePatch_view (s : Schedule) :
    SchedulePatch.decode (outline s.view.toJson) = .ok (Kind.schedule.restating s) := by
  have hschedule : (Fields.text "schedule").Yields (outlined s.seen) s.schedule := .given rfl rfl
  have hpaused : (optionalFlag "paused").Yields (outlined s.seen) (some (s.paused.getD false)) :=
    yields_flag rfl
  have hdecode : Decode.optional BackupPatch.decode
      (outline (.obj (present (s.template.seen none none)))) =
        .ok (some (s.template.complete.asking none)) :=
    congrArg (Except.map some) (s.template.decodePatch_seen none none)
  have htemplate : (Fields.optional "template" BackupPatch.decode).Yields (outlined s.seen)
      (some (s.template.complete.asking none)) := .given rfl hdecode
  have hkeys : (s.seen.map Prod.fst).Nodup := by simp [seen]
  exact Decode.record_obj (hschedule.map SchedulePatch.mk |>.seq hpaused |>.seq htemplate) hkeys _

/-- What is seen of an entry is read as a patch that says it again. The name is not read. -/
theorem Kind.decodePatch_viewJson {k : Kind} (e : k.Entry) :
    k.decodePatch (outline (k.viewJson e)) = .ok (k.restating e) := by
  cases k with
  | storage => exact Storage.decodePatch_view e
  | backup => exact BackupTerms.decodePatch_seen _ (some _) (some _)
  | restore => exact Restore.decodePatch_view e
  | schedule => exact Schedule.decodePatch_view e

section Terms

variable {t : BackupTerms} {isOneTime : Option Bool}

theorem BackupTerms.Sound.validate_asking (h : t.Sound) :
    (t.asking isOneTime).validate = .ok () := by
  obtain ⟨-, -, hdns, -⟩ := distinctLocations_ok h.locations
  have hlocations := (distinctLocations_eq false hdns).trans (if_neg (by simp))
  exact BackupPatch.validate_eq_ok.mpr ⟨fun _ => h.storageLocation,
    fun _ => ⟨_, readTtl_text h.ttl⟩, h.namespaces, fun _ => ⟨_, hlocations⟩⟩

theorem BackupTerms.Sound.fits_complete (h : t.Sound) : (t.complete.asking isOneTime).Fits t where
  namespaces := h.complete.fits_empty.namespaces
  locations := h.complete.fits_empty.locations

theorem BackupTerms.Sound.makes_complete (h : t.Sound) :
    (t.complete.asking isOneTime).Makes t t.complete where
  includedNamespaces := optionChanged_some rfl
  excludedNamespaces := optionChanged_some rfl
  ttl_set := fun _ => Duration.parse_text h.ttl
  ttl_kept := fun _ => rfl
  storageLocation := textChanged_self _
  defaultVolumesToFsBackup := optionChanged_some rfl
  volumeSnapshotLocations := by
    rw [BackupTerms.asking, h.complete.eraseDups_locations]
    exact optionChanged_some rfl
  snapshotMoveData := optionChanged_some rfl

end Terms

namespace Kind

variable {k : Kind} {e : k.Entry}

theorem complete_complete (e : k.Entry) : k.complete (k.complete e) = k.complete e := by
  cases k <;> rfl

theorem Sound.validatePatch_restating [Cron.Library] (h : k.Sound e) :
    k.validatePatch (k.restating e) = .ok () := by
  cases k with
  | storage => exact (StorageRequest.validate_eq_ok.mp h.complete.valid).2
  | backup => exact (sound_backup_iff.mp h.complete).2.2.validate_asking
  | restore =>
      obtain ⟨-, hbackup, hnamespaces⟩ := RestoreRequest.validate_eq_ok.mp h.complete.valid
      exact RestorePatch.validate_eq_ok.mpr ⟨fun _ => hbackup, hnamespaces⟩
  | schedule =>
      obtain ⟨-, hcron, hterms⟩ := sound_schedule_iff.mp h
      refine SchedulePatch.validate_eq_ok.mpr ⟨fun _ => hcron, fun template hset => ?_⟩
      cases hset
      exact ⟨rfl, hterms.complete.validate_asking⟩

theorem Sound.fits_restating [Cron.Library] (h : k.Sound e) : k.Fits (k.restating e) e := by
  cases k with
  | storage => trivial
  | backup => exact (sound_backup_iff.mp h).2.2.fits_complete
  | restore =>
      obtain ⟨-, -, hnamespaces⟩ := RestoreRequest.validate_eq_ok.mp h.complete.valid
      exact (checkNamespaceRange_eq_ok.mp hnamespaces).2.2
  | schedule =>
      intro template hset
      cases hset
      exact (sound_schedule_iff.mp h).2.2.fits_complete

theorem Sound.makes_restating [Cron.Library] (h : k.Sound e) :
    k.Makes (k.restating e) e (k.complete e) := by
  cases k with
  | storage =>
      refine ⟨rfl, textChanged_self _, textChanged_self _, textChanged_self _, textChanged_self _,
        textChanged_self _, ?_, textChanged_self _, textChanged_self _, optionChanged_some rfl⟩
      change OptionChanged (((Storage.port e).map Int32.toInt64).map Int64.toInt)
        ((Storage.port e).map Int32.toInt) ((Storage.port e).map Int32.toInt)
      cases Storage.port e with
      | none => exact optionChanged_none rfl
      | some n => exact optionChanged_some (congrArg some n.toInt_toInt64.symm)
  | backup =>
      exact ⟨rfl, optionChanged_some rfl, (sound_backup_iff.mp h).2.2.makes_complete⟩
  | restore => exact ⟨rfl, textChanged_self _, optionChanged_some rfl, optionChanged_some rfl⟩
  | schedule =>
      refine ⟨rfl, textChanged_self _, optionChanged_some rfl, fun template hset => ?_, nofun⟩
      cases hset
      exact (sound_schedule_iff.mp h).2.2.makes_complete

end Kind

end ClusterOperator
