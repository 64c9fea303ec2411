import ClusterOperator.Proofs.Request.Asking

namespace ClusterOperator

/-- A text field before and after a change, which sets it unless the new text is empty. -/
structure TextChanged (new before after : String) : Prop where
  set : new ≠ "" → after = new
  kept : new = "" → after = before

/-- An optional field before and after a change, which sets it if there is a new value. -/
structure OptionChanged {α : Type} (new before after : Option α) : Prop where
  set : ∀ a, new = some a → after = some a
  kept : new = none → after = before

theorem textChanged_overwrite (new before : String) : TextChanged new before (overwrite before new) where
  set := fun h => if_neg h
  kept := fun h => if_pos h

theorem textChanged_self (text : String) : TextChanged text text text where
  set := fun _ => rfl
  kept := fun _ => rfl

theorem optionChanged_none {α : Type} {before after : Option α} (h : after = before) :
    OptionChanged none before after where
  set := by rintro _ ⟨⟩
  kept := fun _ => h

theorem optionChanged_some {α : Type} {before after : Option α} {a : α} (h : after = some a) :
    OptionChanged (some a) before after where
  set := by
    rintro _ ⟨⟩
    exact h
  kept := by rintro ⟨⟩

theorem optionChanged_or {α : Type} (new before : Option α) :
    OptionChanged new before (new.or before) where
  set := by
    rintro a rfl
    rfl
  kept := by
    rintro rfl
    rfl

/-- No name is in both lists. A missing list counts as an empty one. -/
def Apart (included excluded : Option (List String)) : Prop :=
  ∀ n ∈ excluded.getD [], n ∉ included.getD []

/-- The violations of the rules that join fields. -/
def Violation.IsJoint (v : Violation) : Prop :=
  v = .overlap ∨ v = .noLocations

section Namespaces

variable {included excluded included' excluded' : Option (List String)}

theorem checkNamespaceRange_of_apart (h : checkNamespaceRange included excluded = .ok ())
    (h' : checkNamespaceRange included' excluded' = .ok ())
    (hapart : Apart (included'.or included) (excluded'.or excluded)) :
    checkNamespaceRange (included'.or included) (excluded'.or excluded) = .ok () := by
  rw [checkNamespaceRange_eq_ok] at h h' ⊢
  refine ⟨?_, ?_, hapart⟩
  · cases included' with
    | none => exact h.1
    | some names => exact h'.1
  · cases excluded' with
    | none => exact h.2.1
    | some names => exact h'.2.1

theorem checkNamespaceRange_of_not_apart (h : checkNamespaceRange included excluded = .ok ())
    (h' : checkNamespaceRange included' excluded' = .ok ())
    (hapart : ¬Apart (included'.or included) (excluded'.or excluded)) :
    checkNamespaceRange (included'.or included) (excluded'.or excluded) = .error .overlap := by
  simp only [checkNamespaceRange, bind_eq_ok, exists_unit_eq_ok] at h h'
  have hincluded : checkNamespaces "IncludedNamespaces" ((included'.or included).getD []) = .ok () := by
    cases included' with
    | none => exact h.1
    | some names => exact h'.1
  have hexcluded : checkNamespaces "ExcludedNamespaces" ((excluded'.or excluded).getD []) = .ok () := by
    cases excluded' with
    | none => exact h.2.1
    | some names => exact h'.2.1
  have hoverlap : ((excluded'.or excluded).getD []).any (· ∈ (included'.or included).getD []) := by
    simp only [Apart, not_forall, not_not] at hapart
    obtain ⟨n, hn, hmem⟩ := hapart
    exact List.any_eq_true.mpr ⟨n, hn, decide_eq_true hmem⟩
  simp only [checkNamespaceRange, hincluded, hexcluded, hoverlap, bind, Except.bind, if_true]

end Namespaces

section Terms

variable {p : BackupPatch} {t : BackupTerms}

/-- What the patch makes of the terms keeps the rules that join fields. -/
structure BackupPatch.Fits (p : BackupPatch) (t : BackupTerms) : Prop where
  namespaces : Apart (p.includedNamespaces.or t.includedNamespaces)
    (p.excludedNamespaces.or t.excludedNamespaces)
  locations : p.snapshotMoveData.or t.snapshotMoveData = some true →
    (p.volumeSnapshotLocations.or t.volumeSnapshotLocations).getD [] ≠ []

/-- The terms of a backup before and after a patch. Locations lose their repetitions, and a lifetime
is read from its text. -/
structure BackupPatch.Makes (p : BackupPatch) (before after : BackupTerms) : Prop where
  includedNamespaces :
    OptionChanged p.includedNamespaces before.includedNamespaces after.includedNamespaces
  excludedNamespaces :
    OptionChanged p.excludedNamespaces before.excludedNamespaces after.excludedNamespaces
  ttl_set : p.ttl ≠ "" → Duration.parse p.ttl = .ok after.ttl
  ttl_kept : p.ttl = "" → after.ttl = before.ttl
  storageLocation : TextChanged p.storageLocation before.storageLocation after.storageLocation
  defaultVolumesToFsBackup : OptionChanged p.defaultVolumesToFsBackup
    before.defaultVolumesToFsBackup after.defaultVolumesToFsBackup
  volumeSnapshotLocations : OptionChanged (p.volumeSnapshotLocations.map List.eraseDups)
    before.volumeSnapshotLocations after.volumeSnapshotLocations
  snapshotMoveData : OptionChanged p.snapshotMoveData before.snapshotMoveData after.snapshotMoveData

theorem BackupTerms.Sound.eraseDups_locations (h : t.Sound) :
    t.volumeSnapshotLocations.map List.eraseDups = t.volumeSnapshotLocations := by
  have hlocations := h.locations
  obtain ⟨-, -, hdns, -⟩ := distinctLocations_ok hlocations
  rw [distinctLocations_eq _ hdns] at hlocations
  split at hlocations
  · cases hlocations
  · have hsame := Except.ok.inj hlocations
    cases hasked : t.volumeSnapshotLocations with
    | none => rfl
    | some locations =>
        rw [hasked] at hsame
        exact congrArg some hsame

theorem isDnsName_of_mem_locations (hp : p.validate = .ok ()) (ht : t.Sound) :
    ∀ n ∈ (p.volumeSnapshotLocations.or t.volumeSnapshotLocations).getD [], isDnsName n := by
  obtain ⟨-, -, -, hlocations⟩ := BackupPatch.validate_eq_ok.mp hp
  cases hasked : p.volumeSnapshotLocations with
  | none =>
      obtain ⟨-, -, hdns, -⟩ := distinctLocations_ok ht.locations
      exact hdns
  | some asked =>
      rw [hasked] at hlocations
      obtain ⟨locations, hchecked⟩ := hlocations rfl
      obtain ⟨-, -, hdns, -⟩ := distinctLocations_ok hchecked
      exact hdns

theorem BackupPatch.exists_ttl (hp : p.validate = .ok ()) (before : Duration) :
    ∃ ttl, (if p.ttl = "" then .ok before else Limits.ttl.readTtl p.ttl) = Except.ok ttl ∧
      (p.ttl ≠ "" → Duration.parse p.ttl = .ok ttl) ∧ (p.ttl = "" → ttl = before) := by
  by_cases hempty : p.ttl = ""
  · exact ⟨before, if_pos hempty, fun h => absurd hempty h, fun _ => rfl⟩
  · obtain ⟨-, httl, -⟩ := validate_eq_ok.mp hp
    obtain ⟨ttl, hread⟩ := httl hempty
    refine ⟨ttl, by rw [if_neg hempty, hread], fun _ => ?_, fun h => absurd h hempty⟩
    rcases readTtl_eq_ok_iff.mp hread with ⟨hnone, -⟩ | ⟨-, hparse⟩
    · exact absurd hnone hempty
    · exact hparse

theorem BackupPatch.applyToTerms_cases (hp : p.validate = .ok ()) (ht : t.Sound) :
    (p.Fits t ∧ ∃ t', p.applyToTerms t = (t', .ok ()) ∧ p.Makes t t') ∨
      (¬p.Fits t ∧ ∃ v, v.IsJoint ∧ (p.applyToTerms t).2 = .error v) := by
  obtain ⟨-, -, hnamespaces, -⟩ := validate_eq_ok.mp hp
  obtain ⟨ttl, httl, hset, hkept⟩ := exists_ttl hp t.ttl
  have hlocations := distinctLocations_eq ((p.snapshotMoveData.or t.snapshotMoveData).getD false)
    (isDnsName_of_mem_locations hp ht)
  simp only [applyToTerms, httl, settle]
  by_cases hapart : Apart (p.includedNamespaces.or t.includedNamespaces)
    (p.excludedNamespaces.or t.excludedNamespaces)
  · rw [checkNamespaceRange_of_apart ht.namespaces hnamespaces hapart]
    by_cases hneeded : (p.snapshotMoveData.or t.snapshotMoveData).getD false = true ∧
      (p.volumeSnapshotLocations.or t.volumeSnapshotLocations).getD [] = []
    · rw [if_pos hneeded] at hlocations
      refine .inr ⟨fun hfits => hfits.locations ?_ hneeded.2, .noLocations, .inr rfl, ?_⟩
      · obtain ⟨hmoves, -⟩ := hneeded
        cases hvalue : p.snapshotMoveData.or t.snapshotMoveData with
        | none =>
            rw [hvalue] at hmoves
            cases hmoves
        | some moves =>
            rw [hvalue] at hmoves
            exact congrArg some hmoves
      · rw [hlocations]
    · rw [if_neg hneeded] at hlocations
      refine .inl ⟨⟨hapart, fun hmoves hnone => hneeded ⟨by rw [hmoves]; rfl, hnone⟩⟩, {
        includedNamespaces := p.includedNamespaces.or t.includedNamespaces
        excludedNamespaces := p.excludedNamespaces.or t.excludedNamespaces
        ttl
        storageLocation := overwrite t.storageLocation p.storageLocation
        defaultVolumesToFsBackup := p.defaultVolumesToFsBackup.or t.defaultVolumesToFsBackup
        volumeSnapshotLocations := (p.volumeSnapshotLocations.or t.volumeSnapshotLocations).map
          fun _ => ((p.volumeSnapshotLocations.or t.volumeSnapshotLocations).getD []).eraseDups
        snapshotMoveData := p.snapshotMoveData.or t.snapshotMoveData }, ?_, ?_⟩
      · rw [hlocations]
      · refine ⟨optionChanged_or _ _, optionChanged_or _ _, hset, hkept, textChanged_overwrite _ _,
          optionChanged_or _ _, ?_, optionChanged_or _ _⟩
        cases hasked : p.volumeSnapshotLocations with
        | none =>
            refine optionChanged_none ?_
            have hsame := ht.eraseDups_locations
            cases hbefore : t.volumeSnapshotLocations with
            | none => rfl
            | some locations =>
                rw [hbefore] at hsame
                exact hsame
        | some asked => exact optionChanged_some rfl
  · rw [checkNamespaceRange_of_not_apart ht.namespaces hnamespaces hapart]
    exact .inr ⟨fun hfits => hapart hfits.namespaces, .overlap, .inl rfl, rfl⟩

end Terms

/-- A storage location before and after a patch. -/
structure StoragePatch.Makes (p : StoragePatch) (before after : Storage) : Prop where
  name : after.name = before.name
  provider : TextChanged p.provider before.provider after.provider
  bucket : TextChanged p.bucket before.bucket after.bucket
  root : TextChanged p.root before.root after.root
  region : TextChanged p.region before.region after.region
  ip : TextChanged p.ip before.ip after.ip
  port : OptionChanged (p.port.map Int64.toInt) (before.port.map Int32.toInt)
    (after.port.map Int32.toInt)
  accessKey : TextChanged p.accessKey before.accessKey after.accessKey
  secretKey : TextChanged p.secretKey before.secretKey after.secretKey
  isDefault : OptionChanged p.isDefault before.isDefault after.isDefault

/-- A backup before and after a patch. -/
structure BackupPatch.MakesBackup (p : BackupPatch) (before after : Backup) : Prop where
  name : after.name = before.name
  isOneTime : OptionChanged p.isOneTime before.isOneTime after.isOneTime
  terms : p.Makes before.terms after.terms

/-- A restore before and after a patch. -/
structure RestorePatch.Makes (p : RestorePatch) (before after : Restore) : Prop where
  name : after.name = before.name
  backupName : TextChanged p.backupName before.backupName after.backupName
  includedNamespaces :
    OptionChanged p.includedNamespaces before.includedNamespaces after.includedNamespaces
  excludedNamespaces :
    OptionChanged p.excludedNamespaces before.excludedNamespaces after.excludedNamespaces

/-- A schedule before and after a patch, whose template is a patch of its own. -/
structure SchedulePatch.Makes (p : SchedulePatch) (before after : Schedule) : Prop where
  name : after.name = before.name
  schedule : TextChanged p.schedule before.schedule after.schedule
  paused : OptionChanged p.paused before.paused after.paused
  template_set : ∀ template, p.template = some template → template.Makes before.template after.template
  template_kept : p.template = none → after.template = before.template

theorem StoragePatch.makes_apply {p : StoragePatch} (hp : p.validate = .ok ()) (s : Storage) :
    p.Makes s (p.apply s) := by
  refine ⟨rfl, textChanged_overwrite _ _, textChanged_overwrite _ _, textChanged_overwrite _ _,
    textChanged_overwrite _ _, textChanged_overwrite _ _, ?_, textChanged_overwrite _ _,
    textChanged_overwrite _ _, optionChanged_or _ _⟩
  obtain ⟨-, -, -, -, -, hport, -⟩ := validate_eq_ok.mp hp
  cases hasked : p.port with
  | none =>
      refine optionChanged_none ?_
      rw [apply, hasked]
      rfl
  | some n =>
      rw [hasked] at hport
      refine optionChanged_some ?_
      rw [apply, hasked, ← toInt_toInt32_of_port hport]
      rfl

namespace Kind

/-- What the patch makes of the entry keeps the rules that join fields. -/
def Fits : (k : Kind) → k.Patch → k.Entry → Prop
  | storage, _, _ => True
  | backup, p, b => BackupPatch.Fits p (Backup.terms b)
  | restore, p, r => Apart (p.includedNamespaces.or (Restore.includedNamespaces r))
      (p.excludedNamespaces.or (Restore.excludedNamespaces r))
  | schedule, p, s => ∀ template, SchedulePatch.template p = some template →
      template.Fits (Schedule.template s)

/-- An entry before and after a patch. -/
def Makes : (k : Kind) → k.Patch → (before after : k.Entry) → Prop
  | storage, p, before, after => StoragePatch.Makes p before after
  | backup, p, before, after => BackupPatch.MakesBackup p before after
  | restore, p, before, after => RestorePatch.Makes p before after
  | schedule, p, before, after => SchedulePatch.Makes p before after

theorem change_of_error {k : Kind} {p : k.Patch} {e : k.Entry} {v : Violation}
    (h : (k.applyPatch p e).2 = .error v) : k.change p e = .error (.ofViolation v) := by
  rw [change]
  split
  · rename_i happly
    rw [happly] at h
    cases h
  · rename_i happly
    rw [happly] at h
    cases h
    rfl

/-- What comes of a patch: an entry as it says, if the patch fits, and else the breach of a rule that
joins fields. -/
inductive Applied (k : Kind) (p : k.Patch) (e : k.Entry) : Prop
  | fits (hfits : k.Fits p e) (hok : (k.applyPatch p e).2 = .ok ())
      (hmakes : k.Makes p e (k.applyPatch p e).1) : Applied k p e
  | breaks {v : Violation} (hfits : ¬k.Fits p e) (hv : v.IsJoint)
      (herror : (k.applyPatch p e).2 = .error v) : Applied k p e

theorem applied_backup {p : BackupPatch} {b : Backup} (hp : p.validate = .ok ())
    (hterms : b.terms.Sound) : backup.Applied p b := by
  rcases BackupPatch.applyToTerms_cases hp hterms with
    ⟨hfits, t', happly, hmakes⟩ | ⟨hfits, v, hv, happly⟩
  · refine .fits hfits ?_ ⟨rfl, optionChanged_or _ _, ?_⟩
    · simp only [applyPatch, BackupPatch.apply, happly]
    · simp only [applyPatch, BackupPatch.apply, happly]
      exact hmakes
  · exact .breaks hfits hv happly

theorem applied_restore {p : RestorePatch} {r : Restore}
    (hasked : checkNamespaceRange p.includedNamespaces p.excludedNamespaces = .ok ())
    (hbefore : checkNamespaceRange r.includedNamespaces r.excludedNamespaces = .ok ()) :
    restore.Applied p r := by
  by_cases hapart : restore.Fits p r
  · exact .fits hapart (checkNamespaceRange_of_apart hbefore hasked hapart)
      ⟨rfl, textChanged_overwrite _ _, optionChanged_or _ _, optionChanged_or _ _⟩
  · exact .breaks hapart (.inl rfl) (checkNamespaceRange_of_not_apart hbefore hasked hapart)

theorem applied_schedule {p : SchedulePatch} {s : Schedule}
    (hp : ∀ template, p.template = some template → template.validate = .ok ())
    (hterms : s.template.Sound) : schedule.Applied p s := by
  cases hasked : p.template with
  | none =>
      have hnone {Q : BackupPatch → Prop} : ∀ template, p.template = some template → Q template := by
        intro template htemplate
        rw [hasked] at htemplate
        cases htemplate
      refine .fits hnone ?_ ⟨rfl, textChanged_overwrite _ _, optionChanged_or _ _, hnone, fun _ => ?_⟩
      · simp only [applyPatch, SchedulePatch.apply, hasked]
      · simp only [applyPatch, SchedulePatch.apply, hasked]
  | some patch =>
      have honly {Q : BackupPatch → Prop} (h : Q patch) :
          ∀ template, p.template = some template → Q template := by
        intro template htemplate
        cases hasked.symm.trans htemplate
        exact h
      rcases BackupPatch.applyToTerms_cases (hp patch hasked) hterms with
        ⟨hfits, t', happly, hmakes⟩ | ⟨hfits, v, hv, happly⟩
      · refine .fits (honly hfits) ?_ ⟨rfl, textChanged_overwrite _ _, optionChanged_or _ _,
          honly ?_, fun h => ?_⟩
        · simp only [applyPatch, SchedulePatch.apply, hasked, happly]
        · simp only [applyPatch, SchedulePatch.apply, hasked, happly]
          exact hmakes
        · rw [hasked] at h
          cases h
      · refine .breaks (fun h => hfits (h patch hasked)) hv ?_
        simp only [applyPatch, SchedulePatch.apply, hasked, happly]

theorem Sound.applied [Cron.Library] {k : Kind} {p : k.Patch} {e : k.Entry} (he : k.Sound e)
    (hp : k.validatePatch p = .ok ()) : k.Applied p e := by
  cases k with
  | storage => exact .fits trivial rfl (StoragePatch.makes_apply hp e)
  | backup =>
      obtain ⟨-, -, hterms⟩ := sound_backup_iff.mp he
      exact applied_backup hp hterms
  | restore =>
      obtain ⟨-, -, hbefore⟩ := RestoreRequest.validate_eq_ok.mp he.valid
      obtain ⟨-, hasked⟩ := RestorePatch.validate_eq_ok.mp hp
      exact applied_restore hasked hbefore
  | schedule =>
      obtain ⟨-, -, hterms⟩ := sound_schedule_iff.mp he
      obtain ⟨-, htemplates⟩ := SchedulePatch.validate_eq_ok.mp hp
      exact applied_schedule (fun template h => (htemplates template h).2) hterms

/-- A valid patch changes a sound entry as it says if it fits the entry, and else breaks a rule that
joins fields. -/
theorem change_cases [Cron.Library] {k : Kind} {p : k.Patch} {e : k.Entry}
    (hp : k.validatePatch p = .ok ()) (he : k.Sound e) :
    (k.Fits p e ∧ ∃ changed, k.change p e = .ok changed ∧ k.Makes p e changed) ∨
      (¬k.Fits p e ∧ ∃ v, v.IsJoint ∧ k.change p e = .error (.ofViolation v)) := by
  cases he.applied hp with
  | fits hfits hok hmakes =>
      exact .inl ⟨hfits, (k.applyPatch p e).1, change_eq_ok.mpr (Prod.ext rfl hok), hmakes⟩
  | breaks hfits hv herror => exact .inr ⟨hfits, _, hv, change_of_error herror⟩

end Kind

end ClusterOperator
