import ClusterOperator.Proofs.Request.Merging

namespace ClusterOperator

section Fields

variable {α : Type} {new new' before between after after' : Option α} {a b c c' p q : String}

theorem OptionChanged.after_eq (h : OptionChanged new before after) : after = new.or before := by
  cases new with
  | none => exact h.kept rfl
  | some a => exact h.set a rfl

theorem OptionChanged.unique (h : OptionChanged new before after)
    (h' : OptionChanged new before after') : after = after' :=
  h.after_eq.trans h'.after_eq.symm

theorem OptionChanged.trans (h : OptionChanged new before between)
    (h' : OptionChanged new' between after) : OptionChanged (new'.or new) before after := by
  rw [h'.after_eq, h.after_eq, ← Option.or_assoc]
  exact optionChanged_or _ _

theorem OptionChanged.again (h : OptionChanged new before after) : OptionChanged new after after :=
  ⟨h.set, fun _ => rfl⟩

theorem TextChanged.after_eq (h : TextChanged p a b) : b = overwrite a p := by
  by_cases hempty : p = ""
  · rw [h.kept hempty, overwrite, if_pos hempty]
  · rw [h.set hempty, overwrite, if_neg hempty]

theorem TextChanged.unique (h : TextChanged p a c) (h' : TextChanged p a c') : c = c' :=
  h.after_eq.trans h'.after_eq.symm

theorem overwrite_overwrite (a p q : String) :
    overwrite (overwrite a p) q = overwrite a (overwrite p q) := by
  by_cases hq : q = ""
  · rw [overwrite, if_pos hq, overwrite, overwrite, overwrite, if_pos hq]
  · simp only [overwrite, if_neg hq]

theorem TextChanged.trans (h : TextChanged p a b) (h' : TextChanged q b c) :
    TextChanged (overwrite p q) a c := by
  rw [h'.after_eq, h.after_eq, overwrite_overwrite]
  exact textChanged_overwrite _ _

theorem TextChanged.again (h : TextChanged p a b) : TextChanged p b b :=
  ⟨h.set, fun _ => rfl⟩

theorem textChanged_empty (a : String) : TextChanged "" a a :=
  ⟨fun h => absurd rfl h, fun _ => rfl⟩

theorem overwrite_of_ne (property : String → Prop) (hp : p ≠ "" → property p)
    (hq : q ≠ "" → property q) : overwrite p q ≠ "" → property (overwrite p q) := by
  rw [overwrite]
  split
  · exact hp
  · exact fun _ => hq ‹_›

theorem Apart.of_or {included excluded included' excluded' : Option (List String)}
    (h : Apart (included'.or included) (excluded'.or excluded)) : Apart included' excluded' := by
  intro n hn hmem
  cases included' with
  | none => exact absurd hmem List.not_mem_nil
  | some names =>
      cases excluded' with
      | none => exact absurd hn List.not_mem_nil
      | some others => exact h n hn hmem

end Fields

/-- What the second patch sets, and else what the first one sets. -/
def StoragePatch.followedBy (p q : StoragePatch) : StoragePatch where
  provider := overwrite p.provider q.provider
  bucket := overwrite p.bucket q.bucket
  root := overwrite p.root q.root
  region := overwrite p.region q.region
  ip := overwrite p.ip q.ip
  port := q.port.or p.port
  accessKey := overwrite p.accessKey q.accessKey
  secretKey := overwrite p.secretKey q.secretKey
  isDefault := q.isDefault.or p.isDefault

def BackupPatch.followedBy (p q : BackupPatch) : BackupPatch where
  isOneTime := q.isOneTime.or p.isOneTime
  includedNamespaces := q.includedNamespaces.or p.includedNamespaces
  excludedNamespaces := q.excludedNamespaces.or p.excludedNamespaces
  ttl := overwrite p.ttl q.ttl
  storageLocation := overwrite p.storageLocation q.storageLocation
  defaultVolumesToFsBackup := q.defaultVolumesToFsBackup.or p.defaultVolumesToFsBackup
  volumeSnapshotLocations := q.volumeSnapshotLocations.or p.volumeSnapshotLocations
  snapshotMoveData := q.snapshotMoveData.or p.snapshotMoveData

def RestorePatch.followedBy (p q : RestorePatch) : RestorePatch where
  backupName := overwrite p.backupName q.backupName
  includedNamespaces := q.includedNamespaces.or p.includedNamespaces
  excludedNamespaces := q.excludedNamespaces.or p.excludedNamespaces

def SchedulePatch.followedBy (p q : SchedulePatch) : SchedulePatch where
  schedule := overwrite p.schedule q.schedule
  paused := q.paused.or p.paused
  template := p.template.merge BackupPatch.followedBy q.template

/-- The template of two patches is that of either one, or both one after the other. -/
theorem SchedulePatch.template_followedBy {p q : SchedulePatch} {template : BackupPatch}
    (h : (p.followedBy q).template = some template) :
    (p.template = none ∧ q.template = some template) ∨
      (p.template = some template ∧ q.template = none) ∨
        ∃ first second, p.template = some first ∧ q.template = some second ∧
          first.followedBy second = template := by
  rw [followedBy] at h
  cases hp : p.template with
  | none =>
      rw [hp, Option.merge_none_left] at h
      exact .inl ⟨rfl, h⟩
  | some first =>
      cases hq : q.template with
      | none =>
          rw [hp, hq, Option.merge_none_right] at h
          exact .inr (.inl ⟨h, rfl⟩)
      | some second =>
          rw [hp, hq] at h
          exact .inr (.inr ⟨first, second, rfl, rfl, Option.some.inj h⟩)

namespace Kind

def followedBy : (k : Kind) → k.Patch → k.Patch → k.Patch
  | storage, p, q => StoragePatch.followedBy p q
  | backup, p, q => BackupPatch.followedBy p q
  | restore, p, q => RestorePatch.followedBy p q
  | schedule, p, q => SchedulePatch.followedBy p q

/-- The patches that set nothing. The template of a schedule may be missing or set nothing. -/
def SetsNothing : (k : Kind) → k.Patch → Prop
  | storage, p => p = StoragePatch.empty
  | backup, p => p = BackupPatch.empty
  | restore, p => p = RestorePatch.empty
  | schedule, p => p = SchedulePatch.empty ∨
      p = { SchedulePatch.empty with template := some .empty }

end Kind

section Terms

variable {p q : BackupPatch} {t t' t'' : BackupTerms}

theorem BackupPatch.Makes.unique (h : p.Makes t t') (h' : p.Makes t t'') : t' = t'' := by
  have httl : t'.ttl = t''.ttl := by
    by_cases hempty : p.ttl = ""
    · rw [h.ttl_kept hempty, h'.ttl_kept hempty]
    · exact Except.ok.inj ((h.ttl_set hempty).symm.trans (h'.ttl_set hempty))
  obtain ⟨included, excluded, ttl, location, volumes, locations, moves⟩ := t'
  cases h.includedNamespaces.unique h'.includedNamespaces
  cases h.excludedNamespaces.unique h'.excludedNamespaces
  cases httl
  cases h.storageLocation.unique h'.storageLocation
  cases h.defaultVolumesToFsBackup.unique h'.defaultVolumesToFsBackup
  cases h.volumeSnapshotLocations.unique h'.volumeSnapshotLocations
  cases h.snapshotMoveData.unique h'.snapshotMoveData
  rfl

theorem BackupPatch.Makes.trans (h : p.Makes t t') (h' : q.Makes t' t'') :
    (p.followedBy q).Makes t t'' where
  includedNamespaces := h.includedNamespaces.trans h'.includedNamespaces
  excludedNamespaces := h.excludedNamespaces.trans h'.excludedNamespaces
  ttl_set := by
    rw [followedBy, overwrite]
    split
    · intro hset
      rw [h'.ttl_kept ‹_›]
      exact h.ttl_set hset
    · exact h'.ttl_set
  ttl_kept := by
    rw [followedBy, overwrite]
    split
    · intro hempty
      rw [h'.ttl_kept ‹_›, h.ttl_kept hempty]
    · intro hempty
      exact absurd hempty ‹_›
  storageLocation := h.storageLocation.trans h'.storageLocation
  defaultVolumesToFsBackup := h.defaultVolumesToFsBackup.trans h'.defaultVolumesToFsBackup
  volumeSnapshotLocations := by
    rw [followedBy, Option.map_or]
    exact h.volumeSnapshotLocations.trans h'.volumeSnapshotLocations
  snapshotMoveData := h.snapshotMoveData.trans h'.snapshotMoveData

theorem BackupPatch.Makes.again (h : p.Makes t t') : p.Makes t' t' where
  includedNamespaces := h.includedNamespaces.again
  excludedNamespaces := h.excludedNamespaces.again
  ttl_set := h.ttl_set
  ttl_kept := fun _ => rfl
  storageLocation := h.storageLocation.again
  defaultVolumesToFsBackup := h.defaultVolumesToFsBackup.again
  volumeSnapshotLocations := h.volumeSnapshotLocations.again
  snapshotMoveData := h.snapshotMoveData.again

theorem BackupPatch.makes_empty (t : BackupTerms) : BackupPatch.empty.Makes t t :=
  ⟨optionChanged_none rfl, optionChanged_none rfl, fun h => absurd rfl h, fun _ => rfl,
    textChanged_empty _, optionChanged_none rfl, optionChanged_none rfl, optionChanged_none rfl⟩

theorem eraseDups_or_eq_nil_iff (locations before : Option (List String)) :
    ((locations.map List.eraseDups).or before).getD [] = [] ↔ (locations.or before).getD [] = [] := by
  cases locations with
  | none => rfl
  | some names =>
      cases names with
      | nil => rfl
      | cons n rest => simp [List.eraseDups_cons]

theorem BackupPatch.Fits.followedBy (hmakes : p.Makes t t') (h : q.Fits t') :
    (p.followedBy q).Fits t where
  namespaces := by
    have hapart := h.namespaces
    rw [hmakes.includedNamespaces.after_eq, hmakes.excludedNamespaces.after_eq, ← Option.or_assoc,
      ← Option.or_assoc] at hapart
    exact hapart
  locations := by
    intro hmoves hnone
    have hlocations := h.locations
    rw [hmakes.snapshotMoveData.after_eq, ← Option.or_assoc] at hlocations
    apply hlocations hmoves
    rw [hmakes.volumeSnapshotLocations.after_eq]
    rw [BackupPatch.followedBy, Option.or_assoc] at hnone
    cases hasked : q.volumeSnapshotLocations with
    | none =>
        rw [hasked] at hnone
        exact (eraseDups_or_eq_nil_iff _ _).mpr hnone
    | some names =>
        rw [hasked] at hnone
        exact hnone

theorem BackupPatch.Fits.again (hmakes : p.Makes t t') (h : p.Fits t) : p.Fits t' where
  namespaces := by
    rw [hmakes.includedNamespaces.after_eq, hmakes.excludedNamespaces.after_eq, ← Option.or_assoc,
      ← Option.or_assoc, Option.or_self, Option.or_self]
    exact h.namespaces
  locations := by
    rw [hmakes.snapshotMoveData.after_eq, ← Option.or_assoc, Option.or_self,
      hmakes.volumeSnapshotLocations.after_eq]
    intro hmoves hnone
    apply h.locations hmoves
    cases hasked : p.volumeSnapshotLocations with
    | none =>
        rw [hasked] at hnone
        exact hnone
    | some names =>
        rw [hasked] at hnone
        exact hnone

theorem BackupTerms.Sound.fits_empty (h : t.Sound) : BackupPatch.empty.Fits t where
  namespaces := (checkNamespaceRange_eq_ok.mp h.namespaces).2.2
  locations := by
    intro hmoves hnone
    have hlocations := h.locations
    have hmoves' : t.snapshotMoveData = some true := hmoves
    have hnone' : t.volumeSnapshotLocations.getD [] = [] := hnone
    rw [distinctLocations_eq _ (by rw [hnone']; simp), hmoves', hnone'] at hlocations
    simp at hlocations

theorem BackupPatch.validate_followedBy (hp : p.validate = .ok ()) (hq : q.validate = .ok ())
    (hmakes : p.Makes t t') (hfits : q.Fits t') : (p.followedBy q).validate = .ok () := by
  have hfits' := BackupPatch.Fits.followedBy hmakes hfits
  obtain ⟨hlocation, httl, hnamespaces, hlocations⟩ := validate_eq_ok.mp hp
  obtain ⟨hlocation', httl', hnamespaces', hlocations'⟩ := validate_eq_ok.mp hq
  refine validate_eq_ok.mpr ⟨?_, ?_, ?_, ?_⟩
  · exact overwrite_of_ne (fun text => Limits.storageLocation.checkDnsName text = .ok ())
      hlocation hlocation'
  · exact overwrite_of_ne (fun text => ∃ ttl, Limits.ttl.readTtl text = .ok ttl) httl httl'
  · exact checkNamespaceRange_of_apart hnamespaces hnamespaces' hfits'.namespaces.of_or
  · intro hsome
    rw [BackupPatch.followedBy] at hsome ⊢
    cases hasked : q.volumeSnapshotLocations with
    | none =>
        rw [hasked] at hsome
        exact hlocations hsome
    | some names =>
        rw [hasked] at hlocations'
        exact hlocations' rfl

end Terms

theorem StoragePatch.validate_followedBy {p q : StoragePatch} (hp : p.validate = .ok ())
    (hq : q.validate = .ok ()) : (p.followedBy q).validate = .ok () := by
  rw [validate_eq_ok] at hp hq ⊢
  obtain ⟨hprovider, hbucket, hroot, hregion, hip, hport, haccess, hsecret⟩ := hp
  obtain ⟨hprovider', hbucket', hroot', hregion', hip', hport', haccess', hsecret'⟩ := hq
  refine ⟨?_, ?_, ?_, ?_, ?_, ?_, ?_, ?_⟩
  · exact check_overwrite Limits.provider.checkOptionalName hprovider fun _ => hprovider'
  · exact check_overwrite Limits.bucket.checkOptionalName hbucket fun _ => hbucket'
  · exact check_overwrite Limits.root.checkOptionalName hroot fun _ => hroot'
  · exact check_overwrite Limits.region.checkOptionalName hregion fun _ => hregion'
  · exact check_overwrite Limits.ip.checkOptionalAddress hip fun _ => hip'
  · rw [followedBy]
    cases hasked : q.port with
    | none => exact hport
    | some n =>
        rw [hasked] at hport'
        exact hport'
  · exact check_overwrite Limits.accessKey.checkLength haccess fun _ => haccess'
  · exact check_overwrite Limits.secretKey.checkLength hsecret fun _ => hsecret'

section Entries

theorem port_eq {n m : Option Int32} (h : n.map Int32.toInt = m.map Int32.toInt) : n = m :=
  Option.map_injective (fun _ _ => Int32.toInt_inj.mp) h

variable {k : Kind} {p q : k.Patch} {e e' e'' : k.Entry}

namespace Kind

theorem Makes.unique (h : k.Makes p e e') (h' : k.Makes p e e'') : e' = e'' := by
  cases k with
  | storage =>
      obtain ⟨name, provider, bucket, root, region, ip, port, accessKey, secretKey, isDefault⟩ := e'
      cases h.name.trans h'.name.symm
      cases h.provider.unique h'.provider
      cases h.bucket.unique h'.bucket
      cases h.root.unique h'.root
      cases h.region.unique h'.region
      cases h.ip.unique h'.ip
      cases port_eq (h.port.unique h'.port)
      cases h.accessKey.unique h'.accessKey
      cases h.secretKey.unique h'.secretKey
      cases h.isDefault.unique h'.isDefault
      rfl
  | backup =>
      obtain ⟨name, isOneTime, terms⟩ := e'
      cases h.name.trans h'.name.symm
      cases h.isOneTime.unique h'.isOneTime
      cases h.terms.unique h'.terms
      rfl
  | restore =>
      obtain ⟨name, backupName, included, excluded⟩ := e'
      cases h.name.trans h'.name.symm
      cases h.backupName.unique h'.backupName
      cases h.includedNamespaces.unique h'.includedNamespaces
      cases h.excludedNamespaces.unique h'.excludedNamespaces
      rfl
  | schedule =>
      have htemplate : Schedule.template e' = Schedule.template e'' := by
        cases hasked : SchedulePatch.template p with
        | none => rw [h.template_kept hasked, h'.template_kept hasked]
        | some template => exact (h.template_set _ hasked).unique (h'.template_set _ hasked)
      obtain ⟨name, schedule, paused, template⟩ := e'
      cases h.name.trans h'.name.symm
      cases h.schedule.unique h'.schedule
      cases h.paused.unique h'.paused
      cases htemplate
      rfl

theorem Makes.trans (h : k.Makes p e e') (h' : k.Makes q e' e'') :
    k.Makes (k.followedBy p q) e e'' := by
  cases k with
  | storage =>
      refine ⟨h'.name.trans h.name, h.provider.trans h'.provider, h.bucket.trans h'.bucket,
        h.root.trans h'.root, h.region.trans h'.region, h.ip.trans h'.ip, ?_,
        h.accessKey.trans h'.accessKey, h.secretKey.trans h'.secretKey,
        h.isDefault.trans h'.isDefault⟩
      rw [followedBy, StoragePatch.followedBy, Option.map_or]
      exact h.port.trans h'.port
  | backup =>
      exact ⟨h'.name.trans h.name, h.isOneTime.trans h'.isOneTime, h.terms.trans h'.terms⟩
  | restore =>
      exact ⟨h'.name.trans h.name, h.backupName.trans h'.backupName,
        h.includedNamespaces.trans h'.includedNamespaces,
        h.excludedNamespaces.trans h'.excludedNamespaces⟩
  | schedule =>
      refine ⟨h'.name.trans h.name, h.schedule.trans h'.schedule, h.paused.trans h'.paused, ?_, ?_⟩
      · intro template hset
        obtain ⟨hp, hq⟩ | ⟨hp, hq⟩ | ⟨first, second, hp, hq, rfl⟩ :=
          SchedulePatch.template_followedBy hset
        · rw [← h.template_kept hp]
          exact h'.template_set _ hq
        · rw [h'.template_kept hq]
          exact h.template_set _ hp
        · exact (h.template_set _ hp).trans (h'.template_set _ hq)
      · intro hnone
        change (SchedulePatch.template p).merge _ (SchedulePatch.template q) = none at hnone
        obtain ⟨hp, hq⟩ := Option.merge_eq_none_iff.mp hnone
        rw [h'.template_kept hq, h.template_kept hp]

theorem Makes.again (h : k.Makes p e e') : k.Makes p e' e' := by
  cases k with
  | storage =>
      exact ⟨rfl, h.provider.again, h.bucket.again, h.root.again, h.region.again, h.ip.again,
        h.port.again, h.accessKey.again, h.secretKey.again, h.isDefault.again⟩
  | backup => exact ⟨rfl, h.isOneTime.again, h.terms.again⟩
  | restore =>
      exact ⟨rfl, h.backupName.again, h.includedNamespaces.again, h.excludedNamespaces.again⟩
  | schedule =>
      exact ⟨rfl, h.schedule.again, h.paused.again,
        fun template hset => (h.template_set template hset).again, fun _ => rfl⟩

theorem makes_self (h : k.SetsNothing p) (e : k.Entry) : k.Makes p e e := by
  cases k with
  | storage =>
      cases h
      exact ⟨rfl, textChanged_empty _, textChanged_empty _, textChanged_empty _, textChanged_empty _,
        textChanged_empty _, optionChanged_none rfl, textChanged_empty _, textChanged_empty _,
        optionChanged_none rfl⟩
  | backup =>
      cases h
      exact ⟨rfl, optionChanged_none rfl, BackupPatch.makes_empty _⟩
  | restore =>
      cases h
      exact ⟨rfl, textChanged_empty _, optionChanged_none rfl, optionChanged_none rfl⟩
  | schedule =>
      refine ⟨rfl, ?_, ?_, ?_, fun _ => rfl⟩
      · rcases h with rfl | rfl <;> exact textChanged_empty _
      · rcases h with rfl | rfl <;> exact optionChanged_none rfl
      · rintro template hset
        rcases h with rfl | rfl
        · cases hset
        · cases hset
          exact BackupPatch.makes_empty _

theorem Fits.followedBy (h : k.Fits q e') (hmakes : k.Makes p e e') (hp : k.Fits p e) :
    k.Fits (k.followedBy p q) e := by
  cases k with
  | storage => trivial
  | backup => exact BackupPatch.Fits.followedBy hmakes.terms h
  | restore =>
      change Apart ((q.includedNamespaces.or p.includedNamespaces).or _)
        ((q.excludedNamespaces.or p.excludedNamespaces).or _)
      rw [Option.or_assoc, Option.or_assoc, ← hmakes.includedNamespaces.after_eq,
        ← hmakes.excludedNamespaces.after_eq]
      exact h
  | schedule =>
      intro template hset
      obtain ⟨hnone, hasked⟩ | ⟨hasked, -⟩ | ⟨first, second, hfirst, hsecond, rfl⟩ :=
        SchedulePatch.template_followedBy hset
      · rw [← hmakes.template_kept hnone]
        exact h _ hasked
      · exact hp _ hasked
      · exact BackupPatch.Fits.followedBy (hmakes.template_set _ hfirst) (h _ hsecond)

theorem Fits.again (h : k.Fits p e) (hmakes : k.Makes p e e') : k.Fits p e' := by
  cases k with
  | storage => trivial
  | backup => exact BackupPatch.Fits.again hmakes.terms h
  | restore =>
      change Apart (p.includedNamespaces.or _) (p.excludedNamespaces.or _)
      rw [hmakes.includedNamespaces.after_eq, hmakes.excludedNamespaces.after_eq, ← Option.or_assoc,
        ← Option.or_assoc, Option.or_self, Option.or_self]
      exact h
  | schedule =>
      intro template hset
      exact BackupPatch.Fits.again (hmakes.template_set _ hset) (h _ hset)

variable [Cron.Library]

theorem Sound.fits_of_setsNothing (h : k.Sound e) (hp : k.SetsNothing p) : k.Fits p e := by
  cases k with
  | storage => trivial
  | backup =>
      cases hp
      exact (sound_backup_iff.mp h).2.2.fits_empty
  | restore =>
      cases hp
      obtain ⟨-, -, hnamespaces⟩ := RestoreRequest.validate_eq_ok.mp h.valid
      exact (checkNamespaceRange_eq_ok.mp hnamespaces).2.2
  | schedule =>
      intro template hset
      rcases hp with rfl | rfl
      · cases hset
      · cases hset
        exact (sound_schedule_iff.mp h).2.2.fits_empty

theorem validatePatch_of_setsNothing (h : k.SetsNothing p) : k.validatePatch p = .ok () := by
  cases k with
  | storage =>
      cases h
      rfl
  | backup =>
      cases h
      rfl
  | restore =>
      cases h
      rfl
  | schedule => rcases h with rfl | rfl <;> rfl

theorem validatePatch_followedBy (hp : k.validatePatch p = .ok ()) (hq : k.validatePatch q = .ok ())
    (hmakes : k.Makes p e e') (hp' : k.Fits p e) (hfits : k.Fits q e') :
    k.validatePatch (k.followedBy p q) = .ok () := by
  cases k with
  | storage => exact StoragePatch.validate_followedBy hp hq
  | backup => exact BackupPatch.validate_followedBy hp hq hmakes.terms hfits
  | restore =>
      have hfits' : Apart _ _ := Fits.followedBy hfits hmakes hp'
      obtain ⟨hbackup, hnamespaces⟩ := RestorePatch.validate_eq_ok.mp hp
      obtain ⟨hbackup', hnamespaces'⟩ := RestorePatch.validate_eq_ok.mp hq
      refine RestorePatch.validate_eq_ok.mpr ⟨?_, ?_⟩
      · exact overwrite_of_ne (fun text => Limits.backupName.checkDnsName text = .ok ()) hbackup
          hbackup'
      · exact checkNamespaceRange_of_apart hnamespaces hnamespaces' hfits'.of_or
  | schedule =>
      obtain ⟨hcron, htemplate⟩ := SchedulePatch.validate_eq_ok.mp hp
      obtain ⟨hcron', htemplate'⟩ := SchedulePatch.validate_eq_ok.mp hq
      refine SchedulePatch.validate_eq_ok.mpr ⟨?_, ?_⟩
      · exact overwrite_of_ne (fun text => Limits.schedule.checkCron text = .ok ()) hcron hcron'
      · intro template hset
        obtain ⟨-, hasked⟩ | ⟨hasked, -⟩ | ⟨first, second, hfirst, hsecond, rfl⟩ :=
          SchedulePatch.template_followedBy hset
        · exact htemplate' template hasked
        · exact htemplate template hasked
        · obtain ⟨hone, hvalid⟩ := htemplate first hfirst
          obtain ⟨hone', hvalid'⟩ := htemplate' second hsecond
          refine ⟨?_, BackupPatch.validate_followedBy hvalid hvalid'
            (hmakes.template_set _ hfirst) (hfits _ hsecond)⟩
          rw [BackupPatch.followedBy, hone, hone', Option.or_none]

theorem change_eq_ok_iff (hp : k.validatePatch p = .ok ()) (he : k.Sound e) :
    k.change p e = .ok e' ↔ k.Fits p e ∧ k.Makes p e e' := by
  rcases change_cases hp he with ⟨hfits, changed, hchange, hmakes⟩ | ⟨hfits, v, -, hchange⟩
  · rw [hchange]
    constructor
    · rintro ⟨⟩
      exact ⟨hfits, hmakes⟩
    · rintro ⟨-, hmakes'⟩
      rw [hmakes.unique hmakes']
  · rw [hchange]
    constructor
    · rintro ⟨⟩
    · rintro ⟨hfits', -⟩
      exact absurd hfits' hfits

/-- How patches act on an entry: one that sets nothing keeps it, two that change it one after the other
are as good as one, and one that has changed it changes it no more. -/
structure ActsOn (k : Kind) (e : k.Entry) : Prop where
  nothing : ∀ p, k.SetsNothing p → k.validatePatch p = .ok () ∧ k.change p e = .ok e
  followedBy : ∀ p q e' e'', k.validatePatch p = .ok () → k.validatePatch q = .ok () →
    k.change p e = .ok e' → k.change q e' = .ok e'' →
      k.validatePatch (k.followedBy p q) = .ok () ∧ k.change (k.followedBy p q) e = .ok e''
  again : ∀ p e', k.validatePatch p = .ok () → k.change p e = .ok e' → k.change p e' = .ok e'

theorem Sound.actsOn (h : k.Sound e) : k.ActsOn e where
  nothing p hp := by
    have hvalid := validatePatch_of_setsNothing hp
    exact ⟨hvalid, (change_eq_ok_iff hvalid h).mpr ⟨h.fits_of_setsNothing hp, makes_self hp e⟩⟩
  followedBy p q e' e'' hp hq hchange hchange' := by
    obtain ⟨hfits, hmakes⟩ := (change_eq_ok_iff hp h).mp hchange
    obtain ⟨hfits', hmakes'⟩ := (change_eq_ok_iff hq (sound_change hp h hchange)).mp hchange'
    have hvalid := validatePatch_followedBy hp hq hmakes hfits hfits'
    refine ⟨hvalid, (change_eq_ok_iff hvalid h).mpr ⟨?_, hmakes.trans hmakes'⟩⟩
    exact hfits'.followedBy hmakes hfits
  again p e' hp hchange := by
    obtain ⟨hfits, hmakes⟩ := (change_eq_ok_iff hp h).mp hchange
    exact (change_eq_ok_iff hp (sound_change hp h hchange)).mpr ⟨hfits.again hmakes, hmakes.again⟩

end Kind

end Entries

end ClusterOperator
