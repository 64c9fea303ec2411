import ClusterOperator.Disk.Reconcile
import ClusterOperator.Proofs.Disk.Calls

namespace ClusterOperator

namespace DiskVolume

variable {d : DiskVolume} {claimName : String}

theorem claimName_ne_empty (d : DiskVolume) : d.claimName ≠ "" := by
  rw [claimName]
  split
  · intro h
    have hlength := congrArg String.length h
    rw [defaultClaimName, String.length_append] at hlength
    simp at hlength
  · intro h
    simp_all [isUnstaged]

theorem claimName_of_named (h : d.terms.claimName = some claimName) (hname : claimName ≠ "") :
    d.claimName = claimName := by
  have hstaged : d.isUnstaged = false := by
    simp [isUnstaged, h, hname]
  rw [DiskVolume.claimName, hstaged, h]
  rfl

theorem claimName_staged (d : DiskVolume) : d.staged.claimName = d.claimName :=
  claimName_of_named rfl d.claimName_ne_empty

theorem staged_eq_self (h : ¬d.isUnstaged) : d.staged = d := by
  have hnamed : d.terms.claimName = some d.claimName := by
    rw [claimName, if_neg h]
    cases hname : d.terms.claimName with
    | none => simp [isUnstaged, hname] at h
    | some name => rfl
  rw [staged, ← hnamed]

end DiskVolume

namespace Backend

/-- What a cluster does with the calls of an attempt. -/
abbrev calls (faults : Prop) : Service interface World :=
  Service.through remote (Answers faults)

/-- An attempt to reconcile the disk as it is. -/
def Attempt (faults : Prop) (w : World) (result : Except Failure Action) (w' : World) : Prop :=
  (w.disk.reconcile.over remote).RunsTo (Answers faults) w result w'

namespace World

def backing (w : World) : Backing :=
  ⟨kindFor w.disk.terms.source, w.space, w.disk.claimName⟩

/-- The status of the disk says that it is ready, and what the disk names backs it. -/
structure Completed (w : World) : Prop where
  marked : ∃ status, w.disk.status = some status ∧ status.created = true ∧ status.ready = true
  backed : ∃ claimName, w.disk.terms.claimName = some claimName ∧ claimName ≠ "" ∧
    ⟨kindFor w.disk.terms.source, w.space, claimName⟩ ∈ w.backings

/-- A claim is to back the disk, and no storage class is marked as the default one. -/
def LacksClass (w : World) : Prop :=
  kindFor w.disk.terms.source = .claim ∧ ∀ c ∈ w.classes, ∀ mark ∈
    ["storageclass.kubernetes.io/is-default-class", "storageclass.beta.kubernetes.io/is-default-class"],
      (c.annotations.getD []).lookup mark ≠ some "true"

/-- The disk has no status before it is completed. -/
def Sound (w : World) : Prop :=
  w.disk.status = none ∨ w.Completed

/-- What attempts keep: the disk but for what they write to it, and what is to back it. Nothing but
that is made, and only once. -/
structure Keeps (w w' : World) : Prop where
  same : SameDisk w.disk w'.disk
  source_eq : w'.disk.terms.source = w.disk.terms.source
  storage_eq : w'.disk.terms.storage = w.disk.terms.storage
  claimName_eq : w'.disk.claimName = w.disk.claimName
  backings : w'.backings = w.backings ∨
    w.backing ∉ w.backings ∧ w'.backings = w.backings ++ [w.backing]

end World

theorem World.lacksClass_of_findDefault {w : World} (hkind : kindFor w.disk.terms.source = .claim)
    (h : StorageClass.findDefault w.classes = none) : w.LacksClass := by
  refine ⟨hkind, fun c hc mark hmark htrue => ?_⟩
  rw [StorageClass.findDefault, Option.map_eq_none_iff, List.find?_eq_none] at h
  refine h c hc ?_
  rw [StorageClass.isDefault, List.any_eq_true]
  exact ⟨mark, hmark, decide_eq_true htrue⟩

section Keeping

variable {w w' w'' : World} {name space : String}

theorem SameDisk.refl (d : DiskVolume) : SameDisk d d :=
  ⟨rfl, rfl, rfl⟩

theorem SameDisk.trans {d d' d'' : DiskVolume} (h : SameDisk d d') (h' : SameDisk d' d'') :
    SameDisk d d'' :=
  ⟨h'.name_eq.trans h.name_eq, h'.space_eq.trans h.space_eq, h'.uid_eq.trans h.uid_eq⟩

theorem World.Keeps.refl (w : World) : w.Keeps w :=
  ⟨.refl _, rfl, rfl, rfl, .inl rfl⟩

theorem World.Keeps.space_eq (h : w.Keeps w') : w'.space = w.space := by
  rw [World.space, h.same.space_eq, ← World.space]

theorem World.Keeps.backing_eq (h : w.Keeps w') : w'.backing = w.backing := by
  rw [World.backing, h.source_eq, h.space_eq, h.claimName_eq, ← World.backing]

theorem World.Keeps.mem_backings (h : w.Keeps w') {b : Backing} (hmem : b ∈ w.backings) :
    b ∈ w'.backings := by
  rcases h.backings with hsame | ⟨-, hadded⟩
  · rwa [hsame]
  · rw [hadded]
    exact List.mem_append_left _ hmem

theorem World.Keeps.trans (h : w.Keeps w') (h' : w'.Keeps w'') : w.Keeps w'' where
  same := h.same.trans h'.same
  source_eq := h'.source_eq.trans h.source_eq
  storage_eq := h'.storage_eq.trans h.storage_eq
  claimName_eq := h'.claimName_eq.trans h.claimName_eq
  backings := by
    rcases h'.backings with hsame | ⟨hfree, hadded⟩
    · rw [hsame]
      exact h.backings
    · -- The same is to back the disk before and after, so it is made only once.
      rw [h.backing_eq] at hfree hadded
      rcases h.backings with hsame | ⟨-, hbefore⟩
      · rw [hsame] at hfree hadded
        exact .inr ⟨hfree, hadded⟩
      · rw [hbefore] at hfree
        exact absurd (List.mem_append_right _ List.mem_cons_self) hfree

theorem World.Legal.of_keeps (h : w.Legal name space) (hkeeps : w.Keeps w') :
    w'.Legal name space where
  name_eq := hkeeps.same.name_eq.trans h.name_eq
  space_eq := hkeeps.same.space_eq.trans h.space_eq
  uid_isSome := by rw [hkeeps.same.uid_eq]; exact h.uid_isSome
  isName := h.isName
  isSpace := h.isSpace

end Keeping

section Stages

variable {α β : Type} {faults excuse : Prop} {w w' : World} {name space : String}

/-- What a part of an attempt comes to: a result, or a failure that is excused and passes. -/
structure Advances (excuse : Prop) (w : World) (result : Except Failure α) (w' : World)
    (reached : α → Prop) : Prop where
  keeps : w.Keeps w'
  sound : w'.Sound
  of_ok : ∀ a, result = .ok a → reached a
  of_error : ∀ failure, result = .error failure → excuse ∧ failure.isRetryable

theorem Advances.mono {excuse' : Prop} {result : Except Failure α} {reached reached' : α → Prop}
    (h : Advances excuse w result w' reached) (hexcuse : excuse → excuse')
    (hreached : ∀ a, reached a → reached' a) : Advances excuse' w result w' reached' where
  keeps := h.keeps
  sound := h.sound
  of_ok a ha := hreached a (h.of_ok a ha)
  of_error failure hfailure := (h.of_error failure hfailure).imp_left hexcuse

theorem Advances.andThen {p : Job α} {f : α → Job β} {result : Except Failure β}
    {reached : World → α → Prop} {done : β → Prop}
    (hrun : (p.andThen f).RunsTo (calls faults) w result w')
    (hfirst : ∀ {result middle}, p.RunsTo (calls faults) w result middle →
      Advances excuse w result middle (reached middle))
    (hsecond : ∀ {a middle}, w.Keeps middle → reached middle a →
      (f a).RunsTo (calls faults) middle result w' → Advances excuse middle result w' done) :
    Advances excuse w result w' done := by
  obtain ⟨a, middle, hp, hf⟩ | ⟨failure, rfl, hp⟩ := Program.runsTo_andThen.mp hrun
  · have hbefore := hfirst hp
    have hafter := hsecond hbefore.keeps (hbefore.of_ok a rfl) hf
    exact ⟨hbefore.keeps.trans hafter.keeps, hafter.sound, hafter.of_ok, hafter.of_error⟩
  · have hbefore := hfirst hp
    exact ⟨hbefore.keeps, hbefore.sound, nofun,
      fun _ h => Except.error.inj h ▸ hbefore.of_error failure rfl⟩

theorem runsTo_tell {d : DiskVolume} {notice : Notice} {next : Job α} {result : Except Failure α} :
    (tell d notice next).RunsTo (calls faults) w result w' ↔
      next.RunsTo (calls faults) w result w' := by
  rw [tell, Program.runsTo_call]
  constructor
  · rintro ⟨_, middle, hpublish, hnext⟩
    cases runsTo_publish.mp hpublish
    exact hnext
  · intro h
    exact ⟨(), w, runsTo_publish.mpr rfl, h⟩

theorem exists_claimMetadata {d : DiskVolume} (hname : d.metadata.name = some name)
    (huid : d.metadata.uid.isSome) (claimName : String) :
    ∃ metadata, d.claimMetadata claimName = .ok metadata ∧ metadata.name = some claimName := by
  obtain ⟨uid, huid⟩ := Option.isSome_iff_exists.mp huid
  have howner : d.asController =
      some ⟨DiskVolume.apiVersion, DiskVolume.kind, name, uid, some true, some true⟩ := by
    simp [DiskVolume.asController, hname, huid]
  rw [DiskVolume.claimMetadata, howner]
  exact ⟨_, rfl, rfl⟩

theorem World.Legal.exists_provision_image (h : w.Legal name space) {source : ImageSource}
    (hcontent : w.disk.terms.source.content = .image source) :
    ∃ volume : DataVolume, volume.metadata.name = some w.disk.claimName ∧
      w.disk.staged.provision space = createDataVolume space volume := by
  obtain ⟨metadata, hmetadata, hname⟩ :=
    exists_claimMetadata (d := w.disk.staged) h.name_eq h.uid_isSome w.disk.claimName
  have hstaged : w.disk.staged.terms.source.content = .image source := hcontent
  simp only [DiskVolume.provision, DiskVolume.claimName_staged, hstaged, DiskVolume.dataVolume,
    hmetadata]
  exact ⟨_, hname, rfl⟩

theorem World.Legal.exists_provision_blank (h : w.Legal name space)
    (hcontent : w.disk.terms.source.content = .blank) :
    ∃ claimOf : String → Claim,
      (∀ storageClass, (claimOf storageClass).metadata.name = some w.disk.claimName) ∧
        w.disk.staged.provision space = defaultClass.andThen fun
          | none => .done (.error .noDefaultClass)
          | some storageClass => createClaim space (claimOf storageClass) := by
  obtain ⟨metadata, hmetadata, hname⟩ :=
    exists_claimMetadata (d := w.disk.staged) h.name_eq h.uid_isSome w.disk.claimName
  have hstaged : w.disk.staged.terms.source.content = .blank := hcontent
  simp only [DiskVolume.provision, DiskVolume.claimName_staged, hstaged, DiskVolume.claim,
    hmetadata]
  exact ⟨fun storageClass => ⟨metadata, [DiskVolume.accessMode], w.disk.terms.storage,
    storageClass⟩, fun _ => hname, rfl⟩

theorem Creates.mono {excuse' : Prop} {b : Backing} {result : Except Failure Creation}
    (h : Creates excuse w b result w') (himp : excuse → excuse') : Creates excuse' w b result w' :=
  ⟨h.effect, h.of_ok, fun failure hfailure => (h.of_error failure hfailure).imp_left himp⟩

theorem creates_provision (h : w.Legal name space) {result : Except Failure Creation}
    (hrun : (w.disk.staged.provision space).RunsTo (calls faults) w result w') :
    Creates (faults ∨ w.LacksClass) w w.backing result w' := by
  cases hcontent : w.disk.terms.source.content with
  | image source =>
      obtain ⟨volume, hname, hprovision⟩ := h.exists_provision_image hcontent
      rw [hprovision] at hrun
      rw [World.backing, kindFor_of_image hcontent]
      exact (creates_createDataVolume h hname (Program.runsTo_call_done.mp hrun)).mono .inl
  | blank =>
      obtain ⟨claimOf, hname, hprovision⟩ := h.exists_provision_blank hcontent
      rw [hprovision] at hrun
      have hkind := kindFor_of_blank hcontent
      rw [World.backing, hkind]
      obtain ⟨found, middle, hlist, hmake⟩ | ⟨failure, rfl, hlist⟩ := Program.runsTo_andThen.mp hrun
      · have hlists := lists_defaultClass (Program.runsTo_call_done.mp hlist)
        obtain rfl := hlists.state_eq
        have hfound := hlists.of_ok found rfl
        cases found with
        | none =>
            obtain ⟨rfl, rfl⟩ := Program.runsTo_done.mp hmake
            exact ⟨.inl rfl, nofun, fun _ hfailure =>
              Except.error.inj hfailure ▸ ⟨.inr (World.lacksClass_of_findDefault hkind hfound.symm), rfl⟩⟩
        | some storageClass =>
            exact (creates_createClaim h (hname storageClass)
              (Program.runsTo_call_done.mp hmake)).mono .inl
      · have hlists := lists_defaultClass (Program.runsTo_call_done.mp hlist)
        exact ⟨.inl hlists.state_eq, nofun, fun _ hfailure =>
          Except.error.inj hfailure ▸ (hlists.of_error failure rfl).imp_left .inl⟩

theorem World.keeps_add (hfree : w.backing ∉ w.backings) : w.Keeps (w.add w.backing) :=
  ⟨.refl _, rfl, rfl, rfl, .inr ⟨hfree, rfl⟩⟩

theorem advances_provisionAloud (h : w.Legal name space) (hstatus : w.disk.status = none)
    {result : Except Failure Unit}
    (hrun : (w.disk.staged.provisionAloud space).RunsTo (calls faults) w result w') :
    Advances (faults ∨ w.LacksClass) w result w'
      fun _ => w'.disk = w.disk ∧ w'.backing ∈ w'.backings := by
  obtain ⟨creation, middle, hprovision, htell⟩ := Program.runsTo_bind.mp hrun
  have hcreates := creates_provision h hprovision
  have hresult : w' = middle ∧ result = creation.map fun _ => () := by
    rcases creation with failure | ⟨⟨⟩ | ⟨⟩⟩
    · obtain ⟨hresult, hstate⟩ := Program.runsTo_done.mp (runsTo_tell.mp htell)
      exact ⟨hstate, hresult⟩
    · obtain ⟨hresult, hstate⟩ := Program.runsTo_done.mp (runsTo_tell.mp htell)
      exact ⟨hstate, hresult⟩
    · obtain ⟨hresult, hstate⟩ := Program.runsTo_done.mp htell
      exact ⟨hstate, hresult⟩
  obtain ⟨rfl, rfl⟩ := hresult
  have hkept : w'.disk = w.disk ∧ w.Keeps w' := by
    rcases hcreates.effect with rfl | ⟨hfree, rfl⟩
    · exact ⟨rfl, .refl _⟩
    · exact ⟨rfl, World.keeps_add hfree⟩
  obtain ⟨hdisk, hkeeps⟩ := hkept
  refine ⟨hkeeps, .inl (hdisk ▸ hstatus), ?_, ?_⟩
  · intro _ hok
    cases creation with
    | error failure => cases hok
    | ok creation => exact ⟨hdisk, hkeeps.backing_eq ▸ hcreates.of_ok creation rfl⟩
  · intro failure herror
    cases creation with
    | error other =>
        cases herror
        exact hcreates.of_error failure rfl
    | ok creation => cases herror

variable {d : DiskVolume}

/-- A write of the terms that an attempt writes leaves the same to back the disk. -/
theorem WrittenAs.keeps {disk : DiskVolume} (h : WrittenAs d disk)
    (hmetadata : d.metadata = w.disk.metadata) (hterms : d.terms = w.disk.staged.terms) :
    w.Keeps { w with disk } := by
  have hkept : disk.terms = w.disk.staged.terms := h.terms_eq.trans hterms
  have hnamed : disk.terms.claimName = some w.disk.claimName := congrArg DiskTerms.claimName hkept
  exact {
    same := h.toSameDisk.of_metadata_eq hmetadata.symm
    source_eq := by rw [hkept]; rfl
    storage_eq := by rw [hkept]; rfl
    claimName_eq := DiskVolume.claimName_of_named hnamed w.disk.claimName_ne_empty
    backings := .inl rfl }

theorem Writes.advances {result : Except Failure DiskVolume} (h : Writes faults w d result w')
    (hsound : w.Sound) (hmetadata : d.metadata = w.disk.metadata)
    (hterms : d.terms = w.disk.staged.terms)
    (hwritten : ∀ disk, WrittenAs d disk → World.Sound { w with disk }) :
    Advances faults w result w' fun written => WrittenAs d written ∧ w' = { w with disk := written } := by
  refine ⟨?_, ?_, h.of_ok, h.of_error⟩
  · rcases h.effect with rfl | ⟨disk, hdisk, rfl⟩
    · exact .refl _
    · exact hdisk.keeps hmetadata hterms
  · rcases h.effect with rfl | ⟨disk, hdisk, rfl⟩
    · exact hsound
    · exact hwritten disk hdisk

theorem advances_writeName (h : w.Legal name space) (hstatus : w.disk.status = none)
    {result : Except Failure DiskVolume}
    (hrun : w.disk.writeName.RunsTo (calls faults) w result w') :
    Advances faults w result w' fun written =>
      WrittenAs w.disk.staged written ∧ w' = { w with disk := written } := by
  rw [DiskVolume.writeName] at hrun
  split at hrun
  · have hwrites := writes_updateDisk h (d := w.disk.staged) rfl rfl (Program.runsTo_call_done.mp hrun)
    exact hwrites.advances (.inl hstatus) rfl rfl fun disk hdisk =>
      .inl (hdisk.status_eq.trans hstatus)
  · rename_i hstaged
    obtain ⟨hresult, rfl⟩ := Program.runsTo_done.mp hrun
    rw [DiskVolume.staged_eq_self hstaged] at hresult ⊢
    subst hresult
    refine ⟨.refl _, .inl hstatus, ?_, nofun⟩
    rintro _ ⟨⟩
    exact ⟨⟨.refl _, rfl, rfl⟩, rfl⟩

theorem completed_of_writtenAs {disk : DiskVolume} (h : WrittenAs w.disk.completed disk)
    (hnamed : w.disk.terms.claimName = some w.disk.claimName) (hmem : w.backing ∈ w.backings) :
    World.Completed { w with disk } := by
  have hterms : disk.terms = w.disk.terms := h.terms_eq
  have hspace : World.space { w with disk } = w.space := by
    rw [World.space, h.space_eq]
    rfl
  refine ⟨⟨_, h.status_eq, rfl, rfl⟩, w.disk.claimName, ?_, w.disk.claimName_ne_empty, ?_⟩
  · rw [hterms, hnamed]
  · rw [hspace, hterms]
    exact hmem

theorem advances_updateStatus (h : w.Legal name space) (hstatus : w.disk.status = none)
    (hnamed : w.disk.terms.claimName = some w.disk.claimName) (hmem : w.backing ∈ w.backings)
    {result : Except Failure DiskVolume}
    (hrun : (updateStatus w.disk.completed).RunsTo (calls faults) w result w') :
    Advances faults w result w' fun _ => w'.Completed := by
  have hwrites := writes_updateStatus h (d := w.disk.completed) rfl rfl rfl
    (Program.runsTo_call_done.mp hrun)
  have hstaged : w.disk.completed.terms = w.disk.staged.terms := by
    rw [DiskVolume.staged, ← hnamed]
    rfl
  have hadvances := hwrites.advances (.inl hstatus) rfl hstaged fun disk hdisk =>
    .inr (completed_of_writtenAs hdisk hnamed hmem)
  refine hadvances.mono id ?_
  rintro _ ⟨hdisk, rfl⟩
  exact completed_of_writtenAs hdisk hnamed hmem

theorem advances_complete (h : w.Legal name space) (hstatus : w.disk.status = none)
    {result : Except Failure Action}
    (hrun : (w.disk.complete space).RunsTo (calls faults) w result w') :
    Advances (faults ∨ w.LacksClass) w result w'
      fun action => action = .awaitChange ∧ w'.Completed := by
  refine .andThen hrun (advances_provisionAloud h hstatus) ?_
  rintro - provisioned hprovisioned ⟨hdisk, hmem⟩ hrest
  have hlegal := h.of_keeps hprovisioned
  -- The program goes on with the disk as it was found, which is the disk that is stored.
  rw [← hdisk] at hrest hstatus
  refine .andThen hrest (fun hwrite =>
    (advances_writeName hlegal hstatus hwrite).mono .inl fun _ => id) ?_
  rintro written _ hkeeps ⟨hwritten, rfl⟩ hrest
  have hnamed : written.terms.claimName = some written.claimName := by
    rw [hwritten.terms_eq, hkeeps.claimName_eq]
    rfl
  have hmem' := hkeeps.backing_eq ▸ hkeeps.mem_backings hmem
  refine .andThen hrest (fun hwrite => (advances_updateStatus (hlegal.of_keeps hkeeps)
    (hwritten.status_eq.trans hstatus) hnamed hmem' hwrite).mono .inl fun _ => id) ?_
  rintro - completed - hcompleted hrest
  obtain ⟨rfl, rfl⟩ := Program.runsTo_done.mp hrest
  exact ⟨.refl _, .inr hcompleted, fun _ hok => ⟨(Except.ok.inj hok).symm, hcompleted⟩, nofun⟩

theorem Attempt.of_completed {result : Except Failure Action} (h : w.Legal name space)
    (hcompleted : w.Completed) (hattempt : Attempt faults w result w') :
    result = .ok .awaitChange ∧ w' = w := by
  obtain ⟨_, middle, hrun, hcount⟩ := Program.runsTo_bind.mp (Program.runsTo_over.mp hattempt)
  obtain ⟨rfl, rfl⟩ := Program.runsTo_done.mp (Program.runsTo_count.mp hcount)
  obtain ⟨status, hstatus, hcreated, hready⟩ := hcompleted.marked
  rw [DiskVolume.reconcileOnce, h.space_eq] at hrun
  simp only [DiskVolume.isCreated, DiskVolume.isReady, hstatus, Option.any_some, hcreated, hready,
    Bool.and_self, if_true] at hrun
  exact Program.runsTo_done.mp (runsTo_tell.mp hrun)

theorem Attempt.advances {result : Except Failure Action} (h : w.Legal name space)
    (hsound : w.Sound) (hattempt : Attempt faults w result w') :
    Advances (faults ∨ w.LacksClass) w result w'
      fun action => action = .awaitChange ∧ w'.Completed := by
  rcases hsound with hstatus | hcompleted
  · obtain ⟨_, middle, hrun, hcount⟩ := Program.runsTo_bind.mp (Program.runsTo_over.mp hattempt)
    obtain ⟨rfl, rfl⟩ := Program.runsTo_done.mp (Program.runsTo_count.mp hcount)
    rw [DiskVolume.reconcileOnce, h.space_eq] at hrun
    simp only [DiskVolume.isCreated, hstatus] at hrun
    exact advances_complete h hstatus hrun
  · obtain ⟨rfl, rfl⟩ := hattempt.of_completed h hcompleted
    exact ⟨.refl _, .inr hcompleted, fun _ hok => ⟨(Except.ok.inj hok).symm, hcompleted⟩, nofun⟩

end Stages

end Backend

end ClusterOperator
