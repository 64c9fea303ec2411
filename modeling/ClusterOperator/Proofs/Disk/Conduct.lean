import ClusterOperator.Proofs.Disk.Discipline
import ClusterOperator.Proofs.Disk.Recovery
import ClusterOperator.Proofs.Disk.Sharing

namespace ClusterOperator.Backend

open Cluster (Request Response ask creationOf nameOf versionOf)
open Json (Decoder)

variable {observed disk shown : DiskVolume} {log log' : List Event} {space claimName : String}

/-- The claim of a name was made in the namespace of the disk, or was there. -/
def Backed (observed : DiskVolume) (log : List Event) (claimName : String) : Prop :=
  ∃ (kind : BackingKind) (space : String) (body : Json) (request : Request) (r : Response)
    (creation : Creation), .asked request r ∈ log ∧ observed.metadata.space = some space ∧
      Request.post (kind.address space) body = .ok request ∧ nameOf body = some claimName ∧
      creationOf (r.object kind.decoder) = .ok creation

/-- The disk is replaced as it was observed: nobody has written it since. -/
structure SafeToReplace (observed : DiskVolume) (before : List Event) (disk : DiskVolume) : Prop where
  unwritten : ∃ earlier since, before = earlier ++ .foreign observed :: since ∧
    ∀ e ∈ since, e.stored? = none
  terms_eq : disk.terms = observed.staged.terms
  status_eq : disk.status = observed.status

/-- The status tells of the disk as it is, and of its claim; nobody else has written the disk since it
was observed. -/
structure SafeToMark (observed : DiskVolume) (before : List Event) (disk : DiskVolume) : Prop where
  untouched : ∃ earlier since, before = earlier ++ .foreign observed :: since ∧
    ∀ e ∈ since, e.isForeign = false
  tells : ∃ seen claimName, current? before = some seen ∧
    disk.status = some ⟨true, true, seen.owner⟩ ∧ disk.terms = seen.terms ∧
    seen.terms.claimName = some claimName ∧ Backed observed before claimName

/-- What happens while a disk is reconciled, and what the attempt comes to. -/
structure Considerate (observed : DiskVolume) (log : List Event) (result : Except Failure Action) :
    Prop where
  replaces : ∀ before disk after, log = before ++ .replaced disk :: after →
    SafeToReplace observed before disk
  marks : ∀ before disk after, log = before ++ .marked disk :: after →
    SafeToMark observed before disk
  /-- A write that is refused leaves what others have written. After it only others write the disk, and
  it is reconciled again later. -/
  refusals : ∀ before after, log = before ++ .refused :: after →
    stored log = stored before ++ stored after ∧ (∀ e ∈ after, e.isForeign) ∧
      ∃ failure, result = .error failure ∧
        ∀ delay, ∃ pause, failure.nextAction delay = .requeue pause

/-- All writes of the attempt were safe, and none was refused. -/
structure Clean (observed : DiskVolume) (log : List Event) : Prop where
  versioned : Versioned log
  mem : .foreign observed ∈ log
  replaces : ∀ before disk after, log = before ++ .replaced disk :: after →
    SafeToReplace observed before disk
  marks : ∀ before disk after, log = before ++ .marked disk :: after →
    SafeToMark observed before disk
  unrefused : .refused ∉ log

section Extending

variable {e : Event}

theorem forall_split_concat {P : List Event → DiskVolume → Prop} {f : DiskVolume → Event}
    (hlog : ∀ before disk after, log = before ++ f disk :: after → P before disk)
    (hlast : ∀ disk, e = f disk → P log disk) :
    ∀ before disk after, log ++ [e] = before ++ f disk :: after → P before disk := by
  intro before disk after hsplit
  rcases split_concat hsplit with ⟨rfl, heq, -⟩ | ⟨rest, hfront, -⟩
  · exact hlast disk heq.symm
  · exact hlog before disk rest hfront

theorem Clean.concat (h : Clean observed log) (hversioned : Versioned (log ++ [e]))
    (hreplaced : ∀ disk, e = .replaced disk → SafeToReplace observed log disk)
    (hmarked : ∀ disk, e = .marked disk → SafeToMark observed log disk) (he : e ≠ .refused) :
    Clean observed (log ++ [e]) := by
  refine ⟨hversioned, List.mem_append_left _ h.mem, forall_split_concat h.replaces hreplaced,
    forall_split_concat h.marks hmarked, ?_⟩
  intro hmem
  rcases List.mem_append.mp hmem with hmem | hmem
  · exact h.unrefused hmem
  · exact he (List.mem_singleton.mp hmem).symm

theorem Clean.asked (h : Clean observed log) (request : Request) (r : Response) :
    Clean observed (log ++ [.asked request r]) :=
  h.concat (h.versioned.skip rfl) (by simp) (by simp) (by simp)

theorem Clean.foreign (h : Clean observed log) (hfresh : Fresh log disk) :
    Clean observed (log ++ [.foreign disk]) :=
  h.concat (h.versioned.store hfresh rfl) (by simp) (by simp) (by simp)

theorem Clean.interferes (h : Clean observed log) (hothers : Interferes observed log log') :
    Clean observed log' ∧ log <+: log' := by
  induction hothers with
  | idle => exact ⟨h, List.prefix_refl log⟩
  | write hothers hhome hfresh ih =>
      exact ⟨ih.1.foreign hfresh, ih.2.trans (List.prefix_append _ _)⟩

theorem Backed.mono (h : Backed observed log claimName) (hlog : log <+: log') :
    Backed observed log' claimName := by
  obtain ⟨kind, space, body, request, r, creation, hmem, hbacked⟩ := h
  exact ⟨kind, space, body, request, r, creation, hlog.subset hmem, hbacked⟩

end Extending

section Asking

variable {α : Type} {decode : Decoder α} {asked : Except Failure Request} {request : Request}
  {result : Except Failure α} {body : Json} {r : Response}

theorem Replaces.of (h : Replaces observed body request) :
    request.method = "PUT" ∧ request.body = some body :=
  Request.of_put h

theorem Marks.of (h : Marks observed body request) :
    request.method = "PATCH" ∧ request.body = some body := by
  simp only [Marks, Request.merge, bind_eq_ok] at h
  obtain ⟨address, -, h⟩ := h
  exact Request.of_eq_ok h

theorem not_writes (hput : request.method ≠ "PUT") (hpatch : request.method ≠ "PATCH")
    (body : Json) : ¬Replaces observed body request ∧ ¬Marks observed body request :=
  ⟨fun h => hput h.of.1, fun h => hpatch h.of.1⟩

theorem Clean.ask (h : Clean observed log)
    (hmethod : ∀ request, asked = .ok request → request.method ≠ "PUT" ∧ request.method ≠ "PATCH")
    (hrun : (Cluster.ask decode asked).RunsTo (shared observed) log result log') :
    Clean observed log' ∧ log <+: log' ∧
      ((∃ failure, asked = .error failure ∧ result = .error failure) ∨
        ∃ request r, asked = .ok request ∧ .asked request r ∈ log' ∧ result = r.object decode) := by
  cases hasked : asked with
  | error failure =>
      rw [hasked] at hrun
      obtain ⟨rfl, rfl⟩ := Program.runsTo_done.mp hrun
      exact ⟨h, List.prefix_refl log', .inl ⟨failure, rfl, rfl⟩⟩
  | ok request =>
      obtain ⟨hput, hpatch⟩ := hmethod request hasked
      obtain ⟨r, ⟨middle, hothers, hhandles⟩, rfl⟩ := (runsTo_ask hasked).mp hrun
      obtain ⟨hclean, hprefix⟩ := h.interferes hothers
      cases hhandles with
      | replaced hrequest => exact absurd hrequest (not_writes hput hpatch _).1
      | marked hrequest => exact absurd hrequest (not_writes hput hpatch _).2
      | refused hrequest =>
          rcases hrequest with hrequest | hrequest
          · exact absurd hrequest (not_writes hput hpatch _).1
          · exact absurd hrequest (not_writes hput hpatch _).2
      | elsewhere hother =>
          exact ⟨hclean.asked request r, hprefix.trans (List.prefix_append _ _),
            .inr ⟨request, r, rfl, List.mem_append_right _ List.mem_cons_self, rfl⟩⟩

end Asking

section Provisioning

variable {reply : Except Failure Creation} {kind : BackingKind} {body : Json}

theorem Clean.defaultClass {reply : Except Failure (Option String)} (h : Clean observed log)
    (hrun : (remote .defaultClass).RunsTo (shared observed) log reply log') :
    Clean observed log' := by
  have hmethod : ∀ request, Request.list "/apis/storage.k8s.io/v1/storageclasses" = .ok request →
      request.method ≠ "PUT" ∧ request.method ≠ "PATCH" := by
    intro request hrequest
    rw [(Request.of_eq_ok hrequest).1]
    decide
  obtain ⟨classes, middle, hask, hrest⟩ | ⟨failure, -, hask⟩ := Program.runsTo_andThen.mp hrun
  · obtain ⟨-, rfl⟩ := Program.runsTo_done.mp hrest
    exact (h.ask hmethod hask).1
  · exact (h.ask hmethod hask).1

theorem not_isAlreadyExists_of_post {collection : String} {failure : Failure}
    (h : Request.post collection body = .error failure) : failure.isAlreadyExists = false := by
  rw [Request.post, Request.of] at h
  split at h
  · cases h
  · cases h
    rfl

theorem Clean.post (h : Clean observed log) (hspace : observed.metadata.space = some space)
    (hname : nameOf body = some claimName)
    (hrun : ((Cluster.ask kind.decoder (Request.post (kind.address space) body)).bind fun made =>
      .done (creationOf made)).RunsTo (shared observed) log reply log') :
    Clean observed log' ∧ ∀ creation, reply = .ok creation → Backed observed log' claimName := by
  have hmethod : ∀ request, Request.post (kind.address space) body = .ok request →
      request.method ≠ "PUT" ∧ request.method ≠ "PATCH" := by
    intro request hrequest
    rw [(Request.of_post hrequest).1]
    decide
  obtain ⟨made, middle, hask, hrest⟩ := Program.runsTo_bind.mp hrun
  obtain ⟨rfl, rfl⟩ := Program.runsTo_done.mp hrest
  obtain ⟨hclean, -, ⟨failure, hrequest, rfl⟩ | ⟨request, r, hrequest, hmem, rfl⟩⟩ :=
    h.ask hmethod hask
  · refine ⟨hclean, ?_⟩
    intro creation hreply
    simp [creationOf, not_isAlreadyExists_of_post hrequest] at hreply
  · refine ⟨hclean, ?_⟩
    intro creation hreply
    exact ⟨kind, space, body, request, r, creation, hmem, hspace, hrequest, hname, hreply⟩

abbrev sharedCalls (observed : DiskVolume) : Service interface (List Event) :=
  Service.through remote (shared observed)

theorem name_of_claimMetadata {made : Metadata}
    (h : observed.staged.claimMetadata observed.staged.claimName = .ok made) :
    made.name = some observed.claimName := by
  rw [DiskVolume.claimName_staged, DiskVolume.claimMetadata] at h
  split at h
  · cases h
  · cases h
    rfl

theorem Clean.provision (h : Clean observed log) (hspace : observed.metadata.space = some space)
    (hrun : (observed.staged.provision space).RunsTo (sharedCalls observed) log reply log') :
    Clean observed log' ∧
      ∀ creation, reply = .ok creation → Backed observed log' observed.claimName := by
  cases hmetadata : observed.staged.claimMetadata observed.staged.claimName with
  | error failure =>
      rcases provision_of_error space hmetadata with hprovision | hprovision
      · rw [hprovision] at hrun
        obtain ⟨rfl, rfl⟩ := Program.runsTo_done.mp hrun
        exact ⟨h, by simp⟩
      · rw [hprovision] at hrun
        obtain ⟨found, middle, hask, hrest⟩ | ⟨other, rfl, hask⟩ := Program.runsTo_andThen.mp hrun
        · have hclean := h.defaultClass (Program.runsTo_call_done.mp hask)
          cases found <;> obtain ⟨rfl, rfl⟩ := Program.runsTo_done.mp hrest <;>
            exact ⟨hclean, by simp⟩
        · exact ⟨h.defaultClass (Program.runsTo_call_done.mp hask), by simp⟩
  | ok made =>
      have hname := name_of_claimMetadata hmetadata
      rcases provision_of_ok space hmetadata with
        ⟨volume, hmade, hprovision⟩ | ⟨claimOf, hmade, hprovision⟩
      · rw [hprovision] at hrun
        have hcreate : (remote (.createDataVolume space volume)).RunsTo (shared observed) log reply
            log' := Program.runsTo_call_done.mp hrun
        rw [remote_createDataVolume] at hcreate
        exact h.post hspace ((nameOf_dataVolume volume).trans (hmade ▸ hname)) hcreate
      · rw [hprovision] at hrun
        obtain ⟨found, middle, hask, hrest⟩ | ⟨other, rfl, hask⟩ := Program.runsTo_andThen.mp hrun
        · have hclean := h.defaultClass (Program.runsTo_call_done.mp hask)
          cases found with
          | none =>
              obtain ⟨rfl, rfl⟩ := Program.runsTo_done.mp hrest
              exact ⟨hclean, by simp⟩
          | some storageClass =>
              have hcreate : (remote (.createClaim space (claimOf storageClass))).RunsTo
                  (shared observed) middle reply log' := Program.runsTo_call_done.mp hrest
              rw [remote_createClaim] at hcreate
              exact hclean.post hspace
                ((nameOf_claim (claimOf storageClass)).trans (hmade storageClass ▸ hname)) hcreate
        · exact ⟨h.defaultClass (Program.runsTo_call_done.mp hask), by simp⟩

theorem Clean.tell {α : Type} {result other : Except Failure α} {d : DiskVolume} {notice : Notice}
    (h : Clean observed log)
    (hrun : (tell d notice (.done result)).RunsTo (sharedCalls observed) log other log') :
    other = result ∧ Clean observed log' ∧ log <+: log' := by
  obtain ⟨_, middle, hpublish, hrest⟩ := Program.runsTo_call.mp hrun
  obtain ⟨rfl, rfl⟩ := Program.runsTo_done.mp hrest
  obtain ⟨between, hothers, ⟨⟩⟩ := Program.runsTo_call_done.mp hpublish
  exact ⟨rfl, h.interferes hothers⟩

theorem Clean.provisionAloud {result : Except Failure Unit} (h : Clean observed log)
    (hspace : observed.metadata.space = some space)
    (hrun : (observed.staged.provisionAloud space).RunsTo (sharedCalls observed) log result log') :
    Clean observed log' ∧ (result = .ok () → Backed observed log' observed.claimName) := by
  obtain ⟨creation, middle, hprovision, htell⟩ := Program.runsTo_bind.mp hrun
  obtain ⟨hclean, hbacked⟩ := h.provision hspace hprovision
  rcases creation with failure | ⟨⟨⟩ | ⟨⟩⟩
  · obtain ⟨rfl, hclean', -⟩ := hclean.tell htell
    exact ⟨hclean', by simp⟩
  · obtain ⟨rfl, hclean', hprefix⟩ := hclean.tell htell
    exact ⟨hclean', fun _ => (hbacked _ rfl).mono hprefix⟩
  · obtain ⟨rfl, rfl⟩ := Program.runsTo_done.mp htell
    exact ⟨hclean, fun _ => hbacked _ rfl⟩

end Provisioning

/-- The attempt goes on, or a write of the disk was refused and has ended it. -/
inductive Conduct {α : Type} (observed : DiskVolume) : List Event → Except Failure α → Prop
  | clean {log : List Event} {result : Except Failure α} (h : Clean observed log) :
      Conduct observed log result
  | refused {log : List Event} {failure : Failure} (h : Clean observed log)
      (hretryable : failure.isRetryable) : Conduct observed (log ++ [.refused]) (.error failure)

theorem Conduct.of_ok {α : Type} {a : α} {result : Except Failure α}
    (h : Conduct observed log result) (hresult : result = .ok a) : Clean observed log := by
  cases h with
  | clean h => exact h
  | refused => cases hresult

theorem Conduct.error {α β : Type} {failure : Failure}
    (h : Conduct observed log (.error failure : Except Failure α)) :
    Conduct observed log (.error failure : Except Failure β) := by
  cases h with
  | clean h => exact .clean h
  | refused h hretryable => exact .refused h hretryable

/-- The disk as the attempt knows it: as it was observed, or as the attempt has written it. -/
inductive Known (observed : DiskVolume) (log : List Event) : DiskVolume → Prop
  | found (hgiven : ¬observed.isUnstaged) : Known observed log observed
  | replaced {shown : DiskVolume} (hmem : .replaced shown ∈ log) (hhome : AtHome observed shown) :
      Known observed log shown

section Writing

variable {reply : Except Failure DiskVolume}

theorem Known.mono (h : Known observed log shown) (hlog : log <+: log') :
    Known observed log' shown := by
  cases h with
  | found hgiven => exact .found hgiven
  | replaced hmem hhome => exact .replaced (hlog.subset hmem) hhome

/-- A write on the version that an event gave the disk is accepted only if nobody has written it
since. -/
theorem Clean.unwritten_since (h : Clean observed log) {e : Event} {seen : DiskVolume} {body : Json}
    (hmem : e ∈ log) (he : e.stored? = some shown) (hcurrent : current? log = some seen)
    (huptodate : UpToDate body seen) (hversion : versionOf body = shown.metadata.resourceVersion) :
    seen = shown ∧ ∃ earlier since, log = earlier ++ e :: since ∧ ∀ e ∈ since, e.stored? = none := by
  obtain ⟨earlier, since, rfl⟩ := List.append_of_mem hmem
  have hsome : shown.metadata.resourceVersion.isSome :=
    h.versioned.isSome shown (by rw [stored_split he]; simp)
  obtain ⟨version, hshown⟩ := Option.isSome_iff_exists.mp hsome
  have hseen := huptodate version (hversion.trans hshown)
  obtain ⟨rfl, hsince⟩ := h.versioned.unwritten_since he hcurrent (hseen.trans hshown.symm)
  exact ⟨rfl, earlier, since, rfl, hsince⟩

theorem Clean.updateDisk (h : Clean observed log)
    (hrun : (remote (.updateDisk observed.staged)).RunsTo (shared observed) log reply log') :
    Conduct observed log' reply ∧ log <+: log' ∧
      ∀ shown, reply = .ok shown → Known observed log' shown := by
  rw [remote] at hrun
  cases hasked : Request.put (disksAddress observed.staged) observed.staged.name
      observed.staged.toJson with
  | error failure =>
      rw [hasked] at hrun
      obtain ⟨rfl, rfl⟩ := Program.runsTo_done.mp hrun
      exact ⟨.clean h, List.prefix_refl log', by simp⟩
  | ok request =>
      have hbody : request.body = some observed.staged.toJson := (Request.of_put hasked).2
      have hput : request.method = "PUT" := (Request.of_put hasked).1
      obtain ⟨r, ⟨middle, hothers, hhandles⟩, rfl⟩ := (runsTo_ask hasked).mp hrun
      obtain ⟨hclean, hprefix⟩ := h.interferes hothers
      cases hhandles with
      | @replaced _ _ _ body spec seen disk hrequest hcurrent hversion hspec hterms hstatus hhome
          hfresh hread =>
          cases hbody.symm.trans hrequest.of.2
          obtain ⟨rfl, hunwritten⟩ := hclean.unwritten_since hclean.mem rfl hcurrent hversion
            (versionOf_disk observed.staged)
          rw [at?_spec_disk, Option.some.injEq] at hspec
          rw [← hspec, DiskTerms.decode_toJson] at hterms
          have hsafe : SafeToReplace seen middle disk :=
            ⟨hunwritten, (Except.ok.inj hterms).symm, hstatus⟩
          refine ⟨.clean (hclean.concat (hclean.versioned.store hfresh rfl) ?_ (by simp) (by simp)),
            hprefix.trans (List.prefix_append _ _), ?_⟩
          · rintro _ ⟨⟩
            exact hsafe
          · intro shown hshown
            rw [hread shown hshown]
            exact .replaced (List.mem_append_right _ List.mem_cons_self) hhome
      | marked hrequest =>
          have hmethod := hput.symm.trans hrequest.of.1
          simp at hmethod
      | @refused _ _ _ _ failure hrequest hread =>
          rw [hread]
          exact ⟨.refused hclean (isRetryable_of_object hread),
            hprefix.trans (List.prefix_append _ _), by simp⟩
      | elsewhere hother => exact absurd hasked (hother observed.staged.toJson).1

theorem Clean.known (h : Clean observed log) (hknown : Known observed log shown) :
    AtHome observed shown ∧ shown.terms.claimName = some observed.claimName := by
  cases hknown with
  | found hgiven =>
      refine ⟨⟨rfl, rfl⟩, ?_⟩
      have hnamed : observed.staged.terms.claimName = some observed.claimName := rfl
      rwa [DiskVolume.staged_eq_self hgiven] at hnamed
  | replaced hmem hhome =>
      obtain ⟨before, after, hlog⟩ := List.append_of_mem hmem
      refine ⟨hhome, ?_⟩
      rw [(h.replaces before shown after hlog).terms_eq]
      rfl

theorem not_isForeign {e : Event} (h : e.stored? = none) : e.isForeign = false := by
  cases e <;> first | rfl | cases h

/-- A write on what the attempt knows of the disk is accepted only if nobody else has written the disk
since it was observed. -/
theorem Clean.untouched (h : Clean observed log) (hknown : Known observed log shown)
    {seen : DiskVolume} {body : Json} (hcurrent : current? log = some seen)
    (huptodate : UpToDate body seen) (hversion : versionOf body = shown.metadata.resourceVersion) :
    seen = shown ∧ ∃ earlier since, log = earlier ++ .foreign observed :: since ∧
      ∀ e ∈ since, e.isForeign = false := by
  cases hknown with
  | found hgiven =>
      obtain ⟨hseen, earlier, since, hlog, hsince⟩ :=
        h.unwritten_since h.mem rfl hcurrent huptodate hversion
      exact ⟨hseen, earlier, since, hlog, fun e he => not_isForeign (hsince e he)⟩
  | replaced hmem hhome =>
      obtain ⟨hseen, before, after, hlog, hafter⟩ :=
        h.unwritten_since hmem rfl hcurrent huptodate hversion
      obtain ⟨earlier, since, rfl, hsince⟩ := (h.replaces before shown after hlog).unwritten
      refine ⟨hseen, earlier, since ++ .replaced shown :: after, ?_, ?_⟩
      · rw [hlog, List.append_assoc, List.cons_append]
      · intro e he
        rcases List.mem_append.mp he with he | he
        · exact not_isForeign (hsince e he)
        · rcases List.mem_cons.mp he with rfl | he
          · rfl
          · exact not_isForeign (hafter e he)

theorem Clean.updateStatus (h : Clean observed log) (hknown : Known observed log shown)
    (hbacked : Backed observed log observed.claimName)
    (hrun : (remote (.updateStatus shown.completed)).RunsTo (shared observed) log reply log') :
    Conduct observed log' reply := by
  rw [remote] at hrun
  cases hasked : Request.merge (disksAddress shown.completed) shown.completed.name "/status"
      (statusChange shown.completed) with
  | error failure =>
      rw [hasked] at hrun
      obtain ⟨rfl, rfl⟩ := Program.runsTo_done.mp hrun
      exact .clean h
  | ok request =>
      obtain ⟨r, ⟨middle, hothers, hhandles⟩, rfl⟩ := (runsTo_ask hasked).mp hrun
      obtain ⟨hclean, hprefix⟩ := h.interferes hothers
      obtain ⟨hhome, hnamed⟩ := h.known hknown
      have hmarks : Marks observed (statusChange shown.completed) request := by
        have haddress : disksAddress shown.completed = disksAddress observed := by
          rw [disksAddress, disksAddress, ← hhome.space_eq]
          rfl
        have hname : shown.completed.name = observed.name := hhome.name_eq
        rwa [haddress, hname] at hasked
      cases hhandles with
      | replaced hrequest =>
          have hmethod := hmarks.of.1.symm.trans hrequest.of.1
          simp at hmethod
      | @marked _ _ _ body value seen disk status hrequest hcurrent hversion hvalue hdecode hstatus
          hterms hathome hfresh hread =>
          cases hmarks.of.2.symm.trans hrequest.of.2
          obtain ⟨rfl, huntouched⟩ := hclean.untouched (hknown.mono hprefix) hcurrent hversion
            (versionOf_statusChange _)
          rw [at?_status_statusChange rfl, Option.some.injEq] at hvalue
          rw [← hvalue, decode_statusMembers] at hdecode
          cases hdecode
          have hsafe : SafeToMark observed middle disk :=
            ⟨huntouched, seen, observed.claimName, hcurrent, hstatus, hterms, hnamed,
              hbacked.mono hprefix⟩
          refine .clean (hclean.concat (hclean.versioned.store hfresh rfl) (by simp) ?_ (by simp))
          rintro _ ⟨⟩
          exact hsafe
      | @refused _ _ _ _ failure hrequest hread =>
          rw [hread]
          exact .refused hclean (isRetryable_of_object hread)
      | elsewhere hother => exact absurd hmarks (hother _).2

theorem Clean.writeName {named : Except Failure DiskVolume} (h : Clean observed log)
    (hrun : observed.writeName.RunsTo (sharedCalls observed) log named log') :
    Conduct observed log' named ∧ log <+: log' ∧
      ∀ shown, named = .ok shown → Known observed log' shown := by
  rw [DiskVolume.writeName] at hrun
  split at hrun
  · exact h.updateDisk (Program.runsTo_call_done.mp hrun)
  · rename_i hgiven
    obtain ⟨rfl, rfl⟩ := Program.runsTo_done.mp hrun
    rw [DiskVolume.staged_eq_self hgiven]
    refine ⟨.clean h, List.prefix_refl log', ?_⟩
    rintro _ ⟨⟩
    exact .found hgiven

end Writing

section Attempting

variable {result : Except Failure Action}

theorem Clean.complete (h : Clean observed log) (hspace : observed.metadata.space = some space)
    (hrun : (observed.complete space).RunsTo (sharedCalls observed) log result log') :
    Conduct observed log' result := by
  obtain ⟨_, provided, hprovision, hrest⟩ | ⟨failure, rfl, hprovision⟩ :=
    Program.runsTo_andThen.mp hrun
  · obtain ⟨hclean, hbacked⟩ := h.provisionAloud hspace hprovision
    obtain ⟨shown, named, hname, hrest⟩ | ⟨failure, rfl, hname⟩ := Program.runsTo_andThen.mp hrest
    · obtain ⟨hconduct, hprefix, hknown⟩ := hclean.writeName hname
      have hclean' := hconduct.of_ok rfl
      have hbacked' := (hbacked rfl).mono hprefix
      obtain ⟨marked, middle, hmark, hdone⟩ | ⟨failure, rfl, hmark⟩ :=
        Program.runsTo_andThen.mp hrest
      · obtain ⟨rfl, rfl⟩ := Program.runsTo_done.mp hdone
        have hconduct' := hclean'.updateStatus (hknown shown rfl) hbacked'
          (Program.runsTo_call_done.mp hmark)
        exact .clean (hconduct'.of_ok rfl)
      · have hconduct' := hclean'.updateStatus (hknown shown rfl) hbacked'
          (Program.runsTo_call_done.mp hmark)
        exact hconduct'.error
    · exact (hclean.writeName hname).1.error
  · exact .clean (h.provisionAloud hspace hprovision).1

theorem Clean.reconcile (h : Clean observed log)
    (hrun : (observed.reconcile.over remote).RunsTo (shared observed) log result log') :
    Conduct observed log' result := by
  obtain ⟨_, middle, honce, hcount⟩ := Program.runsTo_bind.mp (Program.runsTo_over.mp hrun)
  obtain ⟨rfl, rfl⟩ := Program.runsTo_done.mp (Program.runsTo_count.mp hcount)
  rw [DiskVolume.reconcileOnce] at honce
  cases hspace : observed.metadata.space with
  | none =>
      rw [hspace] at honce
      obtain ⟨rfl, rfl⟩ := Program.runsTo_done.mp honce
      exact .clean h
  | some space =>
      simp only [hspace] at honce
      split at honce
      · exact .clean (h.tell honce).2.1
      · exact h.complete hspace honce

/-- An attempt on a disk as it was observed, while others write the disk before, between and after its
calls. -/
def SharedAttempt (observed : DiskVolume) (log : List Event) (result : Except Failure Action)
    (log' : List Event) : Prop :=
  ∃ middle, (observed.reconcile.over remote).RunsTo (shared observed) log result middle ∧
    Interferes observed middle log'

theorem clean_of_foreign (hforeign : ∀ e ∈ log, e.isForeign) (hversioned : Versioned log)
    (hmem : .foreign observed ∈ log) : Clean observed log := by
  refine ⟨hversioned, hmem, ?_, ?_, ?_⟩
  · rintro before disk after rfl
    cases hforeign _ (List.mem_append_right before List.mem_cons_self)
  · rintro before disk after rfl
    cases hforeign _ (List.mem_append_right before List.mem_cons_self)
  · intro hrefused
    cases hforeign _ hrefused

theorem Clean.considerate (h : Clean observed log) : Considerate observed log result := by
  refine ⟨h.replaces, h.marks, ?_⟩
  rintro before after rfl
  exact absurd (List.mem_append_right before List.mem_cons_self) h.unrefused

theorem Considerate.interferes (h : Considerate observed log result)
    (hothers : Interferes observed log log') : Considerate observed log' result := by
  induction hothers with
  | idle => exact h
  | write hothers hhome hfresh ih =>
      refine ⟨forall_split_concat ih.replaces (by simp), forall_split_concat ih.marks (by simp), ?_⟩
      intro before after hlog
      obtain ⟨-, hlast, -⟩ | ⟨rest, hfront, rfl⟩ := split_concat hlog
      · cases hlast
      · obtain ⟨-, hrest, hresult⟩ := ih.refusals before rest hfront
        exact ⟨hlog ▸ stored_append _ _, forall_mem_concat hrest rfl, hresult⟩

theorem Conduct.considerate (h : Conduct observed log result) :
    Considerate observed log result := by
  cases h with
  | clean h => exact h.considerate
  | @refused front failure h hretryable =>
      refine ⟨forall_split_concat h.replaces (by simp), forall_split_concat h.marks (by simp), ?_⟩
      intro before after hlog
      obtain ⟨-, -, rfl⟩ := eq_of_concat_eq hlog h.unrefused
      exact ⟨hlog ▸ stored_append _ _, by simp, failure, rfl, Failure.exists_nextAction hretryable⟩

/-- Whatever others write while a disk is reconciled, no write of theirs is lost. -/
theorem considerate_attempt (hforeign : ∀ e ∈ log, e.isForeign) (hversioned : Versioned log)
    (hobserved : .foreign observed ∈ log) (hattempt : SharedAttempt observed log result log') :
    Considerate observed log' result := by
  obtain ⟨middle, hrun, hothers⟩ := hattempt
  have hclean := clean_of_foreign hforeign hversioned hobserved
  exact (hclean.reconcile hrun).considerate.interferes hothers

end Attempting

/-- A blank disk that does not name its claim. -/
def blankDisk : DiskVolume :=
  newDisk blankSource

/-- The disk after it was told the name of its claim. -/
def namedDisk : DiskVolume :=
  { blankDisk.staged with metadata := { blankDisk.metadata with resourceVersion := some "8" } }

/-- The disk after somebody gave it another owner. -/
def handedDisk : DiskVolume :=
  { namedDisk with metadata := {
      blankDisk.metadata with
      resourceVersion := some "9"
      labels := some [(DiskVolume.ownerLabel, "vm-2")] } }

def refusing (reason : String) : Response :=
  Cluster.Numbered.refusal 409 "refused" reason

section Example

variable {log : List Event}

theorem elsewhere_class (log : List Event) :
    ∃ e, e.stored? = none ∧
      (sharedCalls blankDisk) .defaultClass log (.ok (some "fast")) (log ++ [e]) := by
  obtain ⟨request, hrequest, hplace⟩ := exists_classesRequest (newWorld blankSource)
  obtain ⟨r, hread⟩ := lists_newWorld blankSource
  have hother : ∀ body, ¬Replaces blankDisk body request ∧ ¬Marks blankDisk body request :=
    not_writes (by rw [hplace.method_eq]; decide) (by rw [hplace.method_eq]; decide)
  refine ⟨.asked request r, rfl, Program.runsTo_andThen.mpr (.inl ⟨[fastClass], _, ?_, .done⟩)⟩
  exact (runsTo_ask hrequest).mpr ⟨r, ⟨log, .idle, .elsewhere hother⟩, hread.symm⟩

theorem elsewhere_claim (log : List Event) :
    ∃ e, e.stored? = none ∧
      (sharedCalls blankDisk) (.createClaim "ns" madeClaim) log (.ok .alreadyExists)
        (log ++ [e]) := by
  obtain ⟨request, hrequest, hplace, -⟩ :=
    (legal_newWorld blankSource).exists_backingsRequest .claim madeClaim.toJson
  have hother : ∀ body, ¬Replaces blankDisk body request ∧ ¬Marks blankDisk body request :=
    not_writes (by rw [hplace.method_eq]; decide) (by rw [hplace.method_eq]; decide)
  have hrefuses : (refusing "AlreadyExists").Refuses 409 "AlreadyExists" :=
    Cluster.Numbered.refuses_refusal "refused" (by decide)
  obtain ⟨said, hobject, hreason⟩ := hrefuses.object_eq BackingKind.claim.decoder (by decide)
  have hreply : creationOf ((refusing "AlreadyExists").object BackingKind.claim.decoder) =
      .ok .alreadyExists := by
    simp [hobject, creationOf, Failure.isAlreadyExists, hreason]
  refine ⟨.asked request (refusing "AlreadyExists"), rfl, ?_⟩
  have hask : (ask BackingKind.claim.decoder (Request.post (BackingKind.claim.address "ns")
      madeClaim.toJson)).RunsTo (shared blankDisk) log
        ((refusing "AlreadyExists").object BackingKind.claim.decoder)
        (log ++ [.asked request (refusing "AlreadyExists")]) :=
    (runsTo_ask hrequest).mpr ⟨_, ⟨log, .idle, .elsewhere hother⟩, rfl⟩
  have hcreate : (remote (.createClaim "ns" madeClaim)).RunsTo (shared blankDisk) log
      (creationOf ((refusing "AlreadyExists").object BackingKind.claim.decoder))
      (log ++ [.asked request (refusing "AlreadyExists")]) := by
    rw [remote_createClaim]
    exact Program.runsTo_bind.mpr ⟨_, _, hask, .done⟩
  rwa [hreply] at hcreate

theorem replaced_blankDisk (hcurrent : current? log = some blankDisk) (hfresh : Fresh log namedDisk) :
    (sharedCalls blankDisk) (.updateDisk blankDisk.staged) log (.ok namedDisk)
      (log ++ [.replaced namedDisk]) := by
  obtain ⟨request, hrequest, -, hbody⟩ :=
    (legal_newWorld blankSource).exists_diskRequest rfl blankDisk.staged.toJson
  have hread : Response.object DiskVolume.decode ⟨200, namedDisk.toJson.render⟩ = .ok namedDisk :=
    Response.object_render (DiskVolume.decode_text (Metadata.survives rfl nofun nofun))
  have hversion : UpToDate blankDisk.staged.toJson blankDisk := by
    rw [UpToDate, versionOf_disk]
    exact fun _ h => h
  have hterms : DiskTerms.decode (Json.outline blankDisk.staged.terms.toJson) = .ok namedDisk.terms :=
    DiskTerms.decode_toJson _
  refine (runsTo_ask hrequest).mpr ⟨⟨200, namedDisk.toJson.render⟩, ⟨log, .idle, ?_⟩, hread.symm⟩
  refine .replaced hrequest hcurrent hversion (at?_spec_disk _) hterms rfl ⟨rfl, rfl⟩ hfresh ?_
  intro shown hshown
  exact Except.ok.inj (hshown.symm.trans hread)

theorem refused_namedDisk (hfresh : Fresh log handedDisk) :
    ∃ failure, (sharedCalls blankDisk) (.updateStatus namedDisk.completed) log (.error failure)
      (log ++ [.foreign handedDisk] ++ [.refused]) := by
  obtain ⟨request, hrequest, -, -⟩ :=
    (legal_newWorld blankSource).exists_statusRequest rfl (statusChange namedDisk.completed)
  have hrefuses : (refusing "Conflict").Refuses 409 "Conflict" :=
    Cluster.Numbered.refuses_refusal "refused" (by decide)
  obtain ⟨said, hobject, -⟩ := hrefuses.object_eq DiskVolume.decode (by decide)
  refine ⟨.api said, (runsTo_ask hrequest).mpr ⟨refusing "Conflict", ?_, hobject.symm⟩⟩
  have hothers : Interferes blankDisk log (log ++ [.foreign handedDisk]) :=
    .write .idle ⟨rfl, rfl⟩ hfresh
  exact ⟨_, hothers, .refused (.inr hrequest) hobject⟩

/-- Another owner is given to the disk before its status is written. -/
theorem considerate_attempt_handed : ∃ failure log,
    SharedAttempt blankDisk [.foreign blankDisk] (.error failure) log ∧
      .replaced namedDisk ∈ log ∧ .foreign handedDisk ∈ log ∧ .refused ∈ log ∧
      Considerate blankDisk log (.error failure) := by
  obtain ⟨e, he, hclass⟩ := elsewhere_class [.foreign blankDisk]
  obtain ⟨e', he', hclaim⟩ := elsewhere_claim ([.foreign blankDisk] ++ [e])
  have hstored : stored ([.foreign blankDisk] ++ [e] ++ [e']) = [blankDisk] := by
    rw [stored_concat_of_none he', stored_concat_of_none he]
    rfl
  have hstored' : stored ([.foreign blankDisk] ++ [e] ++ [e'] ++ [.replaced namedDisk]) =
      [blankDisk, namedDisk] := by
    rw [stored_concat rfl, hstored]
    rfl
  have hcurrent : current? ([.foreign blankDisk] ++ [e] ++ [e']) = some blankDisk := by
    rw [current?, hstored]
    rfl
  have hfresh : Fresh ([.foreign blankDisk] ++ [e] ++ [e']) namedDisk :=
    ⟨rfl, by rw [hstored]; decide⟩
  have hfresh' : Fresh ([.foreign blankDisk] ++ [e] ++ [e'] ++ [.replaced namedDisk]) handedDisk :=
    ⟨rfl, by rw [hstored']; decide⟩
  obtain ⟨failure, hmark⟩ := refused_namedDisk hfresh'
  have hprovision : (blankDisk.staged.provision "ns").RunsTo (sharedCalls blankDisk)
      [.foreign blankDisk] (.ok .alreadyExists) ([.foreign blankDisk] ++ [e] ++ [e']) :=
    .call hclass (.call hclaim .done)
  have haloud : (blankDisk.staged.provisionAloud "ns").RunsTo (sharedCalls blankDisk)
      [.foreign blankDisk] (.ok ()) ([.foreign blankDisk] ++ [e] ++ [e']) :=
    Program.runsTo_bind.mpr ⟨_, _, hprovision, .done⟩
  have hname : blankDisk.writeName.RunsTo (sharedCalls blankDisk)
      ([.foreign blankDisk] ++ [e] ++ [e']) (.ok namedDisk)
      ([.foreign blankDisk] ++ [e] ++ [e'] ++ [.replaced namedDisk]) :=
    .call (replaced_blankDisk hcurrent hfresh) .done
  have hcomplete : (blankDisk.complete "ns").RunsTo (sharedCalls blankDisk)
      [.foreign blankDisk] (.error failure) ([.foreign blankDisk] ++ [e] ++ [e'] ++
        [.replaced namedDisk] ++ [.foreign handedDisk] ++ [.refused]) := by
    refine Program.runsTo_andThen.mpr (.inl ⟨(), _, haloud, ?_⟩)
    refine Program.runsTo_andThen.mpr (.inl ⟨namedDisk, _, hname, ?_⟩)
    exact Program.runsTo_andThen.mpr (.inr ⟨failure, rfl, .call hmark .done⟩)
  have hattempt : SharedAttempt blankDisk [.foreign blankDisk] (.error failure) _ :=
    ⟨_, Program.runsTo_over.mpr (Program.runsTo_bind.mpr ⟨_, _, hcomplete, .count .done⟩), .idle⟩
  have hversioned : Versioned [.foreign blankDisk] := ⟨by decide, by decide⟩
  exact ⟨failure, _, hattempt, by simp, by simp, by simp,
    considerate_attempt (by decide) hversioned (by simp) hattempt⟩

end Example

end ClusterOperator.Backend
