import ClusterOperator.Proofs.Cluster.Object
import ClusterOperator.Proofs.Disk.Attempt

namespace ClusterOperator.Backend

open Cluster (Request Response ask creationOf)

variable {faults : Prop} {w w' : World} {name space : String}

/-- The storage classes of a cluster can be listed. -/
def World.Lists (w : World) : Prop :=
  ∃ r : Response, r.object Observed.storageClasses = .ok w.classes

section Answering

variable {α : Type} {decode : Json.Decoder α} {asked : Except Failure Request} {request : Request}
  {place : Place} {body : Json} {d : DiskVolume} {status : DiskStatus}

theorem runs_ask (hasked : asked = .ok request) (hplace : w.At place request)
    (h : ∃ r w', Serves w request r place w') :
    (ask decode asked).Runs (Answers faults) w := by
  obtain ⟨r, w', hserves⟩ := h
  exact ⟨_, w', (runsTo_ask hasked).mpr ⟨r, .served hplace hserves, rfl⟩⟩

theorem runs_defaultClass (hclasses : w.Lists) :
    (remote .defaultClass).Runs (Answers faults) w := by
  obtain ⟨request, hrequest, hplace⟩ := exists_classesRequest w
  obtain ⟨r, hread⟩ := hclasses
  exact (runs_ask hrequest hplace ⟨r, w, .listed hread⟩).andThen fun _ => Program.runs_done _

theorem exists_made (kind : BackingKind) :
    ∃ r : Response, ∃ metadata, r.object kind.decoder = .ok metadata := by
  refine ⟨⟨201, Json.render (.obj [])⟩, {}, ?_⟩
  cases kind <;> rfl

theorem runs_post {kind : BackingKind} (h : w.Legal name space) {claimName : String}
    (hname : Cluster.nameOf body = some claimName) :
    ((ask kind.decoder (Request.post (kind.address space) body)).bind fun made =>
      .done (creationOf made)).Runs (Answers faults) w := by
  obtain ⟨request, hrequest, hplace, hbody⟩ := h.exists_backingsRequest kind body
  refine (runs_ask hrequest hplace ?_).bind fun _ => Program.runs_done _
  by_cases hmem : ⟨kind, w.space, claimName⟩ ∈ w.backings
  · exact ⟨_, w, .present hbody hname hmem
      (Cluster.Numbered.refuses_refusal "already exists" (by decide))⟩
  · obtain ⟨r, hread⟩ := exists_made kind
    exact ⟨r, _, .made hbody hname hmem hread⟩

/-- An answer that says nothing but that the answer proper is lost. -/
def timeout : Response :=
  ⟨504, ""⟩

theorem runsTo_post_timeout {kind : BackingKind} {claimName : String}
    (h : w.Legal name space) (hname : Cluster.nameOf body = some claimName)
    (hfree : ⟨kind, w.space, claimName⟩ ∉ w.backings) :
    ((ask kind.decoder (Request.post (kind.address space) body)).bind fun made =>
      .done (creationOf made)).RunsTo (Answers True) w (.error (.api timeout.refusal))
        (w.add ⟨kind, w.space, claimName⟩) := by
  obtain ⟨request, hrequest, hplace, hbody⟩ := h.exists_backingsRequest kind body
  obtain ⟨made, hread⟩ := exists_made kind
  have hunknown : (Failure.api timeout.refusal).isAlreadyExists = false := by decide
  refine Program.runsTo_bind.mpr ⟨.error (.api timeout.refusal), w.add ⟨kind, w.space, claimName⟩,
    (runsTo_ask hrequest).mpr ⟨timeout, ?_, rfl⟩, Program.runsTo_done.mpr ⟨?_, rfl⟩⟩
  · have hfailure : (Place.backings kind).failure? timeout = some (.api timeout.refusal) := rfl
    refine .failed trivial hplace hfailure (.inr ⟨made, .made hbody hname hfree hread⟩) ?_
    intro hexists
    rw [hunknown] at hexists
    cases hexists
  · simp [creationOf, hunknown]

/-- A disk of which nothing is kept of the metadata but what it is known by. -/
def kept (d : DiskVolume) : DiskVolume :=
  { d with metadata := {
      name := d.metadata.name
      space := d.metadata.space
      uid := d.metadata.uid } }

theorem exists_shown (d : DiskVolume) :
    ∃ r : Response, r.object DiskVolume.decode = .ok (kept d) :=
  ⟨_, Response.object_render
    (DiskVolume.decode_text (d := kept d) (Metadata.survives rfl nofun nofun))⟩

theorem runs_updateDisk (h : w.Legal name space) (hmetadata : d.metadata = w.disk.metadata)
    (hstatus : d.status = w.disk.status) : (remote (.updateDisk d)).Runs (Answers faults) w := by
  obtain ⟨request, hrequest, hplace, hbody⟩ := h.exists_diskRequest hmetadata d.toJson
  obtain ⟨r, hread⟩ := exists_shown d
  have hsame : SameDisk d (kept d) := ⟨rfl, rfl, rfl⟩
  have hterms : DiskTerms.decode (Json.outline d.terms.toJson) = .ok (kept d).terms :=
    d.terms.decode_toJson
  have hversion : Cluster.versionOf d.toJson = w.disk.metadata.resourceVersion := by
    rw [versionOf_disk, hmetadata]
  exact runs_ask hrequest hplace ⟨r, _, .written hbody hversion (at?_spec_disk d) hterms hstatus
    (hsame.of_metadata_eq hmetadata.symm) hread⟩

theorem runs_updateStatus (h : w.Legal name space) (hmetadata : d.metadata = w.disk.metadata)
    (hterms : d.terms = w.disk.terms) (hstatus : d.status = some status) :
    (remote (.updateStatus d)).Runs (Answers faults) w := by
  obtain ⟨request, hrequest, hplace, hbody⟩ := h.exists_statusRequest hmetadata (statusChange d)
  obtain ⟨r, hread⟩ := exists_shown d
  have hsame : SameDisk d (kept d) := ⟨rfl, rfl, rfl⟩
  have hmarked : (kept d).status = some status := hstatus
  have hversion : Cluster.versionOf (statusChange d) = w.disk.metadata.resourceVersion := by
    rw [versionOf_statusChange, hmetadata]
  exact runs_ask hrequest hplace ⟨r, _, .marked hbody hversion (at?_status_statusChange hstatus)
    (decode_statusMembers status) hmarked hterms (hsame.of_metadata_eq hmetadata.symm) hread⟩

end Answering

section Stages

theorem runs_call {c : Call} (h : (remote c).Runs (Answers faults) w) :
    (Program.call (I := interface) c .done).Runs (calls faults) w := by
  obtain ⟨reply, w', hrun⟩ := h
  exact ⟨reply, w', Program.runsTo_call_done.mpr hrun⟩

theorem runs_createClaim {claim : Claim} {claimName : String} (h : w.Legal name space)
    (hname : claim.metadata.name = some claimName) :
    (remote (.createClaim space claim)).Runs (Answers faults) w := by
  rw [remote_createClaim]
  exact runs_post h ((nameOf_claim claim).trans hname)

theorem runs_createDataVolume {volume : DataVolume} {claimName : String} (h : w.Legal name space)
    (hname : volume.metadata.name = some claimName) :
    (remote (.createDataVolume space volume)).Runs (Answers faults) w := by
  rw [remote_createDataVolume]
  exact runs_post h ((nameOf_dataVolume volume).trans hname)

theorem runs_provision (h : w.Legal name space)
    (hclasses : w.Lists) :
    (w.disk.staged.provision space).Runs (calls faults) w := by
  cases hcontent : w.disk.terms.source.content with
  | image source =>
      obtain ⟨volume, hname, hprovision⟩ := h.exists_provision_image hcontent
      rw [hprovision]
      exact runs_call (runs_createDataVolume h hname)
  | blank =>
      obtain ⟨claimOf, hname, hprovision⟩ := h.exists_provision_blank hcontent
      rw [hprovision]
      refine (runs_call (runs_defaultClass hclasses)).andThen ?_
      intro found middle hlist
      obtain rfl := (lists_defaultClass (Program.runsTo_call_done.mp hlist)).state_eq
      cases found with
      | none => exact Program.runs_done _
      | some storageClass => exact runs_call (runs_createClaim h (hname storageClass))

theorem runs_tell {α : Type} {d : DiskVolume} {notice : Notice} {result : Except Failure α} :
    (tell d notice (.done result)).Runs (calls faults) w :=
  ⟨result, w, runsTo_tell.mpr .done⟩

theorem runs_provisionAloud (h : w.Legal name space)
    (hclasses : w.Lists) :
    (w.disk.staged.provisionAloud space).Runs (calls faults) w := by
  refine (runs_provision h hclasses).bind ?_
  rintro (failure | ⟨⟩ | ⟨⟩) middle -
  · exact runs_tell
  · exact runs_tell
  · exact Program.runs_done _

theorem runs_writeName (h : w.Legal name space) :
    w.disk.writeName.Runs (calls faults) w := by
  rw [DiskVolume.writeName]
  split
  · exact runs_call (runs_updateDisk h (d := w.disk.staged) rfl rfl)
  · exact Program.runs_done _

theorem runs_complete (h : w.Legal name space) (hstatus : w.disk.status = none)
    (hclasses : w.Lists) :
    (w.disk.complete space).Runs (calls faults) w := by
  refine (runs_provisionAloud h hclasses).andThen ?_
  intro _ provisioned hprovision
  have hprovisioned := advances_provisionAloud h hstatus hprovision
  have hlegal := h.of_keeps hprovisioned.keeps
  obtain ⟨hdisk, -⟩ := hprovisioned.of_ok _ rfl
  rw [← hdisk] at hstatus ⊢
  refine (runs_writeName hlegal).andThen ?_
  intro written _ hwrite
  have hnamed := advances_writeName hlegal hstatus hwrite
  obtain ⟨-, rfl⟩ := hnamed.of_ok _ rfl
  refine (runs_call (runs_updateStatus (hlegal.of_keeps hnamed.keeps)
    (d := written.completed) rfl rfl rfl)).andThen ?_
  exact fun _ => Program.runs_done _

/-- An attempt can be made in every cluster that can list its storage classes. -/
theorem exists_attempt (h : w.Legal name space) (hsound : w.Sound)
    (hclasses : w.Lists) :
    ∃ result w', Attempt faults w result w' := by
  have hruns : w.disk.reconcileOnce.Runs (calls faults) w := by
    rw [DiskVolume.reconcileOnce, h.space_eq]
    rcases hsound with hstatus | hcompleted
    · simp only [DiskVolume.isCreated, hstatus]
      exact runs_complete h hstatus hclasses
    · obtain ⟨status, hstatus, hcreated, hready⟩ := hcompleted.marked
      simp only [DiskVolume.isCreated, DiskVolume.isReady, hstatus, Option.any_some, hcreated, hready]
      exact runs_tell
  obtain ⟨result, w', hrun⟩ := hruns
  exact ⟨result, w', Program.runsTo_over.mpr
    (Program.runsTo_bind.mpr ⟨result, w', hrun, .count .done⟩)⟩

end Stages

end ClusterOperator.Backend
