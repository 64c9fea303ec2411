import ClusterOperator.Proofs.Disk.Requests

namespace ClusterOperator.Backend

open Cluster (Request Response ask creationOf)
open Json (Decoder)

variable {faults : Prop} {w w' : World} {name space : String}

section Asking

variable {α σ : Type} {decode : Decoder α} {asked : Except Failure Request} {request : Request}
  {place : Place} {r : Response} {failure : Failure} {result : Except Failure α}

theorem runsTo_ask {service : Service Cluster.interface σ} {s s' : σ} (h : asked = .ok request) :
    (ask decode asked).RunsTo service s result s' ↔
      ∃ r, service (.send request) s r s' ∧ result = r.object decode := by
  subst h
  rw [ask, Program.runsTo_call]
  simp only [Program.runsTo_done]
  constructor
  · rintro ⟨r, _, hanswer, hresult, rfl⟩
    exact ⟨r, hanswer, hresult⟩
  · rintro ⟨r, hanswer, hresult⟩
    exact ⟨r, s', hanswer, hresult, rfl⟩

theorem isRetryable_of_object (h : r.object decode = .error failure) : failure.isRetryable := by
  rw [Response.object] at h
  split at h
  · cases h
    rfl
  · split at h
    · cases h
    · split at h <;> cases h <;> rfl

theorem failureOf_eq_some {x : Except Failure α} : failureOf x = some failure ↔ x = .error failure := by
  cases x <;> simp [failureOf]

/-- What a request for a place comes to, whose answer is read. -/
inductive Asked (faults : Prop) (w : World) (request : Request) (place : Place) (decode : Decoder α)
    (result : Except Failure α) (w' : World) : Prop
  | served {r : Response} (hserves : Serves w request r place w')
      (hresult : result = r.object decode)
  | failed {failure : Failure} (hfaults : faults) (hretryable : failure.isRetryable)
      (hresult : result = .error failure) (heffect : w' = w ∨ ∃ r, Serves w request r place w')
      (hexists : failure.isAlreadyExists → ∀ kind body name, place = .backings kind →
        request.body = some body → Cluster.nameOf body = some name →
          ⟨kind, w.space, name⟩ ∈ w'.backings)

theorem asked_of_runsTo (hasked : asked = .ok request) (hplace : w.At place request)
    (hread : ∀ r, place.failure? r = failureOf (r.object decode))
    (hrun : (ask decode asked).RunsTo (Answers faults) w result w') :
    Asked faults w request place decode result w' := by
  obtain ⟨r, hanswer, hresult⟩ := (runsTo_ask hasked).mp hrun
  cases hanswer with
  | served hplace' hserves =>
      cases hplace'.place_eq hplace
      exact .served hserves hresult
  | failed hfaults hplace' hfailure heffect hexists =>
      cases hplace'.place_eq hplace
      rw [hread, failureOf_eq_some] at hfailure
      exact .failed hfaults (isRetryable_of_object hfailure) (hresult.trans hfailure) heffect hexists
  | elsewhere hother => exact absurd hplace (hother place)

end Asking

section Listing

variable {reply : Except Failure (Option String)}

/-- What asking for the default class comes to. -/
structure Lists (faults : Prop) (w : World) (reply : Except Failure (Option String)) (w' : World) :
    Prop where
  state_eq : w' = w
  of_ok : ∀ found, reply = .ok found → found = StorageClass.findDefault w.classes
  of_error : ∀ failure, reply = .error failure → faults ∧ failure.isRetryable

theorem Serves.lists {request : Request} {r : Response} (h : Serves w request r .classes w') :
    w' = w ∧ r.object Observed.storageClasses = .ok w.classes := by
  cases h with
  | listed hread => exact ⟨rfl, hread⟩
  | stale hplace => simp at hplace

theorem lists_defaultClass
    (hrun : (remote .defaultClass).RunsTo (Answers faults) w reply w') :
    Lists faults w reply w' := by
  obtain ⟨request, hrequest, hplace⟩ := exists_classesRequest w
  obtain ⟨classes, _, hask, ⟨⟩⟩ | ⟨failure, rfl, hask⟩ := Program.runsTo_andThen.mp hrun
  · cases asked_of_runsTo hrequest hplace (fun _ => rfl) hask with
    | served hserves hresult =>
        obtain ⟨hstate, hread⟩ := hserves.lists
        cases hresult.trans hread
        exact ⟨hstate, fun _ h => (Except.ok.inj h).symm, nofun⟩
    | failed _ _ hresult => cases hresult
  · cases asked_of_runsTo hrequest hplace (fun _ => rfl) hask with
    | served hserves hresult => cases hresult.trans hserves.lists.2
    | failed hfaults hretryable hresult heffect =>
        cases hresult
        refine ⟨?_, nofun, fun _ h => Except.error.inj h ▸ ⟨hfaults, hretryable⟩⟩
        rcases heffect with heffect | ⟨r, hserves⟩
        · exact heffect
        · exact hserves.lists.1

end Listing

section Creating

variable {kind : BackingKind} {body : Json} {claimName : String} {reply : Except Failure Creation}
  {request : Request} {r : Response}

/-- What a call that makes a backing comes to. -/
structure Creates (excuse : Prop) (w : World) (b : Backing) (reply : Except Failure Creation)
    (w' : World) : Prop where
  effect : w' = w ∨ b ∉ w.backings ∧ w' = w.add b
  of_ok : ∀ creation, reply = .ok creation → b ∈ w'.backings
  of_error : ∀ failure, reply = .error failure → excuse ∧ failure.isRetryable

theorem Serves.creates (h : Serves w request r (.backings kind) w') (hbody : request.body = some body)
    (hname : Cluster.nameOf body = some claimName) :
    Creates faults w ⟨kind, w.space, claimName⟩ (creationOf (r.object kind.decoder)) w' := by
  cases h with
  | made hbody' hname' hfree hread =>
      obtain ⟨metadata, hread⟩ := hread
      cases hbody.symm.trans hbody'
      cases hname.symm.trans hname'
      rw [hread]
      exact ⟨.inr ⟨hfree, rfl⟩, fun _ _ => List.mem_append_right _ List.mem_cons_self, nofun⟩
  | present hbody' hname' hmem hrefuses =>
      cases hbody.symm.trans hbody'
      cases hname.symm.trans hname'
      obtain ⟨said, hobject, hreason⟩ := hrefuses.object_eq kind.decoder (by decide)
      have hreply : creationOf (r.object kind.decoder) = .ok .alreadyExists := by
        simp [hobject, creationOf, Failure.isAlreadyExists, hreason]
      rw [hreply]
      exact ⟨.inl rfl, fun _ _ => hmem, nofun⟩
  | stale hplace => simp at hplace

theorem creates_of_runsTo (h : w.Legal name space) (hname : Cluster.nameOf body = some claimName)
    (hrun : ((ask kind.decoder (Request.post (kind.address space) body)).bind fun made =>
      .done (creationOf made)).RunsTo (Answers faults) w reply w') :
    Creates faults w ⟨kind, w.space, claimName⟩ reply w' := by
  obtain ⟨request, hrequest, hplace, hbody⟩ := h.exists_backingsRequest kind body
  obtain ⟨made, _, hask, ⟨⟩⟩ := Program.runsTo_bind.mp hrun
  cases asked_of_runsTo hrequest hplace (fun _ => rfl) hask with
  | served hserves hresult =>
      rw [hresult]
      exact hserves.creates hbody hname
  | @failed failure hfaults hretryable hresult heffect hexists =>
      subst hresult
      refine ⟨?_, ?_, ?_⟩
      · rcases heffect with heffect | ⟨r, hserves⟩
        · exact .inl heffect
        · have hcreates : Creates faults _ _ _ _ := hserves.creates hbody hname
          exact hcreates.effect
      · intro creation hreply
        rw [creationOf] at hreply
        split at hreply
        · exact hexists ‹_› kind body claimName rfl hbody hname
        · cases hreply
      · intro other hreply
        rw [creationOf] at hreply
        split at hreply
        · cases hreply
        · exact Except.error.inj hreply ▸ ⟨hfaults, hretryable⟩

theorem remote_createClaim (space : String) (claim : Claim) :
    remote (.createClaim space claim) =
      (ask BackingKind.claim.decoder
        (Request.post (BackingKind.claim.address space) claim.toJson)).bind
          fun made => .done (creationOf made) := by
  rw [remote, BackingKind.decoder, BackingKind.address]

theorem remote_createDataVolume (space : String) (volume : DataVolume) :
    remote (.createDataVolume space volume) =
      (ask BackingKind.dataVolume.decoder
        (Request.post (BackingKind.dataVolume.address space) volume.toJson)).bind
          fun made => .done (creationOf made) := by
  rw [remote, BackingKind.decoder, BackingKind.address]

theorem creates_createClaim {claim : Claim} (h : w.Legal name space)
    (hname : claim.metadata.name = some claimName)
    (hrun : (remote (.createClaim space claim)).RunsTo (Answers faults) w reply w') :
    Creates faults w ⟨.claim, w.space, claimName⟩ reply w' := by
  rw [remote_createClaim] at hrun
  exact creates_of_runsTo h ((nameOf_claim claim).trans hname) hrun

theorem creates_createDataVolume {volume : DataVolume} (h : w.Legal name space)
    (hname : volume.metadata.name = some claimName)
    (hrun : (remote (.createDataVolume space volume)).RunsTo (Answers faults) w reply w') :
    Creates faults w ⟨.dataVolume, w.space, claimName⟩ reply w' := by
  rw [remote_createDataVolume] at hrun
  exact creates_of_runsTo h ((nameOf_dataVolume volume).trans hname) hrun

end Creating

section Writing

variable {d : DiskVolume} {status : DiskStatus} {reply : Except Failure DiskVolume}
  {request : Request} {place : Place} {r : Response} {asked : Except Failure Request}

/-- A disk as it was to be written, but for what a cluster adds to its metadata. -/
structure WrittenAs (intended disk : DiskVolume) : Prop extends SameDisk intended disk where
  terms_eq : disk.terms = intended.terms
  status_eq : disk.status = intended.status

/-- What a call that writes the disk comes to. -/
structure Writes (faults : Prop) (w : World) (d : DiskVolume) (reply : Except Failure DiskVolume)
    (w' : World) : Prop where
  effect : w' = w ∨ ∃ disk, WrittenAs d disk ∧ w' = { w with disk }
  of_ok : ∀ disk, reply = .ok disk → WrittenAs d disk ∧ w' = { w with disk }
  of_error : ∀ failure, reply = .error failure → faults ∧ failure.isRetryable

/-- Where the request is served, the disk is written. -/
theorem writes_of_runsTo (hasked : asked = .ok request) (hplace : w.At place request)
    (hread : ∀ r, place.failure? r = failureOf (r.object DiskVolume.decode))
    (hserved : ∀ r w', Serves w request r place w' →
      ∃ disk, WrittenAs d disk ∧ w' = { w with disk } ∧ r.object DiskVolume.decode = .ok disk)
    (hrun : (ask DiskVolume.decode asked).RunsTo (Answers faults) w reply w') :
    Writes faults w d reply w' := by
  cases asked_of_runsTo hasked hplace hread hrun with
  | served hserves hresult =>
      obtain ⟨disk, hwritten, hstate, hobject⟩ := hserved _ _ hserves
      cases hresult.trans hobject
      exact ⟨.inr ⟨disk, hwritten, hstate⟩, fun _ h => Except.ok.inj h ▸ ⟨hwritten, hstate⟩, nofun⟩
  | failed hfaults hretryable hresult heffect =>
      subst hresult
      refine ⟨heffect.imp_right ?_, ?_, fun _ h => Except.error.inj h ▸ ⟨hfaults, hretryable⟩⟩
      · rintro ⟨r, hserves⟩
        obtain ⟨disk, hwritten, hstate, -⟩ := hserved _ _ hserves
        exact ⟨disk, hwritten, hstate⟩
      · intro disk hreply
        cases hreply

theorem SameDisk.of_metadata_eq {d' disk : DiskVolume} (hsame : SameDisk d' disk)
    (h : d.metadata = d'.metadata) : SameDisk d disk := by
  obtain ⟨hname, hspace, huid⟩ := hsame
  rw [← h] at hname hspace huid
  exact ⟨hname, hspace, huid⟩

theorem writes_updateDisk (h : w.Legal name space) (hmetadata : d.metadata = w.disk.metadata)
    (hstatus : d.status = w.disk.status)
    (hrun : (remote (.updateDisk d)).RunsTo (Answers faults) w reply w') :
    Writes faults w d reply w' := by
  obtain ⟨request, hrequest, hplace, hbody⟩ := h.exists_diskRequest hmetadata d.toJson
  refine writes_of_runsTo hrequest hplace (fun _ => rfl) ?_ hrun
  intro r w' hserves
  cases hserves with
  | written hbody' hversion hspec hterms hkept hsame hread =>
      cases hbody.symm.trans hbody'
      rw [at?_spec_disk, Option.some.injEq] at hspec
      rw [← hspec, d.terms.decode_toJson] at hterms
      exact ⟨_, ⟨hsame.of_metadata_eq hmetadata, (Except.ok.inj hterms).symm,
        hkept.trans hstatus.symm⟩, rfl, hread⟩
  | stale hplace hbody' hversion =>
      -- Nobody else has written the disk since.
      cases hbody.symm.trans hbody'
      rw [versionOf_disk, hmetadata] at hversion
      exact absurd rfl hversion

theorem writes_updateStatus (h : w.Legal name space) (hmetadata : d.metadata = w.disk.metadata)
    (hterms : d.terms = w.disk.terms) (hstatus : d.status = some status)
    (hrun : (remote (.updateStatus d)).RunsTo (Answers faults) w reply w') :
    Writes faults w d reply w' := by
  obtain ⟨request, hrequest, hplace, hbody⟩ := h.exists_statusRequest hmetadata (statusChange d)
  refine writes_of_runsTo hrequest hplace (fun _ => rfl) ?_ hrun
  intro r w' hserves
  cases hserves with
  | marked hbody' hversion hvalue hdecode hmarked hkept hsame hread =>
      cases hbody.symm.trans hbody'
      rw [at?_status_statusChange hstatus, Option.some.injEq] at hvalue
      rw [← hvalue, decode_statusMembers] at hdecode
      cases hdecode
      exact ⟨_, ⟨hsame.of_metadata_eq hmetadata, hkept.trans hterms.symm,
        hmarked.trans hstatus.symm⟩, rfl, hread⟩
  | stale hplace hbody' hversion =>
      cases hbody.symm.trans hbody'
      rw [versionOf_statusChange, hmetadata] at hversion
      exact absurd rfl hversion

end Writing

theorem runsTo_publish {disk : DiskVolume} {notice : Notice} {reply : Unit} :
    (remote (.publish disk notice)).RunsTo (Answers faults) w reply w' ↔ w' = w := by
  rw [remote, Program.runsTo_call_done]
  constructor
  · rintro ⟨⟩
    rfl
  · rintro rfl
    exact .published

end ClusterOperator.Backend
