import ClusterOperator.Proofs.Disk.Attempt
import ClusterOperator.Proofs.Transcript

/-!
What reconciling a disk says to a cluster, whatever the cluster answers.

One thing at most is made, which is the claim of the disk. The status comes last: it is written once
at most, after the claim was made or found and after the disk was told the name of the claim. The first
failure ends it all.
-/

namespace ClusterOperator.Backend

variable {d : DiskVolume} {space claimName : String} {log : List (Exchange interface)}

/-- The namespace and the metadata of what a call makes. -/
def Call.made? : Call → Option (String × Metadata)
  | .createClaim space claim => some (space, claim.metadata)
  | .createDataVolume space volume => some (space, volume.metadata)
  | _ => none

def Call.makes (c : Call) : Bool :=
  c.made?.isSome

def Call.marks : Call → Bool
  | .updateStatus _ => true
  | _ => false

def Call.edits : Call → Bool
  | .updateDisk _ => true
  | .updateStatus _ => true
  | _ => false

def Call.writes (c : Call) : Bool :=
  c.makes || c.edits

/-- The failure that a call was answered with. -/
def failed? : Exchange interface → Option Failure
  | ⟨.defaultClass, reply⟩ => failureOf reply
  | ⟨.createClaim _ _, reply⟩ => failureOf reply
  | ⟨.createDataVolume _ _, reply⟩ => failureOf reply
  | ⟨.updateDisk _, reply⟩ => failureOf reply
  | ⟨.updateStatus _, reply⟩ => failureOf reply
  | ⟨.publish _ _, _⟩ => none

/-- The user is told that the claim of a disk cannot be made. -/
def warning (d : DiskVolume) (failure : Failure) : Exchange interface :=
  ⟨.publish d.staged ⟨true, "ProvisionFailed", failure.message⟩, ()⟩

/-- A disk with another name of its claim. -/
def naming (d : DiskVolume) (claimName : String) : DiskVolume :=
  { d with terms := { d.terms with claimName := some claimName } }

/-- What is made for a disk: it lies in the namespace of the disk, has the name that the disk gives or
else the default one, and is owned by the disk alone. -/
structure MadeFor (d : DiskVolume) (space : String) (made : Metadata) : Prop where
  within : d.metadata.space = some space
  space_eq : made.space = some space
  given : d.terms.claimName.getD "" ≠ "" → made.name = d.terms.claimName
  owned : ∃ name uid, d.metadata.name = some name ∧ d.metadata.uid = some uid ∧
    (d.terms.claimName.getD "" = "" → made.name = some ("tpl-" ++ name)) ∧
    made.ownerReferences = some [{
      apiVersion := "virtualization.kubesphere.io/v1alpha1"
      kind := "DiskVolume"
      name
      uid
      controller := some true
      blockOwnerDeletion := some true }]

/-- Who owns an object: its first owner reference says so, or else its label. -/
inductive OwnedBy (m : Metadata) : String → Prop
  | reference {first : OwnerReference} {rest : List OwnerReference}
      (howners : m.ownerReferences = some (first :: rest)) : OwnedBy m first.name
  | label {owner : String} (howners : m.ownerReferences.getD [] = [])
      (hlabel : (m.labels.getD []).lookup "virtualization.kubesphere.io/diskvolume-owner" =
        some owner) : OwnedBy m owner
  | nobody (howners : m.ownerReferences.getD [] = [])
      (hlabel : (m.labels.getD []).lookup "virtualization.kubesphere.io/diskvolume-owner" = none) :
      OwnedBy m ""

/-- The disk as the cluster last showed it: as it was found, or as it became when it was told the name
of its claim. -/
inductive Shown (d : DiskVolume) (log : List (Exchange interface)) : DiskVolume → Prop
  | found (hgiven : d.terms.claimName.getD "" ≠ "") (hkept : ∀ e ∈ log, e.call.edits = false) :
      Shown d log d
  | named {name : String} {shown : DiskVolume} (hdefaulted : d.terms.claimName.getD "" = "")
      (hname : d.metadata.name = some name)
      (hmem : ⟨.updateDisk (naming d ("tpl-" ++ name)), .ok shown⟩ ∈ log) : Shown d log shown

/-- What has to be said before the status of a disk is written. -/
structure MayMark (d : DiskVolume) (before : List (Exchange interface)) (written : DiskVolume) :
    Prop where
  made : ∃ e ∈ before, e.call.makes ∧ failed? e = none
  shown : ∃ shown owner, Shown d before shown ∧ OwnedBy shown.metadata owner ∧
    written = { shown with status := some { created := true, ready := true, owner } }

/-- What an attempt on a disk may say to the cluster, and what it comes to. -/
structure Disciplined (d : DiskVolume) (log : List (Exchange interface))
    (result : Except Failure Action) : Prop where
  makes_once : log.countP (fun e => e.call.makes) ≤ 1
  makes : ∀ e ∈ log, ∀ space made, e.call.made? = some (space, made) → MadeFor d space made
  marks_once : log.countP (fun e => e.call.marks) ≤ 1
  marks : ∀ before written reply after,
    log = before ++ ⟨.updateStatus written, reply⟩ :: after → MayMark d before written
  /-- The first failure is the result. Nothing follows it but a warning, where the claim could not be
  made. -/
  stops : ∀ before e after failure, log = before ++ e :: after → failed? e = some failure →
    result = .error failure ∧ after = if e.call.edits then [] else [warning d failure]
  /-- Where no call fails but the attempt does, nothing was written. -/
  refuses : ∀ failure, result = .error failure → (∀ e ∈ log, failed? e = none) →
    (∀ e ∈ log, e.call.writes = false) ∧
      (d.metadata.space = none ∧ log = [] ∨ log.getLast? = some (warning d failure))
  succeeds : ∀ action, result = .ok action → action = .awaitChange ∧
    ((∃ status, d.status = some status ∧ status.created = true ∧ status.ready = true ∧
        log = [⟨.publish d ⟨false, "Synced", "DiskVolume synced successfully"⟩, ()⟩]) ∨
      ∃ written marked, log.getLast? = some ⟨.updateStatus written, .ok marked⟩)

theorem ownedBy_owner (d : DiskVolume) : OwnedBy d.metadata d.owner := by
  unfold DiskVolume.owner
  cases howners : d.metadata.ownerReferences.getD [] with
  | cons first rest =>
      obtain ⟨references, hreferences, rfl⟩ : ∃ references,
          d.metadata.ownerReferences = some references ∧ references = first :: rest := by
        cases hreferences : d.metadata.ownerReferences with
        | none =>
            rw [hreferences] at howners
            cases howners
        | some references =>
            rw [hreferences] at howners
            exact ⟨references, rfl, howners⟩
      exact .reference hreferences
  | nil =>
      cases hlabel : d.metadata.label? DiskVolume.ownerLabel with
      | none => exact .nobody howners hlabel
      | some owner => exact .label howners hlabel

theorem madeFor_of_claimMetadata {made : Metadata} (hspace : d.metadata.space = some space)
    (h : d.staged.claimMetadata d.staged.claimName = .ok made) : MadeFor d space made := by
  rw [DiskVolume.claimMetadata, DiskVolume.claimName_staged] at h
  cases hname : d.metadata.name with
  | none => simp [DiskVolume.asController, DiskVolume.staged, hname] at h
  | some name =>
      cases huid : d.metadata.uid with
      | none => simp [DiskVolume.asController, DiskVolume.staged, hname, huid] at h
      | some uid =>
          simp only [DiskVolume.asController, DiskVolume.staged, hname, huid, Option.pure_def,
            Option.bind_eq_bind, Option.bind_some, Except.ok.injEq] at h
          subst h
          refine ⟨hspace, hspace, ?_, name, uid, hname, huid, ?_, rfl⟩
          · intro hgiven
            cases hclaim : d.terms.claimName with
            | none => simp [hclaim] at hgiven
            | some given =>
                rw [hclaim] at hgiven
                exact congrArg some (DiskVolume.claimName_of_named hclaim hgiven)
          · intro hdefaulted
            have hunstaged : d.isUnstaged = true := decide_eq_true hdefaulted
            simp [DiskVolume.claimName, hunstaged, DiskVolume.defaultClaimName, DiskVolume.name,
              Metadata.anyName, hname]

/-- What is said when the claim of a disk is made, and what it comes to. -/
structure Provisions (d : DiskVolume) (space : String) (log : List (Exchange interface))
    (result : Except Failure Creation) : Prop where
  keeps : ∀ e ∈ log, e.call.edits = false
  makes_once : log.countP (fun e => e.call.makes) ≤ 1
  makes : ∀ e ∈ log, ∀ space made, e.call.made? = some (space, made) → MadeFor d space made
  stops : ∀ before e after failure, log = before ++ e :: after → failed? e = some failure →
    result = .error failure ∧ after = []
  succeeds : ∀ creation, result = .ok creation → ∃ e ∈ log, e.call.makes ∧ failed? e = none
  refuses : ∀ failure, result = .error failure → (∀ e ∈ log, failed? e = none) →
    ∀ e ∈ log, e.call.writes = false

section Making

variable {result : Except Failure Creation}

theorem Call.made?_eq_none {c : Call} (h : c.writes = false) : c.made? = none := by
  simpa [writes, makes] using (Bool.or_eq_false_iff.mp h).1

theorem Call.edits_eq_false {c : Call} (h : c.writes = false) : c.edits = false :=
  (Bool.or_eq_false_iff.mp h).2

theorem madeFor_of_made?_eq_none {c : Call} (h : c.made? = none) :
    ∀ space made, c.made? = some (space, made) → MadeFor d space made := by
  intro space made hmade
  rw [h] at hmade
  cases hmade

theorem countP_makes_eq_zero (h : ∀ e ∈ log, e.call.writes = false) :
    log.countP (fun e => e.call.makes) = 0 := by
  rw [List.countP_eq_zero]
  intro e he
  simp [Call.makes, Call.made?_eq_none (h e he)]

theorem forall_mem_concat {α : Type} {P : α → Prop} {front : List α} {last : α}
    (hfront : ∀ x ∈ front, P x) (hlast : P last) : ∀ x ∈ front ++ [last], P x :=
  List.forall_mem_append.mpr ⟨hfront, List.forall_mem_singleton.mpr hlast⟩

theorem split_concat {α : Type} {front before after : List α} {last x : α}
    (h : front ++ [last] = before ++ x :: after) :
    before = front ∧ x = last ∧ after = [] ∨
      ∃ rest, front = before ++ x :: rest ∧ after = rest ++ [last] := by
  rcases List.eq_nil_or_concat after with rfl | ⟨rest, y, rfl⟩
  · obtain ⟨hfront, hlast⟩ := List.append_inj' h rfl
    exact .inl ⟨hfront.symm, (List.singleton_inj.mp hlast).symm, rfl⟩
  · rw [List.concat_eq_append, ← List.cons_append, ← List.append_assoc] at h
    obtain ⟨rfl, hlast⟩ := List.append_inj' h rfl
    exact .inr ⟨rest, rfl, by rw [List.concat_eq_append, List.singleton_inj.mp hlast]⟩

theorem eq_of_concat_eq {α : Type} {front before after : List α} {last x : α}
    (h : front ++ [last] = before ++ x :: after) (hx : x ∉ front) :
    before = front ∧ x = last ∧ after = [] := by
  rcases split_concat h with hsplit | ⟨rest, rfl, -⟩
  · exact hsplit
  · exact absurd (List.mem_append_right before List.mem_cons_self) hx

theorem provisions_error {failure : Failure} (hwrites : ∀ e ∈ log, e.call.writes = false)
    (hstops : ∀ before e after other, log = before ++ e :: after → failed? e = some other →
      other = failure ∧ after = []) :
    Provisions d space log (.error failure) := by
  refine ⟨fun e he => Call.edits_eq_false (hwrites e he), ?_, ?_, ?_, nofun, fun _ _ _ => hwrites⟩
  · rw [countP_makes_eq_zero hwrites]
    exact Nat.zero_le 1
  · exact fun e he => madeFor_of_made?_eq_none (Call.made?_eq_none (hwrites e he))
  · intro before e after other hlog hfailed
    obtain ⟨rfl, rfl⟩ := hstops before e after other hlog hfailed
    exact ⟨rfl, rfl⟩

theorem provisions_refused {failure : Failure}
    (h : ∀ e ∈ log, e.call.writes = false ∧ failed? e = none) :
    Provisions d space log (.error failure) := by
  refine provisions_error (fun e he => (h e he).1) ?_
  rintro before e after other rfl hfailed
  rw [(h e (List.mem_append_right before List.mem_cons_self)).2] at hfailed
  cases hfailed

theorem provisions_made (asked : List (Exchange interface)) {e : Exchange interface}
    {made : Metadata} (hasked : ∀ e ∈ asked, e.call.writes = false ∧ failed? e = none)
    (hmade : e.call.made? = some (space, made)) (hedits : e.call.edits = false)
    (hfor : MadeFor d space made) (hresult : failed? e = failureOf result) :
    Provisions d space (asked ++ [e]) result := by
  have hmakes : e.call.makes = true := by rw [Call.makes, hmade, Option.isSome_some]
  refine ⟨?_, ?_, ?_, ?_, ?_, ?_⟩
  · exact forall_mem_concat (fun e he => Call.edits_eq_false (hasked e he).1) hedits
  · rw [List.countP_append, countP_makes_eq_zero fun e he => (hasked e he).1]
    simp [hmakes]
  · refine forall_mem_concat
      (fun e he => madeFor_of_made?_eq_none (Call.made?_eq_none (hasked e he).1)) ?_
    intro space' made' hmade'
    cases hmade.symm.trans hmade'
    exact hfor
  · intro before e' after failure hlog hfailed
    have hnot : e' ∉ asked := by
      intro he'
      rw [(hasked e' he').2] at hfailed
      cases hfailed
    obtain ⟨-, rfl, rfl⟩ := eq_of_concat_eq hlog hnot
    exact ⟨failureOf_eq_some.mp (hresult.symm.trans hfailed), rfl⟩
  · rintro creation rfl
    exact ⟨e, List.mem_concat_self, hmakes, hresult⟩
  · rintro failure rfl hunfailed
    have hlast := hunfailed e List.mem_concat_self
    rw [hresult] at hlast
    cases hlast

/-- Without metadata for it the claim is not made, though the default class may be asked for. -/
theorem provision_of_error (space : String) {failure : Failure}
    (h : d.claimMetadata d.claimName = .error failure) :
    d.provision space = .done (.error failure) ∨
      d.provision space = defaultClass.andThen fun
        | none => .done (.error .noDefaultClass)
        | some _ => .done (.error failure) := by
  cases hcontent : d.terms.source.content with
  | image source =>
      simp only [DiskVolume.provision, hcontent, DiskVolume.dataVolume, h]
      exact .inl rfl
  | blank =>
      simp only [DiskVolume.provision, hcontent, DiskVolume.claim, h]
      exact .inr rfl

theorem provision_of_ok (space : String) {made : Metadata}
    (h : d.claimMetadata d.claimName = .ok made) :
    (∃ volume : DataVolume, volume.metadata = made ∧
      d.provision space = createDataVolume space volume) ∨
    ∃ claimOf : String → Claim, (∀ storageClass, (claimOf storageClass).metadata = made) ∧
      d.provision space = defaultClass.andThen fun
        | none => .done (.error .noDefaultClass)
        | some storageClass => createClaim space (claimOf storageClass) := by
  cases hcontent : d.terms.source.content with
  | image source =>
      simp only [DiskVolume.provision, hcontent, DiskVolume.dataVolume, h]
      exact .inl ⟨_, rfl, rfl⟩
  | blank =>
      simp only [DiskVolume.provision, hcontent, DiskVolume.claim, h]
      exact .inr ⟨fun storageClass => ⟨made, [DiskVolume.accessMode], d.terms.storage, storageClass⟩,
        fun _ => rfl, rfl⟩

theorem defaultClass_asked (found : Option String) :
    ∀ e ∈ [(⟨.defaultClass, .ok found⟩ : Exchange interface)],
      e.call.writes = false ∧ failed? e = none :=
  List.forall_mem_singleton.mpr ⟨rfl, rfl⟩

theorem provisions_defaultClass {f : Option String → Job Creation}
    (h : (defaultClass.andThen f).Transcript log result)
    (hnone : f none = .done (.error .noDefaultClass))
    (hsome : ∀ found rest, (f (some found)).Transcript rest result →
      Provisions d space ([⟨.defaultClass, .ok (some found)⟩] ++ rest) result) :
    Provisions d space log result := by
  obtain ⟨found, _, rest, rfl, hasked, hrest⟩ | ⟨failure, rfl, hasked⟩ :=
    Program.transcript_andThen.mp h
  · obtain rfl := Program.transcript_call_done.mp hasked
    cases found with
    | none =>
        rw [hnone] at hrest
        obtain ⟨rfl, rfl⟩ := Program.transcript_done.mp hrest
        exact provisions_refused (defaultClass_asked none)
    | some found => exact hsome found rest hrest
  · obtain rfl := Program.transcript_call_done.mp hasked
    refine provisions_error ?_ ?_
    · exact List.forall_mem_singleton.mpr rfl
    · intro before e after other hlog hfailed
      obtain ⟨-, rfl, rfl⟩ := eq_of_concat_eq ((List.nil_append _).trans hlog) List.not_mem_nil
      exact ⟨(Option.some.inj hfailed).symm, rfl⟩

theorem transcript_provision (hspace : d.metadata.space = some space)
    (h : (d.staged.provision space).Transcript log result) : Provisions d space log result := by
  cases hmetadata : d.staged.claimMetadata d.staged.claimName with
  | error failure =>
      rcases provision_of_error space hmetadata with hprovision | hprovision
      · rw [hprovision] at h
        obtain ⟨rfl, rfl⟩ := Program.transcript_done.mp h
        exact provisions_refused (by simp)
      · rw [hprovision] at h
        refine provisions_defaultClass h rfl ?_
        intro found rest hrest
        obtain ⟨rfl, rfl⟩ := Program.transcript_done.mp hrest
        exact provisions_refused (defaultClass_asked (some found))
  | ok made =>
      have hfor := madeFor_of_claimMetadata hspace hmetadata
      rcases provision_of_ok space hmetadata with
        ⟨volume, hmade, hprovision⟩ | ⟨claimOf, hmade, hprovision⟩
      · rw [hprovision] at h
        obtain rfl := Program.transcript_call_done.mp h
        exact provisions_made [] (by simp) rfl rfl (hmade ▸ hfor) rfl
      · rw [hprovision] at h
        refine provisions_defaultClass h rfl ?_
        intro found rest hrest
        obtain rfl := Program.transcript_call_done.mp hrest
        exact provisions_made _ (defaultClass_asked (some found)) rfl rfl (hmade found ▸ hfor) rfl

end Making

/-- The claim of a disk was made or found; the status of the disk is not written yet. -/
structure Prepared (d : DiskVolume) (log : List (Exchange interface)) : Prop where
  unmarked : ∀ e ∈ log, e.call.marks = false
  unfailed : ∀ e ∈ log, failed? e = none
  makes_once : log.countP (fun e => e.call.makes) ≤ 1
  makes : ∀ e ∈ log, ∀ space made, e.call.made? = some (space, made) → MadeFor d space made
  made : ∃ e ∈ log, e.call.makes ∧ failed? e = none

/-- The claim of a disk was made or found, and the disk is as it was. -/
structure Provided (d : DiskVolume) (log : List (Exchange interface)) : Prop
    extends Prepared d log where
  keeps : ∀ e ∈ log, e.call.edits = false

theorem Call.marks_eq_false {c : Call} (h : c.edits = false) : c.marks = false := by
  cases c <;> first | rfl | cases h

theorem Provisions.provided {creation : Creation} (h : Provisions d space log (.ok creation)) :
    Provided d log := by
  refine ⟨⟨fun e he => Call.marks_eq_false (h.keeps e he), ?_, h.makes_once, h.makes,
    h.succeeds creation rfl⟩, h.keeps⟩
  intro e he
  obtain ⟨before, after, rfl⟩ := List.append_of_mem he
  cases hfailed : failed? e with
  | none => rfl
  | some failure => cases (h.stops before e after failure rfl hfailed).1

theorem Prepared.append {e : Exchange interface} (h : Prepared d log)
    (hmarks : e.call.marks = false) (hfailed : failed? e = none) (hmade : e.call.made? = none) :
    Prepared d (log ++ [e]) := by
  obtain ⟨first, hfirst, hmakes⟩ := h.made
  refine ⟨forall_mem_concat h.unmarked hmarks, forall_mem_concat h.unfailed hfailed, ?_,
    forall_mem_concat h.makes (madeFor_of_made?_eq_none hmade), first,
    List.mem_append_left _ hfirst, hmakes⟩
  rw [List.countP_append]
  simpa [Call.makes, hmade] using h.makes_once

theorem Prepared.exists_name (h : Prepared d log) : ∃ name, d.metadata.name = some name := by
  obtain ⟨e, he, hmakes, -⟩ := h.made
  obtain ⟨⟨space, made⟩, hmade⟩ := Option.isSome_iff_exists.mp hmakes
  obtain ⟨name, -, hname, -⟩ := (h.makes e he space made hmade).owned
  exact ⟨name, hname⟩

theorem Provided.tell (h : Provided d log) (notice : Notice) :
    Provided d (log ++ [⟨.publish d.staged notice, ()⟩]) :=
  ⟨h.toPrepared.append rfl rfl rfl, forall_mem_concat h.keeps rfl⟩

theorem transcript_provisionAloud {result : Except Failure Unit}
    (hspace : d.metadata.space = some space)
    (h : (d.staged.provisionAloud space).Transcript log result) :
    (result = .ok () ∧ Provided d log) ∨
      ∃ failure first, result = .error failure ∧ Provisions d space first (.error failure) ∧
        log = first ++ [warning d failure] := by
  obtain ⟨creation, first, rest, rfl, hprovision, htell⟩ := Program.transcript_bind.mp h
  have hprovisions := transcript_provision hspace hprovision
  rcases creation with failure | ⟨⟨⟩ | ⟨⟩⟩
  · obtain ⟨_, _, rfl, hrest⟩ := Program.transcript_call.mp htell
    obtain ⟨rfl, rfl⟩ := Program.transcript_done.mp hrest
    exact .inr ⟨failure, first, rfl, hprovisions, rfl⟩
  · obtain ⟨_, _, rfl, hrest⟩ := Program.transcript_call.mp htell
    obtain ⟨rfl, rfl⟩ := Program.transcript_done.mp hrest
    exact .inl ⟨rfl, hprovisions.provided.tell _⟩
  · obtain ⟨rfl, rfl⟩ := Program.transcript_done.mp htell
    rw [List.append_nil]
    exact .inl ⟨rfl, hprovisions.provided⟩

section Writing

variable {result : Except Failure Action}

theorem countP_marks_eq_zero (h : ∀ e ∈ log, e.call.marks = false) :
    log.countP (fun e => e.call.marks) = 0 := by
  rw [List.countP_eq_zero]
  intro e he
  simp [h e he]

theorem Provisions.disciplined {failure : Failure}
    (h : Provisions d space log (.error failure)) :
    Disciplined d (log ++ [warning d failure]) (.error failure) := by
  have hunmarked : ∀ e ∈ log ++ [warning d failure], e.call.marks = false :=
    forall_mem_concat (fun e he => Call.marks_eq_false (h.keeps e he)) rfl
  refine ⟨?_, ?_, ?_, ?_, ?_, ?_, nofun⟩
  · rw [List.countP_append]
    exact h.makes_once
  · exact forall_mem_concat h.makes (madeFor_of_made?_eq_none rfl)
  · rw [countP_marks_eq_zero hunmarked]
    exact Nat.zero_le 1
  · intro before written reply after hlog
    have hmem : (⟨.updateStatus written, reply⟩ : Exchange interface) ∈ log ++ [warning d failure] := by
      rw [hlog]
      exact List.mem_append_right before List.mem_cons_self
    cases hunmarked _ hmem
  · intro before e after other hlog hfailed
    rcases split_concat hlog with ⟨-, rfl, -⟩ | ⟨rest, rfl, rfl⟩
    · cases hfailed
    · obtain ⟨hother, rfl⟩ := h.stops before e rest other rfl hfailed
      cases hother
      rw [h.keeps e (List.mem_append_right before List.mem_cons_self)]
      exact ⟨rfl, rfl⟩
  · rintro other hother hunfailed
    cases hother
    refine ⟨?_, .inr List.getLast?_concat⟩
    have hrefuses := h.refuses failure rfl fun e he => hunfailed e (List.mem_append_left _ he)
    exact forall_mem_concat hrefuses rfl

/-- An attempt ends with a write of the disk. -/
theorem Prepared.disciplined {last : Exchange interface} (h : Prepared d log)
    (hedits : last.call.edits = true) (hmade : last.call.made? = none)
    (hmarks : ∀ written reply, last = ⟨.updateStatus written, reply⟩ → MayMark d log written)
    (herror : ∀ failure, result = .error failure ↔ failed? last = some failure)
    (hok : ∀ action, result = .ok action → action = .awaitChange ∧
      ∃ written marked, last = ⟨.updateStatus written, .ok marked⟩) :
    Disciplined d (log ++ [last]) result := by
  refine ⟨?_, ?_, ?_, ?_, ?_, ?_, ?_⟩
  · rw [List.countP_append]
    simpa [Call.makes, hmade] using h.makes_once
  · exact forall_mem_concat h.makes (madeFor_of_made?_eq_none hmade)
  · rw [List.countP_append, countP_marks_eq_zero h.unmarked, Nat.zero_add]
    exact List.countP_le_length
  · intro before written reply after hlog
    have hnot : (⟨.updateStatus written, reply⟩ : Exchange interface) ∉ log := fun hmem =>
      Bool.noConfusion (h.unmarked _ hmem)
    obtain ⟨rfl, hlast, -⟩ := eq_of_concat_eq hlog hnot
    exact hmarks written reply hlast.symm
  · intro before e after failure hlog hfailed
    have hnot : e ∉ log := by
      intro hmem
      rw [h.unfailed e hmem] at hfailed
      cases hfailed
    obtain ⟨-, rfl, rfl⟩ := eq_of_concat_eq hlog hnot
    rw [hedits]
    exact ⟨(herror failure).mpr hfailed, rfl⟩
  · intro failure hresult hunfailed
    have hfailed := (herror failure).mp hresult
    rw [hunfailed last (List.mem_append_right log List.mem_cons_self)] at hfailed
    cases hfailed
  · intro action hresult
    obtain ⟨haction, written, marked, rfl⟩ := hok action hresult
    exact ⟨haction, .inr ⟨written, marked, List.getLast?_concat⟩⟩

/-- The name of the claim is written, or has been there before. -/
theorem transcript_writeName {named : Except Failure DiskVolume} {rest : List (Exchange interface)}
    (hprovided : Provided d log) (h : d.writeName.Transcript rest named) :
    (∃ shown, named = .ok shown ∧ Prepared d (log ++ rest) ∧ Shown d (log ++ rest) shown) ∨
      ∃ failure, named = .error failure ∧ rest = [⟨.updateDisk d.staged, .error failure⟩] := by
  rw [DiskVolume.writeName] at h
  split at h
  · rename_i hunstaged
    obtain rfl := Program.transcript_call_done.mp h
    cases named with
    | error failure => exact .inr ⟨failure, rfl, rfl⟩
    | ok shown =>
        obtain ⟨name, hname⟩ := hprovided.exists_name
        refine .inl ⟨shown, rfl, hprovided.append rfl rfl rfl,
          .named (of_decide_eq_true hunstaged) hname ?_⟩
        have hstaged : naming d ("tpl-" ++ name) = d.staged := by
          rw [DiskVolume.staged, DiskVolume.claimName, if_pos hunstaged, DiskVolume.name,
            Metadata.anyName, hname]
          rfl
        rw [hstaged]
        exact List.mem_append_right log List.mem_cons_self
  · rename_i hstaged
    obtain ⟨rfl, rfl⟩ := Program.transcript_done.mp h
    rw [DiskVolume.staged_eq_self hstaged, List.append_nil]
    refine .inl ⟨d, rfl, hprovided.toPrepared, .found ?_ hprovided.keeps⟩
    intro hunstaged
    exact hstaged (decide_eq_true hunstaged)

theorem transcript_mark {written : DiskVolume}
    (h : ((updateStatus written).andThen fun _ => .done (.ok Action.awaitChange)).Transcript
      log result) :
    ∃ reply, log = [⟨.updateStatus written, reply⟩] ∧
      result = reply.map fun _ => Action.awaitChange := by
  obtain ⟨marked, first, rest, rfl, hcall, hrest⟩ | ⟨failure, rfl, hcall⟩ :=
    Program.transcript_andThen.mp h
  · obtain rfl := Program.transcript_call_done.mp hcall
    obtain ⟨rfl, rfl⟩ := Program.transcript_done.mp hrest
    exact ⟨.ok marked, rfl, rfl⟩
  · obtain rfl := Program.transcript_call_done.mp hcall
    exact ⟨.error failure, rfl, rfl⟩

theorem Prepared.disciplined_unnamed (h : Prepared d log) (failure : Failure) :
    Disciplined d (log ++ [⟨.updateDisk d.staged, .error failure⟩]) (.error failure) := by
  refine h.disciplined rfl rfl ?_ ?_ ?_
  · intro written reply hlast
    simp at hlast
  · intro other
    simp [failed?, failureOf]
  · intro action hresult
    cases hresult

theorem Prepared.disciplined_marked {shown : DiskVolume} (h : Prepared d log)
    (hshown : Shown d log shown) (reply : Except Failure DiskVolume) :
    Disciplined d (log ++ [⟨.updateStatus shown.completed, reply⟩])
      (reply.map fun _ => .awaitChange) := by
  refine h.disciplined rfl rfl ?_ ?_ ?_
  · intro written other hlast
    cases hlast
    exact ⟨h.made, shown, shown.owner, hshown, ownedBy_owner shown, rfl⟩
  · intro failure
    cases reply <;> simp [Except.map, failed?, failureOf]
  · intro action hresult
    cases reply with
    | error failure => cases hresult
    | ok marked => exact ⟨(Except.ok.inj hresult).symm, shown.completed, marked, rfl⟩

theorem transcript_complete (hspace : d.metadata.space = some space)
    (h : (d.complete space).Transcript log result) : Disciplined d log result := by
  obtain ⟨_, first, rest, rfl, hprovision, hrest⟩ | ⟨failure, rfl, hprovision⟩ :=
    Program.transcript_andThen.mp h
  · obtain ⟨-, hprovided⟩ | ⟨failure, _, hresult, -⟩ := transcript_provisionAloud hspace hprovision
    · obtain ⟨named, second, third, rfl, hname, hstatus⟩ | ⟨failure, rfl, hname⟩ :=
        Program.transcript_andThen.mp hrest
      · obtain ⟨shown, hshown, hprepared, hshows⟩ | ⟨failure, hresult, -⟩ :=
          transcript_writeName hprovided hname
        · cases hshown
          obtain ⟨reply, rfl, rfl⟩ := transcript_mark hstatus
          rw [← List.append_assoc]
          exact hprepared.disciplined_marked hshows reply
        · cases hresult
      · obtain ⟨shown, hresult, -⟩ | ⟨other, hresult, rfl⟩ := transcript_writeName hprovided hname
        · cases hresult
        · cases hresult
          exact hprovided.disciplined_unnamed failure
    · cases hresult
  · obtain ⟨hresult, -⟩ | ⟨other, first, hresult, hprovisions, rfl⟩ :=
      transcript_provisionAloud hspace hprovision
    · cases hresult
    · cases hresult
      exact hprovisions.disciplined

theorem disciplined_quiet (hquiet : ∀ e ∈ log, e.call.writes = false ∧ failed? e = none)
    (herror : ∀ failure, result = .error failure → d.metadata.space = none ∧ log = [])
    (hok : ∀ action, result = .ok action → action = .awaitChange ∧
      ∃ status, d.status = some status ∧ status.created = true ∧ status.ready = true ∧
        log = [⟨.publish d ⟨false, "Synced", "DiskVolume synced successfully"⟩, ()⟩]) :
    Disciplined d log result := by
  have hkeeps : ∀ e ∈ log, e.call.edits = false := fun e he => Call.edits_eq_false (hquiet e he).1
  refine ⟨?_, ?_, ?_, ?_, ?_, ?_, ?_⟩
  · rw [countP_makes_eq_zero fun e he => (hquiet e he).1]
    exact Nat.zero_le 1
  · exact fun e he => madeFor_of_made?_eq_none (Call.made?_eq_none (hquiet e he).1)
  · rw [countP_marks_eq_zero fun e he => Call.marks_eq_false (hkeeps e he)]
    exact Nat.zero_le 1
  · rintro before written reply after rfl
    cases hkeeps _ (List.mem_append_right before List.mem_cons_self)
  · rintro before e after failure rfl hfailed
    rw [(hquiet e (List.mem_append_right before List.mem_cons_self)).2] at hfailed
    cases hfailed
  · intro failure hresult _
    exact ⟨fun e he => (hquiet e he).1, .inl (herror failure hresult)⟩
  · intro action hresult
    obtain ⟨haction, hready⟩ := hok action hresult
    exact ⟨haction, .inl hready⟩

theorem transcript_reconcileOnce (h : d.reconcileOnce.Transcript log result) :
    Disciplined d log result := by
  rw [DiskVolume.reconcileOnce] at h
  cases hspace : d.metadata.space with
  | none =>
      rw [hspace] at h
      obtain ⟨rfl, rfl⟩ := Program.transcript_done.mp h
      refine disciplined_quiet (by simp) (fun _ _ => ⟨hspace, rfl⟩) ?_
      intro action hresult
      cases hresult
  | some space =>
      simp only [hspace] at h
      split at h
      · rename_i hready
        obtain ⟨_, _, rfl, hrest⟩ := Program.transcript_call.mp h
        obtain ⟨rfl, rfl⟩ := Program.transcript_done.mp hrest
        refine disciplined_quiet ?_ ?_ ?_
        · exact List.forall_mem_singleton.mpr ⟨rfl, rfl⟩
        · intro failure hresult
          cases hresult
        · intro action hresult
          obtain ⟨hcreated, hready⟩ := Bool.and_eq_true_iff.mp hready
          obtain ⟨status, hstatus, hcreated⟩ := (Option.any_eq_true _ _).mp hcreated
          rw [DiskVolume.isReady, hstatus] at hready
          exact ⟨(Except.ok.inj hresult).symm, status, hstatus, hcreated, hready, rfl⟩
      · exact transcript_complete hspace h

end Writing

/-- Whatever the cluster answers, an attempt on a disk keeps the rules. -/
theorem disciplined_reconcile {σ : Type} (backend : Handler interface σ) (d : DiskVolume) (s : σ) :
    Disciplined d (d.reconcile.exchanges backend s) (d.reconcile.run backend s).result := by
  obtain ⟨result, log, rest, hlog, honce, hcount⟩ :=
    Program.transcript_bind.mp (Program.transcript_run backend d.reconcile s)
  obtain ⟨rfl, hresult⟩ := Program.transcript_done.mp (Program.transcript_count.mp hcount)
  rw [hlog, List.append_nil, hresult]
  exact transcript_reconcileOnce honce

end ClusterOperator.Backend
