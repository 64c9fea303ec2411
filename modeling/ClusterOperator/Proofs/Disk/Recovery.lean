import ClusterOperator.Proofs.Disk.Progress

namespace ClusterOperator

theorem Failure.exists_nextAction {failure : Failure} (h : failure.isRetryable) (delay : Duration) :
    ∃ pause, failure.nextAction delay = .requeue pause := by
  rw [nextAction]
  cases hrecovery : failure.recovery with
  | withBackoff => exact ⟨delay, rfl⟩
  | after pause => exact ⟨pause, rfl⟩
  | never => simp [isRetryable, hrecovery] at h

namespace Backend

open Cluster (Response)

/-- Attempts one after the other, whose results are listed. In between, the storage classes may
change. -/
inductive History (w₀ : World) : List (Except Failure Action) → World → Prop
  | start : History w₀ [] w₀
  | reclassified {results : List (Except Failure Action)} {w : World} (h : History w₀ results w)
      (classes : List StorageClass) : History w₀ results { w with classes }
  | attempted {faults : Prop} {results : List (Except Failure Action)}
      {result : Except Failure Action} {w w' : World} (h : History w₀ results w)
      (hattempt : Attempt faults w result w') : History w₀ (results ++ [result]) w'

variable {w₀ w : World} {name space : String} {results : List (Except Failure Action)}

theorem World.Completed.reclassified (h : w.Completed) (classes : List StorageClass) :
    World.Completed { w with classes } :=
  ⟨h.marked, h.backed⟩

theorem World.Legal.reclassified (h : w.Legal name space) (classes : List StorageClass) :
    World.Legal { w with classes } name space :=
  ⟨h.name_eq, h.space_eq, h.uid_isSome, h.isName, h.isSpace⟩

theorem World.Keeps.reclassified (h : w₀.Keeps w) (classes : List StorageClass) :
    w₀.Keeps { w with classes } :=
  ⟨h.same, h.source_eq, h.storage_eq, h.claimName_eq, h.backings⟩

/-- A history is of one disk, which one thing backs, and every failure in it passes. -/
theorem History.keeps (h : w₀.Legal name space) (hstatus : w₀.disk.status = none)
    (hhistory : History w₀ results w) :
    w₀.Keeps w ∧ w.Sound ∧ ∀ failure, .error failure ∈ results → failure.isRetryable := by
  induction hhistory with
  | start => exact ⟨.refl _, .inl hstatus, nofun⟩
  | reclassified _ classes ih =>
      obtain ⟨hkeeps, hsound, hfailures⟩ := ih
      exact ⟨hkeeps.reclassified classes, hsound.imp_right (·.reclassified classes), hfailures⟩
  | attempted _ hattempt ih =>
      -- Whether or not the attempt fails, the next one finds the same to make.
      obtain ⟨hkeeps, hsound, hfailures⟩ := ih
      have hadvances := hattempt.advances (h.of_keeps hkeeps) hsound
      refine ⟨hkeeps.trans hadvances.keeps, hadvances.sound, ?_⟩
      intro failure hfailure
      rcases List.mem_append.mp hfailure with hbefore | hlast
      · exact hfailures failure hbefore
      · exact (hadvances.of_error failure (List.mem_singleton.mp hlast).symm).2

theorem History.of_completed (h : w₀.Legal name space) (hcompleted : w₀.Completed)
    (hhistory : History w₀ results w) : ∃ classes, w = { w₀ with classes } := by
  induction hhistory with
  | start => exact ⟨w₀.classes, rfl⟩
  | reclassified _ classes ih =>
      obtain ⟨_, rfl⟩ := ih
      exact ⟨classes, rfl⟩
  | attempted _ hattempt ih =>
      obtain ⟨classes, rfl⟩ := ih
      obtain ⟨-, rfl⟩ := hattempt.of_completed (h.reclassified classes)
        (hcompleted.reclassified classes)
      exact ⟨classes, rfl⟩

/-- What holds of a disk after any attempts: whatever failed is tried again, one thing at most was
made, and an attempt without a fault completes the disk for good. Such an attempt can be made. -/
structure Recovers (delay : Duration) (w₀ : World) (results : List (Except Failure Action))
    (w : World) : Prop where
  requeued : ∀ failure, .error failure ∈ results → ∃ pause, failure.nextAction delay = .requeue pause
  madeOnce : w.backings = w₀.backings ∨
    w₀.backing ∉ w₀.backings ∧ w.backings = w₀.backings ++ [w₀.backing]
  completes : ¬w.LacksClass → ∀ result w', Attempt False w result w' →
    result = .ok .awaitChange ∧ w'.Completed ∧
      ∀ later w'', History w' later w'' → w''.disk = w'.disk ∧ w''.backings = w'.backings
  possible : w.Lists → ∃ result w', Attempt False w result w'

/-- Reconciling a disk without a status recovers from any failures, however many. -/
theorem reconcile_recovers (h : w₀.Legal name space) (hstatus : w₀.disk.status = none)
    (hhistory : History w₀ results w) (delay : Duration) : Recovers delay w₀ results w := by
  obtain ⟨hkeeps, hsound, hfailures⟩ := hhistory.keeps h hstatus
  have hlegal := h.of_keeps hkeeps
  constructor
  · intro failure hfailure
    exact Failure.exists_nextAction (hfailures failure hfailure) delay
  · exact hkeeps.backings
  · intro hclass result w' hattempt
    have hadvances := hattempt.advances hlegal hsound
    cases result with
    | ok action =>
        obtain ⟨rfl, hcompleted⟩ := hadvances.of_ok action rfl
        refine ⟨rfl, hcompleted, ?_⟩
        intro later w'' hlater
        obtain ⟨classes, rfl⟩ := hlater.of_completed (hlegal.of_keeps hadvances.keeps) hcompleted
        exact ⟨rfl, rfl⟩
    | error failure =>
        obtain ⟨hfault | hlacks, -⟩ := hadvances.of_error failure rfl
        · exact hfault.elim
        · exact absurd hlacks hclass
  · exact exists_attempt hlegal hsound

/-- A disk that does not name its claim. -/
def newDisk (source : DiskSource) : DiskVolume where
  metadata := {
    name := some "d"
    space := some "ns"
    resourceVersion := some "7"
    uid := some "u-1" }
  terms := ⟨none, source, "1Gi"⟩
  status := none

/-- The metadata of what is made for it. -/
def madeMetadata : Metadata where
  name := some "tpl-d"
  space := some "ns"
  labels := some [("app.kubernetes.io/managed-by", "clustersync-operator"),
    ("virtualization.kubesphere.io/diskvolume", "d")]
  ownerReferences := some [⟨DiskVolume.apiVersion, DiskVolume.kind, "d", "u-1", some true, some true⟩]

def fastClass : StorageClass := {
  name := some "fast"
  annotations := some [("storageclass.kubernetes.io/is-default-class", "true")] }

/-- A cluster in which nothing backs the disk yet. -/
def newWorld (source : DiskSource) : World :=
  ⟨newDisk source, [fastClass], []⟩

def blankSource : DiskSource := ⟨true, none⟩

def goldenSource : DiskSource := ⟨false, some ⟨"golden", "images"⟩⟩

theorem lists_newWorld (source : DiskSource) : (newWorld source).Lists := by
  have hplain : (Json.obj [("items", .arr [.obj [("metadata", fastClass.toJson)]])]).IsPlain := by
    have hmetadata : fastClass.toJson.IsPlain := Metadata.isPlain_toJson rfl
    simp [Json.isPlain_obj_iff, Json.isPlain_arr_iff, hmetadata]
  exact ⟨_, Response.object_render ((hplain.spells.whole_eq _).trans rfl)⟩

theorem legal_newWorld (source : DiskSource) : (newWorld source).Legal "d" "ns" :=
  ⟨rfl, rfl, rfl, ⟨by decide, by decide⟩, ⟨by decide, by decide⟩⟩

def madeClaim : Claim := ⟨madeMetadata, ["ReadWriteOnce"], "1Gi", "fast"⟩

def madeVolume : DataVolume where
  apiVersion := DataVolume.currentVersion
  kind := DataVolume.currentKind
  metadata := madeMetadata
  source := ⟨"golden", "images"⟩
  accessModes := ["ReadWriteOnce"]
  requests := [("storage", "1Gi")]
  storageClass := none

theorem provision_timeout_blank :
    ((newDisk blankSource).staged.provision "ns").RunsTo (calls True) (newWorld blankSource)
      (.error (.api timeout.refusal)) ((newWorld blankSource).add ⟨.claim, "ns", "tpl-d"⟩) := by
  have hclass : (calls True) .defaultClass (newWorld blankSource) (.ok (some "fast"))
      (newWorld blankSource) := by
    obtain ⟨request, hrequest, hplace⟩ := exists_classesRequest (newWorld blankSource)
    obtain ⟨r, hread⟩ := lists_newWorld blankSource
    refine Program.runsTo_andThen.mpr (.inl ⟨[fastClass], newWorld blankSource, ?_, .done⟩)
    exact (runsTo_ask hrequest).mpr ⟨r, .served hplace (.listed hread), hread.symm⟩
  have hclaim : (calls True) (.createClaim "ns" madeClaim) (newWorld blankSource)
      (.error (.api timeout.refusal)) ((newWorld blankSource).add ⟨.claim, "ns", "tpl-d"⟩) := by
    have hname : Cluster.nameOf madeClaim.toJson = some "tpl-d" := nameOf_claim madeClaim
    have hfree : ⟨.claim, "ns", "tpl-d"⟩ ∉ (newWorld blankSource).backings := List.not_mem_nil
    have hrun := runsTo_post_timeout (legal_newWorld blankSource) hname hfree
    rwa [← remote_createClaim] at hrun
  exact .call hclass (.call hclaim .done)

theorem provision_timeout_image :
    ((newDisk goldenSource).staged.provision "ns").RunsTo (calls True) (newWorld goldenSource)
      (.error (.api timeout.refusal))
      ((newWorld goldenSource).add ⟨.dataVolume, "ns", "tpl-d"⟩) := by
  have hvolume : (calls True) (.createDataVolume "ns" madeVolume) (newWorld goldenSource)
      (.error (.api timeout.refusal))
      ((newWorld goldenSource).add ⟨.dataVolume, "ns", "tpl-d"⟩) := by
    have hname : Cluster.nameOf madeVolume.toJson = some "tpl-d" := nameOf_dataVolume madeVolume
    have hfree : ⟨.dataVolume, "ns", "tpl-d"⟩ ∉ (newWorld goldenSource).backings :=
      List.not_mem_nil
    have hrun := runsTo_post_timeout (legal_newWorld goldenSource) hname hfree
    rwa [← remote_createDataVolume] at hrun
  exact .call hvolume .done

theorem attempt_of_provision {source : DiskSource} {failure : Failure} {w : World}
    (h : ((newDisk source).staged.provision "ns").RunsTo (calls True) (newWorld source)
      (.error failure) w) : Attempt True (newWorld source) (.error failure) w := by
  have hcomplete : ((newDisk source).complete "ns").RunsTo (calls True) (newWorld source)
      (.error failure) w := by
    refine Program.runsTo_andThen.mpr (.inr ⟨_, rfl, ?_⟩)
    exact Program.runsTo_bind.mpr ⟨_, _, h, runsTo_tell.mpr .done⟩
  exact Program.runsTo_over.mpr (Program.runsTo_bind.mpr ⟨_, _, hcomplete, .count .done⟩)

/-- After the answer was lost the next attempt finds the claim, or the data volume of an image, and
completes the disk. -/
theorem reconcile_recovers_timeout :
    (∃ w', Attempt True (newWorld blankSource) (.error (.api timeout.refusal))
        ((newWorld blankSource).add ⟨.claim, "ns", "tpl-d"⟩) ∧
      Attempt False ((newWorld blankSource).add ⟨.claim, "ns", "tpl-d"⟩) (.ok .awaitChange) w' ∧
      w'.Completed ∧ w'.backings = [⟨.claim, "ns", "tpl-d"⟩]) ∧
    ∃ w', Attempt True (newWorld goldenSource) (.error (.api timeout.refusal))
        ((newWorld goldenSource).add ⟨.dataVolume, "ns", "tpl-d"⟩) ∧
      Attempt False ((newWorld goldenSource).add ⟨.dataVolume, "ns", "tpl-d"⟩) (.ok .awaitChange)
        w' ∧ w'.Completed ∧ w'.backings = [⟨.dataVolume, "ns", "tpl-d"⟩] := by
  have hrecovers : ∀ source b, (newWorld source).backing = b →
      Attempt True (newWorld source) (.error (.api timeout.refusal)) ((newWorld source).add b) →
      ∃ w', Attempt True (newWorld source) (.error (.api timeout.refusal))
          ((newWorld source).add b) ∧
        Attempt False ((newWorld source).add b) (.ok .awaitChange) w' ∧
        w'.Completed ∧ w'.backings = [b] := by
    rintro source _ rfl hlost
    have hfirst : History (newWorld source) [.error (.api timeout.refusal)]
        ((newWorld source).add (newWorld source).backing) := .attempted .start hlost
    have hrecovers := reconcile_recovers (legal_newWorld source) rfl hfirst Failure.defaultDelay
    obtain ⟨result, w', hattempt⟩ := hrecovers.possible (lists_newWorld source)
    have hclass : ¬((newWorld source).add (newWorld source).backing).LacksClass := by
      rintro ⟨-, hnone⟩
      exact hnone fastClass List.mem_cons_self _ List.mem_cons_self rfl
    obtain ⟨rfl, hcompleted, -⟩ := hrecovers.completes hclass result w' hattempt
    have hhistory : History (newWorld source) _ w' := hfirst.attempted hattempt
    have hmade :=
      (reconcile_recovers (legal_newWorld source) rfl hhistory Failure.defaultDelay).madeOnce
    obtain ⟨claimName, -, -, hmem⟩ := hcompleted.backed
    rcases hmade with hnone | ⟨-, hone⟩
    · rw [hnone] at hmem
      cases hmem
    · exact ⟨w', hlost, hattempt, hcompleted, hone⟩
  have hclaim : (newWorld blankSource).backing = ⟨.claim, "ns", "tpl-d"⟩ := by decide
  have hvolume : (newWorld goldenSource).backing = ⟨.dataVolume, "ns", "tpl-d"⟩ := by decide
  exact ⟨hrecovers _ _ hclaim (attempt_of_provision provision_timeout_blank),
    hrecovers _ _ hvolume (attempt_of_provision provision_timeout_image)⟩

end Backend

end ClusterOperator
