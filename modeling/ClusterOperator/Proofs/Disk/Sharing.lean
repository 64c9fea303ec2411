import ClusterOperator.Proofs.Disk.World

/-!
A cluster whose disk others write while it is reconciled.

Its state is the chronicle of what has happened. Others write the disk at any time. A write that is
accepted gets a version that no write had before, and a write that gives a version is accepted only if
that is the version of the disk as it is. What the cluster answers about anything else is left open, and
so is what a write adds to the metadata of the disk. Any write may be refused for other reasons, and
the answer to a write that was accepted may be lost.
-/

namespace ClusterOperator.Backend

open Cluster (Request Response versionOf)

/-- What happens while a disk is reconciled. -/
inductive Event where
  /-- Somebody else has written the disk, which is now this. -/
  | foreign (disk : DiskVolume)
  /-- What is asked of the disk was replaced. -/
  | replaced (disk : DiskVolume)
  /-- The status of the disk was written. -/
  | marked (disk : DiskVolume)
  /-- A write of the disk was refused. -/
  | refused
  /-- Something else was asked of the cluster. -/
  | asked (request : Request) (r : Response)

/-- The disk after an event that writes it. -/
def Event.stored? : Event → Option DiskVolume
  | foreign disk => some disk
  | replaced disk => some disk
  | marked disk => some disk
  | refused => none
  | asked _ _ => none

def Event.isForeign : Event → Bool
  | foreign _ => true
  | _ => false

def stored (log : List Event) : List DiskVolume :=
  log.filterMap Event.stored?

def current? (log : List Event) : Option DiskVolume :=
  (stored log).getLast?

/-- A disk with a version that no write had before. -/
structure Fresh (log : List Event) (disk : DiskVolume) : Prop where
  isSome : disk.metadata.resourceVersion.isSome
  new : ∀ d ∈ stored log, d.metadata.resourceVersion ≠ disk.metadata.resourceVersion

/-- Every write has a version of its own. -/
structure Versioned (log : List Event) : Prop where
  isSome : ∀ disk ∈ stored log, disk.metadata.resourceVersion.isSome
  distinct : ((stored log).map fun disk => disk.metadata.resourceVersion).Nodup

structure AtHome (home disk : DiskVolume) : Prop where
  space_eq : disk.metadata.space = home.metadata.space
  name_eq : disk.name = home.name

/-- Others write the disk, as often as they like. -/
inductive Interferes (home : DiskVolume) : List Event → List Event → Prop
  | idle {log : List Event} : Interferes home log log
  | write {log log' : List Event} {disk : DiskVolume} (h : Interferes home log log')
      (hhome : AtHome home disk) (hfresh : Fresh log' disk) :
      Interferes home log (log' ++ [.foreign disk])

def Replaces (home : DiskVolume) (body : Json) (request : Request) : Prop :=
  Request.put (disksAddress home) home.name body = .ok request

def Marks (home : DiskVolume) (body : Json) (request : Request) : Prop :=
  Request.merge (disksAddress home) home.name "/status" body = .ok request

/-- A body gives the version of a disk, or none. -/
def UpToDate (body : Json) (disk : DiskVolume) : Prop :=
  ∀ version, versionOf body = some version → disk.metadata.resourceVersion = some version

/-- What comes of a call. A replacement keeps the status and a change of the status what is asked of
the disk. -/
inductive Handles (home : DiskVolume) : Service Cluster.interface (List Event)
  | replaced {request : Request} {r : Response} {log : List Event} {body spec : Json}
      {seen disk : DiskVolume} (hrequest : Replaces home body request)
      (hcurrent : current? log = some seen) (hversion : UpToDate body seen)
      (hspec : body.at? "spec" = some spec)
      (hterms : DiskTerms.decode (Json.outline spec) = .ok disk.terms)
      (hstatus : disk.status = seen.status) (hhome : AtHome home disk) (hfresh : Fresh log disk)
      (hread : ∀ shown, r.object DiskVolume.decode = .ok shown → shown = disk) :
      Handles home (.send request) log r (log ++ [.replaced disk])
  | marked {request : Request} {r : Response} {log : List Event} {body value : Json}
      {seen disk : DiskVolume} {status : DiskStatus} (hrequest : Marks home body request)
      (hcurrent : current? log = some seen) (hversion : UpToDate body seen)
      (hvalue : body.at? "status" = some value)
      (hdecode : DiskStatus.decode (Json.outline value) = .ok status)
      (hstatus : disk.status = some status) (hterms : disk.terms = seen.terms)
      (hhome : AtHome home disk) (hfresh : Fresh log disk)
      (hread : ∀ shown, r.object DiskVolume.decode = .ok shown → shown = disk) :
      Handles home (.send request) log r (log ++ [.marked disk])
  | refused {request : Request} {r : Response} {log : List Event} {body : Json} {failure : Failure}
      (hrequest : Replaces home body request ∨ Marks home body request)
      (hread : r.object DiskVolume.decode = .error failure) :
      Handles home (.send request) log r (log ++ [.refused])
  | elsewhere {request : Request} {r : Response} {log : List Event}
      (hother : ∀ body, ¬Replaces home body request ∧ ¬Marks home body request) :
      Handles home (.send request) log r (log ++ [.asked request r])
  | published {disk : DiskVolume} {notice : Notice} {log : List Event} :
      Handles home (.publish disk notice) log () log

/-- The calls of the cluster. Before each of them others may write the disk. -/
def shared (home : DiskVolume) : Service Cluster.interface (List Event) :=
  fun c log reply log' => ∃ middle, Interferes home log middle ∧ Handles home c middle reply log'

section Chronicle

variable {log front later : List Event} {e : Event} {disk seen : DiskVolume}

theorem stored_append (log log' : List Event) : stored (log ++ log') = stored log ++ stored log' :=
  List.filterMap_append

theorem stored_split (he : e.stored? = some disk) :
    stored (front ++ e :: later) = stored front ++ disk :: stored later := by
  rw [stored_append]
  simp [stored, he]

theorem stored_concat (he : e.stored? = some disk) : stored (log ++ [e]) = stored log ++ [disk] :=
  stored_split he

theorem stored_concat_of_none (he : e.stored? = none) : stored (log ++ [e]) = stored log := by
  rw [stored_append]
  simp [stored, he]

theorem Versioned.store (h : Versioned log) (hfresh : Fresh log disk) (he : e.stored? = some disk) :
    Versioned (log ++ [e]) := by
  constructor
  · intro d hd
    rw [stored_concat he, List.mem_append, List.mem_singleton] at hd
    rcases hd with hd | rfl
    · exact h.isSome d hd
    · exact hfresh.isSome
  · rw [stored_concat he, List.map_append, List.nodup_append]
    refine ⟨h.distinct, List.pairwise_singleton _ _, ?_⟩
    intro v hv w hw
    obtain ⟨d, hd, rfl⟩ := List.mem_map.mp hv
    rw [List.map_singleton, List.mem_singleton] at hw
    rw [hw]
    exact hfresh.new d hd

theorem Versioned.skip (h : Versioned log) (he : e.stored? = none) : Versioned (log ++ [e]) := by
  constructor
  · rw [stored_concat_of_none he]
    exact h.isSome
  · rw [stored_concat_of_none he]
    exact h.distinct

theorem stored_eq_nil_iff : stored log = [] ↔ ∀ e ∈ log, e.stored? = none :=
  List.filterMap_eq_nil_iff

theorem Versioned.unwritten_since (h : Versioned (front ++ e :: later)) (he : e.stored? = some disk)
    (hcurrent : current? (front ++ e :: later) = some seen)
    (hversion : seen.metadata.resourceVersion = disk.metadata.resourceVersion) :
    seen = disk ∧ ∀ e ∈ later, e.stored? = none := by
  rw [current?, stored_split he] at hcurrent
  have hdistinct := h.distinct
  rw [stored_split he] at hdistinct
  rcases List.eq_nil_or_concat (stored later) with hnone | ⟨rest, last, hlast⟩
  · rw [hnone, List.getLast?_concat] at hcurrent
    exact ⟨(Option.some.inj hcurrent).symm, stored_eq_nil_iff.mp hnone⟩
  · rw [hlast, List.concat_eq_append] at hcurrent hdistinct
    rw [← List.cons_append, ← List.append_assoc, List.getLast?_concat, Option.some.injEq] at hcurrent
    subst hcurrent
    have hrest := ((List.map_append ▸ hdistinct).sublist (List.sublist_append_right _ _))
    simp [hversion] at hrest

end Chronicle

end ClusterOperator.Backend
