import ClusterOperator.Cluster.Remote
import ClusterOperator.Proofs.Cluster.Server
import ClusterOperator.Proofs.Service

/-!
A cluster with one disk that nobody else edits, as its API shows it.

Every request is answered as it should be, or it fails: the answer is an error, whether the request had
its effect or not. What a cluster answers about other things than the disk and what backs it is left
open, and so is what it adds to the metadata of the disk itself.
-/

namespace ClusterOperator.Backend

open Cluster (Request Response nameOf versionOf)
open Text.Utf8 (encode)

/-- The objects that back disks: claims, and data volumes, which make a claim of their name. -/
inductive BackingKind where
  | claim
  | dataVolume
deriving DecidableEq

structure Backing where
  kind : BackingKind
  space : String
  name : String
deriving DecidableEq

structure World where
  disk : DiskVolume
  classes : List StorageClass
  backings : List Backing

/-- A data volume backs a disk with an image that is not said to be blank, and a claim any other. -/
def kindFor (source : DiskSource) : BackingKind :=
  if source.image.isSome ∧ source.blank = false then .dataVolume else .claim

theorem kindFor_of_image {source : DiskSource} {image : ImageSource}
    (h : source.content = .image image) : kindFor source = .dataVolume := by
  obtain ⟨blank, found⟩ := source
  cases found with
  | none => cases h
  | some found =>
      cases blank with
      | false => rfl
      | true => cases h

theorem kindFor_of_blank {source : DiskSource} (h : source.content = .blank) :
    kindFor source = .claim := by
  obtain ⟨blank, found⟩ := source
  cases found with
  | none => rfl
  | some found =>
      cases blank with
      | false => cases h
      | true => rfl

/-- What the requests about a disk are for. -/
inductive Place where
  | classes
  | backings (kind : BackingKind)
  | disk
  | status

def classesAddress : String := "/apis/storage.k8s.io/v1/storageclasses"

def BackingKind.address (space : String) : BackingKind → String
  | claim => Cluster.collectionAddress "/api/v1" space "persistentvolumeclaims"
  | dataVolume =>
      Cluster.collectionAddress "/apis/cdi.kubevirt.io/v1beta1" space DataVolume.plural

namespace World

def space (w : World) : String :=
  w.disk.metadata.space.getD ""

def diskAddress (w : World) : String :=
  disksAddress w.disk ++ "/" ++ w.disk.name

def address (w : World) : Place → String
  | .classes => classesAddress
  | .backings kind => kind.address w.space
  | .disk => w.diskAddress
  | .status => w.diskAddress ++ "/status"

def add (w : World) (b : Backing) : World :=
  { w with backings := w.backings ++ [b] }

end World

def Place.method : Place → String
  | classes => "GET"
  | backings _ => "POST"
  | disk => "PUT"
  | status => "PATCH"

/-- A request is for a place. -/
structure World.At (w : World) (place : Place) (request : Request) : Prop where
  method_eq : request.method = place.method
  path_eq : request.target.path = encode (w.address place)

section Failing

def failureOf {α : Type} : Except Failure α → Option Failure
  | .ok _ => none
  | .error failure => some failure

/-- What is read of an object that was made. -/
def BackingKind.decoder : BackingKind → Json.Decoder Metadata
  | claim => Observed.claim
  | dataVolume => Observed.dataVolume

/-- The failure that an answer amounts to, if no object of the place is read from it. -/
def Place.failure? (r : Response) : Place → Option Failure
  | classes => failureOf (r.object Observed.storageClasses)
  | backings kind => failureOf (r.object kind.decoder)
  | disk => failureOf (r.object DiskVolume.decode)
  | status => failureOf (r.object DiskVolume.decode)

end Failing

/-- A write keeps the identity of a disk. -/
structure SameDisk (before after : DiskVolume) : Prop where
  name_eq : after.metadata.name = before.metadata.name
  space_eq : after.metadata.space = before.metadata.space
  uid_eq : after.metadata.uid = before.metadata.uid

/-- How a request for a place is answered as it should be, and what becomes of the cluster. A change of
the status gives all of it. -/
inductive Serves (w : World) (request : Request) (r : Response) : Place → World → Prop
  | listed (hread : r.object Observed.storageClasses = .ok w.classes) :
      Serves w request r .classes w
  | made {kind : BackingKind} {body : Json} {name : String} (hbody : request.body = some body)
      (hname : nameOf body = some name) (hfree : ⟨kind, w.space, name⟩ ∉ w.backings)
      (hread : ∃ metadata, r.object kind.decoder = .ok metadata) :
      Serves w request r (.backings kind) (w.add ⟨kind, w.space, name⟩)
  | present {kind : BackingKind} {body : Json} {name : String} (hbody : request.body = some body)
      (hname : nameOf body = some name) (hmem : ⟨kind, w.space, name⟩ ∈ w.backings)
      (hrefuses : r.Refuses 409 "AlreadyExists") :
      Serves w request r (.backings kind) w
  | written {body spec : Json} {disk : DiskVolume} (hbody : request.body = some body)
      (hversion : versionOf body = w.disk.metadata.resourceVersion)
      (hspec : body.at? "spec" = some spec)
      (hterms : DiskTerms.decode (Json.outline spec) = .ok disk.terms)
      (hstatus : disk.status = w.disk.status) (hsame : SameDisk w.disk disk)
      (hread : r.object DiskVolume.decode = .ok disk) :
      Serves w request r .disk { w with disk }
  | marked {body value : Json} {disk : DiskVolume} {status : DiskStatus}
      (hbody : request.body = some body)
      (hversion : versionOf body = w.disk.metadata.resourceVersion)
      (hvalue : body.at? "status" = some value)
      (hdecode : DiskStatus.decode (Json.outline value) = .ok status)
      (hstatus : disk.status = some status) (hterms : disk.terms = w.disk.terms)
      (hsame : SameDisk w.disk disk) (hread : r.object DiskVolume.decode = .ok disk) :
      Serves w request r .status { w with disk }
  | stale {place : Place} {body : Json} (hplace : place = .disk ∨ place = .status)
      (hbody : request.body = some body)
      (hversion : versionOf body ≠ w.disk.metadata.resourceVersion)
      (hrefuses : r.Refuses 409 "Conflict") :
      Serves w request r place w

/-- The calls of the cluster, which may fail if there are `faults`. Only what exists is said to exist
already. -/
inductive Answers (faults : Prop) : Service Cluster.interface World
  | served {place : Place} {request : Request} {r : Response} {w w' : World}
      (hplace : w.At place request) (hserves : Serves w request r place w') :
      Answers faults (.send request) w r w'
  | failed {place : Place} {request : Request} {r : Response} {w w' : World} {failure : Failure}
      (hfaults : faults) (hplace : w.At place request) (hfailure : place.failure? r = some failure)
      (heffect : w' = w ∨ ∃ r', Serves w request r' place w')
      (hexists : failure.isAlreadyExists → ∀ kind body name, place = .backings kind →
        request.body = some body → nameOf body = some name →
          ⟨kind, w.space, name⟩ ∈ w'.backings) :
      Answers faults (.send request) w r w'
  | elsewhere {request : Request} {r : Response} {w : World} (h : ∀ place, ¬w.At place request) :
      Answers faults (.send request) w r w
  | published {disk : DiskVolume} {notice : Notice} {w : World} :
      Answers faults (.publish disk notice) w () w

end ClusterOperator.Backend
