import ClusterOperator.Disk.Backend
import ClusterOperator.Text.Basic

namespace ClusterOperator.Backend

/-- The calls by name. -/
inductive Method where
  | defaultClass
  | createClaim
  | createDataVolume
  | updateDisk
  | updateStatus
  | publish
deriving DecidableEq, Repr

namespace Method

def name : Method → String
  | defaultClass => "default_storage_class"
  | createClaim => "create_pvc"
  | createDataVolume => "create_data_volume"
  | updateDisk => "update_disk_volume"
  | updateStatus => "update_status"
  | publish => "publish_event"

def all : List Method :=
  [defaultClass, createClaim, createDataVolume, updateDisk, updateStatus, publish]

def ofName? (name : String) : Option Method :=
  all.find? (·.name = name)

end Method

def Call.method : Call → Method
  | .defaultClass => .defaultClass
  | .createClaim _ _ => .createClaim
  | .createDataVolume _ _ => .createDataVolume
  | .updateDisk _ => .updateDisk
  | .updateStatus _ => .updateStatus
  | .publish _ _ => .publish

/-- A cluster in memory. -/
structure Simulation where
  disk : Option DiskVolume := none
  classes : List StorageClass := []
  /-- The claims, each by its namespace and name. -/
  claims : List String := []
  dataVolumes : List String := []
  /-- The failures that calls are to meet. -/
  faults : FaultQueue Method Failure := []
  /-- The calls so far, last first. -/
  calls : List Call := []

instance : Inhabited Simulation := ⟨{}⟩

/-- How an object is known: by its namespace and name. -/
def objectKey (space : String) (metadata : Metadata) : String :=
  space ++ "/" ++ metadata.name.getD ""

def addObject (key : String) (keys : List String) : Creation × List String :=
  if key ∈ keys then (.alreadyExists, keys) else (.created, keys ++ [key])

/-- The number that digits after an optional plus sign denote, if it fits 64 bits. -/
def versionNumber (version : String) : Nat :=
  let digits : List Char := match version.toList with
    | '+' :: rest => rest
    | other => other
  let n : Nat := Digits.value digits
  if !digits.isEmpty ∧ digits.all Char.isDigit ∧ n < Nat.pow 2 64 then n else 0

def nextVersion (version : Option String) : String :=
  toString (versionNumber (version.getD "") + 1)

namespace Simulation

/-- Writes the stored disk if the writer has seen its version. -/
def write (s : Simulation) (seen : DiskVolume) (change : DiskVolume → DiskVolume) :
    Except Failure DiskVolume × Simulation :=
  match s.disk with
  | none => (.error (.noObject DiskVolume.kind seen.name), s)
  | some stored =>
      if seen.metadata.resourceVersion ≠ stored.metadata.resourceVersion then
        (.error (.conflict DiskVolume.kind stored.name "stale"), s)
      else
        let changed := change stored
        let written := { changed with
          metadata := { changed.metadata with
            resourceVersion := some (nextVersion stored.metadata.resourceVersion) } }
        (.ok written, { s with disk := some written })

def perform (s : Simulation) : (c : Call) → Reply c × Simulation
  | .defaultClass => (.ok (StorageClass.findDefault s.classes), s)
  | .createClaim space claim =>
      let (creation, claims) := addObject (objectKey space claim.metadata) s.claims
      (.ok creation, { s with claims })
  | .createDataVolume space volume =>
      let (creation, dataVolumes) := addObject (objectKey space volume.metadata) s.dataVolumes
      (.ok creation, { s with dataVolumes })
  | .updateDisk disk =>
      s.write disk fun stored => { stored with metadata := disk.metadata, terms := disk.terms }
  | .updateStatus disk => s.write disk fun stored => { stored with status := disk.status }
  | .publish _ _ => ((), s)

/-- The answer to a call that fails; a notice cannot. -/
def refuse (failure : Failure) : (c : Call) → Reply c
  | .defaultClass => .error failure
  | .createClaim _ _ => .error failure
  | .createDataVolume _ _ => .error failure
  | .updateDisk _ => .error failure
  | .updateStatus _ => .error failure
  | .publish _ _ => ()

/-- Notes a call and answers it with the failure that waits for it, or as the cluster does. -/
def answer : Handler interface Simulation := fun c s =>
  let (fault, faults) := s.faults.take c.method
  let s := { s with calls := c :: s.calls, faults }
  match fault with
  | some failure => (refuse failure c, s)
  | none => s.perform c

end Simulation

end ClusterOperator.Backend
