import ClusterOperator.Disk.Claim
import ClusterOperator.Program

namespace ClusterOperator

/-- A class of storage, as far as it matters here. -/
abbrev StorageClass := Metadata

namespace StorageClass

/-- The annotations that mark the default class, of which either will do. -/
def defaultMarks : List String :=
  ["storageclass.kubernetes.io/is-default-class",
    "storageclass.beta.kubernetes.io/is-default-class"]

def isDefault (c : StorageClass) : Bool :=
  defaultMarks.any fun mark => c.annotation? mark = some "true"

/-- The name of the first class that is marked as the default one. -/
def findDefault (classes : List StorageClass) : Option String :=
  (classes.find? isDefault).map Metadata.anyName

end StorageClass

/-- What came of a creation that may be repeated. -/
inductive Creation where
  | created
  | alreadyExists
deriving DecidableEq, Repr

/-- Something that a user is told about a disk. -/
structure Notice where
  warning : Bool
  reason : String
  note : String
deriving DecidableEq, Repr

namespace Backend

/-- What can be asked of the cluster. -/
inductive Call where
  | defaultClass
  | createClaim (space : String) (claim : Claim)
  | createDataVolume (space : String) (volume : DataVolume)
  /-- Writes what is asked of a disk. -/
  | updateDisk (disk : DiskVolume)
  /-- Writes the status of a disk. -/
  | updateStatus (disk : DiskVolume)
  | publish (disk : DiskVolume) (notice : Notice)

/-- The answers. A notice has none, whatever becomes of it. -/
@[reducible] def Reply : Call → Type
  | .defaultClass => Except Failure (Option String)
  | .createClaim _ _ => Except Failure Creation
  | .createDataVolume _ _ => Except Failure Creation
  | .updateDisk _ => Except Failure DiskVolume
  | .updateStatus _ => Except Failure DiskVolume
  | .publish _ _ => Unit

@[reducible] def interface : Interface := ⟨Call, Reply⟩

abbrev Job (α : Type) := Program interface (Except Failure α)

def defaultClass : Job (Option String) :=
  .call Call.defaultClass .done

def createClaim (space : String) (claim : Claim) : Job Creation :=
  .call (Call.createClaim space claim) .done

def createDataVolume (space : String) (volume : DataVolume) : Job Creation :=
  .call (Call.createDataVolume space volume) .done

def updateDisk (disk : DiskVolume) : Job DiskVolume :=
  .call (Call.updateDisk disk) .done

def updateStatus (disk : DiskVolume) : Job DiskVolume :=
  .call (Call.updateStatus disk) .done

/-- Tells the user something about a disk and goes on. -/
def tell {α : Type} (disk : DiskVolume) (notice : Notice) (next : Job α) : Job α :=
  .call (Call.publish disk notice) fun _ => next

end Backend

end ClusterOperator
