import ClusterOperator.Disk.Backend

/-!
Reconciling a disk: the claim gets its name, then it is made, then the status says so.

A disk whose claim is there is only reported. The claim is made before its name is written, and both
before the status, so that a failure at any point leaves a disk that the next attempt completes.
-/

namespace ClusterOperator

/-- When a disk is looked at again. -/
inductive Action where
  | awaitChange
  | requeue (delay : Duration)
deriving DecidableEq, Repr

namespace DiskVolume

open Backend

def isUnstaged (d : DiskVolume) : Bool :=
  d.terms.claimName.getD "" = ""

def claimName (d : DiskVolume) : String :=
  if d.isUnstaged then defaultClaimName d.name else d.terms.claimName.getD ""

def staged (d : DiskVolume) : DiskVolume :=
  { d with terms := { d.terms with claimName := some d.claimName } }

def completed (d : DiskVolume) : DiskVolume :=
  { d with status := some ⟨true, true, d.owner⟩ }

def provision (d : DiskVolume) (space : String) : Job Creation :=
  match d.terms.source.content with
  | .blank =>
      defaultClass.andThen fun
        | none => .done (.error .noDefaultClass)
        | some storageClass =>
            match d.claim d.claimName storageClass with
            | .error failure => .done (.error failure)
            | .ok claim => createClaim space claim
  | .image source =>
      match d.dataVolume d.claimName source with
      | .error failure => .done (.error failure)
      | .ok volume => createDataVolume space volume

def provisionFailed (failure : Failure) : Notice :=
  ⟨true, "ProvisionFailed", failure.message⟩

def provisioned (d : DiskVolume) : Notice :=
  ⟨false, "Provisioned", "Provisioned claim " ++ d.claimName⟩

def synced : Notice :=
  ⟨false, "Synced", "DiskVolume synced successfully"⟩

/-- Makes the claim of a disk and tells the user what came of it. -/
def provisionAloud (d : DiskVolume) (space : String) : Job Unit :=
  (d.provision space).bind fun
    | .error failure => tell d (provisionFailed failure) (.done (.error failure))
    | .ok .created => tell d d.provisioned (.done (.ok ()))
    | .ok .alreadyExists => .done (.ok ())

/-- Writes the name of the claim unless the disk has named it before. -/
def writeName (d : DiskVolume) : Job DiskVolume :=
  if d.isUnstaged then updateDisk d.staged else .done (.ok d.staged)

/-- Makes the claim, writes its name and then the status. -/
def complete (d : DiskVolume) (space : String) : Job Action :=
  (d.staged.provisionAloud space).andThen fun () =>
    d.writeName.andThen fun written =>
      (updateStatus written.completed).andThen fun _ => .done (.ok .awaitChange)

/-- Reconciles a disk without counting it. Afterwards the disk waits for a change. -/
def reconcileOnce (d : DiskVolume) : Job Action :=
  match d.metadata.space with
  | none => .done (.error (.internal ("DiskVolume " ++ d.name ++ " has no namespace")))
  | some space =>
      if d.isCreated && d.isReady then tell d synced (.done (.ok .awaitChange))
      else d.complete space

def succeeded {α : Type} : Except Failure α → Bool
  | .ok _ => true
  | .error _ => false

def reconcile (d : DiskVolume) : Job Action :=
  d.reconcileOnce.bind fun result => .count (.reconcile (succeeded result)) (.done result)

end DiskVolume

namespace Failure

/-- How long a disk waits after a failure that will pass, unless the settings say otherwise. -/
def defaultDelay : Duration :=
  .ofMillis 5000

/-- When a disk is looked at again after a failure. -/
def nextAction (delay : Duration) (f : Failure) : Action :=
  match f.recovery with
  | .withBackoff => .requeue delay
  | .after given => .requeue given
  | .never => .awaitChange

end Failure

end ClusterOperator
