import ClusterOperator.Disk.Reconcile
import ClusterOperator.Http.Service

namespace ClusterOperator

/-- How the operator works. -/
structure Settings where
  service : Http.ServiceSettings
  /-- The address at which requests are taken. -/
  address : String
  /-- How many disks are reconciled at a time. -/
  parallelReconciles : Nat
  /-- How long a disk waits after a failure that will pass. -/
  delay : Duration

namespace Settings

/-- The settings of an operator that is told nothing. -/
def default : Settings where
  service := .default
  address := "0.0.0.0:8090"
  parallelReconciles := 1
  delay := Failure.defaultDelay

def operatorName : String := "clustersync-operator"

def operatorVersion : String := "0.1.0"

end Settings

end ClusterOperator
