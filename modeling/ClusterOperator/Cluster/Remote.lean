import ClusterOperator.Cluster.Client
import ClusterOperator.Disk.Observed
import ClusterOperator.Store.Repository

namespace ClusterOperator

open Cluster (Request ask)

namespace Repository

/-- The address of the configuration objects of a namespace. -/
def configurationsAddress (space : String) : String :=
  Cluster.collectionAddress "/apis/clustersync.kubesphere.io/v1" space "operatorconfigs"

/-- The calls of a repository as programs over the API. -/
def remote (name space : String) : (c : Call) → Program Cluster.interface (Reply c)
  | .fetch =>
      (ask Configuration.decode (Request.get (configurationsAddress space) name)).bind fun found =>
        .done (Cluster.ifFound found)
  | .create config =>
      ask Configuration.decode (Request.post (configurationsAddress space) config.toJson)
  | .replace config =>
      ask Configuration.decode (Request.put (configurationsAddress space) name config.toJson)

end Repository

namespace Backend

def disksAddress (disk : DiskVolume) : String :=
  Cluster.collectionAddress "/apis/virtualization.kubesphere.io/v1alpha1"
    (disk.metadata.space.getD "") "diskvolumes"

/-- A status inside a change, whose members come in the order of their keys. -/
def statusMembers (s : DiskStatus) : Json :=
  .obj [("created", .bool s.created), ("owner", .str s.owner), ("ready", .bool s.ready)]

/-- The status of a disk as a change of the object that the writer has seen. -/
def statusChange (disk : DiskVolume) : Json :=
  .obj [
    ("metadata", .obj [("resourceVersion",
      (disk.metadata.resourceVersion.map Json.str).getD .null)]),
    ("status", (disk.status.map statusMembers).getD .null)]

/-- The calls about disks as programs over the API. -/
def remote : (c : Call) → Program Cluster.interface (Reply c)
  | .defaultClass =>
      (ask Observed.storageClasses
        (Request.list "/apis/storage.k8s.io/v1/storageclasses")).andThen fun classes =>
          .done (.ok (StorageClass.findDefault classes))
  | .createClaim space claim =>
      (ask Observed.claim (Request.post
        (Cluster.collectionAddress "/api/v1" space "persistentvolumeclaims")
        claim.toJson)).bind fun made => .done (Cluster.creationOf made)
  | .createDataVolume space volume =>
      (ask Observed.dataVolume (Request.post
        (Cluster.collectionAddress "/apis/cdi.kubevirt.io/v1beta1" space DataVolume.plural)
        volume.toJson)).bind fun made => .done (Cluster.creationOf made)
  | .updateDisk disk =>
      ask DiskVolume.decode (Request.put (disksAddress disk) disk.name disk.toJson)
  | .updateStatus disk =>
      ask DiskVolume.decode
        (Request.merge (disksAddress disk) disk.name "/status" (statusChange disk))
  | .publish disk notice => .call (Cluster.Call.publish disk notice) .done

end Backend

end ClusterOperator
