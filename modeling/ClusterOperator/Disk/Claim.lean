import ClusterOperator.Disk.Volume
import ClusterOperator.Failure

namespace ClusterOperator

open Json

/-- A claim on storage. -/
structure Claim where
  metadata : Metadata
  accessModes : List String
  storage : String
  storageClass : String
deriving DecidableEq, Repr, Inhabited

/-- A claim that is filled from another one. -/
structure DataVolume where
  apiVersion : String
  kind : String
  metadata : Metadata
  source : ImageSource
  accessModes : List String
  requests : List (String × String)
  storageClass : Option String
deriving DecidableEq, Repr, Inhabited

namespace Claim

def toJson (c : Claim) : Json :=
  .obj [("apiVersion", .str "v1"), ("kind", .str "PersistentVolumeClaim"),
    ("metadata", c.metadata.toJson),
    ("spec", .obj [("accessModes", strs c.accessModes),
      ("resources", .obj [("requests", .obj [("storage", .str c.storage)])]),
      ("storageClassName", .str c.storageClass)])]

end Claim

namespace DataVolume

def currentVersion : String := "cdi.kubevirt.io/v1beta1"

def currentKind : String := "DataVolume"

def plural : String := "datavolumes"

def toJson (v : DataVolume) : Json :=
  .obj [("apiVersion", .str v.apiVersion), ("kind", .str v.kind),
    ("metadata", v.metadata.toJson),
    ("spec", .obj [
      ("pvc", .obj ([("accessModes", strs v.accessModes),
          ("resources", .obj [("requests", Metadata.pairsJson v.requests)])] ++
        member? "storageClassName" (v.storageClass.map .str))),
      ("source", .obj [("pvc", v.source.toJson)])])]

def sourceClaim : Decoder ImageSource :=
  Decode.record "struct PvcSourceRef" <|
    ImageSource.mk <$>
    Fields.required "name" Decode.text <*>
    Fields.required "namespace" Decode.text

def source? : Decoder ImageSource :=
  Decode.record "struct DataVolumeSource" (Fields.required "pvc" sourceClaim)

def resources : Decoder (List (String × String)) :=
  Decode.record "struct DataVolumeResources" <|
    Fields.required "requests" (Decode.dictionary Decode.text)

def template : Decoder (List String × List (String × String) × Option String) :=
  Decode.record "struct DataVolumeClaimSpec" <|
    (fun modes requests storageClass => (modes, requests, storageClass)) <$>
    Fields.required "accessModes" (Decode.list Decode.text) <*>
    Fields.required "resources" resources <*>
    Fields.optional "storageClassName" Decode.text

def terms : Decoder (ImageSource × List String × List (String × String) × Option String) :=
  Decode.record "struct DataVolumeSpec" <|
    Prod.mk <$> Fields.required "source" source? <*> Fields.required "pvc" template

/-- Reads a data volume; its version and kind are kept as they are. -/
def decode : Decoder DataVolume :=
  Decode.record "struct DataVolume" <|
    (fun apiVersion kind metadata (source, modes, requests, storageClass) =>
      ⟨apiVersion, kind, metadata, source, modes, requests, storageClass⟩) <$>
    Fields.required "apiVersion" Decode.text <*>
    Fields.required "kind" Decode.text <*>
    Fields.required "metadata" (Metadata.decode 1) <*>
    Fields.required "spec" terms

end DataVolume

namespace DiskVolume

/-- The access mode of every claim: one node reads and writes. -/
def accessMode : String := "ReadWriteOnce"

/-- The metadata of the claim of a disk, which the disk owns. -/
def claimMetadata (d : DiskVolume) (claimName : String) : Except Failure Metadata :=
  match d.asController with
  | none => .error (.internal ("DiskVolume " ++ d.name ++ " has no uid"))
  | some owner =>
      .ok {
        name := some claimName
        space := d.metadata.space
        labels := some [("app.kubernetes.io/managed-by", "clustersync-operator"),
          (nameLabel, d.name)]
        ownerReferences := some [owner] }

def claim (d : DiskVolume) (claimName storageClass : String) : Except Failure Claim := do
  let metadata ← d.claimMetadata claimName
  return ⟨metadata, [accessMode], d.terms.storage, storageClass⟩

/-- The data volume of a disk that copies an image. -/
def dataVolume (d : DiskVolume) (claimName : String) (source : ImageSource) :
    Except Failure DataVolume := do
  let metadata ← d.claimMetadata claimName
  return {
    apiVersion := DataVolume.currentVersion
    kind := DataVolume.currentKind
    metadata
    source
    accessModes := [accessMode]
    requests := [("storage", d.terms.storage)]
    storageClass := none }

end DiskVolume

end ClusterOperator
