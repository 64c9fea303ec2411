import ClusterOperator.Disk.Backend
import ClusterOperator.Text.Quoted

namespace ClusterOperator.Observed

open Json

/-- A field that has to have a shape and is not looked at otherwise. -/
def shaped {α : Type} (key : String) (decode : Decoder α) : Fields Unit :=
  (fun _ => ()) <$> Fields.optional key decode

def both (a b : Fields Unit) : Fields Unit :=
  (fun _ _ => ()) <$> a <*> b

def texts : List String → Fields Unit
  | [] => pure ()
  | key :: keys => both (shaped key Decode.text) (texts keys)

def all : List (Fields Unit) → Fields Unit
  | [] => pure ()
  | fields :: rest => both fields (all rest)

def textList : Decoder (List String) :=
  Decode.list Decode.text

def textMap : Decoder (List (String × String)) :=
  Decode.dictionary Decode.text

/-- A record of which nothing but its shape matters. -/
def part (record : String) (fields : List (Fields Unit)) : Decoder Unit :=
  Decode.openRecord record (all fields)

/-- A text that may only say one thing; the record around it refuses any other. -/
def exactly (wanted : String) : Decoder String := fun value => do
  let text ← Decode.text value
  if text = wanted then .ok text
  else
    fail (.rejected ("invalid value: string " ++ Text.quoted text ++ ", expected " ++ wanted) true)

/-- The metadata of an object inside so many containers. -/
def object (around : Nat) (apiVersion kind : String) (others : List (Fields Unit)) :
    Decoder Metadata :=
  Decode.openRecord kind <|
    (fun _ _ (metadata : Option Metadata) _ => metadata.getD {}) <$>
    Fields.defaulted "apiVersion" (exactly apiVersion) apiVersion <*>
    Fields.defaulted "kind" (exactly kind) kind <*>
    Fields.optional "metadata" (Metadata.decode (around + 1)) <*>
    all others

/-- A rule about the places where volumes of a class may lie. -/
def topologyRequirement : Decoder Unit :=
  part "TopologySelectorLabelRequirement" [texts ["key"], shaped "values" textList]

def topologyTerm : Decoder Unit :=
  part "TopologySelectorTerm" [shaped "matchLabelExpressions" (Decode.list topologyRequirement)]

def storageClass (around : Nat) : Decoder StorageClass :=
  object around "storage.k8s.io/v1" "StorageClass" [
    shaped "allowVolumeExpansion" Decode.flag,
    shaped "allowedTopologies" (Decode.list topologyTerm),
    shaped "mountOptions" textList,
    shaped "parameters" textMap,
    texts ["provisioner", "reclaimPolicy", "volumeBindingMode"]]

def listMetadata : Decoder Unit :=
  part "ListMeta" [texts ["continue", "resourceVersion", "selfLink"],
    shaped "remainingItemCount" Decode.int64]

/-- A list of storage classes; no list is an empty one. -/
def storageClasses : Decoder (List StorageClass) :=
  Decode.sharedRecord "struct ObjectList" <|
    (fun _ (items : Option (List StorageClass)) => items.getD []) <$>
    Fields.defaulted "metadata" listMetadata () <*>
    Fields.required "items" (Decode.optional (Decode.list (storageClass 2)))

def selectorRequirement : Decoder Unit :=
  part "LabelSelectorRequirement" [texts ["key", "operator"], shaped "values" textList]

def selector : Decoder Unit :=
  part "LabelSelector" [shaped "matchExpressions" (Decode.list selectorRequirement),
    shaped "matchLabels" textMap]

def volumeResources : Decoder Unit :=
  part "VolumeResourceRequirements" [shaped "limits" textMap, shaped "requests" textMap]

def claimTerms : Decoder Unit :=
  part "PersistentVolumeClaimSpec" [
    shaped "accessModes" textList,
    shaped "dataSource" (part "TypedLocalObjectReference" [texts ["apiGroup", "kind", "name"]]),
    shaped "dataSourceRef"
      (part "TypedObjectReference" [texts ["apiGroup", "kind", "name", "namespace"]]),
    shaped "resources" volumeResources,
    shaped "selector" selector,
    texts ["storageClassName", "volumeAttributesClassName", "volumeMode", "volumeName"]]

def claimCondition : Decoder Unit :=
  part "PersistentVolumeClaimCondition" [
    shaped "lastProbeTime" Timestamp.decode,
    shaped "lastTransitionTime" Timestamp.decode,
    texts ["message", "reason", "status", "type"]]

def claimStatus : Decoder Unit :=
  part "PersistentVolumeClaimStatus" [
    shaped "accessModes" textList,
    shaped "allocatedResourceStatuses" textMap,
    shaped "allocatedResources" textMap,
    shaped "capacity" textMap,
    shaped "conditions" (Decode.list claimCondition),
    texts ["currentVolumeAttributesClassName", "phase"],
    shaped "modifyVolumeStatus"
      (part "ModifyVolumeStatus" [texts ["status", "targetVolumeAttributesClassName"]])]

def claim : Decoder Metadata :=
  object 0 "v1" "PersistentVolumeClaim" [shaped "spec" claimTerms, shaped "status" claimStatus]

/-- A data volume that was made. Nothing but its metadata has to have a shape. -/
def dataVolume : Decoder Metadata :=
  Decode.sharedRecord "struct DynamicObject" <|
    Fields.defaulted "metadata" (Metadata.decode 1) {}

end ClusterOperator.Observed
