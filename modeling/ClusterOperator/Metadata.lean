import ClusterOperator.Timestamp

namespace ClusterOperator

/-- An object that owns another. -/
structure OwnerReference where
  apiVersion : String
  kind : String
  name : String
  uid : String
  /-- Whether the owner manages the object. -/
  controller : Option Bool
  /-- Whether the owner stays as long as the object does. -/
  blockOwnerDeletion : Option Bool
deriving DecidableEq, Repr, Inhabited

/-- What one writer of an object looks after. -/
structure ManagedFields where
  apiVersion : Option String := none
  fieldsType : Option String := none
  /-- The fields that the writer looks after, as a value of no fixed shape. -/
  fields : Option Json := none
  manager : Option String := none
  operation : Option String := none
  subresource : Option String := none
  time : Option Timestamp := none
deriving DecidableEq, Repr, Inhabited

/-- The metadata of an object. Labels and annotations are in increasing order of their keys. -/
structure Metadata where
  annotations : Option (List (String × String)) := none
  creationTimestamp : Option Timestamp := none
  deletionGracePeriodSeconds : Option Int64 := none
  deletionTimestamp : Option Timestamp := none
  finalizers : Option (List String) := none
  generateName : Option String := none
  generation : Option Int64 := none
  labels : Option (List (String × String)) := none
  managedFields : Option (List ManagedFields) := none
  name : Option String := none
  /-- The namespace that the object lies in. -/
  space : Option String := none
  ownerReferences : Option (List OwnerReference) := none
  resourceVersion : Option String := none
  selfLink : Option String := none
  uid : Option String := none
deriving DecidableEq, Repr

instance : Inhabited Metadata := ⟨{}⟩

open Json

namespace OwnerReference

def toJson (owner : OwnerReference) : Json :=
  .obj (("apiVersion", .str owner.apiVersion) ::
    member? "blockOwnerDeletion" (owner.blockOwnerDeletion.map .bool) ++
    member? "controller" (owner.controller.map .bool) ++
    [("kind", .str owner.kind), ("name", .str owner.name), ("uid", .str owner.uid)])

/-- A text that counts as empty where it is absent or `null`. -/
def lenientText (key : String) : Fields String :=
  (·.getD "") <$> Fields.optional key Decode.text

def decode : Decoder OwnerReference :=
  Decode.openRecord "OwnerReference" <|
    (fun apiVersion block controller kind name uid =>
      ⟨apiVersion, kind, name, uid, controller, block⟩) <$>
    lenientText "apiVersion" <*>
    Fields.optional "blockOwnerDeletion" Decode.flag <*>
    Fields.optional "controller" Decode.flag <*>
    lenientText "kind" <*>
    lenientText "name" <*>
    lenientText "uid"

end OwnerReference

namespace ManagedFields

def toJson (m : ManagedFields) : Json :=
  .obj (member? "apiVersion" (m.apiVersion.map .str) ++
    member? "fieldsType" (m.fieldsType.map .str) ++
    member? "fieldsV1" m.fields ++
    member? "manager" (m.manager.map .str) ++
    member? "operation" (m.operation.map .str) ++
    member? "subresource" (m.subresource.map .str) ++
    member? "time" (m.time.map Timestamp.toJson))

def decode (around : Nat) : Decoder ManagedFields :=
  Decode.openRecord "ManagedFieldsEntry" <|
    ManagedFields.mk <$>
    Fields.optional "apiVersion" Decode.text <*>
    Fields.optional "fieldsType" Decode.text <*>
    Fields.optional "fieldsV1" (Decode.anything (around + 1)) <*>
    Fields.optional "manager" Decode.text <*>
    Fields.optional "operation" Decode.text <*>
    Fields.optional "subresource" Decode.text <*>
    Fields.optional "time" Timestamp.decode

end ManagedFields

namespace Metadata

def pairsJson (pairs : List (String × String)) : Json :=
  .obj (pairs.map fun (key, value) => (key, .str value))

def toJson (m : Metadata) : Json :=
  .obj (member? "annotations" (m.annotations.map pairsJson) ++
    member? "creationTimestamp" (m.creationTimestamp.map Timestamp.toJson) ++
    member? "deletionGracePeriodSeconds"
      (m.deletionGracePeriodSeconds.map fun n => .int n.toInt) ++
    member? "deletionTimestamp" (m.deletionTimestamp.map Timestamp.toJson) ++
    member? "finalizers" (m.finalizers.map strs) ++
    member? "generateName" (m.generateName.map .str) ++
    member? "generation" (m.generation.map fun n => .int n.toInt) ++
    member? "labels" (m.labels.map pairsJson) ++
    member? "managedFields"
      (m.managedFields.map fun entries => .arr (entries.map ManagedFields.toJson)) ++
    member? "name" (m.name.map .str) ++
    member? "namespace" (m.space.map .str) ++
    member? "ownerReferences"
      (m.ownerReferences.map fun owners => .arr (owners.map OwnerReference.toJson)) ++
    member? "resourceVersion" (m.resourceVersion.map .str) ++
    member? "selfLink" (m.selfLink.map .str) ++
    member? "uid" (m.uid.map .str))

def word : Decoder Int64 := fun value =>
  (Decode.int64 value).map Int64.ofInt

def decode (around : Nat) : Decoder Metadata :=
  Decode.openRecord "ObjectMeta" <|
    Metadata.mk <$>
    Fields.optional "annotations" (Decode.dictionary Decode.text) <*>
    Fields.optional "creationTimestamp" Timestamp.decode <*>
    Fields.optional "deletionGracePeriodSeconds" word <*>
    Fields.optional "deletionTimestamp" Timestamp.decode <*>
    Fields.optional "finalizers" (Decode.list Decode.text) <*>
    Fields.optional "generateName" Decode.text <*>
    Fields.optional "generation" word <*>
    Fields.optional "labels" (Decode.dictionary Decode.text) <*>
    Fields.optional "managedFields" (Decode.list (ManagedFields.decode (around + 2))) <*>
    Fields.optional "name" Decode.text <*>
    Fields.optional "namespace" Decode.text <*>
    Fields.optional "ownerReferences" (Decode.list OwnerReference.decode) <*>
    Fields.optional "resourceVersion" Decode.text <*>
    Fields.optional "selfLink" Decode.text <*>
    Fields.optional "uid" Decode.text

/-- The name of the object, or what its name is to be made from. -/
def anyName (m : Metadata) : String :=
  (m.name.or m.generateName).getD ""

def label? (m : Metadata) (key : String) : Option String :=
  (m.labels.getD []).lookup key

def annotation? (m : Metadata) (key : String) : Option String :=
  (m.annotations.getD []).lookup key

end Metadata

end ClusterOperator
