import ClusterOperator.Metadata

namespace ClusterOperator

open Json

/-- The claim that holds an image. -/
structure ImageSource where
  name : String
  space : String
deriving DecidableEq, Repr, Inhabited

/-- What a disk says about its content. -/
structure DiskSource where
  /-- Whether the disk is said to be blank. -/
  blank : Bool
  image : Option ImageSource
deriving DecidableEq, Repr, Inhabited

/-- What has become of a disk. -/
structure DiskStatus where
  created : Bool
  ready : Bool
  owner : String
deriving DecidableEq, Repr, Inhabited

/-- What is asked of a disk. -/
structure DiskTerms where
  /-- The name of the backing claim. -/
  claimName : Option String
  source : DiskSource
  /-- The size of the disk. -/
  storage : String
deriving DecidableEq, Repr, Inhabited

/-- A disk. -/
structure DiskVolume where
  metadata : Metadata
  terms : DiskTerms
  status : Option DiskStatus
deriving DecidableEq, Repr, Inhabited

/-- The content of a disk. -/
inductive DiskContent where
  | blank
  | image (source : ImageSource)
deriving DecidableEq, Repr

namespace ImageSource

def toJson (i : ImageSource) : Json :=
  .obj [("name", .str i.name), ("namespace", .str i.space)]

def decode : Decoder ImageSource :=
  Decode.record "struct ImageSource" <|
    ImageSource.mk <$>
    Fields.required "name" Decode.text <*>
    Fields.required "namespace" Decode.text

end ImageSource

namespace DiskSource

def empty : DiskSource :=
  ⟨false, none⟩

def toJson (s : DiskSource) : Json :=
  .obj (member? "blank" (if s.blank then some (.obj []) else none) ++
    member? "image" (s.image.map ImageSource.toJson))

def decode : Decoder DiskSource :=
  Decode.record "struct DiskVolumeSource" <|
    (fun (blank : Option Unit) image => ⟨blank.isSome, image⟩) <$>
    Fields.optional "blank" (Decode.record "struct BlankSource" (pure ())) <*>
    Fields.optional "image" ImageSource.decode

/-- An image counts only where the disk is not said to be blank. -/
def content (s : DiskSource) : DiskContent :=
  match s.image with
  | some image => if s.blank then .blank else .image image
  | none => .blank

end DiskSource

namespace DiskStatus

def toJson (s : DiskStatus) : Json :=
  .obj [("created", .bool s.created), ("ready", .bool s.ready), ("owner", .str s.owner)]

def decode : Decoder DiskStatus :=
  Decode.record "struct DiskVolumeStatus" <|
    DiskStatus.mk <$>
    Fields.defaulted "created" Decode.flag false <*>
    Fields.defaulted "ready" Decode.flag false <*>
    Fields.text "owner"

end DiskStatus

namespace DiskTerms

def toJson (t : DiskTerms) : Json :=
  .obj (member? "pvcName" (t.claimName.map .str) ++
    [("source", t.source.toJson),
      ("resources", .obj [("requests", .obj [("storage", .str t.storage)])])])

def requests : Decoder String :=
  Decode.record "struct DiskVolumeRequests" (Fields.text "storage")

def resources : Decoder String :=
  Decode.record "struct DiskVolumeResources" (Fields.defaulted "requests" requests "")

def decode : Decoder DiskTerms :=
  Decode.record "struct DiskVolumeSpec" <|
    DiskTerms.mk <$>
    Fields.optional "pvcName" Decode.text <*>
    Fields.defaulted "source" DiskSource.decode .empty <*>
    Fields.defaulted "resources" resources ""

end DiskTerms

namespace DiskVolume

def apiVersion : String := "virtualization.kubesphere.io/v1alpha1"

def kind : String := "DiskVolume"

/-- The label that names the owner of a disk without owner references. -/
def ownerLabel : String := "virtualization.kubesphere.io/diskvolume-owner"

def nameLabel : String := "virtualization.kubesphere.io/diskvolume"

def toJson (d : DiskVolume) : Json :=
  .obj ([("apiVersion", .str apiVersion), ("kind", .str kind), ("metadata", d.metadata.toJson),
      ("spec", d.terms.toJson)] ++
    member? "status" (d.status.map DiskStatus.toJson))

/-- Reads a disk; its version and kind are not looked at. -/
def decode : Decoder DiskVolume :=
  Decode.record "struct DiskVolume" <|
    DiskVolume.mk <$>
    Fields.required "metadata" (Metadata.decode 1) <*>
    Fields.required "spec" DiskTerms.decode <*>
    Fields.nullable "status" DiskStatus.decode

def isCreated (d : DiskVolume) : Bool :=
  d.status.any (·.created)

def isReady (d : DiskVolume) : Bool :=
  d.status.any (·.ready)

/-- The name of a disk, or what its name is to be made from. -/
def name (d : DiskVolume) : String :=
  d.metadata.anyName

/-- The name of a claim whose disk does not name it. -/
def defaultClaimName (name : String) : String :=
  "tpl-" ++ name

/-- The owner of a disk: that of the first owner reference, else that of the label. -/
def owner (d : DiskVolume) : String :=
  match d.metadata.ownerReferences.getD [] with
  | first :: _ => first.name
  | [] => (d.metadata.label? ownerLabel).getD ""

/-- The disk as the owner that controls its claim, if it has a name and a uid. The disk stays as
long as its claim does. -/
def asController (d : DiskVolume) : Option OwnerReference := do
  let name ← d.metadata.name
  let uid ← d.metadata.uid
  return ⟨apiVersion, kind, name, uid, some true, some true⟩

end DiskVolume

end ClusterOperator
