import ClusterOperator.Disk.Volume
import ClusterOperator.Entry.Configuration
import ClusterOperator.Schema.Basic
import ClusterOperator.Schema.Yaml

namespace ClusterOperator

namespace Schema

def saying (description : String) : Notes :=
  { description := some description }

def orNull : Notes :=
  { nullable := true }

def names? (key : String) : String × Bool × Schema :=
  field key (.list orNull (.text {}))

def flag? (key : String) : String × Bool × Schema :=
  field key (.flag orNull)

def text? (key : String) : String × Bool × Schema :=
  field key (.text {})

def storage : Schema :=
  .record (saying "Object storage location") [
    text? "accessKey",
    text? "bucket",
    field "ip" (.text (saying "Endpoint address for S3-compatible stores")),
    field "isDefault" (.flag {
      description := some "At most one storage should be the default; not enforced here"
      nullable := true }),
    field "port" (.int32 orNull),
    text? "prefix",
    text? "provider",
    text? "region",
    text? "secretKey",
    needed "storageName" (.text {})]

def backupTerms : Schema :=
  .record {
      absent := some BackupTerms.absent.toJson
      description := some "Backup parameters shared by backups and schedule templates" } [
    flag? "defaultVolumesToFsBackup",
    names? "excludedNamespaces",
    names? "includedNamespaces",
    flag? "snapshotMoveData",
    field "storageLocation" (.text (saying "Name of a StorageConfig; not resolved by this crate")),
    field "ttl" (.text { absent := some BackupTerms.absent.ttl.toJson }),
    names? "volumeSnapshotLocations"]

def backup : Schema :=
  .record (saying "Named backup") [
    needed "backupName" (.text {}),
    flag? "isOneTime",
    field "spec" backupTerms]

def restore : Schema :=
  .record (saying "Named restore of an existing backup") [
    needed "backupName" (.text {}),
    names? "excludedNamespaces",
    names? "includedNamespaces",
    needed "restoreName" (.text {})]

def schedule : Schema :=
  .record (saying "Named backup schedule") [
    flag? "paused",
    needed "schedule" (.text (saying "Cron expression, 5 fields or 6 with leading seconds")),
    needed "scheduleName" (.text {}),
    field "template" backupTerms]

def collections : Schema :=
  .record (saying "OperatorConfig holds four ordered, name-keyed collections.") [
    field "backupConfigs" (.list (saying "One-time or on-demand backups") backup),
    field "restoreConfigs" (.list (saying "Restores from a named backup") restore),
    field "scheduleConfigs" (.list (saying "Cron-driven backups built from a template") schedule),
    field "storageConfigs"
      (.list (saying "Object storage locations backups are written to") storage)]

def image : Schema :=
  .record { description := some "Image PVC to clone from", nullable := true } [
    needed "name" (.text {}),
    needed "namespace" (.text {})]

def diskSource : Schema :=
  .record {
      absent := some DiskSource.empty.toJson
      description := some ("Where the disk content comes from. Exactly one member is expected; " ++
        "an empty source is treated as blank.") } [
    field "blank" (.record orNull []),
    field "image" image]

def diskResources : Schema :=
  .record { absent := some (.obj [("requests", .obj [("storage", .str "")])]) } [
    field "requests" (.record { absent := some (.obj [("storage", .str "")]) } [
      field "storage" (.text {
        absent := some (.str "")
        description := some "Requested capacity (e.g., \"10Gi\")" })])]

def diskTerms : Schema :=
  .record {} [
    field "pvcName" (.text {
      description := some "Backing claim name; defaults to `tpl-<name>`"
      nullable := true }),
    field "resources" diskResources,
    field "source" diskSource]

def diskStatus : Schema :=
  .record { description := some "DiskVolume status", nullable := true } [
    field "created" (.flag {
      absent := some (.bool false)
      description := some "Backing claim has been provisioned" }),
    field "owner" (.text {
      absent := some (.str "")
      description :=
        some "Informational copy of the owner; owner references stay authoritative" }),
    field "ready" (.flag { absent := some (.bool false) })]

end Schema

/-- A column in which a cluster lists objects. -/
structure Column where
  name : String
  type : String
  /-- Where the value stands in an object. -/
  path : String

/-- The definition of a kind of objects. -/
structure Definition where
  group : String
  version : String
  kind : String
  singular : String
  plural : String
  short : String
  columns : List Column
  /-- What is asked of an object. -/
  terms : Schema
  status : Option Schema

namespace Column

def toJson (c : Column) : Json :=
  .obj [("jsonPath", .str c.path), ("name", .str c.name), ("type", .str c.type)]

end Column

namespace Definition

/-- The schema of the objects. Their metadata has a schema of its own. -/
def schema (d : Definition) : Schema :=
  .record (Schema.saying ("Auto-generated derived type for " ++ d.kind ++
      "Spec via `CustomResource`"))
    (Schema.needed "spec" d.terms ::
      (d.status.map fun status => Schema.field "status" status).toList)

def titledSchema (d : Definition) : Json :=
  match d.schema.toJson with
  | .obj members =>
      .obj (members.flatMap fun (key, value) =>
        if key = "type" then [("title", .str d.kind), (key, value)] else [(key, value)])
  | other => other

def toJson (d : Definition) : Json :=
  .obj [
    ("apiVersion", .str "apiextensions.k8s.io/v1"),
    ("kind", .str "CustomResourceDefinition"),
    ("metadata", .obj [("name", .str (d.plural ++ "." ++ d.group))]),
    ("spec", .obj [
      ("group", .str d.group),
      ("names", .obj [
        ("categories", .arr []),
        ("kind", .str d.kind),
        ("plural", .str d.plural),
        ("shortNames", Json.strs [d.short]),
        ("singular", .str d.singular)]),
      ("scope", .str "Namespaced"),
      ("versions", .arr [.obj [
        ("additionalPrinterColumns", .arr (d.columns.map Column.toJson)),
        ("name", .str d.version),
        ("schema", .obj [("openAPIV3Schema", d.titledSchema)]),
        ("served", .bool true),
        ("storage", .bool true),
        ("subresources", .obj (Json.member? "status" (d.status.map fun _ => .obj [])))]])])]

def configuration : Definition where
  group := "clustersync.kubesphere.io"
  version := "v1"
  kind := Configuration.kind
  singular := "operatorconfig"
  plural := "operatorconfigs"
  short := "opcfg"
  columns := []
  terms := Schema.collections
  status := none

def disk : Definition where
  group := "virtualization.kubesphere.io"
  version := "v1alpha1"
  kind := DiskVolume.kind
  singular := "diskvolume"
  plural := "diskvolumes"
  short := "dskv"
  columns := [
    ⟨"PVC", "string", ".spec.pvcName"⟩,
    ⟨"Created", "boolean", ".status.created"⟩,
    ⟨"Ready", "boolean", ".status.ready"⟩,
    ⟨"Age", "date", ".metadata.creationTimestamp"⟩]
  terms := Schema.diskTerms
  status := some Schema.diskStatus

def stream : String :=
  String.join ([configuration, disk].map fun d => Yaml.document d.toJson)

end Definition

end ClusterOperator
