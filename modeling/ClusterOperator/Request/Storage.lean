import ClusterOperator.Entry.Basic
import ClusterOperator.Metadata
import ClusterOperator.Validation.Violation
import ClusterOperator.Validation.Address

namespace ClusterOperator

open Json

/-- Changes of a storage location. An empty text or a missing value leaves a field as it is. -/
structure StoragePatch where
  provider : String
  bucket : String
  root : String
  region : String
  ip : String
  port : Option Int64
  accessKey : String
  secretKey : String
  isDefault : Option Bool
deriving DecidableEq, Repr, Inhabited

/-- A request to create a storage location. -/
structure StorageRequest where
  name : String
  fields : StoragePatch
deriving DecidableEq, Repr, Inhabited

/-- The value of a text field after a change: an empty text changes nothing. -/
def overwrite (old new : String) : String :=
  if new = "" then old else new

def nullable {α : Type} (encode : α → Json) : Option α → Json
  | none => .null
  | some a => encode a

def wordJson (n : Int64) : Json :=
  .int n.toInt

namespace StoragePatch

def empty : StoragePatch :=
  ⟨"", "", "", "", "", none, "", "", none⟩

def members (p : StoragePatch) : List (String × Json) :=
  [("provider", .str p.provider), ("bucket", .str p.bucket), ("prefix", .str p.root),
    ("region", .str p.region), ("ip", .str p.ip), ("port", nullable wordJson p.port),
    ("accessKey", .str p.accessKey), ("secretKey", .str p.secretKey),
    ("isDefault", nullable .bool p.isDefault)]

def toJson (p : StoragePatch) : Json :=
  .obj p.members

def fields : Fields StoragePatch :=
  StoragePatch.mk <$>
  Fields.text "provider" <*>
  Fields.text "bucket" <*>
  Fields.text "prefix" <*>
  Fields.text "region" <*>
  Fields.text "ip" <*>
  Fields.optional "port" Metadata.word <*>
  Fields.text "accessKey" <*>
  Fields.text "secretKey" <*>
  optionalFlag "isDefault"

def decode : Decoder StoragePatch :=
  Decode.record "struct StorageModifyRequest" fields

/-- The rules for the fields of a storage location. -/
def validate (p : StoragePatch) : Verdict := do
  Limits.provider.checkOptionalName p.provider
  Limits.bucket.checkOptionalName p.bucket
  Limits.root.checkOptionalName p.root
  Limits.region.checkOptionalName p.region
  Limits.ip.checkOptionalAddress p.ip
  Limits.port.checkOptionalPort (p.port.map Int64.toInt)
  Limits.accessKey.checkLength p.accessKey
  Limits.secretKey.checkLength p.secretKey

/-- Changes a storage location. Ports are stored in 32 bits. -/
def apply (p : StoragePatch) (s : Storage) : Storage where
  name := s.name
  provider := overwrite s.provider p.provider
  bucket := overwrite s.bucket p.bucket
  root := overwrite s.root p.root
  region := overwrite s.region p.region
  ip := overwrite s.ip p.ip
  port := (p.port.map Int64.toInt32).or s.port
  accessKey := overwrite s.accessKey p.accessKey
  secretKey := overwrite s.secretKey p.secretKey
  isDefault := p.isDefault.or s.isDefault

end StoragePatch

namespace StorageRequest

def toJson (r : StorageRequest) : Json :=
  .obj (("storageName", .str r.name) :: r.fields.members)

def decode : Decoder StorageRequest :=
  Decode.record "struct StorageRequest" <|
    StorageRequest.mk <$>
    Fields.text "storageName" <*>
    StoragePatch.fields

/-- The rules for the name, then those for the fields. -/
def validate (r : StorageRequest) : Verdict := do
  Limits.storageName.checkDnsName r.name
  r.fields.validate

def entry (r : StorageRequest) : Storage :=
  r.fields.apply ⟨r.name, "", "", "", "", "", none, "", "", none⟩

end StorageRequest

end ClusterOperator
