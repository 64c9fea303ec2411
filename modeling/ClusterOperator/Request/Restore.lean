import ClusterOperator.Entry.Basic
import ClusterOperator.Request.Storage
import ClusterOperator.Validation.Namespaces

namespace ClusterOperator

open Json

/-- Changes of a restore. -/
structure RestorePatch where
  backupName : String
  includedNamespaces : Option (List String)
  excludedNamespaces : Option (List String)
deriving DecidableEq, Repr, Inhabited

/-- A request to create a restore. -/
structure RestoreRequest where
  name : String
  fields : RestorePatch
deriving DecidableEq, Repr, Inhabited

namespace RestorePatch

def empty : RestorePatch :=
  ⟨"", none, none⟩

def members (p : RestorePatch) : List (String × Json) :=
  [("backupName", .str p.backupName),
    ("includedNamespaces", nullable strs p.includedNamespaces),
    ("excludedNamespaces", nullable strs p.excludedNamespaces)]

def toJson (p : RestorePatch) : Json :=
  .obj p.members

def fields : Fields RestorePatch :=
  RestorePatch.mk <$>
  Fields.text "backupName" <*>
  nameList "includedNamespaces" <*>
  nameList "excludedNamespaces"

def decode : Decoder RestorePatch :=
  Decode.record "struct RestoreModifyRequest" fields

def validate (p : RestorePatch) : Verdict := do
  if p.backupName ≠ "" then Limits.backupName.checkDnsName p.backupName
  checkNamespaceRange p.includedNamespaces p.excludedNamespaces

/-- Changes a restore; afterwards both lists of namespaces are checked together. -/
def apply (p : RestorePatch) (r : Restore) : Restore × Verdict :=
  let included := p.includedNamespaces.or r.includedNamespaces
  let excluded := p.excludedNamespaces.or r.excludedNamespaces
  (⟨r.name, overwrite r.backupName p.backupName, included, excluded⟩,
    checkNamespaceRange included excluded)

end RestorePatch

namespace RestoreRequest

def toJson (r : RestoreRequest) : Json :=
  .obj (("restoreName", .str r.name) :: r.fields.members)

def decode : Decoder RestoreRequest :=
  Decode.record "struct RestoreRequest" <|
    RestoreRequest.mk <$>
    Fields.text "restoreName" <*>
    RestorePatch.fields

def validate (r : RestoreRequest) : Verdict := do
  Limits.restoreName.checkDnsName r.name
  Limits.backupName.checkDnsName r.fields.backupName
  checkNamespaceRange r.fields.includedNamespaces r.fields.excludedNamespaces

def entry (r : RestoreRequest) : Restore :=
  ⟨r.name, r.fields.backupName, r.fields.includedNamespaces, r.fields.excludedNamespaces⟩

end RestoreRequest

end ClusterOperator
