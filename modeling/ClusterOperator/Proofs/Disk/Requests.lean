import ClusterOperator.Proofs.Cluster.Order
import ClusterOperator.Proofs.Disk.Stored
import ClusterOperator.Proofs.Disk.World
import ClusterOperator.Proofs.Metadata

namespace ClusterOperator

namespace Metadata

theorem nodup_table (m : Metadata) : (m.table.map Prod.fst).Nodup := by
  simp [table]

theorem textAt?_name (m : Metadata) : Json.textAt? "name" m.toJson = m.name := by
  rw [toJson_eq]
  exact Json.textAt?_present m.nodup_table rfl

theorem textAt?_resourceVersion (m : Metadata) :
    Json.textAt? "resourceVersion" m.toJson = m.resourceVersion := by
  rw [toJson_eq]
  exact Json.textAt?_present m.nodup_table rfl

end Metadata

namespace Backend

open Cluster (Request Response nameOf versionOf ask)
open Text.Utf8 (encode)

section Bodies

theorem nameOf_claim (claim : Claim) : nameOf claim.toJson = claim.metadata.name := by
  rw [← claim.metadata.textAt?_name]
  simp [nameOf, Json.at?, Claim.toJson, List.lookup_cons]

theorem nameOf_dataVolume (volume : DataVolume) : nameOf volume.toJson = volume.metadata.name := by
  rw [← volume.metadata.textAt?_name]
  simp [nameOf, Json.at?, DataVolume.toJson, List.lookup_cons]

theorem versionOf_disk (d : DiskVolume) : versionOf d.toJson = d.metadata.resourceVersion := by
  rw [← d.metadata.textAt?_resourceVersion]
  simp [versionOf, Json.at?, DiskVolume.toJson, List.lookup_cons]

theorem at?_spec_disk (d : DiskVolume) : d.toJson.at? "spec" = some d.terms.toJson := by
  simp [Json.at?, DiskVolume.toJson, List.lookup_cons]

theorem versionOf_statusChange (d : DiskVolume) :
    versionOf (statusChange d) = d.metadata.resourceVersion := by
  cases hversion : d.metadata.resourceVersion with
  | none => simp [versionOf, Json.at?, statusChange, Json.textAt?, hversion]
  | some version => simp [versionOf, Json.at?, statusChange, Json.textAt?, hversion]

theorem at?_status_statusChange {d : DiskVolume} {status : DiskStatus} (h : d.status = some status) :
    (statusChange d).at? "status" = some (statusMembers status) := by
  simp [Json.at?, statusChange, List.lookup_cons, h]

theorem decode_statusMembers (s : DiskStatus) :
    DiskStatus.decode (Json.outline (statusMembers s)) = .ok s := by
  have hsame : s.toJson.Reordered (statusMembers s) :=
    .members (by simp) (.cons _ (.swap _ _ _))
  exact DiskStatus.steady_decode hsame s.decode_toJson

end Bodies

/-- The disk of a cluster has a name and a namespace as objects have them, and a uid. -/
structure World.Legal (w : World) (name space : String) : Prop where
  name_eq : w.disk.metadata.name = some name
  space_eq : w.disk.metadata.space = some space
  uid_isSome : w.disk.metadata.uid.isSome
  isName : Http.IsObjectName name
  isSpace : Http.IsObjectName space

section Requests

open Http (IsAddress isAddress_collection longestCollection)

variable {w : World} {name space : String} {body : Json}

theorem World.Legal.diskName_eq (h : w.Legal name space) : w.disk.name = name := by
  rw [DiskVolume.name, Metadata.anyName, h.name_eq]
  rfl

theorem World.Legal.worldSpace_eq (h : w.Legal name space) : w.space = space := by
  rw [World.space, h.space_eq]
  rfl

theorem isAddress_backings (hspace : Http.IsObjectName space) (kind : BackingKind) :
    IsAddress (kind.address space) longestCollection := by
  cases kind with
  | claim => exact isAddress_collection ⟨rfl, by decide, by decide⟩ hspace (by decide) (by decide)
  | dataVolume =>
      exact isAddress_collection ⟨rfl, by decide, by decide⟩ hspace (by decide) (by decide)

theorem World.Legal.isAddress_disk (h : w.Legal name space) :
    IsAddress w.diskAddress (longestCollection + 1 + 253) := by
  have hcollection : IsAddress (disksAddress w.disk) longestCollection := by
    rw [disksAddress, h.space_eq, Option.getD_some]
    exact isAddress_collection ⟨rfl, by decide, by decide⟩ h.isSpace (by decide) (by decide)
  rw [World.diskAddress, h.diskName_eq]
  exact hcollection.object h.isName

theorem exists_classesRequest (w : World) :
    ∃ request, Request.list classesAddress = .ok request ∧ w.At .classes request := by
  have haddress : IsAddress classesAddress 60 := ⟨rfl, by decide, by decide⟩
  exact ⟨_, Request.of_address _ haddress (by decide) (.inr rfl) none none, rfl, rfl⟩

theorem World.Legal.exists_backingsRequest (h : w.Legal name space) (kind : BackingKind)
    (body : Json) : ∃ request, Request.post (kind.address space) body = .ok request ∧
      w.At (.backings kind) request ∧ request.body = some body := by
  refine ⟨_, Request.of_address _ (isAddress_backings h.isSpace kind) (by decide) (.inr rfl) _ _,
    ⟨rfl, ?_⟩, rfl⟩
  rw [World.address, h.worldSpace_eq]

theorem World.Legal.diskName_ne (h : w.Legal name space) : w.disk.name ≠ "" := by
  rw [h.diskName_eq]
  exact h.isName.ne_empty

theorem disksAddress_congr {d d' : DiskVolume} (h : d.metadata = d'.metadata) :
    disksAddress d = disksAddress d' ∧ d.name = d'.name := by
  rw [disksAddress, disksAddress, DiskVolume.name, DiskVolume.name, h]
  exact ⟨rfl, rfl⟩

theorem World.Legal.exists_diskRequest (h : w.Legal name space) {d : DiskVolume}
    (hmetadata : d.metadata = w.disk.metadata) (body : Json) :
    ∃ request, Request.put (disksAddress d) d.name body = .ok request ∧
      w.At .disk request ∧ request.body = some body := by
  obtain ⟨hcollection, hname⟩ := disksAddress_congr hmetadata
  have hrequest := Request.of_address "PUT" h.isAddress_disk (by decide) (.inr rfl)
    (some "application/json") (some body)
  rw [hcollection, hname]
  refine ⟨_, (Request.put_eq h.diskName_ne body).trans hrequest, ⟨rfl, ?_⟩, rfl⟩
  rw [World.address]

theorem merge_eq {collection name : String} (h : name ≠ "") (part : String) (body : Json) :
    Request.merge collection name part body =
      Request.of "PATCH" (collection ++ "/" ++ name ++ part ++ "?")
        (some "application/merge-patch+json") (some body) := by
  rw [Request.merge, Cluster.objectAddress, if_neg h]
  rfl

theorem World.Legal.exists_statusRequest (h : w.Legal name space) {d : DiskVolume}
    (hmetadata : d.metadata = w.disk.metadata) (body : Json) :
    ∃ request, Request.merge (disksAddress d) d.name "/status" body = .ok request ∧
      w.At .status request ∧ request.body = some body := by
  obtain ⟨hcollection, hname⟩ := disksAddress_congr hmetadata
  have haddress : IsAddress (w.diskAddress ++ "/status") (longestCollection + 1 + 253 + 7) :=
    h.isAddress_disk.append (by decide) (by decide)
  have hrequest := Request.of_address "PATCH" haddress (by decide) (.inr rfl)
    (some "application/merge-patch+json") (some body)
  rw [hcollection, hname]
  refine ⟨_, (merge_eq h.diskName_ne "/status" body).trans hrequest, ⟨rfl, ?_⟩, rfl⟩
  rw [World.address]

end Requests

section Places

variable {w : World} {place place' : Place} {request : Request}

theorem address_ne (space : String) :
    encode (BackingKind.claim.address space) ≠ encode (BackingKind.dataVolume.address space) := by
  intro h
  simp only [BackingKind.address, Cluster.collectionAddress, encode, String.toList_append,
    List.append_assoc, List.flatMap_append] at h
  injection h with _ h
  injection h with _ h
  injection h with _ h
  injection h with _ h
  injection h with h _
  exact absurd h (by decide)

theorem World.At.place_eq (h : w.At place request) (h' : w.At place' request) : place = place' := by
  have hmethod : place.method = place'.method := h.method_eq.symm.trans h'.method_eq
  have hpath := h.path_eq.symm.trans h'.path_eq
  cases place with
  | backings kind =>
      cases place' with
      | backings kind' =>
          cases kind <;> cases kind'
          · rfl
          · exact absurd hpath (address_ne w.space)
          · exact absurd hpath.symm (address_ne w.space)
          · rfl
      | _ => simp [Place.method] at hmethod
  | classes =>
      cases place' with
      | classes => rfl
      | _ => simp [Place.method] at hmethod
  | disk =>
      cases place' with
      | disk => rfl
      | _ => simp [Place.method] at hmethod
  | status =>
      cases place' with
      | status => rfl
      | _ => simp [Place.method] at hmethod

end Places

end Backend

end ClusterOperator
