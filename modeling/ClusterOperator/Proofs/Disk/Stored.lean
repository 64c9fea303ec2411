import ClusterOperator.Disk.Volume
import ClusterOperator.Proofs.Json.Records

namespace ClusterOperator

open Json

namespace ImageSource

def table (i : ImageSource) : List (String × Option Json) :=
  [("name", some (.str i.name)), ("namespace", some (.str i.space))]

theorem toJson_eq (i : ImageSource) : i.toJson = .obj (present i.table) := rfl

theorem isPlain_toJson (i : ImageSource) : i.toJson.IsPlain := by
  rw [toJson_eq]
  exact (plainTable_nil.some (.str _) |>.some (.str _)).isPlain

theorem decode_toJson (i : ImageSource) : decode (outline i.toJson) = .ok i := by
  have hname : (Fields.required "name" Decode.text).Yields (outlined i.table) i.name :=
    .required rfl rfl
  have hspace : (Fields.required "namespace" Decode.text).Yields (outlined i.table) i.space :=
    .required rfl rfl
  have hkeys : (i.table.map Prod.fst).Nodup := by simp [table]
  rw [toJson_eq]
  exact Decode.record_obj (hname.map ImageSource.mk |>.seq hspace) hkeys _

end ImageSource

namespace DiskSource

def blank? (s : DiskSource) : Option Unit :=
  if s.blank then some () else none

def table (s : DiskSource) : List (String × Option Json) :=
  [("blank", s.blank?.map fun _ => .obj []), ("image", s.image.map ImageSource.toJson)]

theorem toJson_eq (s : DiskSource) : s.toJson = .obj (present s.table) := by
  obtain ⟨blank, image⟩ := s
  cases blank <;> cases image <;> rfl

theorem isPlain_toJson (s : DiskSource) : s.toJson.IsPlain := by
  rw [toJson_eq]
  exact (plainTable_nil.optional ImageSource.isPlain_toJson _
    |>.optional (fun _ => plainTable_nil.isPlain) _).isPlain

theorem decode_toJson (s : DiskSource) : decode (outline s.toJson) = .ok s := by
  have hblank : (Fields.optional "blank" (Decode.record "struct BlankSource" (pure ()))).Yields
      (outlined s.table) s.blank? := .optional rfl (fun _ _ => rfl) nofun
  have himage : (Fields.optional "image" ImageSource.decode).Yields (outlined s.table) s.image :=
    .optional rfl (fun i _ => i.decode_toJson) nofun
  have hkeys : (s.table.map Prod.fst).Nodup := by simp [table]
  have hsource : (⟨s.blank?.isSome, s.image⟩ : DiskSource) = s := by
    obtain ⟨blank, image⟩ := s
    cases blank <;> rfl
  have hfields := hblank.map (fun blank image => DiskSource.mk blank.isSome image) |>.seq himage
  rw [toJson_eq]
  exact (Decode.record_obj hfields hkeys _).trans (congrArg Except.ok hsource)

end DiskSource

namespace DiskTerms

def table (t : DiskTerms) : List (String × Option Json) :=
  [("pvcName", t.claimName.map .str), ("source", some t.source.toJson),
    ("resources", some (.obj [("requests", .obj [("storage", .str t.storage)])]))]

theorem toJson_eq (t : DiskTerms) : t.toJson = .obj (present t.table) := by
  obtain ⟨claimName, source, storage⟩ := t
  cases claimName <;> rfl

theorem isPlain_toJson (t : DiskTerms) : t.toJson.IsPlain := by
  have hstorage : (Json.obj [("storage", .str t.storage)]).IsPlain :=
    (plainTable_nil.some (.str _)).isPlain
  have hresources : (Json.obj [("requests", .obj [("storage", .str t.storage)])]).IsPlain :=
    (plainTable_nil.some hstorage).isPlain
  rw [toJson_eq]
  exact (plainTable_nil.some hresources |>.some t.source.isPlain_toJson
    |>.optional .str _).isPlain

theorem resources_obj (storage : String) :
    resources (outline (.obj [("requests", .obj [("storage", .str storage)])])) =
      .ok storage := rfl

theorem decode_toJson (t : DiskTerms) : decode (outline t.toJson) = .ok t := by
  have hclaim : (Fields.optional "pvcName" Decode.text).Yields (outlined t.table) t.claimName :=
    .optional rfl (fun _ _ => rfl) nofun
  have hsource : (Fields.defaulted "source" DiskSource.decode .empty).Yields (outlined t.table)
      t.source := .given rfl t.source.decode_toJson
  have hresources : (Fields.defaulted "resources" resources "").Yields (outlined t.table)
      t.storage := .given rfl (resources_obj _)
  have hkeys : (t.table.map Prod.fst).Nodup := by simp [table]
  rw [toJson_eq]
  exact Decode.record_obj (hclaim.map DiskTerms.mk |>.seq hsource |>.seq hresources) hkeys _

end DiskTerms

namespace DiskStatus

def table (s : DiskStatus) : List (String × Option Json) :=
  [("created", some (.bool s.created)), ("ready", some (.bool s.ready)),
    ("owner", some (.str s.owner))]

theorem toJson_eq (s : DiskStatus) : s.toJson = .obj (present s.table) := rfl

theorem isPlain_toJson (s : DiskStatus) : s.toJson.IsPlain := by
  rw [toJson_eq]
  exact (plainTable_nil.some (.str _) |>.some (.bool _) |>.some (.bool _)).isPlain

theorem decode_toJson (s : DiskStatus) : decode (outline s.toJson) = .ok s := by
  have hcreated : (Fields.defaulted "created" Decode.flag false).Yields (outlined s.table)
      s.created := .given rfl rfl
  have hready : (Fields.defaulted "ready" Decode.flag false).Yields (outlined s.table) s.ready :=
    .given rfl rfl
  have howner : (Fields.text "owner").Yields (outlined s.table) s.owner := .given rfl rfl
  have hkeys : (s.table.map Prod.fst).Nodup := by simp [table]
  rw [toJson_eq]
  exact Decode.record_obj (hcreated.map DiskStatus.mk |>.seq hready |>.seq howner) hkeys _

end DiskStatus

end ClusterOperator
