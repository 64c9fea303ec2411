import ClusterOperator.Proofs.Disk.Stored
import ClusterOperator.Proofs.Entry.Stored
import ClusterOperator.Proofs.Metadata

namespace ClusterOperator

open Json

section Object

variable {version kind : String} {metadata : Json} {value : Outline}
  {rest : List (String × Option Json)}

/-- What an object holds before anything of its own. -/
def objectTable {β : Type} (version kind metadata : β) (rest : List (String × Option β)) :
    List (String × Option β) :=
  ("apiVersion", some version) :: ("kind", some kind) :: ("metadata", some metadata) :: rest

theorem spells_object (hmetadata : Spells (symbols metadata.chars) value)
    (hrest : PlainTable rest) :
    Spells (symbols (obj (present (objectTable (.str version) (.str kind) metadata rest))).chars)
      (.ofMembers (present (objectTable (outline (.str version)) (outline (.str kind)) value
        (outlined rest)))) := by
  have hmembers : List.Forall₂ MemberSpells (present rest)
      ((present (outlined rest)).map fun m => (.ok m.1, m.2)) := by
    rw [present_outlined, List.map_map, List.forall₂_map_right_iff]
    refine List.forall₂_same.mpr fun m hm => ⟨rfl, ?_⟩
    exact (hrest _ (mem_present.mp hm) m.2 rfl).spells
  exact spells_obj (.cons ⟨rfl, (IsPlain.str version).spells⟩
    (.cons ⟨rfl, (IsPlain.str kind).spells⟩ (.cons ⟨rfl, hmetadata⟩ hmembers)))

/-- A record that looks at the metadata of an object, and at members of its own, is read from the
text of that object. -/
theorem whole_object {α : Type} {fields : Fields α} {a : α}
    (hmetadata : Spells (symbols metadata.chars) value) (hrest : PlainTable rest)
    (hfields : fields.Yields (objectTable (outline (.str version)) (outline (.str kind)) value
      (outlined rest)) a)
    (hlooks : ∃ slot ∈ fields.slots, slot.key = "metadata")
    (hdistinct : ("apiVersion" :: "kind" :: "metadata" :: rest.map Prod.fst).Nodup)
    (name : String) :
    Decode.whole (Decode.record name fields) (symbols
      (obj (present (objectTable (.str version) (.str kind) metadata rest))).chars) = .ok a := by
  rw [(spells_object hmetadata hrest).whole_eq]
  apply Decode.record_ofMembers hfields
  · simpa [objectTable, Decode.keys_outlined] using hdistinct
  · intro m hm
    rw [mem_present] at hm
    simp only [objectTable, List.mem_cons, Prod.mk.injEq, Option.some.injEq] at hm
    rcases hm with ⟨-, hm⟩ | ⟨-, hm⟩ | ⟨hkey, -⟩ | hm
    · exact .inr (hm ▸ stop?_outline _)
    · exact .inr (hm ▸ stop?_outline _)
    · exact .inl (hkey ▸ hlooks)
    · exact .inr (Decode.stop?_of_mem_outlined (mem_present.mpr hm))

end Object

theorem Configuration.toJson_eq (c : Configuration) :
    c.toJson = .obj (present (objectTable (.str apiVersion) (.str kind) c.metadata.toJson
      [("spec", some c.collections.toJson)])) := rfl

theorem Configuration.isPlain_toJson {c : Configuration} (h : c.metadata.toJson.IsPlain) :
    c.toJson.IsPlain := by
  rw [toJson_eq]
  exact (plainTable_nil.some c.collections.isPlain_toJson |>.some h |>.some (.str _)
    |>.some (.str _)).isPlain

theorem Configuration.decode_text {c : Configuration} (hbounded : c.collections.Bounded)
    (hmetadata : c.metadata.Survives) :
    Decode.whole decode (symbols c.toJson.chars) = .ok c := by
  obtain ⟨value, hspells, hdecode⟩ := hmetadata
  have hcollections := Collections.decode_toJson hbounded
  have hfields : (Configuration.mk <$> Fields.required "metadata" (Metadata.decode 1) <*>
      Fields.required "spec" Collections.decode).Yields
        (objectTable (outline (.str apiVersion)) (outline (.str kind)) value
          (outlined [("spec", some c.collections.toJson)])) c := by
    exact Fields.Yields.required rfl hdecode |>.map Configuration.mk
      |>.seq (.required rfl hcollections)
  rw [toJson_eq]
  exact whole_object hspells (plainTable_nil.some c.collections.isPlain_toJson) hfields
    ⟨_, List.mem_cons_self, rfl⟩ (by simp) _

theorem Configuration.bounded_of_decode {value : Outline} {c : Configuration}
    (h : decode value = .ok c) : c.collections.Bounded := by
  revert h
  apply Fields.Ensures.record (P := fun c : Configuration => c.collections.Bounded)
  refine .seq_of (.map ?_) (.required fun _ _ => Collections.bounded_of_decode)
  intro metadata collections h
  exact h

theorem DiskVolume.toJson_eq (d : DiskVolume) :
    d.toJson = .obj (present (objectTable (.str apiVersion) (.str kind) d.metadata.toJson
      [("spec", some d.terms.toJson), ("status", d.status.map DiskStatus.toJson)])) := by
  obtain ⟨metadata, terms, status⟩ := d
  cases status <;> rfl

theorem DiskVolume.decode_text {d : DiskVolume} (hmetadata : d.metadata.Survives) :
    Decode.whole decode (symbols d.toJson.chars) = .ok d := by
  obtain ⟨value, hspells, hdecode⟩ := hmetadata
  have hterms := d.terms.decode_toJson
  have hfields : (DiskVolume.mk <$> Fields.required "metadata" (Metadata.decode 1) <*>
      Fields.required "spec" DiskTerms.decode <*>
      Fields.nullable "status" DiskStatus.decode).Yields
        (objectTable (outline (.str apiVersion)) (outline (.str kind)) value
          (outlined [("spec", some d.terms.toJson),
            ("status", d.status.map DiskStatus.toJson)])) d := by
    exact Fields.Yields.required rfl hdecode |>.map DiskVolume.mk
      |>.seq (.required rfl hterms) |>.seq (.nullable rfl (fun s _ => s.decode_toJson) nofun)
  rw [toJson_eq]
  exact whole_object hspells
    (plainTable_nil.optional DiskStatus.isPlain_toJson _ |>.some d.terms.isPlain_toJson) hfields
    ⟨_, List.mem_cons_self, rfl⟩ (by simp) _

/-- Configurations whose lifetimes can be written, and disks, are read back from their texts if
their metadata are. So different ones have different texts, and writing what was read loses nothing
of it. -/
theorem objects_outlive_storage :
    (∀ c : Configuration, c.collections.Bounded → c.metadata.Survives →
      Decode.whole Configuration.decode (symbols c.toJson.chars) = .ok c) ∧
    (∀ d : DiskVolume, d.metadata.Survives →
      Decode.whole DiskVolume.decode (symbols d.toJson.chars) = .ok d) ∧
    (∀ source c, Decode.whole Configuration.decode source = .ok c → c.metadata.Survives →
      Decode.whole Configuration.decode (symbols c.toJson.chars) = .ok c) ∧
    (∀ source d, Decode.whole DiskVolume.decode source = .ok d → d.metadata.Survives →
      Decode.whole DiskVolume.decode (symbols d.toJson.chars) = .ok d) ∧
    (∀ c c' : Configuration, c.collections.Bounded → c.metadata.Survives →
      c'.collections.Bounded → c'.metadata.Survives → c.toJson.chars = c'.toJson.chars → c = c') ∧
    ∀ d d' : DiskVolume, d.metadata.Survives → d'.metadata.Survives →
      d.toJson.chars = d'.toJson.chars → d = d' := by
  refine ⟨fun _ => Configuration.decode_text, fun _ => DiskVolume.decode_text, ?_, ?_, ?_, ?_⟩
  · intro source c hread hmetadata
    obtain ⟨value, hvalue⟩ := Decode.exists_of_whole hread
    exact Configuration.decode_text (Configuration.bounded_of_decode hvalue) hmetadata
  · intro source d _ hmetadata
    exact DiskVolume.decode_text hmetadata
  · intro c c' hc hm hc' hm' htext
    have hread := Configuration.decode_text hc hm
    rw [htext, Configuration.decode_text hc' hm'] at hread
    exact (Except.ok.inj hread).symm
  · intro d d' hm hm' htext
    have hread := DiskVolume.decode_text hm
    rw [htext, DiskVolume.decode_text hm'] at hread
    exact (Except.ok.inj hread).symm

/-- Metadata as a cluster keeps them. -/
def keptMetadata : Metadata where
  creationTimestamp := some ⟨20000, 3600, 0⟩
  generation := some 3
  labels := some [("app", "clustersync"), ("tier", "")]
  name := some "operatorconfig"
  space := some "default"
  resourceVersion := some "7"

/-- A configuration in which an empty list and an unset flag stand beside others. -/
def keptConfiguration : Configuration where
  metadata := keptMetadata
  collections :=
    { storages := [{ (default : Storage) with
        name := "s", provider := "minio", port := some 9000, isDefault := some false }]
      backups := [{ (default : Backup) with
        name := "b"
        terms := { BackupTerms.absent with
          ttl := ⟨Duration.longest⟩
          includedNamespaces := some []
          excludedNamespaces := some ["kube-system"] } }]
      restores := []
      schedules := [{ (default : Schedule) with
        name := "n", paused := some true, template := { BackupTerms.absent with ttl := ⟨1500⟩ } }] }

/-- A disk that copies an image and has been made. -/
def keptDisk : DiskVolume where
  metadata := keptMetadata
  terms := ⟨some "claim", ⟨false, some ⟨"ubuntu", "images"⟩⟩, "10Gi"⟩
  status := some ⟨true, false, ""⟩

/-- A configuration as a person may write it: in another order, and with what goes without saying. -/
def writtenConfiguration : Json :=
  .obj [("spec", .obj [("backupConfigs", .arr [.obj [
      ("spec", .obj [("ttl", .str "90m"), ("storageLocation", .str "")]),
      ("isOneTime", .null), ("backupName", .str "b")]])]),
    ("metadata", .obj [("labels", .null)])]

/-- The same configuration as it is read. -/
def readConfiguration : Configuration where
  metadata := {}
  collections := { Collections.empty with
    backups := [⟨"b", none, { BackupTerms.absent with ttl := ⟨90 * Duration.TimeUnit.minute.nanos⟩ }⟩] }

theorem objects_outlive_storage_kept :
    Decode.whole Configuration.decode (symbols keptConfiguration.toJson.chars) =
        .ok keptConfiguration ∧
      Decode.whole DiskVolume.decode (symbols keptDisk.toJson.chars) = .ok keptDisk ∧
      Decode.whole Configuration.decode (symbols readConfiguration.toJson.chars) =
        .ok readConfiguration := by
  have hmetadata : keptMetadata.Survives := by
    refine Metadata.survives rfl ?_ ?_
    · rintro t (h | h) <;> cases h
      rfl
    · rintro pairs (h | h) <;> cases h
      decide
  have hbounded : keptConfiguration.collections.Bounded := by
    rw [Collections.bounded_iff]
    decide
  have hread : Decode.whole Configuration.decode (symbols writtenConfiguration.chars) =
      .ok readConfiguration := by
    have hplain : writtenConfiguration.IsPlain := by
      simp [writtenConfiguration, isPlain_obj_iff, isPlain_arr_iff, IsPlain.str, IsPlain.null]
    rw [hplain.spells.whole_eq]
    rfl
  exact ⟨objects_outlive_storage.1 keptConfiguration hbounded hmetadata,
    objects_outlive_storage.2.1 keptDisk hmetadata,
    objects_outlive_storage.2.2.1 _ _ hread (Metadata.survives rfl nofun nofun)⟩

end ClusterOperator
