import ClusterOperator.Proofs.Disk.Stored
import ClusterOperator.Proofs.Entry.Stored
import ClusterOperator.Proofs.Schema.Printed

namespace ClusterOperator

open Json
open OpenApi
open Schema (conforms_record conforms_list conforms_text conforms_flag conforms_int32 conforms_strs
  conforms_single)

theorem Storage.conforms (s : Storage) : Conforms Schema.storage.toJson s.toJson := by
  rw [toJson_eq]
  refine conforms_record _ ⟨by simp [table], ?_, List.all_eq_true.mp rfl⟩
  simp only [table, List.forall_mem_cons]
  exact ⟨.given rfl (conforms_text _ _), .text rfl, .text rfl, .text rfl, .text rfl, .text rfl,
    .optional rfl (conforms_int32 _), .text rfl, .text rfl, .optional rfl (conforms_flag _),
    List.forall_mem_nil _⟩

theorem BackupTerms.conforms (t : BackupTerms) : Conforms Schema.backupTerms.toJson t.toJson := by
  rw [toJson_eq]
  refine conforms_record _ ⟨by simp [table], ?_, List.all_eq_true.mp rfl⟩
  simp only [table, List.forall_mem_cons]
  exact ⟨.optional rfl (conforms_strs _ _), .optional rfl (conforms_strs _ _),
    .given rfl (conforms_text _ _), .text rfl, .optional rfl (conforms_flag _),
    .optional rfl (conforms_strs _ _), .optional rfl (conforms_flag _), List.forall_mem_nil _⟩

theorem Backup.conforms (b : Backup) : Conforms Schema.backup.toJson b.toJson := by
  rw [toJson_eq]
  refine conforms_record _ ⟨by simp [table], ?_, List.all_eq_true.mp rfl⟩
  simp only [table, List.forall_mem_cons]
  exact ⟨.given rfl (conforms_text _ _), .optional rfl (conforms_flag _),
    .given rfl b.terms.conforms, List.forall_mem_nil _⟩

theorem Restore.conforms (r : Restore) : Conforms Schema.restore.toJson r.toJson := by
  rw [toJson_eq]
  refine conforms_record _ ⟨by simp [table], ?_, List.all_eq_true.mp rfl⟩
  simp only [table, List.forall_mem_cons]
  exact ⟨.given rfl (conforms_text _ _), .given rfl (conforms_text _ _),
    .optional rfl (conforms_strs _ _), .optional rfl (conforms_strs _ _), List.forall_mem_nil _⟩

theorem Schedule.conforms (s : Schedule) : Conforms Schema.schedule.toJson s.toJson := by
  rw [toJson_eq]
  refine conforms_record _ ⟨by simp [table], ?_, List.all_eq_true.mp rfl⟩
  simp only [table, List.forall_mem_cons]
  exact ⟨.given rfl (conforms_text _ _), .given rfl (conforms_text _ _),
    .optional rfl (conforms_flag _), .given rfl s.template.conforms, List.forall_mem_nil _⟩

theorem Collections.conforms (c : Collections) : Conforms Schema.collections.toJson c.toJson := by
  rw [toJson_eq]
  refine conforms_record _ ⟨by simp [table], ?_, List.all_eq_true.mp rfl⟩
  simp only [table, List.forall_mem_cons]
  exact ⟨.list rfl (List.forall_mem_map.mpr fun s _ => s.conforms),
    .list rfl (List.forall_mem_map.mpr fun b _ => b.conforms),
    .list rfl (List.forall_mem_map.mpr fun r _ => r.conforms),
    .list rfl (List.forall_mem_map.mpr fun s _ => s.conforms), List.forall_mem_nil _⟩

theorem ImageSource.conforms (i : ImageSource) : Conforms Schema.image.toJson i.toJson := by
  rw [toJson_eq]
  refine conforms_record _ ⟨by simp [table], ?_, List.all_eq_true.mp rfl⟩
  simp only [table, List.forall_mem_cons]
  exact ⟨.given rfl (conforms_text _ _), .given rfl (conforms_text _ _), List.forall_mem_nil _⟩

/-- What is not declared is dropped, and an object without all that is required is refused. -/
example :
    stored Schema.image.toJson (.obj [("name", .str "i"), ("size", .int 1), ("namespace", .str "n")]) =
        some (ImageSource.toJson ⟨"i", "n"⟩) ∧
      stored Schema.image.toJson (.obj [("name", .str "i")]) = none := by
  decide +kernel

theorem DiskSource.conforms (s : DiskSource) : Conforms Schema.diskSource.toJson s.toJson := by
  have hnothing : Schema.Covers [] [] := ⟨.nil, List.forall_mem_nil _, List.forall_mem_nil _⟩
  have hblank : Conforms (Schema.record Schema.orNull []).toJson (.obj []) :=
    conforms_record _ hnothing
  rw [toJson_eq]
  refine conforms_record _ ⟨by simp [table], ?_, List.all_eq_true.mp rfl⟩
  simp only [table, List.forall_mem_cons]
  exact ⟨.optional rfl fun _ => hblank, .optional rfl ImageSource.conforms, List.forall_mem_nil _⟩

theorem DiskTerms.conforms_resources (storage : String) :
    Conforms Schema.diskResources.toJson (.obj [("requests", .obj [("storage", .str storage)])]) :=
  conforms_single _ (conforms_single _ (conforms_text _ _))

theorem DiskTerms.conforms (t : DiskTerms) : Conforms Schema.diskTerms.toJson t.toJson := by
  rw [toJson_eq]
  refine conforms_record _ ⟨by simp [table], ?_, List.all_eq_true.mp rfl⟩
  simp only [table, List.forall_mem_cons]
  exact ⟨.optional rfl (conforms_text _), .given rfl t.source.conforms,
    .given rfl (conforms_resources _), List.forall_mem_nil _⟩

theorem DiskStatus.conforms (s : DiskStatus) : Conforms Schema.diskStatus.toJson s.toJson := by
  rw [toJson_eq]
  refine conforms_record _ ⟨by simp [table], ?_, List.all_eq_true.mp rfl⟩
  simp only [table, List.forall_mem_cons]
  exact ⟨.given rfl (conforms_flag _ _), .given rfl (conforms_flag _ _),
    .given rfl (conforms_text _ _), List.forall_mem_nil _⟩

/-- What is written of an object outside its header is declared and conforms, part by part, and a server
stores the object as it is. -/
structure Admits (schema object : Json) : Prop where
  parts : ∀ key value, key ∉ headerKeys → object.at? key = some value →
    ∃ property, property? schema key = some property ∧ Conforms property value
  unchanged : storedObject schema object = some object

theorem admits_of_conforms {schema : Json} {header body : List (String × Json)}
    (h : Conforms schema (.obj body)) (hheader : ∀ m ∈ header, m.1 ∈ headerKeys)
    (hbody : ∀ m ∈ body, m.1 ∉ headerKeys) : Admits schema (.obj (header ++ body)) := by
  refine ⟨fun key value hkey hvalue => ?_, h.storedObject_eq hheader hbody⟩
  obtain ⟨front, back, hsplit, -⟩ := List.lookup_eq_some_iff.mp hvalue
  have hmem : (key, value) ∈ header ++ body := by
    rw [hsplit]
    exact List.mem_append_right _ List.mem_cons_self
  cases h with
  | obj htype hdistinct hdeclared hmembers hrequired hdefaults =>
      rcases List.mem_append.mp hmem with hmem | hmem
      · exact absurd (hheader _ hmem) hkey
      · obtain ⟨property, hproperty⟩ := Option.isSome_iff_exists.mp (hdeclared _ hmem)
        exact ⟨property, hproperty, hmembers _ hmem property hproperty⟩

theorem Configuration.admits (c : Configuration) :
    Admits Definition.configuration.titledSchema c.toJson := by
  have hbody : Conforms Definition.configuration.schema.toJson
      (.obj [("spec", c.collections.toJson)]) :=
    conforms_single _ c.collections.conforms
  have hheader : ∀ m ∈ [("apiVersion", .str apiVersion), ("kind", .str kind),
      ("metadata", c.metadata.toJson)], m.1 ∈ headerKeys := by
    simp [headerKeys]
  exact admits_of_conforms (Definition.conforms_titledSchema hbody) hheader (by simp [headerKeys])

theorem DiskVolume.admits (d : DiskVolume) : Admits Definition.disk.titledSchema d.toJson := by
  have hbody : Conforms Definition.disk.schema.toJson (.obj (present
      [("spec", some d.terms.toJson), ("status", d.status.map DiskStatus.toJson)])) := by
    refine conforms_record _ ⟨by simp, ?_, List.all_eq_true.mp rfl⟩
    simp only [List.forall_mem_cons]
    exact ⟨.given rfl d.terms.conforms, .optional rfl DiskStatus.conforms, List.forall_mem_nil _⟩
  have hheader : ∀ m ∈ [("apiVersion", .str apiVersion), ("kind", .str kind),
      ("metadata", d.metadata.toJson)], m.1 ∈ headerKeys := by
    simp [headerKeys]
  have hkeys : ∀ key ∈ ["spec", "status"], key ∉ headerKeys := by decide
  have hadmits := admits_of_conforms (Definition.conforms_titledSchema hbody) hheader fun m hm =>
    hkeys m.1 ((keys_present _).subset (List.mem_map_of_mem hm))
  rw [toJson, member?_eq]
  exact hadmits

/-- A server that goes by the definitions in the printed text takes every configuration object and every
disk and stores it unchanged. -/
theorem printed_admits : ∃ documents, Yaml.Stream Definition.stream documents ∧
    (∃ schema, Definition.schemaFor? documents "OperatorConfig" = some schema ∧
      ∀ c : Configuration, Admits schema c.toJson) ∧
    ∃ schema, Definition.schemaFor? documents "DiskVolume" = some schema ∧
      ∀ d : DiskVolume, Admits schema d.toJson :=
  ⟨Definition.documents, Definition.stream_spells,
    ⟨_, Definition.schemaFor?_configuration, Configuration.admits⟩,
    _, Definition.schemaFor?_disk, DiskVolume.admits⟩

end ClusterOperator
