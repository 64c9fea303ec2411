import ClusterOperator.Proofs.Json.Records
import ClusterOperator.Proofs.Schema.OpenApi
import ClusterOperator.Proofs.Schema.Yaml
import ClusterOperator.Schema.Definition

namespace ClusterOperator

open Json
open OpenApi (Conforms)

namespace Schema

def notes : Schema → Notes
  | text notes | flag notes | int32 notes | list notes _ | record notes _ => notes

def typeName : Schema → String
  | text _ => "string"
  | flag _ => "boolean"
  | int32 _ => "integer"
  | list _ _ => "array"
  | record _ _ => "object"

def formatName? : Schema → Option String
  | int32 _ => some "int32"
  | _ => none

def item? : Schema → Option Schema
  | list _ item => some item
  | _ => none

def fields : Schema → List (String × Bool × Schema)
  | record _ fields => fields
  | _ => []

def table (s : Schema) : List (String × Option Json) :=
  [("default", s.notes.absent), ("description", s.notes.description.map .str),
    ("format", s.formatName?.map .str), ("items", s.item?.map toJson),
    ("nullable", if s.notes.nullable then some (.bool true) else none),
    ("properties", if (properties s.fields).isEmpty then none else some (.obj (properties s.fields))),
    ("required", list? ((requiredKeys s.fields).map .str)), ("type", some (.str s.typeName))]

theorem propertiesNote_eq (members : List (String × Json)) : propertiesNote members =
    present [("properties", if members.isEmpty then none else some (.obj members))] := by
  rw [propertiesNote]
  split <;> rfl

theorem member_eq (key : String) (value : Json) : [(key, value)] = present [(key, some value)] :=
  rfl

theorem toJson_eq (s : Schema) : s.toJson = .obj (present s.table) := by
  cases s <;>
    simp only [toJson, Notes.front, Notes.nullNote, typeNote, member?_eq, propertiesNote_eq,
      nonemptyList_eq, member_eq, present_append] <;> rfl

section Readers

open OpenApi

variable (s : Schema)

theorem nodup_table : (s.table.map Prod.fst).Nodup := by
  simp [table]

theorem at?_toJson (key : String) : s.toJson.at? key = (s.table.lookup key).join := by
  rw [toJson_eq]
  exact at?_present s.nodup_table key

theorem textAt?_toJson {key : String} {text : Option String}
    (h : s.table.lookup key = some (text.map .str)) : s.toJson.textAt? key = text := by
  rw [toJson_eq]
  exact textAt?_present s.nodup_table h

@[simp] theorem type?_toJson : type? s.toJson = some s.typeName :=
  s.textAt?_toJson rfl

@[simp] theorem format?_toJson : format? s.toJson = s.formatName? :=
  s.textAt?_toJson rfl

@[simp] theorem item?_toJson : OpenApi.item? s.toJson = s.item?.map toJson :=
  s.at?_toJson "items"

@[simp] theorem default?_toJson : default? s.toJson = s.notes.absent :=
  s.at?_toJson "default"

@[simp] theorem properties_toJson : OpenApi.properties s.toJson = Schema.properties s.fields := by
  have hread : s.toJson.at? "properties" = if (Schema.properties s.fields).isEmpty then none
      else some (.obj (Schema.properties s.fields)) := s.at?_toJson "properties"
  rw [OpenApi.properties, hread]
  cases Schema.properties s.fields <;> rfl

@[simp] theorem requiredKeys_toJson :
    OpenApi.requiredKeys s.toJson = Schema.requiredKeys s.fields := by
  have hread : s.toJson.at? "required" = list? ((Schema.requiredKeys s.fields).map .str) :=
    s.at?_toJson "required"
  rw [OpenApi.requiredKeys, hread]
  cases Schema.requiredKeys s.fields with
  | nil => rfl
  | cons key keys => simp [list?, List.filterMap_map]

end Readers

theorem properties_eq_map (fields : List (String × Bool × Schema)) :
    properties fields = fields.map fun field => (field.1, field.2.2.toJson) := by
  induction fields with
  | nil => rw [properties, List.map_nil]
  | cons field fields ih => rw [properties, List.map_cons, ih]

theorem property?_toJson (s : Schema) (key : String) :
    OpenApi.property? s.toJson key = (s.fields.lookup key).map fun field => field.2.toJson := by
  rw [OpenApi.property?, properties_toJson, properties_eq_map]
  induction s.fields with
  | nil => rfl
  | cons field fields ih =>
      rw [List.map_cons, List.lookup_cons, List.lookup_cons]
      split
      · rfl
      · exact ih

section Values

theorem conforms_text (notes : Notes) (text : String) :
    Conforms (Schema.text notes).toJson (.str text) :=
  .str (type?_toJson _) text

theorem conforms_flag (notes : Notes) (b : Bool) : Conforms (flag notes).toJson (.bool b) :=
  .bool (type?_toJson _) b

theorem conforms_int32 (notes : Notes) (n : Int32) :
    Conforms (int32 notes).toJson (.int n.toInt) := by
  refine .int (type?_toJson _) ?_
  rw [format?_toJson, formatName?, OpenApi.fitsFormat, if_pos rfl, Bool.and_eq_true,
    decide_eq_true_eq, decide_eq_true_eq]
  exact ⟨n.le_toInt, n.toInt_lt⟩

theorem conforms_list {notes : Notes} {item : Schema} {items : List Json}
    (h : ∀ value ∈ items, Conforms item.toJson value) :
    Conforms (list notes item).toJson (.arr items) :=
  .arr (type?_toJson _) (item?_toJson _) h

theorem conforms_strs (notes itemNotes : Notes) (texts : List String) :
    Conforms (list notes (.text itemNotes)).toJson (strs texts) := by
  refine conforms_list fun value hvalue => ?_
  obtain ⟨text, -, rfl⟩ := List.mem_map.mp hvalue
  exact conforms_text itemNotes text

/-- The keys that must not be left out: those of fields that have to be there, and those that a server
would fill in. -/
def expectedKeys (fields : List (String × Bool × Schema)) : List String :=
  (fields.filter fun field => field.2.1 || field.2.2.notes.absent.isSome).map (·.1)

/-- What stands under a key, if anything does, conforms to the schema of the field. -/
def Fills (fields : List (String × Bool × Schema)) (entry : String × Option Json) : Prop :=
  ∃ must schema, fields.lookup entry.1 = some (must, schema) ∧
    ∀ value, entry.2 = some value → Conforms schema.toJson value

/-- The fields of a record are filled from a table. -/
structure Covers (fields : List (String × Bool × Schema)) (table : List (String × Option Json)) :
    Prop where
  distinct : (table.map Prod.fst).Nodup
  fills : ∀ entry ∈ table, Fills fields entry
  expected : ∀ key ∈ expectedKeys fields, (table.lookup key).join.isSome

variable {fields : List (String × Bool × Schema)} {table : List (String × Option Json)}
  {key : String} {must : Bool} {schema : Schema} {notes : Notes}

theorem Fills.given {value : Json} (hfound : fields.lookup key = some (must, schema))
    (h : Conforms schema.toJson value) : Fills fields (key, some value) :=
  ⟨must, schema, hfound, fun _ hv => Option.some.inj hv ▸ h⟩

theorem Fills.optional {α : Type} {encode : α → Json} {value : Option α}
    (hfound : fields.lookup key = some (must, schema))
    (h : ∀ a, Conforms schema.toJson (encode a)) : Fills fields (key, value.map encode) := by
  refine ⟨must, schema, hfound, fun v hv => ?_⟩
  obtain ⟨a, -, rfl⟩ := Option.map_eq_some_iff.mp hv
  exact h a

theorem Fills.text {text : String} (hfound : fields.lookup key = some (must, .text notes)) :
    Fills fields (key, Json.text? text) := by
  refine ⟨must, _, hfound, fun v hv => ?_⟩
  rw [Json.text?] at hv
  split at hv
  · cases hv
  · cases hv
    exact conforms_text notes text

theorem Fills.list {items : List Json}
    (hfound : fields.lookup key = some (must, .list notes schema))
    (h : ∀ value ∈ items, Conforms schema.toJson value) : Fills fields (key, list? items) := by
  refine ⟨must, _, hfound, fun v hv => ?_⟩
  rw [list?] at hv
  split at hv
  · cases hv
  · cases hv
    exact conforms_list h

theorem Covers.mem_keys (h : Covers fields table) (hkey : key ∈ expectedKeys fields) :
    key ∈ (present table).map Prod.fst := by
  obtain ⟨value, hvalue⟩ := Option.isSome_iff_exists.mp (h.expected key hkey)
  rw [← lookup_present h.distinct,
    lookup_iff_mem ((keys_present table).nodup h.distinct)] at hvalue
  exact List.mem_map_of_mem hvalue

theorem conforms_record (notes : Notes) (h : Covers fields table) :
    Conforms (record notes fields).toJson (.obj (present table)) := by
  refine .obj (type?_toJson _) ((keys_present table).nodup h.distinct) ?declared ?members ?required
    ?defaults
  case declared =>
    intro m hm
    obtain ⟨must, schema, hfound, -⟩ := h.fills _ (mem_present.mp hm)
    rw [property?_toJson, Schema.fields, hfound]
    rfl
  case members =>
    intro m hm property hproperty
    obtain ⟨must, schema, hfound, hvalue⟩ := h.fills _ (mem_present.mp hm)
    rw [property?_toJson, Schema.fields, hfound] at hproperty
    cases hproperty
    exact hvalue _ rfl
  case required =>
    intro key hkey
    rw [requiredKeys_toJson] at hkey
    obtain ⟨field, hfield, rfl⟩ := List.mem_map.mp hkey
    obtain ⟨hmem, hneeded⟩ := List.mem_filter.mp hfield
    apply h.mem_keys
    exact List.mem_map_of_mem (List.mem_filter.mpr ⟨hmem, by rw [hneeded, Bool.true_or]⟩)
  case defaults =>
    intro p hp hdefault
    rw [properties_toJson, properties_eq_map] at hp
    obtain ⟨field, hmem, rfl⟩ := List.mem_map.mp hp
    rw [default?_toJson] at hdefault
    apply h.mem_keys
    exact List.mem_map_of_mem (List.mem_filter.mpr ⟨hmem, by rw [hdefault, Bool.or_true]⟩)

theorem conforms_single (notes : Notes) {value : Json} (h : Conforms schema.toJson value) :
    Conforms (record notes [(key, must, schema)]).toJson (.obj [(key, value)]) := by
  have hcovers : Covers [(key, must, schema)] [(key, some value)] := by
    refine ⟨by simp, List.forall_mem_singleton.mpr (.given List.lookup_cons_self h), ?_⟩
    intro other hother
    obtain ⟨field, hfield, rfl⟩ := List.mem_map.mp hother
    obtain rfl := List.mem_singleton.mp (List.mem_of_mem_filter hfield)
    rw [List.lookup_cons_self]
    rfl
  exact conforms_record notes hcovers

end Values

end Schema

namespace Definition

def documents : List Json :=
  [configuration, disk].map toJson

theorem stream_eq : stream = String.join (documents.map Yaml.document) := by
  rw [stream, documents, List.map_map]
  rfl

/-- The printed text is read as the documents. -/
theorem stream_spells : Yaml.Stream stream documents := by
  have hprintable : ∀ document ∈ documents, Yaml.isPrintable document = true := by
    decide +kernel
  rw [stream_eq]
  exact Yaml.stream_documents hprintable

/-- The kind of objects that a document defines. -/
def kindOf? (document : Json) : Option String :=
  ((document.at? "spec").bind (at? "names")).bind (textAt? "kind")

/-- The schema of the objects that a document defines. -/
def schemaOf? (document : Json) : Option Json :=
  match (document.at? "spec").bind (at? "versions") with
  | some (.arr (version :: _)) => (version.at? "schema").bind (at? "openAPIV3Schema")
  | _ => none

/-- The schema that documents give for the objects of a kind. -/
def schemaFor? (documents : List Json) (kind : String) : Option Json :=
  (documents.find? (kindOf? · = some kind)).bind schemaOf?

theorem schemaFor?_configuration :
    schemaFor? documents "OperatorConfig" = some configuration.titledSchema := rfl

theorem schemaFor?_disk : schemaFor? documents "DiskVolume" = some disk.titledSchema := rfl

theorem at?_titledSchema (d : Definition) {key : String} (hkey : key ≠ "title") :
    d.titledSchema.at? key = d.schema.toJson.at? key := by
  rw [titledSchema, Schema.toJson_eq]
  simp only [at?]
  induction present d.schema.table with
  | nil => rfl
  | cons m members ih =>
      rw [List.flatMap_cons, List.lookup_append, ih, List.lookup_cons]
      by_cases htype : m.1 = "type"
      · simp only [htype, if_true, List.lookup_cons, beq_eq_false_iff_ne.mpr hkey]
        cases key == "type" <;> rfl
      · simp only [if_neg htype, List.lookup_cons]
        cases key == m.1 <;> rfl

theorem conforms_titledSchema {d : Definition} {value : Json}
    (h : Conforms d.schema.toJson value) : Conforms d.titledSchema value :=
  h.of_same fun _ hkey => d.at?_titledSchema hkey

end Definition

end ClusterOperator
