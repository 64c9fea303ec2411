import ClusterOperator.Proofs.Json.Records

namespace ClusterOperator.OpenApi

/-- The name of the form of the values. -/
def type? (schema : Json) : Option String :=
  Json.textAt? "type" schema

def format? (schema : Json) : Option String :=
  Json.textAt? "format" schema

def isNullable (schema : Json) : Bool :=
  schema.at? "nullable" = some (.bool true)

/-- The schema of the items of a list. -/
def item? (schema : Json) : Option Json :=
  schema.at? "items"

/-- The declared members of an object with their schemas. -/
def properties (schema : Json) : List (String × Json) :=
  match schema.at? "properties" with
  | some (.obj members) => members
  | _ => []

def property? (schema : Json) (key : String) : Option Json :=
  (properties schema).lookup key

def requiredKeys (schema : Json) : List String :=
  match schema.at? "required" with
  | some (.arr keys) => keys.filterMap fun
      | .str key => some key
      | _ => none
  | _ => []

/-- What is filled in for an absent value. -/
def default? (schema : Json) : Option Json :=
  schema.at? "default"

/-- Whether an integer is in the range that a format names. -/
def fitsFormat (format : Option String) (n : Int) : Bool :=
  if format = some "int32" then -(2 ^ 31) ≤ n && n < 2 ^ 31
  else if format = some "int64" then -(2 ^ 63) ≤ n && n < 2 ^ 63
  else true

/-- A value is as a schema says, and says all that a server would add to it. -/
inductive Conforms : (schema value : Json) → Prop
  | null {schema : Json} (hnullable : isNullable schema) : Conforms schema .null
  | bool {schema : Json} (htype : type? schema = some "boolean") (b : Bool) :
      Conforms schema (.bool b)
  | int {schema : Json} {n : Int} (htype : type? schema = some "integer")
      (hformat : fitsFormat (format? schema) n) : Conforms schema (.int n)
  | str {schema : Json} (htype : type? schema = some "string") (text : String) :
      Conforms schema (.str text)
  | arr {schema item : Json} {items : List Json} (htype : type? schema = some "array")
      (hitem : item? schema = some item) (hitems : ∀ value ∈ items, Conforms item value) :
      Conforms schema (.arr items)
  | obj {schema : Json} {members : List (String × Json)} (htype : type? schema = some "object")
      (hdistinct : (members.map Prod.fst).Nodup)
      (hdeclared : ∀ m ∈ members, (property? schema m.1).isSome)
      (hmembers : ∀ m ∈ members, ∀ property, property? schema m.1 = some property →
        Conforms property m.2)
      (hrequired : ∀ key ∈ requiredKeys schema, key ∈ members.map Prod.fst)
      (hdefaults : ∀ p ∈ properties schema, (default? p.2).isSome → p.1 ∈ members.map Prod.fst) :
      Conforms schema (.obj members)

/-- Only some keys of a schema are read, of which the title is none. -/
theorem Conforms.of_same {schema schema' value : Json}
    (hsame : ∀ key, key ≠ "title" → schema'.at? key = schema.at? key) (h : Conforms schema value) :
    Conforms schema' value := by
  have htext : ∀ key, key ≠ "title" → schema'.textAt? key = schema.textAt? key := by
    intro key hkey
    ext text
    rw [Json.textAt?_eq_some_iff, Json.textAt?_eq_some_iff, hsame key hkey]
  have htype : type? schema' = type? schema := htext _ (by decide)
  have hproperties : properties schema' = properties schema := by
    rw [properties, properties, hsame _ (by decide)]
  cases h with
  | null hnullable =>
      rw [isNullable, ← hsame _ (by decide), ← isNullable] at hnullable
      exact .null hnullable
  | bool h b => exact .bool (htype.trans h) b
  | int h hformat =>
      have hsame' : format? schema' = format? schema := htext _ (by decide)
      exact .int (htype.trans h) (hsame' ▸ hformat)
  | str h text => exact .str (htype.trans h) text
  | arr h hitem hitems => exact .arr (htype.trans h) ((hsame _ (by decide)).trans hitem) hitems
  | obj h hdistinct hdeclared hmembers hrequired hdefaults =>
      have hrequired' : requiredKeys schema' = requiredKeys schema := by
        rw [requiredKeys, requiredKeys, hsame _ (by decide)]
      have hproperty : property? schema' = property? schema := by
        funext key
        rw [property?, property?, hproperties]
      rw [← hproperty] at hdeclared hmembers
      exact .obj (htype.trans h) hdistinct hdeclared hmembers (hrequired' ▸ hrequired)
        (hproperties ▸ hdefaults)

/-- What is filled in beside the members that are kept. Defaults are complete in themselves. -/
def missing (schema : Json) (kept : List (String × Json)) : List (String × Json) :=
  (properties schema).filterMap fun (key, property) =>
    if key ∈ kept.map Prod.fst then none else (default? property).map (key, ·)

/-- The members of an object after the defaults are filled in, if none is missing then. -/
def settle (schema : Json) (kept : List (String × Json)) : Option (List (String × Json)) :=
  let settled := kept ++ missing schema kept
  if ∀ key ∈ requiredKeys schema, key ∈ settled.map Prod.fst then some settled else none

mutual

/-- What a server stores of a value, if it takes it. -/
def stored : (schema value : Json) → Option Json
  | schema, .null => if isNullable schema then some .null else none
  | schema, .bool b => if type? schema = some "boolean" then some (.bool b) else none
  | schema, .int n =>
      if type? schema = some "integer" ∧ fitsFormat (format? schema) n then some (.int n) else none
  | schema, .float negative size =>
      if type? schema = some "number" then some (.float negative size) else none
  | schema, .str text => if type? schema = some "string" then some (.str text) else none
  | schema, .arr items =>
      if type? schema = some "array" then
        (item? schema).bind fun item => (storedItems item items).map .arr
      else none
  | schema, .obj members =>
      if type? schema = some "object" then
        ((storedMembers schema members).bind (settle schema)).map .obj
      else none

/-- What is stored of the items of a list. -/
def storedItems : Json → List Json → Option (List Json)
  | _, [] => some []
  | item, value :: values =>
      (stored item value).bind fun kept => (storedItems item values).map (kept :: ·)

/-- What is stored of the members of an object. Those that are not declared are dropped. -/
def storedMembers : Json → List (String × Json) → Option (List (String × Json))
  | _, [] => some []
  | schema, (key, value) :: members =>
      match property? schema key with
      | none => storedMembers schema members
      | some property =>
          (stored property value).bind fun kept =>
            (storedMembers schema members).map ((key, kept) :: ·)

end

theorem storedItems_eq {item : Json} {items : List Json}
    (h : ∀ value ∈ items, stored item value = some value) : storedItems item items = some items := by
  induction items with
  | nil => rw [storedItems]
  | cons value values ih =>
      rw [List.forall_mem_cons] at h
      rw [storedItems, h.1, ih h.2]
      rfl

theorem storedMembers_eq {schema : Json} {members : List (String × Json)}
    (h : ∀ m ∈ members, ∃ property, property? schema m.1 = some property ∧
      stored property m.2 = some m.2) : storedMembers schema members = some members := by
  induction members with
  | nil => rw [storedMembers]
  | cons m members ih =>
      rw [List.forall_mem_cons] at h
      obtain ⟨⟨property, hproperty, hvalue⟩, hrest⟩ := h
      simp only [storedMembers, hproperty, hvalue, ih hrest, Option.bind_some, Option.map_some]

theorem settle_eq {schema : Json} {members : List (String × Json)}
    (hrequired : ∀ key ∈ requiredKeys schema, key ∈ members.map Prod.fst)
    (hdefaults : ∀ p ∈ properties schema, (default? p.2).isSome → p.1 ∈ members.map Prod.fst) :
    settle schema members = some members := by
  have hmissing : missing schema members = [] := by
    rw [missing, List.filterMap_eq_nil_iff]
    intro p hp
    by_cases hkept : p.1 ∈ members.map Prod.fst
    · exact if_pos hkept
    · have hdefault : default? p.2 = none :=
        Option.not_isSome_iff_eq_none.mp fun hdefault => hkept (hdefaults p hp hdefault)
      simp only [hdefault, Option.map_none, ite_self]
  rw [settle, hmissing, List.append_nil, if_pos hrequired]

/-- A value that conforms is stored as it is. -/
theorem Conforms.stored_eq {schema value : Json} (h : Conforms schema value) :
    stored schema value = some value := by
  induction h with
  | null hnullable => rw [stored, if_pos hnullable]
  | bool htype b => rw [stored, if_pos htype]
  | int htype hformat => rw [stored, if_pos ⟨htype, hformat⟩]
  | str htype text => rw [stored, if_pos htype]
  | arr htype hitem _ ih =>
      rw [stored, if_pos htype, hitem, Option.bind_some, storedItems_eq ih]
      rfl
  | obj htype _ hdeclared _ hrequired hdefaults ih =>
      have hmembers : storedMembers _ _ = some _ := storedMembers_eq fun m hm => by
        obtain ⟨property, hproperty⟩ := Option.isSome_iff_exists.mp (hdeclared m hm)
        exact ⟨property, hproperty, ih m hm property hproperty⟩
      rw [stored, if_pos htype, hmembers, Option.bind_some, settle_eq hrequired hdefaults]
      rfl

/-- The keys that every object has, whatever its schema says. -/
def headerKeys : List String :=
  ["apiVersion", "kind", "metadata"]

/-- What a server stores of a whole object, if it takes it. The header is not subject to the schema. -/
def storedObject (schema : Json) : Json → Option Json
  | .obj members =>
      ((storedMembers schema (members.filter (·.1 ∉ headerKeys))).bind (settle schema)).map
        fun body => .obj (members.filter (·.1 ∈ headerKeys) ++ body)
  | _ => none

theorem Conforms.members_eq {schema : Json} {members : List (String × Json)}
    (h : Conforms schema (.obj members)) :
    (storedMembers schema members).bind (settle schema) = some members := by
  have hstored := h.stored_eq
  rw [stored] at hstored
  split at hstored
  · obtain ⟨kept, hkept, hsame⟩ := Option.map_eq_some_iff.mp hstored
    rw [hkept, Json.obj.inj hsame]
  · cases hstored

theorem Conforms.storedObject_eq {schema : Json} {header body : List (String × Json)}
    (h : Conforms schema (.obj body)) (hheader : ∀ m ∈ header, m.1 ∈ headerKeys)
    (hbody : ∀ m ∈ body, m.1 ∉ headerKeys) :
    storedObject schema (.obj (header ++ body)) = some (.obj (header ++ body)) := by
  have hfront : (header ++ body).filter (·.1 ∈ headerKeys) = header := by
    rw [List.filter_append, List.filter_eq_self.mpr (by simpa using hheader),
      List.filter_eq_nil_iff.mpr (by simpa using hbody), List.append_nil]
  have hback : (header ++ body).filter (·.1 ∉ headerKeys) = body := by
    rw [List.filter_append, List.filter_eq_nil_iff.mpr (by simpa using hheader),
      List.filter_eq_self.mpr (by simpa using hbody), List.nil_append]
  rw [storedObject, hfront, hback, h.members_eq]
  rfl

end ClusterOperator.OpenApi
