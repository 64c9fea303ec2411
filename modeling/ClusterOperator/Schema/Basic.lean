import ClusterOperator.Json.Value

namespace ClusterOperator

/-- What a schema says besides the form of the values. -/
structure Notes where
  /-- The value of an absent field. -/
  absent : Option Json := none
  description : Option String := none
  /-- Whether `null` is a value too. -/
  nullable : Bool := false

instance : Inhabited Notes := ⟨{}⟩

/-- A schema: the form of the values, and notes. -/
inductive Schema where
  | text (notes : Notes)
  | flag (notes : Notes)
  /-- Integers of 32 bits. -/
  | int32 (notes : Notes)
  | list (notes : Notes) (item : Schema)
  /-- Objects with the given fields, in increasing order of their keys; the flag says which have to
  be there. -/
  | record (notes : Notes) (fields : List (String × Bool × Schema))

namespace Schema

open Json

/-- The notes that come before the form, but for the one on `null`. -/
def Notes.front (notes : Notes) : List (String × Json) :=
  member? "default" notes.absent ++ member? "description" (notes.description.map .str)

def Notes.nullNote (notes : Notes) : List (String × Json) :=
  member? "nullable" (if notes.nullable then some (.bool true) else none)

def typeNote (name : String) : List (String × Json) :=
  [("type", .str name)]

def requiredKeys (fields : List (String × Bool × Schema)) : List String :=
  (fields.filter (·.2.1)).map (·.1)

def propertiesNote (properties : List (String × Json)) : List (String × Json) :=
  if properties.isEmpty then [] else [("properties", .obj properties)]

mutual

def toJson : Schema → Json
  | text notes => .obj (Notes.front notes ++ Notes.nullNote notes ++ typeNote "string")
  | flag notes => .obj (Notes.front notes ++ Notes.nullNote notes ++ typeNote "boolean")
  | int32 notes =>
      .obj (Notes.front notes ++ [("format", .str "int32")] ++ Notes.nullNote notes ++
        typeNote "integer")
  | list notes item =>
      .obj (Notes.front notes ++ [("items", toJson item)] ++ Notes.nullNote notes ++
        typeNote "array")
  | record notes fields =>
      .obj (Notes.front notes ++ Notes.nullNote notes ++ propertiesNote (properties fields) ++
        nonemptyList "required" ((requiredKeys fields).map .str) ++ typeNote "object")

def properties : List (String × Bool × Schema) → List (String × Json)
  | [] => []
  | (key, _, schema) :: fields => (key, toJson schema) :: properties fields

end

def field (key : String) (schema : Schema) : String × Bool × Schema :=
  (key, false, schema)

def needed (key : String) (schema : Schema) : String × Bool × Schema :=
  (key, true, schema)

end Schema

end ClusterOperator
