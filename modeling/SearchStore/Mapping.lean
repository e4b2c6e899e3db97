import SearchStore.Json.Basic

/-! # Mappings

The types of the fields of a document, and the mapping that declares them to
the engine. Of several declarations of one field the last counts.
-/

namespace SearchStore

/-- The type of a field. A nested field holds documents of its own; an object
only groups fields. -/
inductive FieldType where
  | keyword
  | text
  | long
  | integer
  | short
  | double
  | boolean
  /-- A moment in milliseconds. -/
  | date
  | nested (fields : List (String × FieldType))
  | object (fields : List (String × FieldType))
deriving Inhabited

/-- The declaration of a field. -/
abbrev FieldMapping := String × FieldType

namespace FieldType

/-- The object that names a type. -/
def named (name : String) : Json := .obj [("type", .str name)]

mutual

/-- A type as the engine declares it. -/
def toJson : FieldType → Json
  | .keyword => named "keyword"
  | .text => named "text"
  | .long => named "long"
  | .integer => named "integer"
  | .short => named "short"
  | .double => named "double"
  | .boolean => named "boolean"
  | .date => .obj [("format", .str "epoch_millis"), ("type", .str "date")]
  | .nested fields =>
    .obj [("properties", .obj (Json.sortMembers (members fields))), ("type", .str "nested")]
  | .object fields => .obj [("properties", .obj (Json.sortMembers (members fields)))]

/-- Declarations as members. -/
def members : List (String × FieldType) → List (String × Json)
  | [] => []
  | (name, t) :: rest => (name, t.toJson) :: members rest

end

end FieldType

/-- The mapping that declares some fields. -/
def mappingBody (fields : List FieldMapping) : Json :=
  .obj [("properties", .obj (Json.sortMembers (FieldType.members fields)))]

end SearchStore
