import SearchStore.Error
import SearchStore.Index.Name
import SearchStore.Json.Printer

/-! # Entities

An entity is a value that is stored as a document. A schema says how: the
table it belongs to, its id and its key within the table, and its JSON. Not
every entity can be written, and not every document can be read.
-/

namespace SearchStore

/-- How entities of a type are stored. -/
structure Schema (ε : Type) where
  /-- The template of the names of indices. -/
  table : String
  fields : List FieldMapping := []
  id : ε → String
  /-- The key that fills the table in; entities of one key share an index. -/
  key : ε → String
  encode? : ε → Option Json
  decode? : Json → Option ε

namespace Schema

variable {ε : Type}

def encode (s : Schema ε) (e : ε) : Except Error Json :=
  match s.encode? e with
  | some j => .ok j
  | none => .error .json

def decode (s : Schema ε) (j : Json) : Except Error ε :=
  match s.decode? j with
  | some e => .ok e
  | none => .error .json

/-- The index into which entities of a key are written. -/
def index (s : Schema ε) (key : String) (today : Date) : String := Index.name s.table key today

/-- The pattern of the indices in which entities of a key are found. -/
def pattern (s : Schema ε) (key : String) : String := Index.pattern s.table key

/-- The members of an object with other members put in their place. -/
def overwrite (members : List (String × Json)) (fields : List (String × Json)) :
    List (String × Json) :=
  fields.foldl (fun ms f => Json.insertMember f.1 f.2 ms) members

/-- The entity with members of its document overwritten. -/
def merge (s : Schema ε) (e : ε) (fields : List (String × Json)) : Except Error ε := do
  match ← s.encode e with
  | .obj members => s.decode (.obj (overwrite members fields))
  | j => .error (.conversion "_source" j.render)

end Schema

end SearchStore
