import SearchStore.Engine.Answer
import SearchStore.Json.Printer

/-! # Items of bulk writes

A bulk request is a text of lines. Each item is a line that names the action,
the index and the document, and a second line with a body unless the item
deletes.
-/

namespace SearchStore

inductive BulkAction where
  | index
  | update
  | delete
deriving DecidableEq, Repr

def BulkAction.name : BulkAction → String
  | .index => "index"
  | .update => "update"
  | .delete => "delete"

/-- Whether somebody wants to hear what becomes of an item. -/
structure Hooks where
  onSuccess : Bool := false
  onFailure : Bool := false
deriving DecidableEq, Repr

/-- A change to one document. -/
structure BulkItem where
  action : BulkAction
  index : String
  id : String
  body : Option Json
  hooks : Hooks := {}

namespace BulkItem

/-- Puts a document in the place of the stored one. -/
def put (index id : String) (document : Json) : BulkItem :=
  ⟨.index, index, id, some document, {}⟩

/-- Changes the stored document as a body says. -/
def update (index id : String) (body : Json) : BulkItem := ⟨.update, index, id, some body, {}⟩

/-- Merges members into the stored document. -/
def merge (index id : String) (doc : Json) : BulkItem := update index id (.obj [("doc", doc)])

/-- Merges members into the stored document, or stores them if there is
none. -/
def upsert (index id : String) (doc : Json) : BulkItem :=
  update index id (.obj [("doc", doc), ("doc_as_upsert", .bool true)])

/-- Deletes the stored document. -/
def delete (index id : String) : BulkItem := ⟨.delete, index, id, none, {}⟩

/-- The line that says what is to be done with which document. -/
def header (item : BulkItem) : Json :=
  .obj [(item.action.name, .obj [("_id", .str item.id), ("_index", .str item.index)])]

/-- The lines of an item, each with its line break. -/
def lines (item : BulkItem) : List Json := item.header :: item.body.toList

/-- The text of an item. -/
def encode (item : BulkItem) : String :=
  String.join (item.lines.map fun j => j.render ++ "\n")

end BulkItem

/-- Why an item failed. -/
inductive ItemFailure where
  /-- The engine refused it. -/
  | engine (type : String) (status : Nat) (reason : String)
  /-- The request failed, or the answer says nothing about the item. -/
  | request (reason : String)
deriving DecidableEq, Repr

namespace ItemFailure

def message : ItemFailure → String
  | .engine type status reason => type ++ " (" ++ toString status ++ "): " ++ reason
  | .request reason => reason

/-- The failure that a result reports. -/
def ofResult (r : ItemResult) : ItemFailure :=
  let noReason := "HTTP status " ++ toString r.status
  match r.error with
  | some cause => .engine cause.type r.status (cause.reason.getD noReason)
  | none => .engine "" r.status (r.result.getD noReason)

end ItemFailure

/-- What became of an item. -/
inductive ItemOutcome where
  | success (result : ItemResult)
  | failure (reason : ItemFailure)

namespace ItemOutcome

/-- The outcome of an item whose result the engine reports. An item succeeds
if no error is reported and its status is at most 201. -/
def ofResult (r : ItemResult) : ItemOutcome :=
  if r.error.isNone && r.status ≤ 201 then .success r else .failure (.ofResult r)

/-- The outcome of the item at some place of an answer. Of an entry with
several results the first counts. -/
def ofReported (entry : Option (List (String × ItemResult))) : ItemOutcome :=
  match entry.bind List.head? with
  | some (_, r) => .ofResult r
  | none => .failure (.request "bulk response is missing this item")

end ItemOutcome

end SearchStore
