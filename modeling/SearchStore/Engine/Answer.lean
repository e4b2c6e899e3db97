import SearchStore.Error
import SearchStore.Json.Draft
import SearchStore.Result.Aggregate
import SearchStore.Text.Blank
import SearchStore.Text.Utf8

/-! # Answers of the engine

The records that the engine sends, and their JSON. Where the engine may leave
a member out there is a default. The members of a record must not be repeated,
those of a free document may be. Records are read from drafts: what the engine
says beyond the members of a record need not be readable.
-/

namespace SearchStore

open Json (Draft required withDefault)

/-! ## Searches -/

/-- How many documents match. -/
structure TotalHits where
  value : Nat
  relation : String

/-- A document that matches, and where it is stored. -/
structure Hit where
  index : String
  id : String
  source : Json

structure Hits where
  total : Option TotalHits := none
  hits : List Hit := []

/-- The answer to a search. -/
structure SearchAnswer where
  took : Nat := 0
  timedOut : Bool := false
  hits : Hits := {}
  aggregations : Option (List (String × Json)) := none

namespace TotalHits

def decode? (d : Draft) : Option TotalHits := do
  let ms ← d.asRecord? ["value", "relation"]
  return {
    value := ← required "value" Draft.asCount? ms
    relation := ← withDefault "relation" "" Draft.asString? ms }

def encode (t : TotalHits) : Json :=
  .obj [("value", Json.ofNat t.value), ("relation", .str t.relation)]

end TotalHits

namespace Hit

def decode? (d : Draft) : Option Hit := do
  let ms ← d.asRecord? ["_index", "_id", "_source"]
  return {
    index := ← required "_index" Draft.asString? ms
    id := ← required "_id" Draft.asString? ms
    source := (← withDefault "_source" .null Draft.toJson? ms).canonical }

def encode (h : Hit) : Json :=
  .obj [("_index", .str h.index), ("_id", .str h.id), ("_source", h.source)]

end Hit

namespace Hits

def decode? (d : Draft) : Option Hits := do
  let ms ← d.asRecord? ["total", "hits"]
  return {
    total := ← Draft.optional "total" TotalHits.decode? ms
    hits := ← withDefault "hits" [] (Draft.asList? Hit.decode?) ms }

def encode (h : Hits) : Json :=
  .obj (Json.optionalMember "total" (h.total.map TotalHits.encode)
    ++ [("hits", .arr (h.hits.map Hit.encode))])

end Hits

namespace SearchAnswer

def decode? (d : Draft) : Option SearchAnswer := do
  let ms ← d.asRecord? ["took", "timed_out", "hits", "aggregations"]
  let free := Draft.whole? fun j => j.canonical.asMembers?
  return {
    took := ← withDefault "took" 0 Draft.asCount? ms
    timedOut := ← withDefault "timed_out" false Draft.asBool? ms
    hits := ← withDefault "hits" {} Hits.decode? ms
    aggregations := ← Draft.optional "aggregations" free ms }

def encode (a : SearchAnswer) : Json :=
  .obj ([("took", Json.ofNat a.took), ("timed_out", .bool a.timedOut), ("hits", a.hits.encode)]
    ++ Json.optionalMember "aggregations" (a.aggregations.map .obj))

/-- How many documents match, zero if the answer does not say. -/
def totalHits (a : SearchAnswer) : Nat := (a.hits.total.map TotalHits.value).getD 0

/-- The aggregates of the answer. -/
def aggregates (a : SearchAnswer) : Except Error Aggregates :=
  Aggregate.ofMembers (a.aggregations.getD [])

end SearchAnswer

/-- The answer to a count. -/
structure CountAnswer where
  count : Nat

namespace CountAnswer

def decode? (d : Draft) : Option CountAnswer := do
  return { count := ← required "count" Draft.asCount? (← d.asRecord? ["count"]) }

def encode (a : CountAnswer) : Json := .obj [("count", Json.ofNat a.count)]

end CountAnswer

/-! ## Errors -/

/-- Why the engine refuses a request. -/
inductive ErrorCause where
  | mk (type : String) (reason : Option String) (rootCauses : List ErrorCause)
deriving Inhabited

namespace ErrorCause

def type : ErrorCause → String
  | .mk type _ _ => type

def reason : ErrorCause → Option String
  | .mk _ reason _ => reason

def rootCauses : ErrorCause → List ErrorCause
  | .mk _ _ causes => causes

/-- The members that hold no further causes. -/
def texts? (ms : List (String × Draft)) : Option (String × Option String) := do
  let type ← withDefault "type" "" Draft.asString? ms
  let reason ← Draft.optional "reason" Draft.asString? ms
  return (type, reason)

mutual

def decode? : Draft → Option ErrorCause
  | .obj members =>
    match (Draft.named? members).bind texts?, rootMember? members with
    | some (type, reason), some causes => some (.mk type reason (causes.getD []))
    | _, _ => none
  | .arr items =>
    match texts? (["type", "reason"].zip items), rootItem? items with
    | some (type, reason), some causes => some (.mk type reason causes)
    | _, _ => none
  | _ => none

/-- The root causes, if a member holds them. -/
def rootMember? : List (Option String × Draft) → Option (Option (List ErrorCause))
  | [] => some none
  | (name, d) :: rest =>
    match rootMember? rest with
    | none => none
    | some found =>
      if name = some "root_cause" then
        if found.isSome then none else (decodeItems? d).map some
      else some found

/-- The root causes of a cause that is written as an array: its third item. -/
def rootItem? : List Draft → Option (List ErrorCause)
  | [_, _, d] => decodeItems? d
  | _ :: _ :: _ :: _ => none
  | _ => some []

def decodeItems? : Draft → Option (List ErrorCause)
  | .arr items => decodeList? items
  | _ => none

def decodeList? : List Draft → Option (List ErrorCause)
  | [] => some []
  | d :: rest =>
    match decode? d, decodeList? rest with
    | some c, some cs => some (c :: cs)
    | _, _ => none

end

mutual

def encode : ErrorCause → Json
  | .mk type reason causes =>
    .obj (("type", .str type)
      :: (Json.optionalMember "reason" (reason.map .str)
        ++ Json.listMember "root_cause" (encodeList causes)))

def encodeList : List ErrorCause → List Json
  | [] => []
  | c :: rest => c.encode :: encodeList rest

end

end ErrorCause

/-- What an error answer says: a cause, or only a message. -/
inductive ErrorBody where
  | cause (c : ErrorCause)
  | message (s : String)

/-- The answer to a request that the engine refuses. -/
structure ErrorAnswer where
  error : ErrorBody
  status : Nat := 0

namespace ErrorAnswer

/-- What is said about the error. Which of the two forms it has is seen only
from the whole, so here every part must be readable. -/
def decodeBody? (d : Draft) : Option ErrorBody :=
  match d.toJson? with
  | some (.str s) => some (.message s)
  | some _ => (ErrorCause.decode? d).map .cause
  | none => none

def decode? (d : Draft) : Option ErrorAnswer := do
  let ms ← d.asRecord? ["error", "status"]
  return {
    error := ← required "error" decodeBody? ms
    status := ← withDefault "status" 0 (Draft.asBelow? UInt16.size) ms }

def encode (a : ErrorAnswer) : Json :=
  let error := match a.error with
    | .cause c => c.encode
    | .message s => .str s
  .obj [("error", error), ("status", Json.ofNat a.status)]

/-- The reason of the error: that of the first root cause that has one, or
else that of the cause itself. -/
def reason? (a : ErrorAnswer) : Option String :=
  match a.error with
  | .message s => some s
  | .cause c => (c.rootCauses.findSome? ErrorCause.reason).or c.reason

end ErrorAnswer

/-! ## Bulk writes -/

/-- What became of one item of a bulk write. -/
structure ItemResult where
  index : String := ""
  id : String := ""
  status : Nat := 0
  result : Option String := none
  error : Option ErrorCause := none

namespace ItemResult

def decode? (d : Draft) : Option ItemResult := do
  let ms ← d.asRecord? ["_index", "_id", "status", "result", "error"]
  return {
    index := ← withDefault "_index" "" Draft.asString? ms
    id := ← withDefault "_id" "" Draft.asString? ms
    status := ← withDefault "status" 0 (Draft.asBelow? UInt16.size) ms
    result := ← Draft.optional "result" Draft.asString? ms
    error := ← Draft.optional "error" ErrorCause.decode? ms }

def encode (r : ItemResult) : Json :=
  .obj ([("_index", .str r.index), ("_id", .str r.id), ("status", Json.ofNat r.status)]
    ++ Json.optionalMember "result" (r.result.map .str)
    ++ Json.optionalMember "error" (r.error.map ErrorCause.encode))

end ItemResult

/-- The answer to a bulk write: for each item an object whose one member has
the name of the action. -/
structure BulkAnswer where
  took : Nat := 0
  errors : Bool := false
  items : List (List (String × ItemResult)) := []

namespace BulkAnswer

def decode? (d : Draft) : Option BulkAnswer := do
  let ms ← d.asRecord? ["took", "errors", "items"]
  return {
    took := ← withDefault "took" 0 Draft.asCount? ms
    errors := ← withDefault "errors" false Draft.asBool? ms
    items := ← withDefault "items" [] (Draft.asList? (Draft.asMap? ItemResult.decode?)) ms }

def encode (a : BulkAnswer) : Json :=
  let item (results : List (String × ItemResult)) : Json :=
    .obj (results.map fun (action, r) => (action, r.encode))
  .obj [("took", Json.ofNat a.took), ("errors", .bool a.errors), ("items", .arr (a.items.map item))]

end BulkAnswer

/-! ## Indices -/

/-- A line of the list of indices. -/
structure CatIndex where
  index : String
  health : Option String
  status : Option String
  docCount : Option String

namespace CatIndex

def decode? (d : Draft) : Option CatIndex := do
  let ms ← d.asRecord? ["index", "health", "status", "docs.count"]
  return {
    index := ← required "index" Draft.asString? ms
    health := ← Draft.optional "health" Draft.asString? ms
    status := ← Draft.optional "status" Draft.asString? ms
    docCount := ← Draft.optional "docs.count" Draft.asString? ms }

/-- A string, or `null` for none. -/
def nullableString (s : Option String) : Json := (s.map Json.str).getD .null

def encode (c : CatIndex) : Json :=
  .obj [("index", .str c.index), ("health", nullableString c.health),
    ("status", nullableString c.status), ("docs.count", nullableString c.docCount)]

end CatIndex

end SearchStore
