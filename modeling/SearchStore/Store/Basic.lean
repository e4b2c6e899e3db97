import SearchStore.Config.Basic
import SearchStore.Engine.Session
import SearchStore.Index.Wildcard
import SearchStore.Query.Request
import SearchStore.Store.Schema
import SearchStore.Text.Quoted

/-! # Stores

Documents are written into the index that the table names for the day, and
read by a search for their ids over all indices of the table, since the day of
writing is not known. A change to a document goes to the index in which the
search has found it.
-/

namespace SearchStore

/-- A store, which knows the day on which it works. -/
structure Store where
  config : StoreConfig := {}
  today : Date

namespace Store

variable {ε : Type}

/-- The most documents that one search by id asks for. -/
def listLimit : Nat := 10000

/-- The list in pieces of at most `size` items. -/
def chunks {α : Type} (size : Nat) : List α → List (List α)
  | [] => []
  | x :: rest => (x :: rest.take (size - 1)) :: chunks size (rest.drop (size - 1))
termination_by xs => xs.length
decreasing_by
  simp only [List.length_drop, List.length_cons]
  omega

/-- The name of a store among messages. -/
def describe (s : Store) : String :=
  "ElasticStore \x7b hosts: [" ++ String.intercalate ", " (s.config.hosts.map Text.quoted)
    ++ "] \x7d"

/-! ## Searching -/

/-- A request that posts a body to an endpoint of some indices, whichever of
them exist. -/
def searchRequest (pattern endpoint operation : String) (parameters : List (String × String))
    (body : Json) : Request :=
  { method := .post
    path := pathOf [pattern, endpoint]
    operation
    parameters := parameters ++ [("expand_wildcards", "all"), ("allow_no_indices", "true")]
    body := some (.json body) }

/-- The answer to a search over a pattern of indices. -/
def search (pattern : String) (r : SearchRequest) : Action SearchAnswer := do
  let response ← Action.sendChecked
    (searchRequest pattern "_search" "search" [("typed_keys", "true")] r.toJson)
  response.read SearchAnswer.decode?

/-- How many documents of a pattern of indices match. -/
def count (pattern : String) (r : CountRequest) : Action Nat := do
  let response ← Action.sendChecked (searchRequest pattern "_count" "count" [] r.toJson)
  return (← response.read CountAnswer.decode?).count

/-- The search for documents by id. -/
def idsRequest (ids : List String) : SearchRequest :=
  { query := some (.ids ids), size := some (min ids.length listLimit) }

/-- The documents with some ids. Without ids nothing is sent. -/
def hitsById (pattern : String) (ids : List String) : Action (List Hit) := do
  if ids.isEmpty then return []
  else return (← search pattern (idsRequest ids)).hits.hits

/-- The documents with ids in several pieces, one search for each piece. -/
def hitsByChunks (pattern : String) : List (List String) → Action (List Hit)
  | [] => return []
  | ids :: rest => do
    let hits ← hitsById pattern ids
    return hits ++ (← hitsByChunks pattern rest)

/-- The documents with any number of ids. -/
def allHitsById (pattern : String) (ids : List String) : Action (List Hit) :=
  hitsByChunks pattern (chunks listLimit ids)

/-- The first document with an id. -/
def findHit (pattern id : String) : Action Hit := do
  match ← hitsById pattern [id] with
  | hit :: _ => return hit
  | [] => throw (.notFound (id ++ " in " ++ pattern))

/-! ## Single documents -/

def get (schema : Schema ε) (id key : String) : Action ε := do
  let hit ← findHit (schema.pattern key) id
  schema.decode hit.source

/-- The entities with some ids. Documents that cannot be read are passed
over. -/
def list (schema : Schema ε) (ids : List String) (key : String) : Action (List ε) := do
  let hits ← allHitsById (schema.pattern key) ids
  return hits.filterMap fun hit => schema.decode? hit.source

/-- A value in the place of an error that says that something does not
exist. -/
def ifNotFound {α : Type} (default : α) (a : Action α) : Action α :=
  tryCatch a fun e => if e.isNotFound then pure default else throw e

/-- Whether a document with an id is stored. -/
def contains (schema : Schema ε) (id key : String) : Action Bool :=
  ifNotFound false do
    let _ ← findHit (schema.pattern key) id
    return true

/-- Writes a document into an index. -/
def putDocument (schema : Schema ε) (index : String) (e : ε) : Action Unit := do
  let body ← schema.encode e
  let _ ← Action.sendChecked
    { method := .put
      path := pathOf [index, "_doc", schema.id e]
      operation := "index"
      body := some (.json body) }

/-- Writes an entity into the index of the day. -/
def insert (s : Store) (schema : Schema ε) (e : ε) : Action Unit :=
  putDocument schema (schema.index (schema.key e) s.today) e

/-- The index in which an entity is stored. -/
def indexOf (schema : Schema ε) (e : ε) : Action String :=
  return (← findHit (schema.pattern (schema.key e)) (schema.id e)).index

/-- Writes an entity in the place of the stored one. -/
def update (schema : Schema ε) (e : ε) : Action Unit := do
  putDocument schema (← indexOf schema e) e

/-- Writes an entity in the place of the stored one, or into the index of the
day if none is stored. -/
def upsert (s : Store) (schema : Schema ε) (e : ε) : Action Unit := do
  let index ← ifNotFound (schema.index (schema.key e) s.today) (indexOf schema e)
  putDocument schema index e

/-- Deletes the document with an id from the index in which it is stored. -/
def delete (schema : Schema ε) (id key : String) : Action Unit := do
  let hit ← findHit (schema.pattern key) id
  let _ ← Action.sendChecked
    { method := .delete, path := pathOf [hit.index, "_doc", id], operation := "delete" }

/-- Overwrites members of the entity with an id, and writes it back into the
index in which it is stored. -/
def setFields (schema : Schema ε) (id : String) (fields : List (String × Json)) (key : String) :
    Action Unit := do
  let hit ← findHit (schema.pattern key) id
  let e ← schema.decode hit.source
  let changed ← schema.merge e fields
  putDocument schema hit.index changed

def setField (schema : Schema ε) (id field : String) (value : Json) (key : String) : Action Unit :=
  setFields schema id [(field, value)] key

/-! ## Indices -/

def indexExists (name : String) : Action Bool := do
  let response ← Action.send
    { method := .head, path := pathOf [name], operation := "index_exists" }
  if response.status = 404 then return false
  else
    let _ ← response.checked
    return true

/-- Creates an index and gives the name that the engine has given it. -/
def createIndex (name : String) : Action String := do
  let response ← Action.sendChecked
    { method := .put, path := pathOf [name], operation := "create_index" }
  let body ← response.json
  return ((body.get? "index").bind Json.asString?).getD name

/-- Declares the index template of a table, and creates the index of the day
for a key. -/
def createEntityIndex (s : Store) (schema : Schema ε) (key : String) : Action String := do
  let _ ← Action.sendChecked
    { method := .put
      path := pathOf ["_index_template", Index.templateName schema.table]
      operation := "put_index_template"
      body := some (.json (Index.template schema.table schema.fields)) }
  createIndex (schema.index key s.today)

/-- A count as the engine writes it in lists; anything else counts as zero. -/
def countOfText (s : String) : Nat :=
  let digits := match s.toList with
    | '+' :: rest => rest
    | cs => cs
  match Numeral.takeDigits digits with
  | ([], _) | (_, _ :: _) => 0
  | (ds, []) =>
    let n := Numeral.digitsValue ds
    if n < UInt64.size then n else 0

/-- The number of documents of each index that matches a pattern. -/
def listIndices (pattern : String) : Action (List (String × Nat)) := do
  let response ← Action.sendChecked
    { method := .get
      path := "/_cat/indices"
      operation := "list_indices"
      parameters := [("format", "json")] }
  let lines ← response.read (Json.Draft.asList? CatIndex.decode?)
  let matching := lines.filter fun line => Wildcard.isMatch line.index pattern
  return Json.sortMembers (matching.map fun line =>
    (line.index, countOfText (line.docCount.getD "")))

/-- Deletes an index, and says whether the engine has done so. -/
def dropIndex (name : String) : Action Bool := do
  let response ← Action.send
    { method := .delete, path := pathOf [name], operation := "drop_index" }
  return response.isSuccess

/-! ## The engine itself -/

/-- Sends a search as it is given, and gives the aggregations of the answer
as they are. -/
def executeQuery (dsl : String) : Action (List (String × Json)) := do
  match Json.parse? dsl with
  | none => throw .json
  | some body =>
    let response ← Action.sendChecked
      { method := .post
        path := "/_search"
        operation := "execute_query"
        body := some (.json body) }
    return (← response.read SearchAnswer.decode?).aggregations.getD []

/-- The most attempts to reach the engine. -/
def maxAttempts : Nat := 10

/-- The longest wait between two attempts, in milliseconds. -/
def maxWait : Nat := 60000

/-- One attempt to reach the engine. -/
def reach : Session Bool := do
  match ← Session.request { method := .head, path := "/", operation := "ping" } with
  | .ok response => return response.isSuccess
  | .error _ => return false

/-- Attempts to reach the engine, with waits between them; `more` attempts may
follow the first one. -/
def attempt (wait : Nat) : Nat → Session Bool
  | 0 => reach
  | more + 1 => do
    if ← reach then return true
    Session.pause wait
    attempt wait more

/-- Tries to reach the engine. -/
def ping (retries wait : Nat) : Action Unit := do
  let attempts := max 1 (min retries maxAttempts)
  if ← ExceptT.lift (attempt (min wait maxWait) (attempts - 1)) then return ()
  else throw (.transport
    ("could not establish a connection after " ++ toString attempts ++ " attempts"))

end Store

end SearchStore
