import SearchStore.Bulk.Indexer
import SearchStore.Store.Basic

/-! # Bulk writes of a store

Many documents are changed by one indexer, which is closed at the end. Where
the documents are stored is looked up before anything is written.
-/

namespace SearchStore.Store

variable {ε : Type}

/-- Queues items, and lets the worker take them. -/
def feed : List BulkItem → Indexer → Session Indexer
  | [], ix => .done ix
  | item :: rest, ix =>
    match ix.add item with
    | .error _ => .done ix
    | .ok ix => do feed rest (← ix.drain)

/-- Sends items with an indexer of their own. Items that fail are counted; a
request that fails makes the whole fail, with the counts. -/
def runBulk (s : Store) (items : List BulkItem) : Action BulkReport := do
  let ix ← ExceptT.lift (feed items (.start s.config.bulk))
  let (result, ix) ← ExceptT.lift ix.close
  match result with
  | .ok stats => return .ofStats stats
  | .error e => throw (.bulkFlush ix.stats.flushed ix.stats.failed e.message)

/-! ## Looking up -/

/-- Where documents are stored: the index for each id. -/
abbrev Locations := List (String × String)

/-- The locations with those of some documents. The last document with an id
counts. -/
def Locations.add (located : Locations) (hits : List Hit) : Locations :=
  hits.foldl (fun located hit => Json.insertMember hit.id hit.index located) located

/-- Where the documents with some ids are stored. -/
def locate (pattern : String) (ids : List String) : Action Locations :=
  return Locations.add [] (← allHitsById pattern ids)

/-- The ids of entities for each key, the keys in the order in which they
first occur. -/
def addToKey (key id : String) : List (String × List String) → List (String × List String)
  | [] => [(key, [id])]
  | (k, ids) :: rest =>
    if k = key then (k, ids ++ [id]) :: rest else (k, ids) :: addToKey key id rest

/-- The ids of entities by key. -/
def idsByKey (schema : Schema ε) (entities : List ε) : List (String × List String) :=
  entities.foldl (fun groups e => addToKey (schema.key e) (schema.id e) groups) []

/-- Adds where the entities of some keys are stored. -/
def locateKeys (schema : Schema ε) : List (String × List String) → Locations → Action Locations
  | [], located => return located
  | (key, ids) :: rest, located => do
    let hits ← allHitsById (schema.pattern key) ids
    locateKeys schema rest (located.add hits)

/-- Where entities are stored. One search for each key finds them; the
locations of all keys are kept together by id. -/
def locateEntities (schema : Schema ε) (entities : List ε) : Action Locations :=
  locateKeys schema (idsByKey schema entities) []

/-- The entities that can be written, with their documents. -/
def documents (schema : Schema ε) (entities : List ε) : List (ε × Json) :=
  entities.filterMap fun e => (schema.encode? e).map (e, ·)

/-! ## Writing -/

/-- Writes entities into the indices of the day. -/
def bulkInsert (s : Store) (schema : Schema ε) (entities : List ε) : Action BulkReport :=
  s.runBulk <| (documents schema entities).map fun (e, doc) =>
    .put (schema.index (schema.key e) s.today) (schema.id e) doc

/-- The index of an entity among locations, or else the index of the day. -/
def indexAmong (s : Store) (schema : Schema ε) (located : Locations) (id key : String) : String :=
  (Json.lookup id located).getD (schema.index key s.today)

/-- Merges entities into the stored ones. -/
def bulkUpdate (s : Store) (schema : Schema ε) (entities : List ε) : Action BulkReport := do
  let located ← locateEntities schema entities
  s.runBulk <| (documents schema entities).map fun (e, doc) =>
    .merge (s.indexAmong schema located (schema.id e) (schema.key e)) (schema.id e) doc

/-- Merges entities into the stored ones, or stores them. -/
def bulkUpsert (s : Store) (schema : Schema ε) (entities : List ε) : Action BulkReport := do
  let located ← locateEntities schema entities
  s.runBulk <| (documents schema entities).map fun (e, doc) =>
    .upsert (s.indexAmong schema located (schema.id e) (schema.key e)) (schema.id e) doc

/-- Deletes the documents with some ids. -/
def bulkDelete (s : Store) (schema : Schema ε) (ids : List String) (key : String) :
    Action BulkReport := do
  let located ← locate (schema.pattern key) ids
  s.runBulk <| ids.map fun id => .delete (s.indexAmong schema located id key) id

/-- Sets a field of documents to a value for each id. -/
def bulkSetFields (s : Store) (schema : Schema ε) (field : String) (values : List (String × Json))
    (key : String) : Action BulkReport := do
  let located ← locate (schema.pattern key) (values.map Prod.fst)
  s.runBulk <| values.map fun (id, value) =>
    .merge (s.indexAmong schema located id key) id (.obj [(field, value)])

end SearchStore.Store
