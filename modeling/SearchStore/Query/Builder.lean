import SearchStore.Result.Series
import SearchStore.Store.Bulk

/-! # Building and running queries

A query builder collects filters, an order and a page, and is then run: to
count, to find, to change what it finds, or to aggregate. It remembers the
text of the last request it has sent.
-/

namespace SearchStore

/-- A query on the entities of a table. -/
structure QueryBuilder (ε : Type) where
  /-- Filters that must all hold. -/
  all : List Filter := []
  /-- Filters of which one must hold. -/
  any : List Filter := []
  ascending : List String := []
  descending : List String := []
  /-- What is done to each entity that is found; it can drop the entity. -/
  callbacks : List (ε → Option ε) := []
  range : Option RangeFilter := none
  page : Nat := 0
  limit : Nat
  key : String := ""

/-- A session of a query builder, which can fail and remembers the text of the
last request. -/
abbrev QueryAction := ExceptT Error (StateT (Option String) Session)

namespace QueryAction

/-- A session of the store as one of a query builder. -/
def ofAction {α : Type} (a : Action α) : QueryAction α := ExceptT.mk (StateT.lift a.run)

def remember (text : String) : QueryAction Unit := set (some text)

end QueryAction

namespace QueryBuilder

variable {ε : Type}

/-- A query without conditions. -/
def start (config : StoreConfig) : QueryBuilder ε := { limit := config.defaultLimit }

/-! ## Conditions, order and page -/

/-- All of the active ones of some filters must hold. -/
def matchAll (b : QueryBuilder ε) (filters : List Filter) : QueryBuilder ε :=
  { b with all := b.all ++ filters.filter Filter.active }

/-- A filter must hold, if it is active. -/
def filter (b : QueryBuilder ε) (f : Filter) : QueryBuilder ε := b.matchAll [f]

/-- One of the active ones of some filters must hold, or one of those of
earlier calls. -/
def matchAny (b : QueryBuilder ε) (filters : List Filter) : QueryBuilder ε :=
  { b with any := b.any ++ filters.filter Filter.active }

/-- A field must lie between two moments. The last range counts. -/
def withRange (b : QueryBuilder ε) (r : RangeFilter) : QueryBuilder ε := { b with range := some r }

/-- The characters before a last one, if that is the last one. -/
def dropLast? (last : Char) (cs : List Char) : Option (List Char) :=
  match cs.reverse with
  | c :: rest => if c = last then some rest.reverse else none
  | [] => none

/-- Orders the hits by a field: `field` or `field+` upwards, `field-`
downwards. Without a field nothing changes. -/
def sort (b : QueryBuilder ε) (order : String) : QueryBuilder ε :=
  match dropLast? '-' order.toList with
  | some [] => b
  | some field => { b with descending := b.descending ++ [String.ofList field] }
  | none =>
    match (dropLast? '+' order.toList).getD order.toList with
    | [] => b
    | field => { b with ascending := b.ascending ++ [String.ofList field] }

def withLimit (b : QueryBuilder ε) (limit : Nat) : QueryBuilder ε := { b with limit }

/-- Pages count from zero. -/
def withPage (b : QueryBuilder ε) (page : Nat) : QueryBuilder ε := { b with page }

/-- Only the indices for a key are searched. -/
def withKey (b : QueryBuilder ε) (key : String) : QueryBuilder ε := { b with key }

def apply (b : QueryBuilder ε) (callback : ε → Option ε) : QueryBuilder ε :=
  { b with callbacks := b.callbacks ++ [callback] }

/-! ## Compiling -/

/-- What the filters select. -/
def selection (config : StoreConfig) (b : QueryBuilder ε) : Selection :=
  .ofFilters config.likePolarity b.all b.any b.range

/-- Fields upwards come before fields downwards. -/
def sortClauses (b : QueryBuilder ε) : List SortClause :=
  b.ascending.map (fun field => [(field, .asc)]) ++ b.descending.map fun field => [(field, .desc)]

/-- The number of hits before the page. -/
def offset (b : QueryBuilder ε) : Nat := min (b.page * b.limit) (UInt64.size - 1)

/-- The request for a page of hits. -/
def compile (config : StoreConfig) (b : QueryBuilder ε) : SearchRequest :=
  { query := some (b.selection config).toQuery
    sort := b.sortClauses
    start := some b.offset
    size := some b.limit }

/-- Reports the filters that are left out of the query. -/
def reportDropped (config : StoreConfig) (b : QueryBuilder ε) : QueryAction Unit :=
  (b.selection config).metrics.forM fun m => QueryAction.ofAction (Action.tell (.metric m))

/-- The request for a page of hits, after reporting what is left out. -/
def compiled (config : StoreConfig) (b : QueryBuilder ε) : QueryAction SearchRequest := do
  b.reportDropped config
  return b.compile config

/-- The query, after reporting what is left out. -/
def query (config : StoreConfig) (b : QueryBuilder ε) : QueryAction Query := do
  b.reportDropped config
  return (b.selection config).toQuery

/-- The pattern of the indices that are searched. -/
def pattern (schema : Schema ε) (b : QueryBuilder ε) : String := schema.pattern b.key

/-! ## Finding -/

/-- How many documents match. -/
def count (s : Store) (schema : Schema ε) (b : QueryBuilder ε) : QueryAction Nat := do
  let request : CountRequest := { query := some (← b.query s.config) }
  QueryAction.remember request.text
  QueryAction.ofAction (Store.count (b.pattern schema) request)

/-- Carries out the callbacks on an entity, as long as none drops it. -/
def process (b : QueryBuilder ε) (e : ε) : Option ε :=
  b.callbacks.foldlM (fun e callback => callback e) e

/-- The entities of hits that can be read and are not dropped. -/
def decodeHits (schema : Schema ε) (b : QueryBuilder ε) (hits : List Hit) : List ε :=
  hits.filterMap fun hit => (schema.decode? hit.source).bind b.process

/-- The entities of the page, and how many documents match in all. -/
def find (s : Store) (schema : Schema ε) (b : QueryBuilder ε) : QueryAction (List ε × Nat) := do
  let total ← b.count s schema
  let request ← b.compiled s.config
  QueryAction.remember request.text
  let answer ← QueryAction.ofAction (Store.search (b.pattern schema) request)
  return (b.decodeHits schema answer.hits.hits, total)

/-- The entities with some ids. Filters play no part. -/
def list (schema : Schema ε) (b : QueryBuilder ε) (ids : List String) : QueryAction (List ε) := do
  let entities ← QueryAction.ofAction (Store.list schema ids b.key)
  return entities.filterMap b.process

/-- The members of an entity's document that have one of some names, or all
without names. -/
def selectFields (schema : Schema ε) (fields : List String) (e : ε) :
    Except Error (List (String × Json)) := do
  match ← schema.encode e with
  | .obj members =>
    return if fields.isEmpty then members else members.filter fun m => fields.contains m.1
  | _ => return []

/-- Some members of the documents of the page. -/
def select (s : Store) (schema : Schema ε) (b : QueryBuilder ε) (fields : List String) :
    QueryAction (List (List (String × Json))) := do
  let (entities, _) ← b.find s schema
  match entities.mapM (selectFields schema fields) with
  | .ok selected => return selected
  | .error e => throw e

/-- The first entity of the page. -/
def findSingle (s : Store) (schema : Schema ε) (b : QueryBuilder ε) : QueryAction ε := do
  match (← b.find s schema).1 with
  | e :: _ => return e
  | [] => throw (.notFound ("no " ++ b.pattern schema ++ " matches the query"))

/-- The entities of the page by id. -/
def getMap (s : Store) (schema : Schema ε) (b : QueryBuilder ε) :
    QueryAction (List (String × ε)) := do
  let (entities, _) ← b.find s schema
  return Json.sortMembers (entities.map fun e => (schema.id e, e))

/-- The ids of the entities of the page. -/
def getIds (s : Store) (schema : Schema ε) (b : QueryBuilder ε) : QueryAction (List String) := do
  let (entities, _) ← b.find s schema
  return entities.map schema.id

/-! ## Changing -/

/-- Deletes the entities of the page. -/
def delete (s : Store) (schema : Schema ε) (b : QueryBuilder ε) : QueryAction BulkReport := do
  let ids ← b.getIds s schema
  QueryAction.ofAction (s.bulkDelete schema ids b.key)

/-- Overwrites members of the entities of the page. Entities for which that
is impossible are passed over. -/
def setFields (s : Store) (schema : Schema ε) (b : QueryBuilder ε)
    (fields : List (String × Json)) : QueryAction BulkReport := do
  let (entities, _) ← b.find s schema
  let changed := entities.filterMap fun e => (schema.merge e fields).toOption
  QueryAction.ofAction (s.bulkUpdate schema changed)

def setField (s : Store) (schema : Schema ε) (b : QueryBuilder ε) (field : String)
    (value : Json) : QueryAction BulkReport :=
  b.setFields s schema [(field, value)]

/-! ## Aggregating -/

/-- The aggregate that answers a plan, if the engine gives one. -/
def aggregate (s : Store) (schema : Schema ε) (b : QueryBuilder ε) (plan : AggregationPlan) :
    QueryAction (Option Aggregate) := do
  let request := plan.toRequest (← b.query s.config)
  QueryAction.remember request.text
  let answer ← QueryAction.ofAction (Store.search (b.pattern schema) request)
  let aggregates ← liftExcept answer.aggregates
  return Json.lookup plan.name aggregates
where
  liftExcept {α : Type} (r : Except Error α) : QueryAction α := ExceptT.mk (pure r)

/-- The result that `decode` gives of an aggregate, or a default if there is
none. -/
def decoded {α : Type} (default : α) (decode : Aggregate → Except Error α) (a : Option Aggregate) :
    QueryAction α :=
  match a with
  | none => return default
  | some a => ExceptT.mk (pure (decode a))

/-- One value over all documents that match. -/
def aggregation (s : Store) (schema : Schema ε) (b : QueryBuilder ε) (field : String)
    (f : AggregationFunction) : QueryAction Double := do
  decoded .zero Aggregate.scalar (← b.aggregate s schema (.scalar field f))

/-- A value of one field for each group of another. -/
def groupAggregationBy (s : Store) (schema : Schema ε) (b : QueryBuilder ε)
    (group field : String) (f : AggregationFunction) : QueryAction Groups := do
  decoded {} Aggregate.grouped (← b.aggregate s schema (.grouped b.limit group field f))

/-- A value of a field for each group of the same field. -/
def groupAggregation (s : Store) (schema : Schema ε) (b : QueryBuilder ε) (field : String)
    (f : AggregationFunction) : QueryAction Groups :=
  b.groupAggregationBy s schema field field f

/-- The number of documents for each value of a field, and the sum. -/
def groupCount (s : Store) (schema : Schema ε) (b : QueryBuilder ε) (field : String) :
    QueryAction (List (GroupKey × Int) × Int) := do
  let groups ← b.groupAggregation s schema field .count
  return (groups.counts, groups.total.truncate)

/-- A value of a field for each interval. -/
def histogram (s : Store) (schema : Schema ε) (b : QueryBuilder ε) (field : String)
    (f : AggregationFunction) (time : String) (interval : Duration) : QueryAction Series := do
  decoded {} Aggregate.histogram
    (← b.aggregate s schema (.histogram b.limit field f time interval))

/-- A value of a field for each interval and each group of another field. -/
def histogram2d (s : Store) (schema : Schema ε) (b : QueryBuilder ε) (field : String)
    (f : AggregationFunction) (dimension time : String) (interval : Duration) :
    QueryAction GroupedSeries := do
  decoded {} (fun a => a.histogram2d f.name)
    (← b.aggregate s schema (.histogram2d b.limit field f dimension time interval))

end QueryBuilder

end SearchStore
