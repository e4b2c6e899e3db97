import SearchStore.Aggregation.Plan
import SearchStore.Aggregation.Wire
import SearchStore.Query.Wire

/-! # Search requests

The bodies of searches and of counts.
-/

namespace SearchStore

/-- The body of a search. -/
structure SearchRequest where
  query : Option Query := none
  sort : List SortClause := []
  start : Option Nat := none
  size : Option Nat := none
  source : Option (List String) := none
  aggregations : Option (List (String × Aggregation)) := none

namespace SearchRequest

/-- A request for the hits of a query. -/
def ofQuery (q : Query) : SearchRequest := { query := some q }

/-- The request with its members in order. -/
def encode (boost : Single → Json) (r : SearchRequest) : Json :=
  .obj (Json.optionalMember "query" (r.query.map (Query.encode boost))
    ++ Json.listMember "sort" (r.sort.map encodeSort)
    ++ Json.optionalMember "from" (r.start.map Json.ofNat)
    ++ Json.optionalMember "size" (r.size.map Json.ofNat)
    ++ Json.optionalMember "_source" (r.source.map Json.ofStrings)
    ++ Json.optionalMember "aggregations"
      (r.aggregations.map fun inner => .obj (Aggregation.encodeMembers inner)))

/-- The request as a value. -/
def toJson (r : SearchRequest) : Json := (r.encode Query.wideBoost).canonical

/-- The request as a text. -/
def text (r : SearchRequest) : String := (r.encode Query.shortBoost).render

/-- The request that a value stands for. -/
def decode? (j : Json) : Option SearchRequest := do
  let ms ← j.asRecord? ["query", "sort", "from", "size", "_source", "aggregations"]
  return {
    query := ← Json.optional "query" Query.decode? ms
    sort := ← Json.withDefault "sort" [] (fun j => do (← j.asItems?).mapM decodeSort?) ms
    start := ← Json.optional "from" Json.asCount? ms
    size := ← Json.optional "size" Json.asCount? ms
    source := ← Json.optional "_source" Json.asStrings? ms
    aggregations := ← Json.optionalAmong ["aggregations", "aggs"] Aggregation.decodeMap? ms }

end SearchRequest

/-- The body of a count. -/
structure CountRequest where
  query : Option Query := none

namespace CountRequest

def encode (boost : Single → Json) (r : CountRequest) : Json :=
  .obj (Json.optionalMember "query" (r.query.map (Query.encode boost)))

/-- The request as a value. -/
def toJson (r : CountRequest) : Json := (r.encode Query.wideBoost).canonical

/-- The request as a text. -/
def text (r : CountRequest) : String := (r.encode Query.shortBoost).render

def decode? (j : Json) : Option CountRequest := do
  return { query := ← Json.optional "query" Query.decode? (← j.asRecord? ["query"]) }

end CountRequest

/-- The search for an aggregation over the documents of a query. Hits are not
asked for. -/
def AggregationPlan.toRequest (p : AggregationPlan) (q : Query) : SearchRequest :=
  { query := some q, size := some 0, aggregations := some [(p.name, p.aggregation)] }

end SearchStore
