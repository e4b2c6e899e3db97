import SearchStore.Json.Basic

/-! # Queries

The clauses of a query as the engine knows them. A clause about a field names
the field next to what is asked of it. The engine's format allows several
fields in one such clause, or none; the clauses that this library builds have
exactly one.
-/

namespace SearchStore

/-- Something for each of some fields, ordered by field. -/
abbrev ByField (α : Type) := List (String × α)

/-- The bounds of a range, each of them optional, and the format in which
bounds on dates are written. -/
structure Bounds where
  gt : Option Json := none
  gte : Option Json := none
  lt : Option Json := none
  lte : Option Json := none
  format : Option String := none
deriving Repr

/-- The terms that an array field has to contain, and how many of them. -/
structure TermsSet where
  terms : List Json
  minimumShouldMatch : Option String := none
deriving Repr

/-- A query. -/
inductive Query where
  | matchAll (boost : Option Single)
  /-- A field has a value. -/
  | term (fields : ByField Json)
  /-- A field has one of several values. -/
  | terms (fields : ByField (List Json))
  /-- An array field contains terms. -/
  | termsSet (fields : ByField TermsSet)
  | range (fields : ByField Bounds)
  /-- A field matches a pattern of characters, `?` and `*`. -/
  | wildcard (fields : ByField String)
  /-- The document has one of several ids. -/
  | ids (values : List String)
  /-- One of the nested documents under a path satisfies a query. -/
  | nested (path : String) (query : Query)
  /-- All of `filter` and `must`, none of `mustNot`, and of `should` as many
  as `minimum` says. -/
  | bool (filter must should mustNot : List Query) (minimum : Option Json)
deriving Inhabited, Repr

namespace Query

/-- The field of a clause about fields, the first if there are several. -/
def field? : Query → Option String
  | .term fields => fields.head?.map Prod.fst
  | .terms fields => fields.head?.map Prod.fst
  | .termsSet fields => fields.head?.map Prod.fst
  | .range fields => fields.head?.map Prod.fst
  | .wildcard fields => fields.head?.map Prod.fst
  | .matchAll _ | .ids _ | .nested _ _ | .bool _ _ _ _ _ => none

/-- Whether a bool query has no clauses; no answer for other queries. -/
def hasNoClauses? : Query → Option Bool
  | .bool filter must should mustNot _ =>
    some (filter.isEmpty && must.isEmpty && should.isEmpty && mustNot.isEmpty)
  | _ => none

end Query

/-! ## Requests -/

inductive SortOrder where
  | asc
  | desc
deriving DecidableEq, Repr

def SortOrder.name : SortOrder → String
  | .asc => "asc"
  | .desc => "desc"

/-- Orders the hits by a field. -/
abbrev SortClause := ByField SortOrder

end SearchStore
