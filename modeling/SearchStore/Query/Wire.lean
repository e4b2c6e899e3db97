import SearchStore.Json.Decode
import SearchStore.Json.Printer
import SearchStore.Number.Decimal
import SearchStore.Query.Basic

/-! # Queries as JSON

`Query.encode` writes a query with the members of each clause in the order in
which the engine documents them; clauses that are empty are left out.
`Query.decode?` reads a query back and ignores members it does not know.

A boost is a single. In a JSON value it appears as the double of the same
value, in a text with the digits that tell it from other singles, so `encode`
takes the way to write a boost as a parameter.
-/

namespace SearchStore

/-- A clause about fields, as the object of its name. -/
def ByField.encode {α : Type} (name : String) (value : α → Json) (fields : ByField α) : Json :=
  .obj [(name, .obj (fields.map fun (field, x) => (field, value x)))]

namespace Bounds

def encode (b : Bounds) : Json :=
  .obj (Json.optionalMember "gt" b.gt ++ Json.optionalMember "gte" b.gte
    ++ Json.optionalMember "lt" b.lt ++ Json.optionalMember "lte" b.lte
    ++ Json.optionalMember "format" (b.format.map .str))

def decode? (j : Json) : Option Bounds := do
  let ms ← j.asRecord? ["gt", "gte", "lt", "lte", "format"]
  return {
    gt := ← Json.optional "gt" some ms
    gte := ← Json.optional "gte" some ms
    lt := ← Json.optional "lt" some ms
    lte := ← Json.optional "lte" some ms
    format := ← Json.optional "format" Json.asString? ms }

end Bounds

namespace TermsSet

def encode (t : TermsSet) : Json :=
  .obj (("terms", .arr t.terms)
    :: Json.optionalMember "minimum_should_match" (t.minimumShouldMatch.map .str))

def decode? (j : Json) : Option TermsSet := do
  let ms ← j.asRecord? ["terms", "minimum_should_match"]
  return {
    terms := ← Json.required "terms" Json.asItems? ms
    minimumShouldMatch := ← Json.optional "minimum_should_match" Json.asString? ms }

end TermsSet

namespace Query

/-! ## Writing -/

/-- The object around the one value of a field. -/
def valueMember (j : Json) : Json := .obj [("value", j)]

mutual

/-- A query as JSON, with `boost` saying how a boost is written. -/
def encode (boost : Single → Json) : Query → Json
  | .matchAll b => .obj [("match_all", .obj (Json.optionalMember "boost" (b.map boost)))]
  | .term fields => fields.encode "term" valueMember
  | .terms fields => fields.encode "terms" .arr
  | .termsSet fields => fields.encode "terms_set" TermsSet.encode
  | .range fields => fields.encode "range" Bounds.encode
  | .wildcard fields => fields.encode "wildcard" fun pattern => valueMember (.str pattern)
  | .ids values => .obj [("ids", .obj [("values", Json.ofStrings values)])]
  | .nested path query =>
    .obj [("nested", .obj [("path", .str path), ("query", encode boost query)])]
  | .bool filter must should mustNot minimum =>
    .obj [("bool", .obj (
      Json.listMember "filter" (encodeList boost filter)
        ++ Json.listMember "must" (encodeList boost must)
        ++ Json.listMember "should" (encodeList boost should)
        ++ Json.listMember "must_not" (encodeList boost mustNot)
        ++ Json.optionalMember "minimum_should_match" minimum))]

def encodeList (boost : Single → Json) : List Query → List Json
  | [] => []
  | q :: rest => encode boost q :: encodeList boost rest

end

/-- A boost as the double of the same value. -/
def wideBoost (b : Single) : Json := .ofDouble b.toDouble

/-- A boost by its own shortest digits. -/
def shortBoost (b : Single) : Json := .ofDouble b.toShortDouble

/-- A query as a value. -/
def toJson (q : Query) : Json := (q.encode wideBoost).canonical

/-- A query as a text, the members in the order of the clauses. -/
def text (q : Query) : String := (q.encode shortBoost).render

/-! ## Reading -/

/-- The member `value` of a record. -/
def valueOf? (j : Json) : Option Json := do Json.required "value" some (← j.asRecord? ["value"])

/-- A value for a part that has none yet. -/
def fill? {α : Type} (old : Option α) (new : Option α) : Option (Option α) :=
  if old.isSome then none else new.map some

/-- What is read of the members of a bool query. -/
structure BoolParts where
  filter : Option (List Query) := none
  must : Option (List Query) := none
  should : Option (List Query) := none
  mustNot : Option (List Query) := none
  minimum : Option (Option Json) := none

namespace BoolParts

/-- The bool query of its parts; missing lists are empty. -/
def toQuery (p : BoolParts) : Query :=
  .bool (p.filter.getD []) (p.must.getD []) (p.should.getD []) (p.mustNot.getD [])
    (p.minimum.getD none)

/-- The parts with those of one more member. A member is read both as queries
and as a minimum, and its name says which of them it is. -/
def add? (p : BoolParts) (name : String) (queries : Option (List Query))
    (minimum : Option (Option Json)) : Option BoolParts :=
  if name = "filter" then (fill? p.filter queries).map fun filter => { p with filter }
  else if name = "must" then (fill? p.must queries).map fun must => { p with must }
  else if name = "should" then (fill? p.should queries).map fun should => { p with should }
  else if name = "must_not" then (fill? p.mustNot queries).map fun mustNot => { p with mustNot }
  else if name = "minimum_should_match" then
    (fill? p.minimum minimum).map fun minimum => { p with minimum }
  else some p

/-- The names of the members, in order. -/
def names : List String := ["filter", "must", "should", "must_not", "minimum_should_match"]

end BoolParts

/-- What is read of the members of a nested query. -/
structure NestedParts where
  path : Option String := none
  query : Option Query := none

namespace NestedParts

/-- The nested query of its parts, of which none may be missing. -/
def toQuery? (p : NestedParts) : Option Query := do return .nested (← p.path) (← p.query)

/-- The parts with those of one more member, read both as a path and as a
query. -/
def add? (p : NestedParts) (name : String) (path : Option String) (query : Option Query) :
    Option NestedParts :=
  if name = "path" then (fill? p.path path).map fun path => { p with path }
  else if name = "query" then (fill? p.query query).map fun query => { p with query }
  else some p

/-- The names of the members, in order. -/
def names : List String := ["path", "query"]

end NestedParts

/-- The query of a clause that holds no further queries. -/
def decodeFlat? (clause : String) (body : Json) : Option Query :=
  if clause = "match_all" then do
    return .matchAll (← Json.optional "boost" Json.asSingle? (← body.asRecord? ["boost"]))
  else if clause = "term" then (body.asMap? valueOf?).map .term
  else if clause = "terms" then (body.asMap? Json.asItems?).map .terms
  else if clause = "terms_set" then (body.asMap? TermsSet.decode?).map .termsSet
  else if clause = "range" then (body.asMap? Bounds.decode?).map .range
  else if clause = "wildcard" then
    (body.asMap? fun j => (valueOf? j).bind Json.asString?).map .wildcard
  else if clause = "ids" then do
    return .ids (← Json.required "values" Json.asStrings? (← body.asRecord? ["values"]))
  else none

mutual

/-- The query that a value stands for. -/
def decode? : Json → Option Query
  | .obj [(clause, body)] => decodeClause? clause body
  | _ => none

/-- The query of a clause and its body. -/
def decodeClause? (clause : String) : Json → Option Query
  | .obj members =>
    if clause = "nested" then (nestedParts? members).bind NestedParts.toQuery?
    else if clause = "bool" then (boolParts? members).map BoolParts.toQuery
    else decodeFlat? clause (.obj members)
  | .arr items =>
    if clause = "nested" then (nestedItems? NestedParts.names items).bind NestedParts.toQuery?
    else if clause = "bool" then (boolItems? BoolParts.names items).map BoolParts.toQuery
    else decodeFlat? clause (.arr items)
  | _ => none

/-- The parts of a nested query. -/
def nestedParts? : List (String × Json) → Option NestedParts
  | [] => some {}
  | (name, j) :: rest =>
    match nestedParts? rest with
    | none => none
    | some p => p.add? name j.asString? (decode? j)

/-- The parts of a nested query that is written as an array. -/
def nestedItems? : List String → List Json → Option NestedParts
  | _, [] => some {}
  | [], _ :: _ => none
  | name :: names, j :: rest =>
    match nestedItems? names rest with
    | none => none
    | some p => p.add? name j.asString? (decode? j)

/-- The parts of a bool query. -/
def boolParts? : List (String × Json) → Option BoolParts
  | [] => some {}
  | (name, j) :: rest =>
    match boolParts? rest with
    | none => none
    | some p => p.add? name (decodeItems? j) (Json.nullable some j)

/-- The parts of a bool query that is written as an array. -/
def boolItems? : List String → List Json → Option BoolParts
  | _, [] => some {}
  | [], _ :: _ => none
  | name :: names, j :: rest =>
    match boolItems? names rest with
    | none => none
    | some p => p.add? name (decodeItems? j) (Json.nullable some j)

/-- The queries of an array. -/
def decodeItems? : Json → Option (List Query)
  | .arr items => decodeList? items
  | _ => none

def decodeList? : List Json → Option (List Query)
  | [] => some []
  | j :: rest =>
    match decode? j, decodeList? rest with
    | some q, some qs => some (q :: qs)
    | _, _ => none

end

end Query

/-! ## Sort clauses -/

def SortOrder.decode? (j : Json) : Option SortOrder := do
  match ← j.asName? with
  | "asc" => some .asc
  | "desc" => some .desc
  | _ => none

/-- A sort clause as JSON. -/
def encodeSort (clause : SortClause) : Json :=
  .obj (clause.map fun (field, order) => (field, .obj [("order", .str order.name)]))

/-- The sort clause that a value stands for. -/
def decodeSort? : Json → Option SortClause :=
  Json.asMap? fun j => do Json.required "order" SortOrder.decode? (← j.asRecord? ["order"])

end SearchStore
