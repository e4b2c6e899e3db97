import SearchStore.Calendar
import SearchStore.Filter
import SearchStore.Metrics
import SearchStore.Query.Wire

/-! # From filters to a query

Filters that must all hold become filter clauses, filters of which one must
hold become one group of alternatives, and negated ones exclude. Filters on
nested documents of one path that end up in the same list are joined, so that
one and the same nested document has to satisfy them.
-/

namespace SearchStore

/-- Whether a filter by pattern asks for a match or rules one out. -/
inductive LikePolarity where
  | include
  | exclude
deriving DecidableEq, Repr

def LikePolarity.name : LikePolarity → String
  | .include => "include"
  | .exclude => "exclude"

def LikePolarity.decode? (j : Json) : Option LikePolarity := do
  match ← j.asName? with
  | "include" => some .include
  | "exclude" => some .exclude
  | _ => none

/-- What a filter asks for: a query, and whether it is to hold or to fail. -/
structure Predicate where
  query : Query
  negated : Bool

namespace Filter

/-- The pattern of a filter by pattern. A pattern that has a star is open at
its end. -/
def likePattern (value : Json) : String :=
  let pattern := match value with
    | .str s => s
    | j => j.render
  if pattern.toList.contains '*' then pattern ++ "*" else pattern

/-- One bound of a range, set by `set`. -/
def comparison (f : Filter) (set : Json → Bounds) : Except Error (Option Predicate) := do
  match ← f.numberAt 0 with
  | none => return none
  | some x => return some ⟨.range [(f.field, set (.ofDouble x))], false⟩

/-- The range between two values, open above when there is no second one. -/
def range (f : Filter) : Except Error (Option Predicate) := do
  match ← f.numberAt 0 with
  | none => return none
  | some first =>
    let last ← f.numberAt 1
    let bounds : Bounds := { gte := some (.ofDouble first), lte := last.map .ofDouble }
    return some ⟨.range [(f.field, bounds)], false⟩

/-- The query about the first value of a filter, if there is one. -/
def onFirst (f : Filter) (negated : Bool) (query : Json → Query) : Option Predicate :=
  f.first?.map fun v => ⟨query v, negated⟩

/-- The query about all values of a filter, if there are any. -/
def onAll (f : Filter) (negated : Bool) : Option Predicate :=
  if f.values.isEmpty then none else some ⟨.terms [(f.field, f.values)], negated⟩

/-- What a filter asks for. A filter without values asks for nothing, and one
that compares numbers fails on a value that is none. -/
def predicate (like : LikePolarity) (f : Filter) : Except Error (Option Predicate) :=
  match f.operator with
  | .eq => .ok (f.onFirst false fun v => .term [(f.field, v)])
  | .neq => .ok (f.onFirst true fun v => .term [(f.field, v)])
  | .like => .ok (f.onFirst (like = .exclude) fun v => .wildcard [(f.field, likePattern v)])
  | .gt => f.comparison fun v => { gt := some v }
  | .gte => f.comparison fun v => { gte := some v }
  | .lt => f.comparison fun v => { lt := some v }
  | .lte => f.comparison fun v => { lte := some v }
  | .isIn => .ok (f.onAll false)
  | .notIn => .ok (f.onAll true)
  | .between => f.range
  | .contains => .ok (f.onFirst false fun v => .termsSet [(f.field, { terms := [v] })])

end Filter

/-- A range of moments in a field, both ends included. -/
structure RangeFilter where
  field : String
  first : Timestamp
  last : Timestamp
deriving DecidableEq, Repr

def RangeFilter.toQuery (r : RangeFilter) : Query :=
  .range [(r.field,
    { gte := some (.int r.first), lte := some (.int r.last), format := some "epoch_millis" })]

/-! ## Clauses -/

/-- An entry of a list of clauses: a query on plain fields, or the queries on
nested documents of one path. -/
inductive Entry where
  | plain (query : Query)
  | nested (path : String) (queries : List Query)

namespace Entry

/-- Whether the entry is for nested documents of a path. -/
def isFor (path : String) : Entry → Bool
  | .plain _ => false
  | .nested p _ => p = path

def toQuery : Entry → Query
  | .plain q => q
  | .nested path queries => .nested path (.bool [] queries [] [] none)

end Entry

/-- Entries in the order in which their first query came. -/
abbrev Clause := List Entry

namespace Clause

/-- Adds a query on nested documents of a path to the entry for the path, or
in a new entry if there is none. -/
def addNested (path : String) (q : Query) : Clause → Clause
  | [] => [.nested path [q]]
  | .nested p queries :: rest =>
    if p = path then .nested p (queries ++ [q]) :: rest
    else .nested p queries :: addNested path q rest
  | .plain other :: rest => .plain other :: addNested path q rest

/-- Adds a query. -/
def add (path : Option String) (q : Query) (c : Clause) : Clause :=
  match path with
  | none => c ++ [.plain q]
  | some path => addNested path q c

def toQueries (c : Clause) : List Query := c.map Entry.toQuery

end Clause

/-- The parts of a query made of filters. -/
structure BoolClauses where
  filter : List Query := []
  should : List Query := []
  mustNot : List Query := []
  range : Option Query := none

namespace BoolClauses

def isEmpty (b : BoolClauses) : Bool :=
  b.filter.isEmpty && b.should.isEmpty && b.mustNot.isEmpty && b.range.isNone

/-- One query of all parts. The range is one more filter, and the
alternatives are one group that has to match. -/
def toQuery (b : BoolClauses) : Query :=
  if b.isEmpty then .matchAll none
  else if b.should.isEmpty then .bool (b.filter ++ b.range.toList) [] [] b.mustNot none
  else
    .bool (b.filter ++ b.range.toList) [] [.bool [] [] b.should [] none] b.mustNot
      (some (.int 1))

end BoolClauses

/-! ## Placing filters -/

/-- Where the filters so far were placed, and which were dropped, with the
reasons. -/
structure Placement where
  positive : Clause := []
  negative : Clause := []
  dropped : List (Filter × Error) := []

namespace Placement

/-- Puts what a filter asks for into the clause where it belongs. -/
def place (like : LikePolarity) (p : Placement) (f : Filter) : Placement :=
  if f.active then
    match f.predicate like with
    | .error e => { p with dropped := p.dropped ++ [(f, e)] }
    | .ok none => p
    | .ok (some ⟨query, true⟩) => { p with negative := p.negative.add f.path? query }
    | .ok (some ⟨query, false⟩) => { p with positive := p.positive.add f.path? query }
  else p

def placeAll (like : LikePolarity) (p : Placement) (filters : List Filter) : Placement :=
  filters.foldl (place like) p

end Placement

/-- What filters select: the clauses of a query, and the filters of which no
clause was made. -/
structure Selection where
  clauses : BoolClauses
  dropped : List (Filter × Error)

namespace Selection

/-- The query, without the filters that were dropped. -/
def toQuery (s : Selection) : Query := s.clauses.toQuery

/-- What is reported of a selection: every filter that was dropped. -/
def metrics (s : Selection) : List Metric :=
  s.dropped.map fun d => .droppedFilter d.1.operator.name

/-- The selection by filters that must all hold, filters of which one must
hold, and a range. -/
def ofFilters (like : LikePolarity) (all any : List Filter) (range : Option RangeFilter) :
    Selection :=
  let first := Placement.placeAll like {} all
  let second := Placement.placeAll like { first with positive := [] } any
  { clauses := {
      filter := first.positive.toQueries
      should := second.positive.toQueries
      mustNot := second.negative.toQueries
      range := range.map RangeFilter.toQuery }
    dropped := second.dropped }

end Selection

end SearchStore
