import SearchStore.Aggregation.Plan
import SearchStore.Calendar
import SearchStore.Result.Aggregate
import SearchStore.Result.GroupKey

/-! # Results of aggregations

A plan's answer becomes a number, a value for each group, a value for each
interval, or groups for each interval. Wrappers for nested documents are
looked through. A bucket's value is the one metric inside it, or else its
number of documents, and totals add up the values in the order of the buckets.
-/

namespace SearchStore

/-- The number of documents of a bucket, and its value. -/
structure DataPoint where
  count : Int
  value : Double
deriving DecidableEq, Repr

/-- Values by group, ordered by key. -/
structure Groups where
  groups : List (GroupKey × DataPoint) := []
  total : Double := .zero

/-- Values by interval, ordered by time. -/
structure Series where
  points : List (Timestamp × DataPoint) := []
  total : Double := .zero

/-- Groups by interval, ordered by time. -/
structure GroupedSeries where
  points : List (Timestamp × List (GroupKey × DataPoint)) := []
  total : Double := .zero

/-- The number of documents of each group. -/
def Groups.counts (g : Groups) : List (GroupKey × Int) := g.groups.map fun (k, p) => (k, p.count)

namespace Aggregate

/-- The aggregate for nested documents that none of its inner ones can be
taken from. -/
def ambiguousNested (inner : Aggregates) : Error :=
  .invalidAggregation ("nested aggregate has " ++ toString inner.length
    ++ " children and no '" ++ AggregationPlan.nestedName ++ "' key")

mutual

/-- The aggregate inside all wrappers for nested documents: at each wrapper
the inner one under `nested`, or else the only one. -/
def unwrap : Aggregate → Except Error Aggregate
  | .nested _ inner =>
    match unwrapNamed inner with
    | some r => r
    | none => unwrapOnly inner
  | .metric kind value => .ok (.metric kind value)
  | .stringTerms buckets => .ok (.stringTerms buckets)
  | .longTerms buckets => .ok (.longTerms buckets)
  | .doubleTerms buckets => .ok (.doubleTerms buckets)
  | .unmappedTerms => .ok .unmappedTerms
  | .dateHistogram buckets interval => .ok (.dateHistogram buckets interval)
  | .autoDateHistogram buckets interval => .ok (.autoDateHistogram buckets interval)

/-- The aggregate inside the wrappers of the one under `nested`, if there is
one. -/
def unwrapNamed : Aggregates → Option (Except Error Aggregate)
  | [] => none
  | (name, a) :: rest =>
    if name = AggregationPlan.nestedName then some (unwrap a) else unwrapNamed rest

/-- The aggregate inside the wrappers of the only one. -/
def unwrapOnly : Aggregates → Except Error Aggregate
  | [(_, a)] => unwrap a
  | inner => .error (ambiguousNested inner)

end

/-- The number of a metric, zero if there was none to compute. -/
def metric? : Aggregate → Option Double
  | .metric _ value => some (value.getD .zero)
  | _ => none

/-- What a bucket contributes. -/
def dataPoint (docCount : Int) (inner : Aggregates) : DataPoint :=
  match inner.filterMap fun (_, a) => a.metric? with
  | [value] => ⟨docCount, value⟩
  | _ => ⟨docCount, .ofInt docCount⟩

/-- One value. -/
def scalar (a : Aggregate) : Except Error Double := do
  match ← a.unwrap with
  | .metric _ value => .ok (value.getD .zero)
  | other => .error (.unsupportedAggregation other.kind)

/-- The groups of buckets. -/
def groupsOf {κ : Type} (key : κ → GroupKey) (buckets : List (Bucket κ Aggregate)) : Groups :=
  buckets.foldl (fun g b =>
    let point := dataPoint b.docCount b.inner
    { groups := insertByKey GroupKey.compare (key b.key) point g.groups
      total := g.total + point.value }) {}

/-- A value for each group. -/
def grouped (a : Aggregate) : Except Error Groups := do
  match ← a.unwrap with
  | .stringTerms buckets => .ok (groupsOf .str buckets)
  | .longTerms buckets => .ok (groupsOf .int buckets)
  | .doubleTerms buckets => .ok (groupsOf .double buckets)
  | .unmappedTerms => .ok {}
  | other => .error (.unsupportedAggregation other.kind)

/-- The buckets of time. -/
def timeBuckets (a : Aggregate) : Except Error (List (Bucket Int Aggregate)) := do
  match ← a.unwrap with
  | .dateHistogram buckets _ => .ok buckets
  | .autoDateHistogram buckets _ => .ok buckets
  | other => .error (.unsupportedAggregation other.kind)

/-- A value for each interval. -/
def histogram (a : Aggregate) : Except Error Series := do
  let buckets ← a.timeBuckets
  return buckets.foldl (fun s b =>
    let point := dataPoint b.docCount b.inner
    { points := insertByKey Ord.compare b.key point s.points
      total := s.total + point.value }) {}

/-- One more interval with the groups under a name; without such groups the
interval has none. -/
def addGroups (name : String) (s : GroupedSeries) (b : Bucket Int Aggregate) :
    Except Error GroupedSeries := do
  let groups ← match Json.lookup name b.inner with
    | none => .ok {}
    | some a => a.grouped
  return { points := insertByKey Ord.compare b.key groups.groups s.points
           total := s.total + groups.total }

/-- Groups for each interval; they stand under a name in each bucket. -/
def histogram2d (a : Aggregate) (name : String) : Except Error GroupedSeries := do
  (← a.timeBuckets).foldlM (addGroups name) {}

end Aggregate

end SearchStore
