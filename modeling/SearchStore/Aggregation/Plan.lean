import SearchStore.Aggregation.Basic
import SearchStore.Aggregation.Function
import SearchStore.Aggregation.Interval
import SearchStore.Filter

/-! # Planning aggregations

The aggregation to request for each shape of answer, and the name under which
the answer will stand:

* one value: the metric, under `aggs`;
* a value for each group: terms with the metric inside, under `aggs`;
* a value for each interval: time buckets with the metric inside, under `0`;
* a value for each interval and group: time buckets with terms inside, which
  have the metric inside, under `0`.

A metric stands under the name of its function, and so do the terms inside
time buckets. Where the field of a single value or the time field belongs to a
nested document, the whole is wrapped in a nested aggregation, under `nested`.
-/

namespace SearchStore

/-- An aggregation to request, with its name. -/
structure AggregationPlan where
  name : String
  aggregation : Aggregation

namespace AggregationPlan

/-- The name of single values and of groups. -/
def scalarName : String := "aggs"

/-- The name of time buckets. -/
def histogramName : String := "0"

/-- The name of what a nested aggregation wraps. -/
def nestedName : String := "nested"

/-- Distinct values are counted exactly up to this number. -/
def exactCardinality : Nat := 40000

/-- The metric that a function needs in each bucket; to count documents it
needs none. -/
def metric? (field : String) : AggregationFunction → Option Aggregation
  | .sum => some (.sum field)
  | .avg => some (.avg field)
  | .min => some (.min field)
  | .max => some (.max field)
  | .count => none

/-- Buckets with the metric of a function inside. -/
def withMetric (a : Aggregation) (field : String) (f : AggregationFunction) : Aggregation :=
  match metric? field f with
  | none => a
  | some m => a.withInner f.name m

/-- An aggregation in the nested documents that a field belongs to. -/
def inNested (field : String) (a : Aggregation) : Aggregation :=
  match nestedPath? field with
  | none => a
  | some path => (Aggregation.nested path).withInner nestedName a

/-- One value over all documents. -/
def scalar (field : String) (f : AggregationFunction) : AggregationPlan :=
  let metric := (metric? field f).getD (.cardinality field (some exactCardinality))
  ⟨scalarName, inNested field metric⟩

/-- A value of `field` for each of at most `limit` groups. -/
def grouped (limit : Nat) (group field : String) (f : AggregationFunction) : AggregationPlan :=
  ⟨scalarName, withMetric (.terms group limit) field f⟩

/-- Time buckets of an interval; without one the engine chooses it so that
there are at most `limit` buckets. -/
def timeBuckets (limit : Nat) (time : String) (interval : Duration) : Aggregation :=
  let token := intervalToken interval
  if token.isEmpty then .autoDateHistogram time limit else .dateHistogram time token

/-- A value of `field` for each interval. -/
def histogram (limit : Nat) (field : String) (f : AggregationFunction) (time : String)
    (interval : Duration) : AggregationPlan :=
  ⟨histogramName, inNested time (withMetric (timeBuckets limit time interval) field f)⟩

/-- A value of `field` for each interval and each group of `dimension`. -/
def histogram2d (limit : Nat) (field : String) (f : AggregationFunction)
    (dimension time : String) (interval : Duration) : AggregationPlan :=
  let groups := withMetric (.terms dimension limit) field f
  ⟨histogramName,
    inNested time ((timeBuckets limit time interval).withInner f.name groups)⟩

end AggregationPlan

end SearchStore
