import SearchStore.Error

/-! # Aggregation functions -/

namespace SearchStore

/-- What is computed over the documents of a bucket. `count` is the number of
distinct values when there are no buckets, and the number of documents of each
bucket otherwise. -/
inductive AggregationFunction where
  | sum
  | avg
  | min
  | max
  | count
deriving DecidableEq, Repr

namespace AggregationFunction

/-- The name of a function, which is also the name of its result. -/
def name : AggregationFunction → String
  | .sum => "sum"
  | .avg => "avg"
  | .min => "min"
  | .max => "max"
  | .count => "count"

/-- The function with a name, in any case. -/
def ofName (s : String) : Except Error AggregationFunction :=
  match s.toLower with
  | "sum" => .ok .sum
  | "avg" => .ok .avg
  | "min" => .ok .min
  | "max" => .ok .max
  | "count" => .ok .count
  | _ => .error (.unsupportedFunction s)

end AggregationFunction

end SearchStore
