import SearchStore.Number.Double

/-! # Metrics

What is counted and measured while a store works. A counter adds up, a
histogram keeps every value.
-/

namespace SearchStore

/-- Something that is worth counting. -/
inductive Metric where
  /-- A request that was answered. -/
  | request (operation : String) (status : Nat)
  /-- A request that failed. -/
  | requestError (operation kind : String)
  /-- A request that is sent again. -/
  | retry (operation : String) (status : Nat)
  /-- What became of an item of a bulk write. -/
  | bulkItem (action outcome : String)
  /-- A bulk request with its size. -/
  | bulkFlush (items bytes : Nat)
  /-- A filter that was left out of a query. -/
  | droppedFilter (operator : String)
deriving DecidableEq, Repr

namespace Metric

/-- A change to the name of a counter or a histogram. Lengths of time are
taken from a clock and have no value here. -/
inductive Change where
  | increment
  | record (value : Double)
  | recordTime

/-- The names of counters and histograms with their labels, and what a metric
does to them. -/
def changes : Metric → List (String × List (String × String) × Change)
  | .request operation status =>
    [("elastore_request_duration_seconds", [("operation", operation)], .recordTime),
     ("elastore_requests_total", [("operation", operation), ("status", toString status)],
      .increment)]
  | .requestError operation kind =>
    [("elastore_request_errors_total", [("operation", operation), ("error_type", kind)],
      .increment)]
  | .retry operation status =>
    [("elastore_request_retries_total", [("operation", operation), ("status", toString status)],
      .increment)]
  | .bulkItem action outcome =>
    [("elastore_bulk_items_total", [("action", action), ("outcome", outcome)], .increment)]
  | .bulkFlush items bytes =>
    [("elastore_bulk_flushes_total", [], .increment),
     ("elastore_bulk_flush_items", [], .record (.ofInt items)),
     ("elastore_bulk_flush_bytes", [], .record (.ofInt bytes)),
     ("elastore_bulk_flush_duration_seconds", [], .recordTime)]
  | .droppedFilter operator =>
    [("elastore_dropped_filters_total", [("operator", operator)], .increment)]

/-- A name with its labels. -/
def labelled (name : String) (labels : List (String × String)) : String :=
  let parts := labels.map fun (k, v) => k ++ "=" ++ v
  name ++ "\x7b" ++ String.intercalate "," parts ++ "\x7d"

end Metric

/-- The state of a counter or a histogram. -/
inductive Meter where
  | counter (total : Nat)
  | values (values : List Double)
  /-- A histogram of lengths of time, of which only the number is known. -/
  | times (count : Nat)

/-- A meter after a change. A change of another sort starts it anew. -/
def Meter.change : Option Meter → Metric.Change → Meter
  | some (.counter n), .increment => .counter (n + 1)
  | _, .increment => .counter 1
  | some (.values xs), .record x => .values (xs ++ [x])
  | _, .record x => .values [x]
  | some (.times n), .recordTime => .times (n + 1)
  | _, .recordTime => .times 1

/-- All meters by labelled name. -/
abbrev Meters := List (String × Meter)

namespace Meters

/-- Changes the meter of a name, or adds it at the end. -/
def change (name : String) (c : Metric.Change) : Meters → Meters
  | [] => [(name, Meter.change none c)]
  | (k, m) :: rest =>
    if k = name then (k, Meter.change (some m) c) :: rest else (k, m) :: change name c rest

/-- The meters after some metrics. -/
def ofMetrics (metrics : List Metric) : Meters :=
  metrics.foldl (fun meters m =>
    m.changes.foldl (fun meters (name, labels, c) =>
      meters.change (Metric.labelled name labels) c) meters) []

end Meters

end SearchStore
