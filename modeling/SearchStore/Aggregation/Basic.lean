import SearchStore.Json.Decode

/-! # Aggregations

What a request asks the engine to compute over the documents that match. An
aggregation of the library computes one thing; the engine's format has a slot
for each kind, and a value read from outside can fill none or several.
-/

namespace SearchStore

/-- The number of distinct values of a field. -/
structure Cardinality where
  field : String
  precisionThreshold : Option Nat := none
deriving DecidableEq, Repr

/-- One bucket for each of the values of a field. -/
structure TermsBuckets where
  field : String
  size : Option Nat := none
deriving DecidableEq, Repr

/-- One bucket for each interval of time. -/
structure DateBuckets where
  field : String
  fixedInterval : Option String := none
  calendarInterval : Option String := none
  minDocCount : Option Nat := none
deriving DecidableEq, Repr

/-- At most so many buckets of equal intervals of time. -/
structure AutoDateBuckets where
  field : String
  buckets : Nat
deriving DecidableEq, Repr

/-- The kinds of aggregation, each with what it needs. `avg`, `sum`, `min` and
`max` name a field, `nested` the path of nested documents. -/
structure AggregationSlots where
  avg : Option String := none
  sum : Option String := none
  min : Option String := none
  max : Option String := none
  cardinality : Option Cardinality := none
  terms : Option TermsBuckets := none
  dateHistogram : Option DateBuckets := none
  autoDateHistogram : Option AutoDateBuckets := none
  nested : Option String := none
deriving DecidableEq, Repr, Inhabited

/-- An aggregation, and named aggregations inside it, ordered by name. -/
inductive Aggregation where
  | mk (slots : AggregationSlots) (inner : List (String × Aggregation))
deriving Inhabited, Repr

namespace Aggregation

def slots : Aggregation → AggregationSlots
  | .mk slots _ => slots

def inner : Aggregation → List (String × Aggregation)
  | .mk _ inner => inner

/-- An aggregation without others inside. -/
def leaf (slots : AggregationSlots) : Aggregation := .mk slots []

def avg (field : String) : Aggregation := leaf { avg := some field }
def sum (field : String) : Aggregation := leaf { sum := some field }
def min (field : String) : Aggregation := leaf { min := some field }
def max (field : String) : Aggregation := leaf { max := some field }

def cardinality (field : String) (precision : Option Nat) : Aggregation :=
  leaf { cardinality := some ⟨field, precision⟩ }

def terms (field : String) (size : Nat) : Aggregation :=
  leaf { terms := some ⟨field, some size⟩ }

def dateHistogram (field interval : String) : Aggregation :=
  leaf { dateHistogram := some { field, fixedInterval := some interval } }

def autoDateHistogram (field : String) (buckets : Nat) : Aggregation :=
  leaf { autoDateHistogram := some ⟨field, buckets⟩ }

def nested (path : String) : Aggregation := leaf { nested := some path }

/-- The aggregation with another one inside, under a name. -/
def withInner (a : Aggregation) (name : String) (b : Aggregation) : Aggregation :=
  .mk a.slots (Json.insertMember name b a.inner)

end Aggregation

end SearchStore
