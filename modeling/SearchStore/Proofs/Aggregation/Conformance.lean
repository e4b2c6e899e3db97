import Mathlib.Data.List.Forall2
import SearchStore.Result.Series

/-! # Answers that conform to a request

What the engine promises about the answer to an aggregation. Each aggregation
is answered under its own name, after one of the kinds that answer what was
asked; inside it, and inside each of its buckets, are the answers to the
aggregations inside the request, and no others. Members without `#` are data of
the engine and may be there or not.

`Aggregation.Conforms` follows the tree of the request. What a conforming
answer says, bucket by bucket, is said by `Rows` and `PointOf`, without any of
the definitions that decode it.
-/

namespace SearchStore

/-- The kinds of answers. -/
inductive AnswerKind where
  | metric (kind : MetricKind)
  | strings
  | longs
  | doubles
  | unmapped
  | dates
  | autoDates
  | nested
deriving DecidableEq

namespace AnswerKind

/-- A kind, as it stands before the name. -/
def name : AnswerKind → String
  | .metric kind => kind.name
  | .strings => "sterms"
  | .longs => "lterms"
  | .doubles => "dterms"
  | .unmapped => "umterms"
  | .dates => "date_histogram"
  | .autoDates => "auto_date_histogram"
  | .nested => "nested"

/-- The key of an answer of a kind. -/
def typed (kind : AnswerKind) (name : String) : String := kind.name ++ "#" ++ name

end AnswerKind

/-- The kinds that answer what the slots ask for. Where terms are asked for,
the type of the field decides. -/
def AggregationSlots.kinds (s : AggregationSlots) : List AnswerKind :=
  (if s.avg.isSome then [.metric .avg] else [])
    ++ (if s.sum.isSome then [.metric .sum] else [])
    ++ (if s.min.isSome then [.metric .min] else [])
    ++ (if s.max.isSome then [.metric .max] else [])
    ++ (if s.cardinality.isSome then [.metric .cardinality] else [])
    ++ (if s.terms.isSome then [.strings, .longs, .doubles, .unmapped] else [])
    ++ (if s.dateHistogram.isSome then [.dates] else [])
    ++ (if s.autoDateHistogram.isSome then [.autoDates] else [])
    ++ (if s.nested.isSome then [.nested] else [])

/-! ## Members -/

/-- Whether a member is an answer, by its key. -/
def isTyped (m : String × Json) : Bool := m.1.toList.contains '#'

/-- A signed 64-bit integer. -/
def IsInt64 (n : Int) : Prop := Int64.minValue.toInt ≤ n ∧ n ≤ Int64.maxValue.toInt

instance (n : Int) : Decidable (IsInt64 n) := inferInstanceAs (Decidable (_ ∧ _))

/-- The members count documents. -/
def HasCount (ms : List (String × Json)) : Prop :=
  ∃ n, Json.lookup "doc_count" ms = some (.int n) ∧ IsInt64 n

/-- What a metric says as a number: nothing to compute from is zero. -/
inductive Tells : Json → Double → Prop
  | null : Tells .null .zero
  | int (n : Int) : Tells (.int n) (.ofInt n)
  | real (x : Double) : Tells (.real x) x

/-- The key of a group, of the type that belongs to the kind. -/
def AnswerKind.groupKey? : AnswerKind → Json → Option GroupKey
  | .strings, .str s => some (.str s)
  | .longs, .int n => if IsInt64 n then some (.int n) else none
  | .doubles, j => j.asDouble?.map .double
  | _, _ => none

/-- The key of a bucket of time, in milliseconds. -/
def millis? : Json → Option Timestamp
  | .int n => if IsInt64 n then some n else none
  | _ => none

/-! ## Conforming -/

/-- Buckets with distinct keys, with what is to be inside each. -/
def Buckets {κ : Type} (key? : Json → Option κ) (inside : List (String × Json) → Prop)
    (ms : List (String × Json)) : Prop :=
  ∃ items keys, Json.lookup "buckets" ms = some (.arr items) ∧ keys.Nodup ∧
    List.Forall₂ (fun item key => ∃ bucket, item = .obj bucket ∧ (bucket.map Prod.fst).Nodup ∧
      (Json.lookup "key" bucket).bind key? = some key ∧ HasCount bucket ∧ inside bucket) items keys

mutual

/-- The members of a body of some kind answer an aggregation. -/
def Aggregation.Conforms : Aggregation → AnswerKind → List (String × Json) → Prop
  | .mk slots inner, kind, ms =>
    kind ∈ slots.kinds ∧ (ms.map Prod.fst).Nodup ∧
      match kind with
      | .metric _ => ∃ v x, Json.lookup "value" ms = some v ∧ Tells v x
      | .unmapped => Json.lookup "buckets" ms = some (.arr [])
      | .dates | .autoDates =>
        Buckets millis? (fun bucket => AnswerEach inner (bucket.filter isTyped)) ms
      | .nested => HasCount ms ∧ AnswerEach inner (ms.filter isTyped)
      | kind => Buckets kind.groupKey? (fun bucket => AnswerEach inner (bucket.filter isTyped)) ms

/-- The members answer each of the named aggregations, and nothing else. -/
def AnswerEach : List (String × Aggregation) → List (String × Json) → Prop
  | [], typed => typed = []
  | (name, a) :: rest, typed =>
    ∃ kind ms before after, typed = before ++ (AnswerKind.typed kind name, .obj ms) :: after ∧
      a.Conforms kind ms ∧ AnswerEach rest (before ++ after)

end

/-- The members of an answer conform to a plan. -/
def AggregationPlan.Conforms (p : AggregationPlan) (members : List (String × Json)) : Prop :=
  (members.map Prod.fst).Nodup ∧ AnswerEach [(p.name, p.aggregation)] (members.filter isTyped)

/-! ## What an answer says -/

/-- A bucket says a number of documents and a value: the metric of the
function, or to count documents their number. -/
structure PointOf (f : AggregationFunction) (bucket : List (String × Json)) (p : DataPoint) :
    Prop where
  count : Json.lookup "doc_count" bucket = some (.int p.count)
  value : if f = .count then p.value = .ofInt p.count else
    ∃ ms v, Json.lookup (f.name ++ "#" ++ f.name) bucket = some (.obj ms) ∧
      Json.lookup "value" ms = some v ∧ Tells v p.value

/-- The rows of a body are those of its buckets, in order, each with its key. -/
def Rows {κ α : Type} (key? : Json → Option κ) (tells : List (String × Json) → α → Prop)
    (ms : List (String × Json)) (rows : List (κ × α)) : Prop :=
  ∃ items, Json.lookup "buckets" ms = some (.arr items) ∧
    List.Forall₂ (fun item row => ∃ bucket, item = .obj bucket ∧
      (Json.lookup "key" bucket).bind key? = some row.1 ∧ tells bucket row.2) items rows

/-- The body that answers a plan, behind the wrapper for nested documents if
the field belongs to such. -/
def BodyOf (field name : String) (members : List (String × Json)) (kind : AnswerKind)
    (ms : List (String × Json)) : Prop :=
  match nestedPath? field with
  | none => Json.lookup (kind.typed name) members = some (.obj ms)
  | some _ => ∃ wrapper, Json.lookup (AnswerKind.nested.typed name) members = some (.obj wrapper) ∧
    Json.lookup (kind.typed AggregationPlan.nestedName) wrapper = some (.obj ms)

/-- The sum of values in order. -/
def sumOf (values : List Double) : Double := values.foldl (· + ·) .zero

/-- The number that the answer for one value says. -/
def ValueOf (field : String) (members : List (String × Json)) (x : Double) : Prop :=
  ∃ kind ms, BodyOf field AggregationPlan.scalarName members kind ms ∧
    ∃ v, Json.lookup "value" ms = some v ∧ Tells v x

/-- The groups that a body says: one for each bucket, under its key, and the
sum of their values. -/
def GroupsIn (f : AggregationFunction) (kind : AnswerKind) (ms : List (String × Json))
    (g : Groups) : Prop :=
  ∃ rows, Rows kind.groupKey? (PointOf f) ms rows ∧ g.groups.Perm rows ∧
    g.total = sumOf (rows.map fun row => row.2.value)

/-- The groups that the answer for groups says. -/
def GroupedOf (f : AggregationFunction) (members : List (String × Json)) (g : Groups) : Prop :=
  ∃ kind ms, Json.lookup (AnswerKind.typed kind AggregationPlan.scalarName) members =
    some (.obj ms) ∧ GroupsIn f kind ms g

/-- The points that the answer for values by time says: one for each bucket,
under its key, and the sum of their values. -/
def SeriesOf (f : AggregationFunction) (time : String) (members : List (String × Json))
    (s : Series) : Prop :=
  ∃ kind ms, BodyOf time AggregationPlan.histogramName members kind ms ∧
    ∃ rows, Rows millis? (PointOf f) ms rows ∧ s.points.Perm rows ∧
      s.total = sumOf (rows.map fun row => row.2.value)

/-- The groups that a bucket of time says. -/
def GroupsOf (f : AggregationFunction) (bucket : List (String × Json)) (g : Groups) : Prop :=
  ∃ kind ms, Json.lookup (AnswerKind.typed kind f.name) bucket = some (.obj ms) ∧
    GroupsIn f kind ms g

/-- The groups that the answer for groups by time says: those of each bucket,
under its key, and the sum of their totals. -/
def GroupedSeriesOf (f : AggregationFunction) (time : String) (members : List (String × Json))
    (s : GroupedSeries) : Prop :=
  ∃ kind ms, BodyOf time AggregationPlan.histogramName members kind ms ∧
    ∃ rows, Rows millis? (GroupsOf f) ms rows ∧
      s.points.Perm (rows.map fun row => (row.1, row.2.groups)) ∧
      s.total = sumOf (rows.map fun row => row.2.total)

end SearchStore
