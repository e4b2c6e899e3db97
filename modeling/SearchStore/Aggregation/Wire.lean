import SearchStore.Aggregation.Basic

/-! # Aggregations as JSON

Slots that are not set are left out, and so is an empty map of inner
aggregations. When reading, `aggs` is another name of `aggregations`.
-/

namespace SearchStore

def fieldMember (field : String) : String × Json := ("field", .str field)

namespace Cardinality

def encode (c : Cardinality) : Json :=
  .obj (fieldMember c.field
    :: Json.optionalMember "precision_threshold" (c.precisionThreshold.map Json.ofNat))

def decode? (j : Json) : Option Cardinality := do
  let ms ← j.asRecord? ["field", "precision_threshold"]
  return {
    field := ← Json.required "field" Json.asString? ms
    precisionThreshold := ← Json.optional "precision_threshold" (Json.asBelow? UInt32.size) ms }

end Cardinality

namespace TermsBuckets

def encode (t : TermsBuckets) : Json :=
  .obj (fieldMember t.field :: Json.optionalMember "size" (t.size.map Json.ofNat))

def decode? (j : Json) : Option TermsBuckets := do
  let ms ← j.asRecord? ["field", "size"]
  return {
    field := ← Json.required "field" Json.asString? ms
    size := ← Json.optional "size" Json.asCount? ms }

end TermsBuckets

namespace DateBuckets

def encode (d : DateBuckets) : Json :=
  .obj (fieldMember d.field
    :: (Json.optionalMember "fixed_interval" (d.fixedInterval.map .str)
      ++ Json.optionalMember "calendar_interval" (d.calendarInterval.map .str)
      ++ Json.optionalMember "min_doc_count" (d.minDocCount.map Json.ofNat)))

def decode? (j : Json) : Option DateBuckets := do
  let ms ← j.asRecord? ["field", "fixed_interval", "calendar_interval", "min_doc_count"]
  return {
    field := ← Json.required "field" Json.asString? ms
    fixedInterval := ← Json.optional "fixed_interval" Json.asString? ms
    calendarInterval := ← Json.optional "calendar_interval" Json.asString? ms
    minDocCount := ← Json.optional "min_doc_count" Json.asCount? ms }

end DateBuckets

namespace AutoDateBuckets

def encode (d : AutoDateBuckets) : Json :=
  .obj [fieldMember d.field, ("buckets", Json.ofNat d.buckets)]

def decode? (j : Json) : Option AutoDateBuckets := do
  let ms ← j.asRecord? ["field", "buckets"]
  return {
    field := ← Json.required "field" Json.asString? ms
    buckets := ← Json.required "buckets" Json.asCount? ms }

end AutoDateBuckets

namespace AggregationSlots

/-- The object that names one string. -/
def named (name value : String) : Json := .obj [(name, .str value)]

/-- The members of the slots that are set. -/
def encode (s : AggregationSlots) : List (String × Json) :=
  Json.optionalMember "avg" (s.avg.map (named "field"))
    ++ Json.optionalMember "sum" (s.sum.map (named "field"))
    ++ Json.optionalMember "min" (s.min.map (named "field"))
    ++ Json.optionalMember "max" (s.max.map (named "field"))
    ++ Json.optionalMember "cardinality" (s.cardinality.map Cardinality.encode)
    ++ Json.optionalMember "terms" (s.terms.map TermsBuckets.encode)
    ++ Json.optionalMember "date_histogram" (s.dateHistogram.map DateBuckets.encode)
    ++ Json.optionalMember "auto_date_histogram" (s.autoDateHistogram.map AutoDateBuckets.encode)
    ++ Json.optionalMember "nested" (s.nested.map (named "path"))

/-- The string that an object names. -/
def named? (name : String) (j : Json) : Option String := do
  Json.required name Json.asString? (← j.asRecord? [name])

/-- The slots that the members of an object set. -/
def decode? (ms : List (String × Json)) : Option AggregationSlots := do
  return {
    avg := ← Json.optional "avg" (named? "field") ms
    sum := ← Json.optional "sum" (named? "field") ms
    min := ← Json.optional "min" (named? "field") ms
    max := ← Json.optional "max" (named? "field") ms
    cardinality := ← Json.optional "cardinality" Cardinality.decode? ms
    terms := ← Json.optional "terms" TermsBuckets.decode? ms
    dateHistogram := ← Json.optional "date_histogram" DateBuckets.decode? ms
    autoDateHistogram := ← Json.optional "auto_date_histogram" AutoDateBuckets.decode? ms
    nested := ← Json.optional "nested" (named? "path") ms }

/-- The names of the slots, in order. -/
def names : List String :=
  ["avg", "sum", "min", "max", "cardinality", "terms", "date_histogram", "auto_date_histogram",
    "nested"]

end AggregationSlots

namespace Aggregation

/-- The member of inner aggregations, left out when there are none. -/
def innerMember : List (String × Json) → List (String × Json)
  | [] => []
  | members => [("aggregations", .obj members)]

mutual

/-- An aggregation as JSON, the slots in order and the inner ones last. -/
def encode : Aggregation → Json
  | .mk slots inner => .obj (slots.encode ++ innerMember (encodeMembers inner))

def encodeMembers : List (String × Aggregation) → List (String × Json)
  | [] => []
  | (name, a) :: rest => (name, encode a) :: encodeMembers rest

end

/-- The names of the members, in order. -/
def names : List String := AggregationSlots.names ++ ["aggregations"]

/-- The inner aggregations after one more member, which must not hold them a
second time. -/
def addInner? (found : Option (List (String × Aggregation))) (name : String)
    (inner : Option (List (String × Aggregation))) :
    Option (Option (List (String × Aggregation))) :=
  if name = "aggregations" || name = "aggs" then
    if found.isSome then none else inner.map some
  else some found

mutual

/-- The aggregation that a value stands for. -/
def decode? : Json → Option Aggregation
  | .obj members =>
    match AggregationSlots.decode? members, inner? members with
    | some slots, some inner => some (.mk slots (inner.getD []))
    | _, _ => none
  | .arr items =>
    match AggregationSlots.decode? (AggregationSlots.names.zip items), innerItem? names items with
    | some slots, some inner => some (.mk slots (inner.getD []))
    | _, _ => none
  | _ => none

/-- The inner aggregations, if a member holds them. -/
def inner? : List (String × Json) → Option (Option (List (String × Aggregation)))
  | [] => some none
  | (name, j) :: rest =>
    match inner? rest with
    | none => none
    | some found => addInner? found name (decodeMap? j)

/-- The inner aggregations of an aggregation that is written as an array. -/
def innerItem? : List String → List Json → Option (Option (List (String × Aggregation)))
  | _, [] => some none
  | [], _ :: _ => none
  | name :: names, j :: rest =>
    match innerItem? names rest with
    | none => none
    | some found => addInner? found name (decodeMap? j)

/-- The aggregations of an object, by name. -/
def decodeMap? : Json → Option (List (String × Aggregation))
  | .obj members => (decodeMembers? members).map Json.sortMembers
  | _ => none

def decodeMembers? : List (String × Json) → Option (List (String × Aggregation))
  | [] => some []
  | (name, j) :: rest =>
    match decode? j, decodeMembers? rest with
    | some a, some others => some ((name, a) :: others)
    | _, _ => none

end

end Aggregation

end SearchStore
