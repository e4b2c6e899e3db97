import SearchStore.Error
import SearchStore.Json.Decode
import SearchStore.Json.Printer
import SearchStore.Text.Blank
import SearchStore.Text.Quoted

/-! # Aggregates

What the engine answers to aggregations. In an answer every aggregate stands
under `kind#name`; members without `#` are data of the object around. The
kinds are closed: an unknown one is an error and is never passed over.
-/

namespace SearchStore

/-- The kinds of aggregates that are one number. -/
inductive MetricKind where
  | cardinality
  | avg
  | min
  | max
  | sum
deriving DecidableEq, Repr

def MetricKind.name : MetricKind → String
  | .cardinality => "cardinality"
  | .avg => "avg"
  | .min => "min"
  | .max => "max"
  | .sum => "sum"

/-- A bucket with its key, the engine's text of the key, its number of
documents, and what was computed inside it. -/
structure Bucket (κ α : Type) where
  key : κ
  keyText : Option String
  docCount : Int
  inner : List (String × α)
deriving Inhabited

/-- An aggregate. -/
inductive Aggregate where
  /-- A number, or none if no document had the field. -/
  | metric (kind : MetricKind) (value : Option Double)
  | stringTerms (buckets : List (Bucket String Aggregate))
  | longTerms (buckets : List (Bucket Int Aggregate))
  | doubleTerms (buckets : List (Bucket Double Aggregate))
  /-- Terms of a field that no index has. -/
  | unmappedTerms
  /-- Buckets of time, with keys in milliseconds. -/
  | dateHistogram (buckets : List (Bucket Int Aggregate)) (interval : Option String)
  /-- Buckets of time whose interval the engine has chosen. -/
  | autoDateHistogram (buckets : List (Bucket Int Aggregate)) (interval : Option String)
  | nested (docCount : Int) (inner : List (String × Aggregate))
deriving Inhabited

/-- Aggregates by name, in the order of their names. -/
abbrev Aggregates := List (String × Aggregate)

namespace Aggregate

/-- The kind of an aggregate, as it stands before its name. -/
def kind : Aggregate → String
  | .metric k _ => k.name
  | .stringTerms _ => "sterms"
  | .longTerms _ => "lterms"
  | .doubleTerms _ => "dterms"
  | .unmappedTerms => "umterms"
  | .dateHistogram _ _ => "date_histogram"
  | .autoDateHistogram _ _ => "auto_date_histogram"
  | .nested _ _ => "nested"

/-! ## Keys of buckets -/

/-- A value as messages describe it. -/
def describe : Json → String
  | .null => "null"
  | .bool b => "boolean `" ++ toString b ++ "`"
  | .int n => "integer `" ++ toString n ++ "`"
  | .real x => "floating point `" ++ x.textIn Json.numberLayout ++ "`"
  | .str s => "string " ++ Text.quoted s
  | .arr _ => "sequence"
  | .obj _ => "map"

/-- The message about a value of another type than expected. -/
def wrongType (j : Json) (expected : String) : String :=
  "invalid type: " ++ describe j ++ ", expected " ++ expected

def stringKey : Json → Except String String
  | .str s => .ok s
  | j => .error (wrongType j "a string")

def intKey : Json → Except String Int
  | .int n =>
    if n ≤ Int64.maxValue.toInt then .ok n
    else .error ("invalid value: " ++ describe (.int n) ++ ", expected i64")
  | j => .error (wrongType j "i64")

def doubleKey (j : Json) : Except String Double :=
  match j.asDouble? with
  | some x => .ok x
  | none => .error (wrongType j "f64")

/-! ## Reading -/

/-- The number of documents of a bucket; anything but a signed integer counts
as none. -/
def docCount (members : List (String × Json)) : Int :=
  ((Json.lookup "doc_count" members).bind Json.asInt64?).getD 0

/-- A string member. -/
def stringMember (name : String) (j : Json) : Option String := (j.get? name).bind Json.asString?

/-- The number of a metric. -/
def metricValue (body : Json) : Option Double := (body.get? "value").bind Json.asDouble?

/-- A bucket, given what was read inside it. -/
def bucket {κ : Type} (readKey : Json → Except String κ) (name : String) (j : Json)
    (inner : Except Error Aggregates) : Except Error (Bucket κ Aggregate) :=
  match j with
  | .obj members =>
    match Json.lookup "key" members with
    | none => .error (.invalidAggregate name "bucket without key")
    | some key =>
      match readKey key with
      | .error reason => .error (.invalidAggregate name reason)
      | .ok key => inner.map fun inner =>
        ⟨key, stringMember "key_as_string" j, docCount members, inner⟩
  | _ => .error (.invalidAggregate name "expected an object")

/-- Buckets, given what was read inside each; the first error wins. -/
def bucketList {κ : Type} (readKey : Json → Except String κ) (name : String) :
    List Json → List (Except Error Aggregates) → Except Error (List (Bucket κ Aggregate))
  | j :: rest, inner :: inners =>
    match bucket readKey name j inner with
    | .error e => .error e
    | .ok b => (bucketList readKey name rest inners).map (b :: ·)
  | _, _ => .ok []

/-- The buckets of a body, given what was read inside each. A body without
buckets has none. -/
def buckets {κ : Type} (readKey : Json → Except String κ) (name : String) (body : Json)
    (inners : List (Except Error Aggregates)) : Except Error (List (Bucket κ Aggregate)) :=
  match body.get? "buckets" with
  | none => .ok []
  | some (.arr items) => bucketList readKey name items inners
  | some _ => .error (.invalidAggregate name "keyed buckets are not supported")

/-- The aggregate of a kind, a name and a body, given the aggregates among the
members of the body and those inside each of its buckets. -/
def assemble (kind name : String) (body : Json) (inner : Except Error Aggregates)
    (inners : List (Except Error Aggregates)) : Except Error Aggregate :=
  match kind with
  | "cardinality" => .ok (.metric .cardinality (metricValue body))
  | "avg" => .ok (.metric .avg (metricValue body))
  | "min" => .ok (.metric .min (metricValue body))
  | "max" => .ok (.metric .max (metricValue body))
  | "sum" => .ok (.metric .sum (metricValue body))
  | "sterms" => (buckets stringKey name body inners).map .stringTerms
  | "lterms" => (buckets intKey name body inners).map .longTerms
  | "dterms" => (buckets doubleKey name body inners).map .doubleTerms
  | "umterms" => .ok .unmappedTerms
  | "date_histogram" =>
    (buckets intKey name body inners).map (.dateHistogram · (stringMember "interval" body))
  | "auto_date_histogram" =>
    (buckets intKey name body inners).map (.autoDateHistogram · (stringMember "interval" body))
  | "nested" =>
    match body with
    | .obj members => inner.map (.nested (docCount members))
    | _ => .error (.invalidAggregate name "expected an object")
  | kind => .error (.unsupportedAggregation kind)

mutual

/-- The aggregate of a kind, a name and a body. -/
def ofBody (kind name : String) : Json → Except Error Aggregate
  | .obj members =>
    assemble kind name (.obj members) ((typedMembers members).map Json.sortMembers)
      (insideMembers members)
  | body => assemble kind name body (.ok []) []

/-- The aggregates among the members of an object, in order. The first error
wins. -/
def typedMembers : List (String × Json) → Except Error Aggregates
  | [] => .ok []
  | (key, body) :: rest =>
    match Text.cutAt? '#' key.toList with
    | none => typedMembers rest
    | some (kind, name) =>
      match ofBody (String.ofList kind) (String.ofList name) body with
      | .error e => .error e
      | .ok a => (typedMembers rest).map ((String.ofList name, a) :: ·)

/-- What is inside each of the buckets that the member `buckets` holds. -/
def insideMembers : List (String × Json) → List (Except Error Aggregates)
  | [] => []
  | (name, j) :: rest => if name = "buckets" then insideBuckets j else insideMembers rest

def insideBuckets : Json → List (Except Error Aggregates)
  | .arr items => insideItems items
  | _ => []

def insideItems : List Json → List (Except Error Aggregates)
  | [] => []
  | j :: rest => insideItem j :: insideItems rest

/-- The aggregates inside a bucket. -/
def insideItem : Json → Except Error Aggregates
  | .obj members => (typedMembers members).map Json.sortMembers
  | _ => .ok []

end

/-- The aggregates among the members of an object, by name. The last of
several aggregates of one name stays. -/
def ofMembers (members : List (String × Json)) : Except Error Aggregates :=
  (typedMembers members).map Json.sortMembers

end Aggregate

end SearchStore
