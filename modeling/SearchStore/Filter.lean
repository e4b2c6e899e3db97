import SearchStore.Error
import SearchStore.Json.Decode
import SearchStore.Json.Printer
import SearchStore.Number.Numeral
import SearchStore.Text.Blank

/-! # Filters

A filter compares one field of a document with some values. A field whose name
has a point belongs to a nested document; what stands before the first point
is the path of that document.
-/

namespace SearchStore

/-- How a filter compares a field with its values. -/
inductive Operator where
  | eq
  | neq
  | like
  | gt
  | gte
  | lt
  | lte
  | isIn
  | notIn
  | between
  | contains
deriving DecidableEq, Repr

namespace Operator

def all : List Operator :=
  [.eq, .neq, .like, .gt, .gte, .lt, .lte, .isIn, .notIn, .between, .contains]

def name : Operator → String
  | .eq => "eq"
  | .neq => "neq"
  | .like => "like"
  | .gt => "gt"
  | .gte => "gte"
  | .lt => "lt"
  | .lte => "lte"
  | .isIn => "in"
  | .notIn => "not_in"
  | .between => "between"
  | .contains => "contains"

/-- The operator with a name. -/
def ofName? (name : String) : Option Operator := all.find? fun o => o.name = name

end Operator

/-- The path of the nested document that a field belongs to. -/
def nestedPath? (field : String) : Option String :=
  (Text.cutAt? '.' field.toList).map fun (path, _) => String.ofList path

/-- A comparison of one field with some values. An inactive filter takes no
part in a query. -/
structure Filter where
  field : String
  operator : Operator
  values : List Json
  active : Bool := true
deriving Repr

namespace Filter

/-- Keeps the filter only under a condition. -/
def when (f : Filter) (active : Bool) : Filter := { f with active }

def first? (f : Filter) : Option Json := f.values.head?

/-- The path of the nested document that the filter looks into. -/
def path? (f : Filter) : Option String := nestedPath? f.field

/-- A value as a number: a JSON number, or a string that reads as one when
the blanks around it are trimmed. -/
def toDouble? : Json → Option Double
  | .str s => Double.ofText? (Text.trim s)
  | j => j.asDouble?

/-- The value at a place as a number; nothing if there is no such place. -/
def numberAt (f : Filter) (place : Nat) : Except Error (Option Double) :=
  match f.values[place]? with
  | none => .ok none
  | some j =>
    match toDouble? j with
    | some x => .ok (some x)
    | none => .error (.conversion f.field j.render)

/-! ## Building filters -/

def eq (field : String) (value : Json) : Filter := ⟨field, .eq, [value], true⟩
def neq (field : String) (value : Json) : Filter := ⟨field, .neq, [value], true⟩
def like (field : String) (pattern : String) : Filter := ⟨field, .like, [.str pattern], true⟩
def gt (field : String) (value : Json) : Filter := ⟨field, .gt, [value], true⟩
def gte (field : String) (value : Json) : Filter := ⟨field, .gte, [value], true⟩
def lt (field : String) (value : Json) : Filter := ⟨field, .lt, [value], true⟩
def lte (field : String) (value : Json) : Filter := ⟨field, .lte, [value], true⟩
def isIn (field : String) (values : List Json) : Filter := ⟨field, .isIn, values, true⟩
def notIn (field : String) (values : List Json) : Filter := ⟨field, .notIn, values, true⟩

def between (field : String) (first last : Json) : Filter :=
  ⟨field, .between, [first, last], true⟩

/-- A range without an upper end. -/
def atLeast (field : String) (first : Json) : Filter := ⟨field, .between, [first], true⟩

def contains (field : String) (value : Json) : Filter := ⟨field, .contains, [value], true⟩

end Filter

end SearchStore
