import SearchStore.Number.Decimal

/-! # Keys of groups

Groups are keyed by strings, by integers or by doubles. All keys stand in one
order: strings by their characters, then integers, then doubles by the total
order of their bits, in which the two zeros differ and every not-a-number has
a place. Two keys are the same only if they are of one type and bit for bit
the same.
-/

namespace SearchStore

/-- The key of a group. -/
inductive GroupKey where
  | str (s : String)
  | int (n : Int)
  | double (x : Double)
deriving DecidableEq, Repr

namespace GroupKey

/-- Strings come first, then integers, then doubles. -/
def rank : GroupKey → Nat
  | .str _ => 0
  | .int _ => 1
  | .double _ => 2

/-- The order of keys. -/
def compare : GroupKey → GroupKey → Ordering
  | .str s, .str t => Ord.compare s t
  | .int m, .int n => Ord.compare m n
  | .double x, .double y => Ord.compare x.orderKey y.orderKey
  | a, b => Ord.compare a.rank b.rank

instance : Ord GroupKey := ⟨compare⟩

/-- Two keys are the same if neither comes before the other. -/
instance : BEq GroupKey := ⟨fun a b => compare a b == .eq⟩

/-- A piece of what a hash function is given. -/
inductive HashPiece where
  | rank (n : Nat)
  | text (s : String)
  | int (n : Int)
  | bits (b : UInt64)
deriving DecidableEq, Repr

/-- What a key gives to a hash function: its rank, and then its content. -/
def pieces (k : GroupKey) : List HashPiece :=
  .rank k.rank :: match k with
    | .str s => [.text s]
    | .int n => [.int n]
    | .double x => [.bits x.bits]

/-- The string of a key that is one. -/
def asString? : GroupKey → Option String
  | .str s => some s
  | _ => none

/-- A key as people read it. -/
def text : GroupKey → String
  | .str s => s
  | .int n => toString n
  | .double x => x.toPlainText

end GroupKey

/-- Puts a value in its place among values ordered by key, instead of one with
the same key. -/
def insertByKey {κ α : Type} (order : κ → κ → Ordering) (key : κ) (value : α) :
    List (κ × α) → List (κ × α)
  | [] => [(key, value)]
  | (k, v) :: rest =>
    match order key k with
    | .lt => (key, value) :: (k, v) :: rest
    | .eq => (key, value) :: rest
    | .gt => (k, v) :: insertByKey order key value rest

end SearchStore
