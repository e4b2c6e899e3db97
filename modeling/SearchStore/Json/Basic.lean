import SearchStore.Number.Double

/-! # JSON values

A JSON value is a tree. Integers and doubles are kept apart: `1` and `1.0` are
different values, and only an integer decodes where an integer is asked for.

Members of an object are a list. As read from a text they stand in the order
of the text, and a name may stand there twice. `Json.canonical` orders them by
name at every level, the last of several members of one name being the one
that counts. Documents and other values that are stored or compared are
canonical; the order of names is that of their characters' code points, which
is also the order of their UTF-8 bytes.
-/

namespace SearchStore

/-- A JSON value. -/
inductive Json where
  | null
  | bool (b : Bool)
  /-- A whole number between `-2 ^ 63` and `2 ^ 64 - 1`. -/
  | int (n : Int)
  /-- Any other number, as a finite double. -/
  | real (x : Double)
  | str (s : String)
  | arr (items : List Json)
  | obj (members : List (String × Json))
deriving Inhabited, Repr

namespace Json

/-! ## Members -/

/-- Puts a member in its place among members ordered by name, instead of one
with the same name. -/
def insertMember {α : Type} (name : String) (value : α) :
    List (String × α) → List (String × α)
  | [] => [(name, value)]
  | (k, v) :: rest =>
    if name < k then (name, value) :: (k, v) :: rest
    else if name = k then (name, value) :: rest
    else (k, v) :: insertMember name value rest

/-- The members ordered by name. Of several with one name the last stays. -/
def sortMembers {α : Type} (members : List (String × α)) : List (String × α) :=
  members.foldl (fun sorted m => insertMember m.1 m.2 sorted) []

/-- The value of the first member with a name. -/
def lookup {α : Type} (name : String) (members : List (String × α)) : Option α :=
  (members.find? fun m => m.1 = name).map Prod.snd

/-- The member of an object with a name. Other values have no members. -/
def get? (name : String) : Json → Option Json
  | .obj members => lookup name members
  | _ => none

mutual

/-- The value with the members of every object in order, one for each name. -/
def canonical : Json → Json
  | .arr items => .arr (canonicalItems items)
  | .obj members => .obj (sortMembers (canonicalMembers members))
  | .null => .null
  | .bool b => .bool b
  | .int n => .int n
  | .real x => .real x
  | .str s => .str s

def canonicalItems : List Json → List Json
  | [] => []
  | j :: rest => j.canonical :: canonicalItems rest

def canonicalMembers : List (String × Json) → List (String × Json)
  | [] => []
  | (k, j) :: rest => (k, j.canonical) :: canonicalMembers rest

end

/-- An object from its members, in order. -/
def ofMembers (members : List (String × Json)) : Json := .obj (sortMembers members)

/-- A double as a JSON number. JSON has no infinities and no not-a-number:
those become `null`. -/
def ofDouble (x : Double) : Json := if x.isFinite then .real x else .null

/-- A list of strings. -/
def ofStrings (ss : List String) : Json := .arr (ss.map .str)

/-! ## Equality

Two numbers are equal if both are integers, or both doubles, of one value: the
two zeros of the doubles are equal. -/

/-- Equality of finite doubles as numbers. -/
def sameReal (x y : Double) : Bool := x == y || (x.toGrid == 0 && y.toGrid == 0)

mutual

def beq : Json → Json → Bool
  | .null, .null => true
  | .bool a, .bool b => a == b
  | .int m, .int n => m == n
  | .real x, .real y => sameReal x y
  | .str s, .str t => s == t
  | .arr xs, .arr ys => beqItems xs ys
  | .obj xs, .obj ys => beqMembers xs ys
  | _, _ => false

def beqItems : List Json → List Json → Bool
  | [], [] => true
  | x :: xs, y :: ys => beq x y && beqItems xs ys
  | _, _ => false

def beqMembers : List (String × Json) → List (String × Json) → Bool
  | [], [] => true
  | (k, x) :: xs, (l, y) :: ys => k == l && beq x y && beqMembers xs ys
  | _, _ => false

end

instance : BEq Json := ⟨beq⟩

end Json

end SearchStore
