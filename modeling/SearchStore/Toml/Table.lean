import SearchStore.Json.Basic

/-! # Tables of TOML

A document is a table of tables, which its lines build one after the other.
How a table came to be decides who may still add to it: a table that a header
has named is complete once the next header follows, and one that a key with
dots has begun can only be continued by such keys.
-/

namespace SearchStore.Toml

/-- How a table came to be. -/
inductive Origin where
  /-- A header named it. -/
  | header
  /-- It lies on the way to a table that a header named. -/
  | way
  /-- A key with dots began it. -/
  | dotted
deriving DecidableEq, Repr

/-- What a name stands for. -/
inductive Node where
  | value (j : Json)
  | table (origin : Origin) (members : List (String × Node))
  /-- The tables of a repeated header; the newest one is open. -/
  | tables (older : List (List (String × Node))) (newest : List (String × Node))
deriving Inhabited

/-- The members of a table. -/
abbrev Members := List (String × Node)

namespace Members

/-- Puts a node in the place of the one that has a name, or at the end. -/
def set (name : String) (node : Node) : Members → Members
  | [] => [(name, node)]
  | (k, n) :: rest => if k = name then (k, node) :: rest else (k, n) :: set name node rest

/-- Gives a value to the name at the end of a key with dots. The name must be
new. -/
def assign (name : String) (j : Json) : List String → Members → Option Members
  | [], ms => if (Json.lookup name ms).isSome then none else some (set name (.value j) ms)
  | first :: rest, ms =>
    match Json.lookup first ms with
    | none => do return set first (.table .dotted (← assign name j rest [])) ms
    | some (.table origin inner) =>
      if origin = .header || (rest.isEmpty && origin ≠ .dotted) then none
      else do return set first (.table origin (← assign name j rest inner)) ms
    | some (.tables older newest) =>
      if rest.isEmpty then none
      else do return set first (.tables older (← assign name j rest newest)) ms
    | some (.value _) => none

/-- Changes the table at the end of a way. Tables that are missing on the way
are begun, and of repeated tables the newest is taken. -/
def changeAt (change : Members → Option Members) : List String → Members → Option Members
  | [], ms => change ms
  | first :: rest, ms =>
    match Json.lookup first ms with
    | none => do return set first (.table .way (← changeAt change rest [])) ms
    | some (.table origin inner) => do
      return set first (.table origin (← changeAt change rest inner)) ms
    | some (.tables older newest) => do
      return set first (.tables older (← changeAt change rest newest)) ms
    | some (.value _) => none

/-- Names a table by a header. -/
def name (name : String) (ms : Members) : Option Members :=
  match Json.lookup name ms with
  | none => some (set name (.table .header []) ms)
  | some (.table .way inner) => some (set name (.table .header inner) ms)
  | some _ => none

/-- Begins a further table of a repeated header. -/
def repeated (name : String) (ms : Members) : Option Members :=
  match Json.lookup name ms with
  | none => some (set name (.tables [] []) ms)
  | some (.tables older newest) => some (set name (.tables (older ++ [newest]) []) ms)
  | some _ => none

end Members

mutual

/-- The value of a node. -/
def Node.toJson : Node → Json
  | .value j => j
  | .table _ members => .obj (membersJson members)
  | .tables older newest => .arr (tablesJson older ++ [.obj (membersJson newest)])

/-- The values of the members of a table. -/
def membersJson : List (String × Node) → List (String × Json)
  | [] => []
  | (k, n) :: rest => (k, n.toJson) :: membersJson rest

/-- The values of tables. -/
def tablesJson : List (List (String × Node)) → List Json
  | [] => []
  | ms :: rest => .obj (membersJson ms) :: tablesJson rest

end

/-! ## Statements -/

/-- A line of a document. The name at the end of a key or a header is kept
apart from the way to it. -/
inductive Statement where
  | header (way : List String) (name : String)
  | repeated (way : List String) (name : String)
  | assign (way : List String) (name : String) (j : Json)

/-- The tables that some statements build; `here` is the way to the table that
the last header named. -/
def build (here : List String) (ms : Members) : List Statement → Option Members
  | [] => some ms
  | .header way name :: rest => do
    build (way ++ [name]) (← ms.changeAt (Members.name name) way) rest
  | .repeated way name :: rest => do
    build (way ++ [name]) (← ms.changeAt (Members.repeated name) way) rest
  | .assign way name j :: rest => do
    build here (← ms.changeAt (Members.assign name j way) here) rest

end SearchStore.Toml
