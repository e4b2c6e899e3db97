import SearchStore.Json.Decode

/-! # Drafts

A draft is a JSON text taken apart but not yet valued. Some of its parts may
have the form of JSON and still no value. Where a record is read, that matters
only for the members that the record has: all others are skipped unseen.

`Draft.toJson?` values a whole draft, and `Draft.ofJson` goes back.
-/

namespace SearchStore.Json

/-- A text taken apart. -/
inductive Draft where
  /-- A part that has no value: a number that is too large, a string that says
  nothing, or an array or object that lies too deep. -/
  | unreadable
  /-- A string, a number or one of the three names. -/
  | leaf (j : Json)
  | arr (items : List Draft)
  /-- An object. A name that says nothing is `none`. -/
  | obj (members : List (Option String × Draft))
deriving Inhabited

namespace Draft

mutual

/-- The value of a draft, members as they are written, if every part of it has
a value. -/
def toJson? : Draft → Option Json
  | .unreadable => none
  | .leaf j => some j
  | .arr items => (itemsToJson? items).map .arr
  | .obj members => (membersToJson? members).map .obj

def itemsToJson? : List Draft → Option (List Json)
  | [] => some []
  | d :: rest =>
    match toJson? d, itemsToJson? rest with
    | some j, some js => some (j :: js)
    | _, _ => none

def membersToJson? : List (Option String × Draft) → Option (List (String × Json))
  | [] => some []
  | (name, d) :: rest =>
    match name, toJson? d, membersToJson? rest with
    | some name, some j, some ms => some ((name, j) :: ms)
    | _, _, _ => none

end

mutual

/-- The draft of a value. -/
def ofJson : Json → Draft
  | .arr items => .arr (ofItems items)
  | .obj members => .obj (ofMembers members)
  | .null => .leaf .null
  | .bool b => .leaf (.bool b)
  | .int n => .leaf (.int n)
  | .real x => .leaf (.real x)
  | .str s => .leaf (.str s)

def ofItems : List Json → List Draft
  | [] => []
  | j :: rest => ofJson j :: ofItems rest

def ofMembers : List (String × Json) → List (Option String × Draft)
  | [] => []
  | (name, j) :: rest => (some name, ofJson j) :: ofMembers rest

end

/-! ## Taking drafts apart -/

/-- A draft of which every part counts, read as a value. -/
def whole? {α : Type} (read : Json → Option α) (d : Draft) : Option α := d.toJson?.bind read

def asString? : Draft → Option String := whole? Json.asString?

def asBool? : Draft → Option Bool := whole? Json.asBool?

/-- A whole number that is not negative and below a bound. -/
def asBelow? (bound : Nat) : Draft → Option Nat := whole? (Json.asBelow? bound)

/-- A 64-bit count. -/
def asCount? : Draft → Option Nat := whole? Json.asCount?

def asItems? : Draft → Option (List Draft)
  | .arr items => some items
  | _ => none

/-- The members with their names. A name that says nothing is an error, even
where its member would be skipped. -/
def named? (members : List (Option String × Draft)) : Option (List (String × Draft)) :=
  members.mapM fun (name, d) => name.map (·, d)

def asMembers? : Draft → Option (List (String × Draft))
  | .obj members => named? members
  | _ => none

/-- The members of a record. -/
def asRecord? (names : List String) : Draft → Option (List (String × Draft))
  | .obj members => named? members
  | .arr items => positional names items
  | _ => none

/-- `null` counts as nothing. -/
def nullable {α : Type} (read : Draft → Option α) : Draft → Option (Option α)
  | .leaf .null => some none
  | d => (read d).map some

/-- A member that may be missing or `null`. -/
def optional {α : Type} (name : String) (read : Draft → Option α)
    (members : List (String × Draft)) : Option (Option α) :=
  withDefault name none (nullable read) members

/-- An array of parts of one kind. -/
def asList? {α : Type} (read : Draft → Option α) (d : Draft) : Option (List α) := do
  (← d.asItems?).mapM read

/-- An object as a map from names: the last member of a name counts. -/
def asMap? {α : Type} (read : Draft → Option α) (d : Draft) : Option (List (String × α)) := do
  let members ← (← d.asMembers?).mapM fun (k, v) => (read v).map (k, ·)
  return sortMembers members

end Draft

end SearchStore.Json
