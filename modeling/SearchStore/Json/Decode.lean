import SearchStore.Json.Basic

/-! # Taking JSON values apart

Readers for the parts of a record that is sent as an object. Members that
nobody asks for are ignored, and a member that is asked for must not stand
twice. `none` means that the value has not the shape that is needed.
-/

namespace SearchStore.Json

def asString? : Json → Option String
  | .str s => some s
  | _ => none

def asBool? : Json → Option Bool
  | .bool b => some b
  | _ => none

def asItems? : Json → Option (List Json)
  | .arr items => some items
  | _ => none

def asMembers? : Json → Option (List (String × Json))
  | .obj members => some members
  | _ => none

/-- A whole number that is not negative and below a bound. -/
def asBelow? (bound : Nat) : Json → Option Nat
  | .int n => if 0 ≤ n && n < bound then some n.toNat else none
  | _ => none

/-- A 64-bit count. -/
def asCount? : Json → Option Nat := asBelow? UInt64.size

/-- A signed 64-bit integer. -/
def asInt64? : Json → Option Int
  | .int n => if n ≤ Int64.maxValue.toInt then some n else none
  | _ => none

/-- Any number, as a double. -/
def asDouble? : Json → Option Double
  | .int n => some (.ofInt n)
  | .real x => some x
  | _ => none

/-- Any number, as a single. -/
def asSingle? : Json → Option Single
  | .int n => some (.ofInt n)
  | .real x => some (.ofDouble x)
  | _ => none

def asStrings? (j : Json) : Option (List String) := do (← j.asItems?).mapM asString?

/-! ## Records

A record is an object whose members have names that are known. It can also be
an array, whose items are then the members in the order of those names, the
last ones left out where they have a default.
-/

/-- The items of an array as members of the names in order. There must not be
more items than names. -/
def positional {α : Type} (names : List String) (items : List α) :
    Option (List (String × α)) :=
  if items.length ≤ names.length then some (names.zip items) else none

/-- The members of a record. -/
def asRecord? (names : List String) : Json → Option (List (String × Json))
  | .obj members => some members
  | .arr items => positional names items
  | _ => none

/-- The member that goes by one of the names. It must not be there twice. -/
def member? {α : Type} (names : List String) (members : List (String × α)) : Option (Option α) :=
  match members.filter fun m => names.contains m.1 with
  | [] => some none
  | [(_, j)] => some (some j)
  | _ => none

/-- A member that has to be there. -/
def required {α β : Type} (name : String) (read : α → Option β)
    (members : List (String × α)) : Option β := do
  read (← (← member? [name] members))

/-- A member of several names that may be missing. -/
def withDefaultAmong {α β : Type} (names : List String) (default : β) (read : α → Option β)
    (members : List (String × α)) : Option β := do
  match ← member? names members with
  | none => some default
  | some j => read j

/-- A member that may be missing. -/
def withDefault {α β : Type} (name : String) (default : β) (read : α → Option β)
    (members : List (String × α)) : Option β :=
  withDefaultAmong [name] default read members

/-- `null` counts as nothing. -/
def nullable {α : Type} (read : Json → Option α) : Json → Option (Option α)
  | .null => some none
  | j => (read j).map some

/-- A member of several names that may be missing or `null`. -/
def optionalAmong {α : Type} (names : List String) (read : Json → Option α)
    (members : List (String × Json)) : Option (Option α) :=
  withDefaultAmong names none (nullable read) members

/-- A member that may be missing or `null`. -/
def optional {α : Type} (name : String) (read : Json → Option α)
    (members : List (String × Json)) : Option (Option α) :=
  optionalAmong [name] read members

/-- A name out of a closed set, written as a string or as an object whose one
member is `null`. -/
def asName? : Json → Option String
  | .str s => some s
  | .obj [(name, .null)] => some name
  | _ => none

/-- An object as a map from names: the last member of a name counts. -/
def asMap? {α : Type} (read : Json → Option α) (j : Json) : Option (List (String × α)) := do
  let members ← (← j.asMembers?).mapM fun (k, v) => (read v).map (k, ·)
  return sortMembers members

/-! ## Writing records -/

/-- A member that is left out when there is no value. -/
def optionalMember (name : String) (value : Option Json) : List (String × Json) :=
  match value with
  | none => []
  | some j => [(name, j)]

/-- A member that is left out when the list is empty. -/
def listMember (name : String) (items : List Json) : List (String × Json) :=
  if items.isEmpty then [] else [(name, .arr items)]

/-- A count or a size. -/
def ofNat (n : Nat) : Json := .int n

end SearchStore.Json
