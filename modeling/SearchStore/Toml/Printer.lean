import SearchStore.Toml.Quoted
import SearchStore.Json.Basic

/-! # Writing TOML

A record of settings as a document: a line for each value, then the tables,
each with a header. Only strings, integers, and arrays of them can be written.
-/

namespace SearchStore.Toml

/-- A value that fits on one line. Integers have 64 bits. -/
def scalarText? : Json → Option (List Char)
  | .str s => some (quote s.toList)
  | .int n =>
    if Int64.minValue.toInt ≤ n && n ≤ Int64.maxValue.toInt then some (toString n).toList else none
  | _ => none

/-- An item on a line of its own. -/
def itemLine (item : List Char) : List Char := "\n    ".toList ++ item ++ [',']

/-- A value. The items of an array stand on lines of their own if there are
several. -/
def valueText? : Json → Option (List Char)
  | .arr items => do
    match ← items.mapM scalarText? with
    | [] => return "[]".toList
    | [item] => return '[' :: (item ++ [']'])
    | items => return '[' :: (items.flatMap itemLine ++ "\n]".toList)
  | j => scalarText? j

/-- A line that gives a value to a name. Names need no quotes. -/
def line? (m : String × Json) : Option (List Char) := do
  return m.1.toList ++ " = ".toList ++ (← valueText? m.2) ++ ['\n']

/-- The lines of a table. -/
def lines? (members : List (String × Json)) : Option (List Char) := do
  return (← members.mapM line?).flatten

/-- A table with its header, after an empty line. -/
def section? (name : String) (members : List (String × Json)) : Option (List Char) := do
  return "\n[".toList ++ name.toList ++ "]\n".toList ++ (← lines? members)

/-- The values among some members. -/
def isValue : String × Json → Bool
  | (_, .obj _) => false
  | _ => true

/-- The sections of the tables among some members. -/
def sections? : List (String × Json) → Option (List Char)
  | [] => some []
  | (name, .obj members) :: rest => do
    return (← section? name members) ++ (← sections? rest)
  | _ :: rest => sections? rest

/-- The document with some members. -/
def render? (members : List (String × Json)) : Option String := do
  return String.ofList ((← lines? (members.filter isValue)) ++ (← sections? members))

end SearchStore.Toml
