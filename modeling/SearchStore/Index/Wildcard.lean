/-! # Wildcards

A pattern matches a whole name. `*` stands for any characters and `?` for one
character, line breaks excepted; every other character stands for itself.

The match is computed by rows. The row of a pattern says for each end piece of
the name, from the whole name down to nothing, whether the pattern matches that
piece, and the row of a longer pattern follows from the row of the pattern
without its first character. So the work is the product of the two lengths,
however many stars there are.
-/

namespace SearchStore.Wildcard

/-- The row of the empty pattern. -/
def emptyRow : List Char → List Bool
  | [] => [true]
  | _ :: rest => false :: emptyRow rest

/-- The row of a pattern that begins with one character passing `ok`, from the
row of the rest of the pattern. -/
def oneRow (ok : Char → Bool) : List Char → List Bool → List Bool
  | x :: rest, _ :: row => (ok x && row.headD false) :: oneRow ok rest row
  | _, _ => [false]

/-- The row of a pattern that begins with a star, from the row of the rest. -/
def starRow : List Char → List Bool → List Bool
  | x :: rest, b :: row =>
    let tail := starRow rest row
    (b || (x != '\n' && tail.headD false)) :: tail
  | _, row => row

/-- The row of a pattern. -/
def row (name : List Char) : List Char → List Bool
  | [] => emptyRow name
  | '*' :: pattern => starRow name (row name pattern)
  | '?' :: pattern => oneRow (· != '\n') name (row name pattern)
  | c :: pattern => oneRow (· == c) name (row name pattern)

/-- Whether a name matches a pattern. -/
def isMatch (name pattern : String) : Bool := (row name.toList pattern.toList).headD false

end SearchStore.Wildcard
