import SearchStore.Calendar
import SearchStore.Mapping
import SearchStore.Text.Blank

/-! # Names of indices

A table is a template for names of indices, such as
`hero-{accountId}-{year}`, with tokens in braces. A document is
written into the index that the template names for a key and a month. It is
looked for in all indices that a pattern covers, whatever the month.
-/

namespace SearchStore.Index

/-! ## Filling in a template -/

/-- Puts `value` in the place of every occurrence of `token`, from left to
right. `skip` characters belong to an occurrence that is already replaced. -/
def replaceFrom (token value : List Char) : Nat → List Char → List Char
  | _, [] => []
  | skip + 1, _ :: rest => replaceFrom token value skip rest
  | 0, c :: rest =>
    if token.isPrefixOf (c :: rest) then
      value ++ replaceFrom token value (token.length - 1) rest
    else c :: replaceFrom token value 0 rest

/-- Puts `value` in the place of every occurrence of `token`. -/
def replaceAll (token value cs : List Char) : List Char := replaceFrom token value 0 cs

/-- Puts a value in the place of a token in double braces and then of the
token in single braces. -/
def fillToken (name : String) (value cs : List Char) : List Char :=
  let single := '\x7b' :: (name.toList ++ ['\x7d'])
  let double := '\x7b' :: (single ++ ['\x7d'])
  replaceAll single value (replaceAll double value cs)

/-- A number with zeros before it, up to a width that includes the sign. -/
def padded (width : Nat) (n : Int) : List Char :=
  let digits := Nat.toDigits 10 n.natAbs
  let sign := if n < 0 then ['-'] else []
  sign ++ List.replicate (width - sign.length - digits.length) '0' ++ digits

/-- The tokens of a template and what they stand for, in the order in which
they are filled in. A value that itself looks like a later token is filled in
again. -/
def tokens (key : String) (date : Date) : List (String × List Char) :=
  let year := padded 4 date.year
  let month := padded 2 date.month
  [("accountId", key.toList), ("year", year), ("month", month), ("YYYY", year), ("MM", month)]

/-- The characters of the index that a table names for a key on a day. -/
def nameChars (table key : String) (date : Date) : List Char :=
  (tokens key date).foldl (fun cs t => fillToken t.1 t.2 cs) table.toList

/-- The index that a table names for a key on a day. -/
def name (table key : String) (date : Date) : String := String.ofList (nameChars table key date)

/-! ## Patterns over a table -/

/-- The part of a template before its first token that follows a hyphen. A
template that begins with such a token, or has none, is taken whole. -/
def baseChars : List Char → List Char
  | [] => []
  | '-' :: '\x7b' :: _ => []
  | c :: rest => c :: baseChars rest

/-- The fixed beginning of the names that a table makes. -/
def base (table : String) : List Char :=
  match baseChars table.toList with
  | [] => table.toList
  | cs => cs

/-- The pattern that covers the indices of a table for a key, or of all keys
if the key is empty. -/
def patternChars (table key : String) : List Char :=
  if key.isEmpty then base table ++ ['-', '*']
  else base table ++ '-' :: (key.toList ++ ['-', '*'])

/-- The pattern that covers the indices of a table for a key, or of all keys
if the key is empty. -/
def pattern (table key : String) : String := String.ofList (patternChars table key)

/-- The name of the index template of a table: what stands before the first
brace. -/
def templateName (table : String) : String :=
  String.ofList (table.toList.takeWhile (· != '\x7b'))

/-- The pattern of names to which the index template of a table applies. -/
def templatePattern (table : String) : String :=
  match Text.cutAt? '-' table.toList with
  | none => table
  | some (before, _) => String.ofList (before ++ ['-', '*'])

/-- The index template of a table with its fields. -/
def template (table : String) (fields : List FieldMapping) : Json :=
  .obj [("index_patterns", .arr [.str (templatePattern table)]),
    ("template", .obj [("mappings", mappingBody fields)])]

end SearchStore.Index
