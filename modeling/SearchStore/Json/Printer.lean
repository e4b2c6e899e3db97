import SearchStore.Json.Basic
import SearchStore.Number.Decimal

/-! # Writing JSON

The compact form: no blanks, members in the order they have in the value. A
string escapes the quote, the backslash and the control characters below the
blank, and nothing else.
-/

namespace SearchStore.Json

/-- Doubles from `10 ^ -5` up to below `10 ^ 16` have all digits in their
place, a whole one with the fraction zero; others have an exponent. -/
def numberLayout : Decimal.Layout := ⟨some (-5, 15), true⟩

/-- A character of a string between quotes. -/
def escape (c : Char) : List Char :=
  if c = '"' then ['\\', '"']
  else if c = '\\' then ['\\', '\\']
  else if c = '\n' then ['\\', 'n']
  else if c = '\r' then ['\\', 'r']
  else if c = '\t' then ['\\', 't']
  else if c = '\x08' then ['\\', 'b']
  else if c = '\x0c' then ['\\', 'f']
  else if c.toNat < 0x20 then
    ['\\', 'u', '0', '0', Nat.digitChar (c.toNat / 16), Nat.digitChar (c.toNat % 16)]
  else [c]

/-- A string in quotes. -/
def quote (s : String) : List Char := '"' :: (s.toList.flatMap escape ++ ['"'])

mutual

/-- The characters of a value in compact form. -/
def chars : Json → List Char
  | .null => "null".toList
  | .bool true => "true".toList
  | .bool false => "false".toList
  | .int n => (toString n).toList
  | .real x => (x.textIn numberLayout).toList
  | .str s => quote s
  | .arr [] => ['[', ']']
  | .arr (j :: rest) => '[' :: (chars j ++ itemChars rest ++ [']'])
  | .obj [] => ['{', '}']
  | .obj ((k, j) :: rest) => '{' :: (quote k ++ ':' :: chars j ++ memberChars rest ++ ['}'])

/-- Further items, each after a comma. -/
def itemChars : List Json → List Char
  | [] => []
  | j :: rest => ',' :: (chars j ++ itemChars rest)

/-- Further members, each after a comma. -/
def memberChars : List (String × Json) → List Char
  | [] => []
  | (k, j) :: rest => ',' :: (quote k ++ ':' :: chars j ++ memberChars rest)

end

/-- A value in compact form. -/
def render (j : Json) : String := String.ofList (chars j)

end SearchStore.Json
