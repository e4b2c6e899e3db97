import SearchStore.Number.Radix
import SearchStore.Text.Utf8

/-! # Percent encoding

A byte is written as `%` and two capital hexadecimal digits. Which bytes are
written so is up to the place: a segment of a path, a query parameter.
-/

namespace SearchStore.Text.Percent

/-- A byte in encoded form. -/
def byte (b : UInt8) : List Char :=
  ['%', Radix.capitalDigit (b.toNat / 16), Radix.capitalDigit (b.toNat % 16)]

/-- A character in encoded form, one group for each byte. -/
def char (c : Char) : List Char := (String.utf8EncodeChar c).flatMap byte

/-- A text in which the characters that fail `plain` are encoded. -/
def encode (plain : Char → Bool) (s : String) : String :=
  String.ofList (s.toList.flatMap fun c => if plain c then [c] else char c)

/-- The bytes that an encoded text stands for. A `%` without two digits
stands for itself. -/
def decodeChars : List Char → List UInt8
  | '%' :: a :: b :: rest =>
    match Radix.digitValue? a, Radix.digitValue? b with
    | some x, some y => UInt8.ofNat (16 * x + y) :: decodeChars rest
    | _, _ => 0x25 :: decodeChars (a :: b :: rest)
  | c :: rest => String.utf8EncodeChar c ++ decodeChars rest
  | [] => []

/-- The bytes that an encoded text stands for. -/
def decode (s : String) : List UInt8 := decodeChars s.toList

/-! ## Query parameters -/

/-- The characters that a parameter keeps. -/
def keptInParameter (c : Char) : Bool :=
  c.isAlphanum || c = '*' || c = '-' || c = '.' || c = '_'

/-- One side of a parameter: a blank becomes a plus. -/
def parameterPart (s : String) : List Char :=
  s.toList.flatMap fun c =>
    if c = ' ' then ['+'] else if keptInParameter c then [c] else char c

/-- Parameters as the query of a URL. -/
def query : List (String × String) → List Char
  | [] => []
  | [(k, v)] => parameterPart k ++ '=' :: parameterPart v
  | (k, v) :: rest => parameterPart k ++ '=' :: (parameterPart v ++ '&' :: query rest)

end SearchStore.Text.Percent
