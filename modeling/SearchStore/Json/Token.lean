import SearchStore.Json.Basic
import SearchStore.Number.Numeral
import SearchStore.Number.Radix

/-! # JSON tokens

A JSON text is a sequence of tokens with blanks between them. The form of a
token is strict: no comments, no leading zeros, no control characters inside
strings, no backslash before just any character.

A token of correct form need not have a value. A number may be too large for a
double, and a string may have half of a surrogate pair, or bytes that are no
character. Whether that matters is up to whoever asks for the value.
-/

namespace SearchStore.Json

/-- A character of a text, or `none` for bytes that belong to no character. -/
abbrev Symbol := Option Char

/-- The symbols of a text. -/
def symbolsOf (s : String) : List Symbol := s.toList.map some

/-- A token of a JSON text. -/
inductive Token where
  | openArray
  | closeArray
  | openObject
  | closeObject
  | colon
  | comma
  /-- A string, and what it says if that can be told. -/
  | str (content : Option String)
  /-- A number or one of the three names, and its value if it has one. -/
  | scalar (value : Option Json)
deriving Inhabited

namespace Token

/-- A blank of JSON. -/
def isBlank (c : Symbol) : Bool :=
  c = some ' ' || c = some '\n' || c = some '\t' || c = some '\r'

/-! ## Strings -/

/-- A part of a string as it is written. -/
inductive Part where
  /-- A character by itself or by its letter after a backslash. -/
  | char (c : Char)
  /-- A unit of UTF-16 in hexadecimal digits. -/
  | unit (n : Nat)
  /-- Bytes that belong to no character. -/
  | broken
deriving DecidableEq, Repr

/-- Four hexadecimal digits. -/
def hexUnit? (digits : List Symbol) : Option Nat := do Radix.number? 16 (← digits.mapM id)

/-- The character that a letter after a backslash stands for. -/
def shortEscape? (c : Symbol) : Option Char :=
  if c = some '"' || c = some '\\' || c = some '/' then c
  else if c = some 'b' then some '\x08'
  else if c = some 'f' then some '\x0c'
  else if c = some 'n' then some '\n'
  else if c = some 'r' then some '\r'
  else if c = some 't' then some '\t'
  else none

/-- The rest of a string after its opening quote: its parts, and what follows
the closing quote. -/
def cutString? : List Symbol → Option (List Part × List Symbol)
  | [] => none
  | none :: rest => (cutString? rest).map fun (parts, r) => (.broken :: parts, r)
  | some '"' :: rest => some ([], rest)
  | some '\\' :: some 'u' :: a :: b :: c :: d :: rest =>
    match hexUnit? [a, b, c, d] with
    | none => none
    | some n => (cutString? rest).map fun (parts, r) => (.unit n :: parts, r)
  | some '\\' :: c :: rest =>
    match shortEscape? c with
    | none => none
    | some x => (cutString? rest).map fun (parts, r) => (.char x :: parts, r)
  | some c :: rest =>
    if c.toNat < 0x20 || c = '\\' then none
    else (cutString? rest).map fun (parts, r) => (.char c :: parts, r)

/-- The character that two units of UTF-16 stand for: a high surrogate and a
low one. -/
def pairChar? (high low : Nat) : Option Char :=
  if 0xD800 ≤ high && high < 0xDC00 && 0xDC00 ≤ low && low < 0xE000 then
    some (Char.ofNat (0x10000 + (high - 0xD800) * 0x400 + (low - 0xDC00)))
  else none

/-- The characters of the parts of a string. A surrogate counts only as half
of a pair. -/
def content? : List Part → Option (List Char)
  | [] => some []
  | .broken :: _ => none
  | .char c :: rest => (content? rest).map (c :: ·)
  | .unit n :: rest =>
    if 0xD800 ≤ n && n < 0xE000 then
      match rest with
      | .unit m :: rest =>
        match pairChar? n m with
        | none => none
        | some x => (content? rest).map (x :: ·)
      | _ => none
    else (content? rest).map (Char.ofNat n :: ·)

/-! ## Numbers -/

/-- The value of a number from its sign and its parts. `none` for `fraction`
or `exponent` says that the part is not written. A number that is no small
integer is valued by scaling its leading digits. -/
def value? (negative : Bool) (whole : List Nat)
    (fraction : Option (List Nat)) (exponent : Option Int) : Option Json :=
  let x : Numeral := ⟨whole, fraction.getD [], exponent.getD 0⟩
  let n := Numeral.digitsValue whole
  if fraction.isNone && exponent.isNone && n < UInt64.size && !negative then some (.int n)
  else if fraction.isNone && exponent.isNone && negative && 0 < n &&
      Int64.minValue.toInt ≤ -Int.ofNat n then
    some (.int (-n))
  else (x.scaled negative).map .real

/-- The fraction after a point, with at least one digit. -/
def fraction? : List Char → Option (Option (List Nat) × List Char)
  | '.' :: rest =>
    match Numeral.takeDigits rest with
    | ([], _) => none
    | (ds, rest) => some (some ds, rest)
  | rest => some (none, rest)

/-- The power of ten after an `e`, with at least one digit, up to the end. -/
def power? : List Char → Option (Option Int)
  | [] => some none
  | rest => (Numeral.exponent? rest).map some

/-- The value of a number. The outer `none` is for a text that is no number,
the inner one for a number without a value. -/
def number? (cs : List Char) : Option (Option Json) := do
  let (negative, cs) := match cs with
    | '-' :: rest => (true, rest)
    | rest => (false, rest)
  let (whole, cs) := Numeral.takeDigits cs
  if whole.isEmpty || (whole.head? = some 0 && 1 < whole.length) then none
  else
    let (fraction, cs) ← fraction? cs
    return value? negative whole fraction (← power? cs)

/-! ## Words -/

/-- Whether a character can stand in a number or a name. -/
def isWordChar (c : Char) : Bool := c.isAlphanum || c = '+' || c = '-' || c = '.'

/-- The longest run of such characters at the front, and what follows it. -/
def takeWord : List Symbol → List Char × List Symbol
  | some c :: rest =>
    if isWordChar c then
      let (word, rest) := takeWord rest
      (c :: word, rest)
    else ([], some c :: rest)
  | rest => ([], rest)

/-- The value of a word: one of the three names, or a number. -/
def word? (cs : List Char) : Option (Option Json) :=
  if cs = "null".toList then some (some .null)
  else if cs = "true".toList then some (some (.bool true))
  else if cs = "false".toList then some (some (.bool false))
  else number? cs

/-! ## The next token -/

/-- The token at the front of a text that starts with no blank, and what
follows the token. -/
def next? : List Symbol → Option (Token × List Symbol)
  | some '[' :: rest => some (.openArray, rest)
  | some ']' :: rest => some (.closeArray, rest)
  | some '\x7b' :: rest => some (.openObject, rest)
  | some '\x7d' :: rest => some (.closeObject, rest)
  | some ':' :: rest => some (.colon, rest)
  | some ',' :: rest => some (.comma, rest)
  | some '"' :: rest =>
    (cutString? rest).map fun (parts, r) => (.str ((content? parts).map String.ofList), r)
  | symbols =>
    let (word, rest) := takeWord symbols
    (word? word).map fun value => (.scalar value, rest)

/-- The tokens of a text. Each step takes at least one symbol, so a text has
no more tokens than symbols. -/
def scan : Nat → List Symbol → Option (List Token)
  | _, [] => some []
  | 0, _ :: _ => none
  | n + 1, c :: rest =>
    if isBlank c then scan n rest
    else
      match next? (c :: rest) with
      | none => none
      | some (t, rest) => (scan n rest).map (t :: ·)

/-- The tokens of a whole text. -/
def ofSymbols? (symbols : List Symbol) : Option (List Token) := scan symbols.length symbols

end Token

end SearchStore.Json
