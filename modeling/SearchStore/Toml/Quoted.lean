import SearchStore.Number.Radix

/-! # Strings of TOML

A string stands between quotes in one of four forms: on one line or on
several, with escapes or literally. Every string can be written with escapes;
the others are preferred where they need none.
-/

namespace SearchStore.Toml

/-! ## Characters -/

def isBlank (c : Char) : Bool := c = ' ' || c = '\t'

/-- Whether a character never stands in a document as it is. Line breaks have
rules of their own. -/
def isControl (c : Char) : Bool := (c.toNat < 0x20 && c ≠ '\t') || c.toNat = 0x7F

/-- The character that a letter after a backslash stands for. -/
def shortEscape? (c : Char) : Option Char :=
  if c = '"' || c = '\\' then some c
  else if c = 'b' then some '\x08'
  else if c = 't' then some '\t'
  else if c = 'n' then some '\n'
  else if c = 'f' then some '\x0c'
  else if c = 'r' then some '\r'
  else none

/-! ## Writing -/

inductive Form where
  | basic
  | literal
  | basicLines
  | literalLines
deriving DecidableEq, Repr

/-- The length of the longest run of a character, after `run` of them. -/
def longestRun (q : Char) (run : Nat) : List Char → Nat
  | [] => run
  | c :: rest => if c = q then longestRun q (run + 1) rest else max run (longestRun q 0 rest)

/-- The form in which a string is written. -/
def formOf (cs : List Char) : Form :=
  let lines := cs.contains '\n'
  let controls := cs.any fun c => isControl c && c ≠ '\n'
  let backslash := cs.contains '\\'
  let doubles := longestRun '"' 0 cs
  let singles := longestRun '\'' 0 cs
  if !controls && !backslash && doubles = 0 && !lines then .basic
  else if !controls && singles = 0 && !lines then .literal
  else if !controls && !backslash && doubles ≤ 2 then .basicLines
  else if !controls && singles ≤ 2 then .literalLines
  else if lines then .basicLines
  else .basic

/-- A character of a string with escapes, quotes apart. On several lines a
line break stands for itself. -/
def escapeChar (lines : Bool) (c : Char) : List Char :=
  if c = '\x08' then ['\\', 'b']
  else if c = '\t' then ['\\', 't']
  else if c = '\n' then (if lines then ['\n'] else ['\\', 'n'])
  else if c = '\x0c' then ['\\', 'f']
  else if c = '\r' then ['\\', 'r']
  else if c = '\\' then ['\\', '\\']
  else if isControl c then
    ['\\', 'u', '0', '0', Radix.capitalDigit (c.toNat / 16), Radix.capitalDigit (c.toNat % 16)]
  else [c]

/-- The characters of a string with escapes, after `run` quotes. On several
lines two quotes in a row stand for themselves. -/
def escape (lines : Bool) (run : Nat) : List Char → List Char
  | [] => []
  | c :: rest =>
    if c = '"' then
      if lines && run < 2 then '"' :: escape lines (run + 1) rest
      else '\\' :: '"' :: escape lines 0 rest
    else escapeChar lines c ++ escape lines 0 rest

/-- A line break that precedes a string with line breaks and is not part of
it. -/
def opening (cs : List Char) : List Char := if cs.contains '\n' then ['\n'] else []

/-- A string in quotes. -/
def quote (cs : List Char) : List Char :=
  match formOf cs with
  | .basic => '"' :: (escape false 0 cs ++ ['"'])
  | .literal => '\'' :: (cs ++ ['\''])
  | .basicLines => ['"', '"', '"'] ++ opening cs ++ escape true 0 cs ++ ['"', '"', '"']
  | .literalLines => ['\'', '\'', '\''] ++ opening cs ++ cs ++ ['\'', '\'', '\'']

/-! ## Reading

Each function reads the rest of a string after its opening quotes: the
characters, and what follows the closing quotes. -/

/-- Puts a character before those of the rest of a string. -/
def before (c : Char) (r : Option (List Char × List Char)) : Option (List Char × List Char) :=
  r.map fun (cs, rest) => (c :: cs, rest)

def basic? : List Char → Option (List Char × List Char)
  | [] => none
  | '"' :: rest => some ([], rest)
  | '\\' :: 'u' :: a :: b :: c :: d :: rest =>
    match Radix.character? [a, b, c, d] with
    | some x => before x (basic? rest)
    | none => none
  | '\\' :: 'U' :: a :: b :: c :: d :: e :: f :: g :: h :: rest =>
    match Radix.character? [a, b, c, d, e, f, g, h] with
    | some x => before x (basic? rest)
    | none => none
  | '\\' :: c :: rest =>
    match shortEscape? c with
    | some x => before x (basic? rest)
    | none => none
  | c :: rest => if isControl c || c = '\\' then none else before c (basic? rest)

def literal? : List Char → Option (List Char × List Char)
  | [] => none
  | c :: rest =>
    if c = '\'' then some ([], rest)
    else if isControl c then none
    else before c (literal? rest)

/-- Whether a line ends after at most some blanks. -/
def endsLine (cs : List Char) : Bool :=
  match cs.dropWhile isBlank with
  | '\n' :: _ | '\r' :: '\n' :: _ => true
  | _ => false

/-- On several lines, up to two quotes may precede the closing ones. A
backslash at the end of a line hides the line break and all blanks and line
breaks after it: while it does, `hidden` is set. -/
def basicLines? (hidden : Bool) : List Char → Option (List Char × List Char)
  | [] => none
  | '"' :: '"' :: '"' :: '"' :: '"' :: rest => some (['"', '"'], rest)
  | '"' :: '"' :: '"' :: '"' :: rest => some (['"'], rest)
  | '"' :: '"' :: '"' :: rest => some ([], rest)
  | '\\' :: 'u' :: a :: b :: c :: d :: rest =>
    match Radix.character? [a, b, c, d] with
    | some x => before x (basicLines? false rest)
    | none => none
  | '\\' :: 'U' :: a :: b :: c :: d :: e :: f :: g :: h :: rest =>
    match Radix.character? [a, b, c, d, e, f, g, h] with
    | some x => before x (basicLines? false rest)
    | none => none
  | '\\' :: c :: rest =>
    if endsLine (c :: rest) then basicLines? true (c :: rest)
    else
      match shortEscape? c with
      | some x => before x (basicLines? false rest)
      | none => none
  | '\r' :: '\n' :: rest =>
    if hidden then basicLines? true rest else before '\n' (basicLines? false rest)
  | c :: rest =>
    if hidden && (isBlank c || c = '\n') then basicLines? true rest
    else if c = '\n' then before c (basicLines? false rest)
    else if isControl c || c = '\\' then none
    else before c (basicLines? false rest)

def literalLines? : List Char → Option (List Char × List Char)
  | [] => none
  | '\'' :: '\'' :: '\'' :: '\'' :: '\'' :: rest => some (['\'', '\''], rest)
  | '\'' :: '\'' :: '\'' :: '\'' :: rest => some (['\''], rest)
  | '\'' :: '\'' :: '\'' :: rest => some ([], rest)
  | '\r' :: '\n' :: rest => before '\n' (literalLines? rest)
  | c :: rest =>
    if isControl c && c ≠ '\n' then none else before c (literalLines? rest)

/-- What follows a line break at the very beginning of a string on several
lines. -/
def dropOpening : List Char → List Char
  | '\n' :: rest => rest
  | '\r' :: '\n' :: rest => rest
  | cs => cs

/-- A string on one line at the front of a text, and what follows it. -/
def lineString? : List Char → Option (List Char × List Char)
  | '"' :: rest => basic? rest
  | '\'' :: rest => literal? rest
  | _ => none

/-- A string at the front of a text, and what follows it. -/
def string? : List Char → Option (List Char × List Char)
  | '"' :: '"' :: '"' :: rest => basicLines? false (dropOpening rest)
  | '\'' :: '\'' :: '\'' :: rest => literalLines? (dropOpening rest)
  | cs => lineString? cs

end SearchStore.Toml
