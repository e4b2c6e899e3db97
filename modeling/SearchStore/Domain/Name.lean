import SearchStore.Domain.Direction
import SearchStore.Domain.Folding
import SearchStore.Domain.Joiner
import SearchStore.Domain.Punycode

/-! # Names of the Internet

A name is a row of labels between dots. It has one written form in ASCII:
characters give way to what they stand for, and a label that then holds
characters beyond ASCII is written in ASCII after `xn--`.
-/

namespace SearchStore.Domain

def isAscii (c : Char) : Bool := c.toNat < 0x80

/-- Whether a character never stands in a name: controls, and characters that have a meaning
around names. -/
def isDenied (c : Char) : Bool :=
  c.toNat ≤ 0x20 || c.toNat = 0x7F
    || ['%', '#', '/', ':', '<', '>', '?', '@', '[', '\\', ']', '^', '|'].contains c

/-- What begins a label that is written in ASCII. -/
def asciiMark : List Char := ['x', 'n', '-', '-']

/-- How many characters a label can have that is not in ASCII. -/
def maxLength : Nat := 1000

/-- How many characters can follow the mark of a label that is written in ASCII already. -/
def maxWritten : Nat := 2000

/-- A label of a name. -/
structure Label where
  meaning : List Char
  /-- The form in ASCII. -/
  written : List Char
deriving DecidableEq, Repr

/-- Whether characters beyond ASCII can be a label: it does not begin with a mark, and its
joiners stand where they may. -/
def canBeLabel (cs : List Char) : Bool :=
  !cs.head?.any isMark && joinersFit [] cs

/-- Whether a text is in the form in which names are compared. -/
def isFolded (cs : List Char) : Bool :=
  cs.all (fun c => fold? c = some [c] && !isDenied c && c ≠ '.') && compose cs = cs

/-- The label with some characters, which stand for themselves. One that is written in ASCII
already must need to be. -/
def Label.of? (cs : List Char) : Option Label :=
  match Text.dropFront? asciiMark cs with
  | some written =>
    if !cs.all isAscii || maxWritten < written.length then none
    else do
      let meaning ← Punycode.decode? written
      if !meaning.all isAscii && meaning.length ≤ maxLength && isFolded meaning
          && canBeLabel meaning && Punycode.encode meaning = written then
        some ⟨meaning, cs⟩
      else none
  | none =>
    if cs.all isAscii then some ⟨cs, cs⟩
    else if canBeLabel cs && cs.length ≤ maxLength then
      some ⟨cs, asciiMark ++ Punycode.encode cs⟩
    else none

/-- The labels of a name. -/
def labels? (cs : List Char) : Option (List Label) := do
  let folded := compose (← foldAll? cs)
  if folded.any isDenied then none
  let labels ← (Text.splitOn '.' folded).mapM Label.of?
  if directionsAgree (labels.map Label.meaning) then some labels else none

/-- A name in ASCII. -/
def ascii? (cs : List Char) : Option (List Char) :=
  (labels? cs).map fun labels => List.intercalate ['.'] (labels.map Label.written)

end SearchStore.Domain
