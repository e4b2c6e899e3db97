import SearchStore.Domain.Composition.Table
import SearchStore.Domain.Mark
import SearchStore.Text.Blank

/-! # Composition

A letter with marks has one form: its parts are taken apart, the marks are put
into the order of their ranks, and what can be one character becomes one.
-/

namespace SearchStore.Domain

/-- A composed character and its two parts. -/
structure Composite where
  base : Nat
  mark : Nat
  whole : Nat

/-- The composed characters of a list. -/
def CompositeList.composites (l : CompositeList) : List Composite :=
  (Text.splitOn ' ' l.pairs.toList).filterMap fun
    | [base, whole] => some ⟨base.toNat, l.mark, whole.toNat⟩
    | _ => none

/-- All composed characters except for syllables. -/
def composites : List Composite :=
  compositeLists.flatMap CompositeList.composites
    ++ rareComposites.map fun (base, mark, whole) => ⟨base, mark, whole⟩

/-! ## Syllables

The syllables of one script are composed of a consonant, a vowel and perhaps
another consonant, and stand in the order of their parts. -/

def firstSyllable : Nat := 0xAC00
def firstOnset : Nat := 0x1100
def firstVowel : Nat := 0x1161
/-- The number before that of the first consonant at an end. -/
def noCoda : Nat := 0x11A7

def onsets : Nat := 19
def vowels : Nat := 21
/-- The consonants at an end, and none. -/
def codas : Nat := 28

/-- The parts of the syllable with some number. -/
def syllableParts? (n : Nat) : Option (List Char) :=
  if firstSyllable ≤ n && n < firstSyllable + onsets * vowels * codas then
    let i := n - firstSyllable
    let start := [Char.ofNat (firstOnset + i / (vowels * codas)),
      Char.ofNat (firstVowel + i / codas % vowels)]
    some (if i % codas = 0 then start else start ++ [Char.ofNat (noCoda + i % codas)])
  else none

/-- The syllable of two parts, the first of which may be a syllable without an end. -/
def syllable? (a b : Nat) : Option Char :=
  if firstOnset ≤ a && a < firstOnset + onsets && firstVowel ≤ b && b < firstVowel + vowels then
    some (Char.ofNat
      (firstSyllable + ((a - firstOnset) * vowels + (b - firstVowel)) * codas))
  else if firstSyllable ≤ a && a < firstSyllable + onsets * vowels * codas
      && (a - firstSyllable) % codas = 0 && noCoda < b && b < noCoda + codas then
    some (Char.ofNat (a + (b - noCoda)))
  else none

/-! ## Parts and their order -/

/-- The parts of a character, taken apart `depth` times at most. -/
def partsTo : Nat → Nat → List Char
  | 0, n => [Char.ofNat n]
  | depth + 1, n =>
    match composites.find? fun k => k.whole = n with
    | some k => partsTo depth k.base ++ partsTo depth k.mark
    | none => [Char.ofNat n]

/-- The parts of a character. No character is composed more than three times. -/
def parts (c : Char) : List Char :=
  if c.toNat < 0x80 then [c]
  else
    match syllableParts? c.toNat with
    | some cs => cs
    | none => partsTo 3 c.toNat

/-- The rank of a character among marks on one letter; that of a letter is `0`. -/
def rank (c : Char) : Nat :=
  if c.toNat < 0x80 then 0
  else
    match rankRanges.find? fun r => Text.inRanges c.toNat r.2 with
    | some r => r.1
    | none => 0

/-- Puts a character before others, after the marks among them of lower rank. -/
def place (c : Char) : List Char → List Char
  | [] => [c]
  | d :: rest =>
    if rank d ≠ 0 && rank d < rank c then d :: place c rest else c :: d :: rest

/-- The marks on each letter by their ranks. -/
def arrange (cs : List Char) : List Char := cs.foldr place []

/-! ## Wholes -/

/-- The character that two compose to. -/
def whole? (a b : Char) : Option Char :=
  if b.toNat < 0x80 then none
  else
    match syllable? a.toNat b.toNat with
    | some c => some c
    | none =>
      (composites.find? fun k => k.base = a.toNat && k.mark = b.toNat).map fun k =>
        Char.ofNat k.whole

/-- Composes a letter with the characters after it. Between them stand the marks, in reverse,
that do not compose with the letter; they keep those of the same rank from it. -/
def composeFrom (letter : Char) (between : List Char) : List Char → List Char
  | [] => letter :: between.reverse
  | c :: rest =>
    let near := between.head?.all fun d => rank d < rank c
    match if near then whole? letter c else none with
    | some whole => composeFrom whole between rest
    | none =>
      if rank c = 0 then letter :: (between.reverse ++ composeFrom c [] rest)
      else composeFrom letter (c :: between) rest

/-- Composes each letter with its marks. -/
def composeAll : List Char → List Char
  | [] => []
  | c :: rest => if rank c = 0 then composeFrom c [] rest else c :: composeAll rest

/-- The composed form of a text. -/
def compose (cs : List Char) : List Char :=
  if cs.all fun c => c.toNat < 0x80 then cs else composeAll (arrange (cs.flatMap parts))

end SearchStore.Domain
