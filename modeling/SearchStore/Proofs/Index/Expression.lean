import SearchStore.Proofs.Index.Glob

/-! # Patterns as regular expressions

A pattern can be written as a regular expression: both ends of the text are
marked, a star becomes `.*` and a question mark `.`, and every other character
stands for itself, behind a backslash if expressions have a meaning for it.
`read?` reads that part of the syntax of expressions, and `Finds` says in which
texts an expression is found, in general somewhere between other characters.

`isMatch_iff_pieces` says that the computed match, the pieces that a name is
cut into and the expression all agree.
-/

namespace SearchStore.Expression

/-! ## Syntax -/

/-- What stands for one character: any but a line break, or one that is given. -/
inductive Atom where
  | any
  | literal (c : Char)
deriving DecidableEq, Repr

/-- A sign of the syntax. -/
inductive Sign where
  | start
  | stop
  | repeats
  | atom (a : Atom)
deriving DecidableEq, Repr

/-- A part of an expression: an end of the text, or an atom, which stands once
or any number of times. -/
inductive Part where
  | start
  | stop
  | one (a : Atom)
  | many (a : Atom)
deriving DecidableEq, Repr

/-- Whether expressions have a meaning for a character. -/
def isMeta (c : Char) : Bool :=
  ['\\', '.', '+', '*', '?', '(', ')', '|', '[', ']', '\x7b', '\x7d', '^', '$', '#', '&', '-',
    '~'].contains c

/-- An expression for one character. -/
def escape (c : Char) : List Char := if isMeta c then ['\\', c] else [c]

/-- The sign that a character is without a backslash; `none` for those of
groups, classes, choices and other numbers of times. -/
def sign? : Char → Option Sign
  | '^' => some .start
  | '$' => some .stop
  | '*' => some .repeats
  | '.' => some (.atom .any)
  | c => if isMeta c then none else some (.atom (.literal c))

/-- The signs of an expression. -/
def signs? : List Char → Option (List Sign)
  | [] => some []
  | '\\' :: c :: rest => if isMeta c then (signs? rest).map (.atom (.literal c) :: ·) else none
  | c :: rest => (sign? c).bind fun s => (signs? rest).map (s :: ·)

/-- The parts that signs make. What is to be repeated stands before the sign
for it. -/
def parts? : List Sign → Option (List Part)
  | [] => some []
  | .start :: rest => (parts? rest).map (.start :: ·)
  | .stop :: rest => (parts? rest).map (.stop :: ·)
  | .atom a :: .repeats :: rest => (parts? rest).map (.many a :: ·)
  | .atom a :: rest => (parts? rest).map (.one a :: ·)
  | .repeats :: _ => none

/-- The parts of an expression. -/
def read? (cs : List Char) : Option (List Part) := (signs? cs).bind parts?

theorem signs?_escape (c : Char) (rest : List Char) :
    signs? (escape c ++ rest) = (signs? rest).map (.atom (.literal c) :: ·) := by
  unfold escape
  split
  · rename_i hmeta
    simp [signs?, hmeta]
  · rename_i hmeta
    have hsign : sign? c = some (.atom (.literal c)) := by
      unfold sign?
      split
      -- the first four characters have a meaning
      all_goals first | exact absurd rfl hmeta | rw [if_neg hmeta]
    have hback : c ≠ '\\' := by
      rintro rfl
      exact hmeta rfl
    rw [List.singleton_append, signs?, hsign]
    · rfl
    · intro d rest' hc
      exact absurd hc hback

/-! ## Meaning -/

/-- Whether an atom stands for a character. -/
def Atom.Admits : Atom → Char → Prop
  | .any, c => c ≠ '\n'
  | .literal d, c => c = d

/-- Whether a part stands for a piece of a text, between what is before the
piece and what is after it. -/
def Part.Takes : Part → List Char → List Char → List Char → Prop
  | .start, before, piece, _ => before = [] ∧ piece = []
  | .stop, _, piece, after => after = [] ∧ piece = []
  | .one a, _, piece, _ => ∃ c, piece = [c] ∧ a.Admits c
  | .many a, _, piece, _ => ∀ c ∈ piece, a.Admits c

/-- Whether some parts, one after the other, stand for a piece of a text. -/
def Takes : List Part → List Char → List Char → List Char → Prop
  | [], _, piece, _ => piece = []
  | p :: parts, before, piece, after =>
    ∃ first last, piece = first ++ last ∧ p.Takes before first (last ++ after) ∧
      Takes parts (before ++ first) last after

/-- Whether an expression is found anywhere in a text. -/
def Finds (parts : List Part) (text : List Char) : Prop :=
  ∃ before piece after, text = before ++ piece ++ after ∧ Takes parts before piece after

theorem takes_stop {parts : List Part} {before piece after : List Char} :
    Takes (parts ++ [.stop]) before piece after ↔ after = [] ∧ Takes parts before piece [] := by
  induction parts generalizing before piece with
  | nil => simp [Takes, Part.Takes, and_comm]
  | cons p parts ih =>
    simp only [List.cons_append, Takes, ih]
    constructor
    · rintro ⟨first, last, rfl, hp, rfl, hparts⟩
      exact ⟨rfl, first, last, rfl, hp, hparts⟩
    · rintro ⟨rfl, first, last, rfl, hp, hparts⟩
      exact ⟨first, last, rfl, hp, rfl, hparts⟩

/-- With both ends marked, an expression is found only in texts that it stands
for as a whole. -/
theorem finds_marked {parts : List Part} {text : List Char} :
    Finds (.start :: (parts ++ [.stop])) text ↔ Takes parts [] text [] := by
  constructor
  · rintro ⟨before, piece, after, rfl, first, last, rfl, ⟨rfl, rfl⟩, hparts⟩
    obtain ⟨rfl, hwhole⟩ := takes_stop.mp hparts
    simpa using hwhole
  · intro hparts
    exact ⟨[], text, [], by simp, [], text, rfl, ⟨rfl, rfl⟩, takes_stop.mpr ⟨rfl, hparts⟩⟩

end SearchStore.Expression

namespace SearchStore.Wildcard

open Expression

/-! ## The expression of a pattern -/

/-- How a character of a pattern is written in an expression. -/
def written : Char → List Char
  | '*' => ['.', '*']
  | '?' => ['.']
  | c => escape c

/-- The expression of a pattern. -/
def expression (pattern : List Char) : List Char := '^' :: (pattern.flatMap written ++ ['$'])

/-- The signs of a character of a pattern. -/
def signsOf : Char → List Sign
  | '*' => [.atom .any, .repeats]
  | '?' => [.atom .any]
  | c => [.atom (.literal c)]

/-- The part that a character of a pattern is. -/
def partOf : Char → Part
  | '*' => .many .any
  | '?' => .one .any
  | c => .one (.literal c)

theorem signs?_written (c : Char) (rest : List Char) :
    signs? (written c ++ rest) = (signs? rest).map (signsOf c ++ ·) := by
  unfold written signsOf
  split
  · cases hrest : signs? rest <;> simp [signs?, sign?, hrest]
  · cases hrest : signs? rest <;> simp [signs?, sign?, hrest]
  · exact signs?_escape c rest

theorem signs?_expression (pattern : List Char) :
    signs? (expression pattern) = some (.start :: (pattern.flatMap signsOf ++ [.stop])) := by
  have hbody : signs? (pattern.flatMap written ++ ['$']) =
      some (pattern.flatMap signsOf ++ [.stop]) := by
    induction pattern with
    | nil => rfl
    | cons c pattern ih =>
      rw [List.flatMap_cons, List.append_assoc, signs?_written, ih]
      simp
  rw [expression, signs?, hbody]
  · rfl
  · intro c rest hc
    exact absurd hc (by decide)

theorem signsOf_append_ne (c : Char) (rest others : List Sign) :
    signsOf c ++ rest ≠ .repeats :: others := by
  unfold signsOf
  split <;> simp

/-- The signs of a character make its part, if they are not followed by one
more sign for repeating. -/
theorem parts?_signsOf (c : Char) {rest : List Sign} (h : ∀ others, rest ≠ .repeats :: others) :
    parts? (signsOf c ++ rest) = (parts? rest).map (partOf c :: ·) := by
  unfold signsOf partOf
  split
  · rfl
  · rw [List.singleton_append, parts?]
    exact h
  · rw [List.singleton_append, parts?]
    exact h

theorem parts?_flatMap (pattern : List Char) :
    parts? (pattern.flatMap signsOf ++ [.stop]) = some (pattern.map partOf ++ [.stop]) := by
  induction pattern with
  | nil => rfl
  | cons c pattern ih =>
    -- no character begins with the sign for repeating, so the next one leaves this one alone
    have hnext : ∀ others, pattern.flatMap signsOf ++ [.stop] ≠ .repeats :: others := by
      intro others
      rcases pattern with _ | ⟨d, pattern⟩
      · simp
      · rw [List.flatMap_cons, List.append_assoc]
        exact signsOf_append_ne d _ others
    rw [List.flatMap_cons, List.append_assoc, parts?_signsOf c hnext, ih]
    rfl

/-- The expression of a pattern is one, with a part for each character. -/
theorem read?_expression (pattern : List Char) :
    read? (expression pattern) = some (.start :: (pattern.map partOf ++ [.stop])) := by
  rw [read?, signs?_expression, Option.bind_some, parts?, parts?_flatMap]
  rfl

/-! ## Pieces and parts -/

/-- A character of a pattern and its part stand for the same pieces. -/
theorem takes_partOf {c : Char} {before piece after : List Char} :
    (partOf c).Takes before piece after ↔ Piece c piece := by
  unfold partOf Piece
  split
  · simp only [Part.Takes, Atom.Admits]
    constructor
    · intro hall hmem
      exact hall _ hmem rfl
    · rintro hline x hx rfl
      exact hline hx
  · rfl
  · simp [Part.Takes, Atom.Admits]

theorem takes_parts {pattern before piece after : List Char} :
    Takes (pattern.map partOf) before piece after ↔ Matches pattern piece := by
  induction pattern generalizing before piece with
  | nil => rfl
  | cons c pattern ih => simp only [List.map_cons, Takes, Matches, takes_partOf, ih]

theorem matches_iff_pieces {pattern name : List Char} :
    Matches pattern name ↔ ∃ pieces, List.Forall₂ Piece pattern pieces ∧ pieces.flatten = name := by
  induction pattern generalizing name with
  | nil =>
    constructor
    · rintro rfl
      exact ⟨[], .nil, rfl⟩
    · rintro ⟨_, hpieces, rfl⟩
      cases hpieces
      rfl
  | cons c pattern ih =>
    simp only [Matches, ih]
    constructor
    · rintro ⟨first, _, rfl, hc, pieces, hpieces, rfl⟩
      exact ⟨first :: pieces, .cons hc hpieces, rfl⟩
    · rintro ⟨_, hpieces, rfl⟩
      cases hpieces with
      | cons hc hpieces => exact ⟨_, _, rfl, hc, _, hpieces, rfl⟩

/-- A name matches a pattern if and only if it can be cut into pieces, one for
each character of the pattern, in order: any characters but line breaks for a
star, one such character for a question mark, and the character itself for every
other one. The expression of the pattern can be read, and it is found in just
these names. -/
theorem isMatch_iff_pieces (name pattern : String) :
    (isMatch name pattern = true ↔ ∃ pieces,
      List.Forall₂ Piece pattern.toList pieces ∧ pieces.flatten = name.toList) ∧
    ∃ parts, read? (expression pattern.toList) = some parts ∧
      (Finds parts name.toList ↔ isMatch name pattern = true) := by
  refine ⟨isMatch_iff.trans matches_iff_pieces, _, read?_expression pattern.toList, ?_⟩
  rw [finds_marked, takes_parts, isMatch_iff]

/-- Characters that expressions have a meaning for stand for themselves in
patterns. -/
example : expression "a.b-*?".toList = "^a\\.b\\-.*.$".toList := by decide

end SearchStore.Wildcard
