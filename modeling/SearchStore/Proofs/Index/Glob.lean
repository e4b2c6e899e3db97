import Mathlib.Data.List.Basic
import SearchStore.Index.Wildcard

/-! # What a pattern matches

The match is computed by rows, one for each end piece of the pattern. `Matches`
says without rows what a pattern stands for: a name is cut into pieces, one for
each character of the pattern. `isMatch_iff` ties the two together, and the
lemmas after it are those by which patterns are taken apart.
-/

namespace SearchStore.Wildcard

/-- What one character of a pattern stands for. -/
def Piece : Char → List Char → Prop
  | '*', xs => '\n' ∉ xs
  | '?', xs => ∃ x, xs = [x] ∧ x ≠ '\n'
  | c, xs => xs = [c]

/-- A pattern stands for the names that are made of one piece for each of its
characters. -/
def Matches : List Char → List Char → Prop
  | [], name => name = []
  | c :: pattern, name => ∃ first rest, name = first ++ rest ∧ Piece c first ∧ Matches pattern rest

theorem piece_star {xs : List Char} : Piece '*' xs ↔ '\n' ∉ xs := by
  simp [Piece]

theorem piece_one {xs : List Char} : Piece '?' xs ↔ ∃ x, xs = [x] ∧ x ≠ '\n' := by
  simp [Piece]

theorem piece_literal {c : Char} {xs : List Char} (hstar : c ≠ '*') (hone : c ≠ '?') :
    Piece c xs ↔ xs = [c] := by
  simp [Piece]

/-! ## Rows -/

/-- A row says for each end piece of a name, from the whole name down to
nothing, whether it has a property. -/
inductive Row (P : List Char → Prop) : List Char → List Bool → Prop
  | nil {b : Bool} (h : b = true ↔ P []) : Row P [] [b]
  | cons {x : Char} {rest : List Char} {b : Bool} {row : List Bool}
      (h : b = true ↔ P (x :: rest)) (hrow : Row P rest row) : Row P (x :: rest) (b :: row)

namespace Row

variable {P Q : List Char → Prop} {name : List Char} {row : List Bool}

theorem congr (h : Row P name row) (hPQ : ∀ xs, P xs ↔ Q xs) : Row Q name row := by
  induction h with
  | nil h => exact .nil (h.trans (hPQ _))
  | cons h _ ih => exact .cons (h.trans (hPQ _)) ih

theorem headD_iff (h : Row P name row) : row.headD false = true ↔ P name := by
  cases h with
  | nil h => exact h
  | cons h _ => exact h

theorem emptyRow (name : List Char) : Row (· = []) name (emptyRow name) := by
  induction name with
  | nil => exact .nil (by simp)
  | cons x rest ih => exact .cons (by simp) ih

theorem oneRow (ok : Char → Bool) (h : Row P name row) :
    Row (fun xs => ∃ x rest, xs = x :: rest ∧ ok x = true ∧ P rest) name (oneRow ok name row) := by
  induction h with
  | nil h => exact .nil (by simp)
  | @cons x rest b row h hrow ih =>
    refine .cons ?_ ih
    rw [Bool.and_eq_true, hrow.headD_iff]
    simp

theorem starRow (h : Row P name row) :
    Row (fun xs => ∃ first rest, xs = first ++ rest ∧ '\n' ∉ first ∧ P rest) name
      (starRow name row) := by
  induction h with
  | nil h => exact .nil (by simp [h])
  | @cons x rest b row h hrow ih =>
    refine .cons ?_ ih
    -- the star takes nothing here, or this character and what it takes of the rest
    rw [Bool.or_eq_true, Bool.and_eq_true, ih.headD_iff, h]
    constructor
    · rintro (hP | ⟨hx, first, last, rfl, hfirst, hP⟩)
      · exact ⟨[], _, rfl, by simp, hP⟩
      · refine ⟨x :: first, last, rfl, ?_, hP⟩
        have hne : x ≠ '\n' := by simpa using hx
        simpa using ⟨hne.symm, hfirst⟩
    · rintro ⟨_ | ⟨y, first⟩, last, heq, hfirst, hP⟩
      · exact Or.inl (by simpa [heq] using hP)
      · obtain ⟨rfl, rfl⟩ := List.cons.inj heq
        have hparts : '\n' ≠ x ∧ '\n' ∉ first := by simpa using hfirst
        exact Or.inr ⟨by simpa using hparts.1.symm, first, last, rfl, hparts.2, hP⟩

end Row

/-- The row of a pattern says of each end piece whether the pattern stands for
it. -/
theorem row_matches (name pattern : List Char) : Row (Matches pattern) name (row name pattern) := by
  -- on the pattern, as the rows are computed, for all pieces of the name at once
  induction pattern with
  | nil => exact Row.emptyRow name
  | cons c pattern ih =>
    by_cases hstar : c = '*'
    · subst hstar
      refine ih.starRow.congr ?_
      intro xs
      simp [Matches, piece_star]
    · by_cases hone : c = '?'
      · subst hone
        refine (ih.oneRow (· != '\n')).congr ?_
        intro xs
        simp only [Matches, piece_one, bne_iff_ne]
        constructor
        · rintro ⟨x, rest, rfl, hx, hrest⟩
          exact ⟨[x], rest, rfl, ⟨x, rfl, hx⟩, hrest⟩
        · rintro ⟨_, rest, rfl, ⟨x, rfl, hx⟩, hrest⟩
          exact ⟨x, rest, rfl, hx, hrest⟩
      · have hrow : row name (c :: pattern) = oneRow (· == c) name (row name pattern) := by
          simp [row]
        rw [hrow]
        refine (ih.oneRow (· == c)).congr ?_
        intro xs
        simp [Matches, piece_literal hstar hone]

/-- The computed match is the one that is meant. -/
theorem isMatch_iff {name pattern : String} :
    isMatch name pattern = true ↔ Matches pattern.toList name.toList :=
  (row_matches name.toList pattern.toList).headD_iff

/-! ## Taking patterns apart -/

theorem matches_append {p q name : List Char} :
    Matches (p ++ q) name ↔
      ∃ front back, name = front ++ back ∧ Matches p front ∧ Matches q back := by
  induction p generalizing name with
  | nil => simp [Matches]
  | cons c p ih =>
    simp only [List.cons_append, Matches, ih]
    constructor
    · rintro ⟨first, _, rfl, hc, front, back, rfl, hp, hq⟩
      exact ⟨first ++ front, back, by simp, ⟨first, front, rfl, hc, hp⟩, hq⟩
    · rintro ⟨_, back, rfl, ⟨first, rest, rfl, hc, hp⟩, hq⟩
      exact ⟨first, rest ++ back, by simp, hc, rest, back, rfl, hp, hq⟩

theorem matches_star {name : List Char} : Matches ['*'] name ↔ '\n' ∉ name := by
  simp [Matches, piece_star]

/-- A pattern without wildcards stands for itself. -/
theorem matches_literal {p name : List Char} (hstar : '*' ∉ p) (hone : '?' ∉ p) :
    Matches p name ↔ name = p := by
  induction p generalizing name with
  | nil => rfl
  | cons c p ih =>
    have hs : '*' ≠ c ∧ '*' ∉ p := by simpa using hstar
    have ho : '?' ≠ c ∧ '?' ∉ p := by simpa using hone
    simp [Matches, piece_literal hs.1.symm ho.1.symm, ih hs.2 ho.2]

/-- A pattern without line breaks matches itself, read as a name. -/
theorem matches_self {p : List Char} (h : '\n' ∉ p) : Matches p p := by
  induction p with
  | nil => rfl
  | cons c p ih =>
    have hc : '\n' ≠ c ∧ '\n' ∉ p := by simpa using h
    refine ⟨[c], p, rfl, ?_, ih hc.2⟩
    by_cases hstar : c = '*'
    · simp [hstar, piece_star]
    · by_cases hone : c = '?'
      · simp [hone, piece_one]
      · exact (piece_literal hstar hone).mpr rfl

/-- Characters that are no wildcards are found in every name that is matched. -/
theorem Matches.infix_of_literal {p name t : List Char} (h : Matches p name) (ht : t <:+: p)
    (hstar : '*' ∉ t) (hone : '?' ∉ t) : t <:+: name := by
  -- the name is cut where the pattern is: before and behind those characters
  obtain ⟨front, back, rfl⟩ := ht
  obtain ⟨name₁, name₂, rfl, h₁, -⟩ := matches_append.mp h
  obtain ⟨name₀, middle, rfl, -, hmiddle⟩ := matches_append.mp h₁
  rw [matches_literal hstar hone] at hmiddle
  exact ⟨name₀, name₂, by rw [hmiddle]⟩

end SearchStore.Wildcard
