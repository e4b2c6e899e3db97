/-! # Blank characters

The characters with the Unicode property White_Space, and trimming them off
the ends of a text; and cutting a text where a separator stands.
-/

namespace SearchStore.Text

/-- The ranges of code points with the property White_Space. -/
def blankRanges : List (Nat × Nat) :=
  [(0x09, 0x0D), (0x20, 0x20), (0x85, 0x85), (0xA0, 0xA0), (0x1680, 0x1680),
   (0x2000, 0x200A), (0x2028, 0x2029), (0x202F, 0x202F), (0x205F, 0x205F),
   (0x3000, 0x3000)]

/-- Whether a character has the property White_Space. -/
def isBlank (c : Char) : Bool := blankRanges.any fun r => r.1 ≤ c.toNat && c.toNat ≤ r.2

/-- The characters without the blanks at both ends. -/
def trimChars (cs : List Char) : List Char :=
  ((cs.dropWhile isBlank).reverse.dropWhile isBlank).reverse

/-- The text without the blanks at both ends. -/
def trim (s : String) : String := String.ofList (trimChars s.toList)

/-- The pieces of a list between the places where a separator stands. There
is always one piece more than there are separators. -/
def splitOn {α : Type} [DecidableEq α] (separator : α) : List α → List (List α)
  | [] => [[]]
  | c :: rest =>
    if c = separator then [] :: splitOn separator rest
    else
      match splitOn separator rest with
      | [] => [[c]]
      | piece :: pieces => (c :: piece) :: pieces

/-- The characters before the first separator and those after it; `none` if
it does not occur. -/
def cutAt? {α : Type} [DecidableEq α] (separator : α) : List α → Option (List α × List α)
  | [] => none
  | c :: rest =>
    if c = separator then some ([], rest)
    else (cutAt? separator rest).map fun (before, after) => (c :: before, after)

section

variable {α : Type} [DecidableEq α] {c : α} {as bs : List α}

theorem cutAt?_append (h : c ∉ as) : cutAt? c (as ++ c :: bs) = some (as, bs) := by
  induction as with
  | nil => simp [cutAt?]
  | cons a rest ih =>
    have hparts : ¬ c = a ∧ c ∉ rest := by simpa using h
    have hne : ¬ a = c := fun heq => hparts.1 heq.symm
    simp [cutAt?, hne, ih hparts.2]

theorem cutAt?_eq_none (h : c ∉ as) : cutAt? c as = none := by
  induction as with
  | nil => rfl
  | cons a rest ih =>
    have hparts : ¬ c = a ∧ c ∉ rest := by simpa using h
    have hne : ¬ a = c := fun heq => hparts.1 heq.symm
    simp [cutAt?, hne, ih hparts.2]

theorem eq_of_cutAt? {parts : List α × List α} (h : cutAt? c as = some parts) :
    c ∉ parts.1 ∧ as = parts.1 ++ c :: parts.2 := by
  induction as generalizing parts with
  | nil => simp [cutAt?] at h
  | cons x rest ih =>
    rw [cutAt?] at h
    by_cases hx : x = c
    · obtain rfl : ([], rest) = parts := by simpa [hx] using h
      simp [hx]
    · rw [if_neg hx] at h
      obtain ⟨inner, hinner, rfl⟩ := Option.map_eq_some_iff.mp h
      obtain ⟨hno, hrest⟩ := ih hinner
      have hne : ¬ c = x := fun heq => hx heq.symm
      simp [hne, hno, ← hrest]

theorem not_mem_of_cutAt? (h : cutAt? c as = none) : c ∉ as := by
  induction as with
  | nil => exact List.not_mem_nil
  | cons x rest ih =>
    rw [cutAt?] at h
    by_cases hx : x = c
    · simp [hx] at h
    · rw [if_neg hx] at h
      have hne : ¬ c = x := fun heq => hx heq.symm
      simpa [hne] using ih (Option.map_eq_none_iff.mp h)

end

/-- What follows a given beginning; `none` if the list does not begin so. -/
def dropFront? {α : Type} [DecidableEq α] : List α → List α → Option (List α)
  | [], cs => some cs
  | _ :: _, [] => none
  | p :: ps, c :: cs => if p = c then dropFront? ps cs else none

end SearchStore.Text
