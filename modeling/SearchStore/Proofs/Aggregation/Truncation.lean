import SearchStore.Proofs.Aggregation.Interval

/-! # Intervals cut down to units

What is left of an interval when it is written as a number of one unit. The unit
is the largest one within the interval (`IntervalUnit.IsLargest`), so that a longer
interval never has a smaller unit, and what is left is at least one unit. All that
is shown of tokens follows from these two facts: `intervalToken_truncates` says
that a token is the interval without the part that is below the unit, that longer
intervals keep the order, and that nothing more is lost the second time.
-/

namespace SearchStore

/-! ## Numerals -/

/-- The decimal digits of a number, without superfluous zeros. -/
structure IsNumeral (digits : List Char) (n : Nat) : Prop where
  ne_nil : digits ≠ []
  isDigit : ∀ c ∈ digits, c.isDigit
  value : Nat.ofDigitChars 10 digits 0 = n
  head : digits.head? = some '0' → digits = ['0']

theorem isNumeral_toDigits (n : Nat) : IsNumeral (Nat.toDigits 10 n) n where
  ne_nil := Nat.toDigits_ne_nil
  isDigit := Numeral.isDigit_of_mem_toDigits
  value := Nat.ofDigitChars_ten_toDigits
  head := by
    intro h
    rw [Numeral.head?_toDigits h]
    decide

/-- A token tells so many of a unit. -/
def TellsUnits (token : String) (n : Nat) (u : IntervalUnit) : Prop :=
  ∃ digits, IsNumeral digits n ∧ token.toList = digits ++ [u.letter]

theorem tellsUnits_toString_append (n : Nat) (u : IntervalUnit) :
    TellsUnits (toString n ++ String.singleton u.letter) n u := by
  refine ⟨Nat.toDigits 10 n, isNumeral_toDigits n, ?_⟩
  rw [String.toList_append, String.toList_singleton, Nat.toString_eq_repr, Nat.toList_repr]

/-! ## Units within a number of seconds -/

namespace IntervalUnit

/-- The largest of the units within so many seconds, but at least one second. -/
structure IsLargest (u : IntervalUnit) (s : Nat) : Prop where
  le : u.seconds ≤ max s 1
  ge : ∀ v : IntervalUnit, v.seconds ≤ max s 1 → v.seconds ≤ u.seconds

variable {u v : IntervalUnit} {s t : Nat}

theorem seconds_inj (h : u.seconds = v.seconds) : u = v := by
  cases u <;> cases v <;> first | rfl | cases h

theorem isLargest_largest (s : Nat) : (largest s).IsLargest s := by
  constructor
  · unfold largest
    split_ifs <;> simp only [seconds] <;> omega
  · intro v
    unfold largest
    cases v <;> split_ifs <;> simp only [seconds] <;> omega

namespace IsLargest

/-- A unit is the only largest one. -/
theorem unique (hu : u.IsLargest s) (hv : v.IsLargest s) : u = v := by
  apply seconds_inj
  apply le_antisymm
  · exact hv.ge u hu.le
  · exact hu.ge v hv.le

/-- More seconds have no smaller unit. -/
theorem mono (hu : u.IsLargest s) (hv : v.IsLargest t) (h : s ≤ t) : u.seconds ≤ v.seconds := by
  apply hv.ge
  have hle := hu.le
  omega

/-- What is left is between one unit and the whole. -/
theorem le_of_pos (hu : u.IsLargest s) (h : 0 < s) : u.seconds ≤ s / u.seconds * u.seconds := by
  have hle : u.seconds ≤ s := by
    have hle := hu.le
    omega
  have hone : 1 ≤ s / u.seconds := Nat.div_pos hle u.seconds_pos
  calc u.seconds = 1 * u.seconds := (Nat.one_mul _).symm
    _ ≤ s / u.seconds * u.seconds := Nat.mul_le_mul_right _ hone

/-- Of more seconds no less is left. -/
theorem div_mul_le (hu : u.IsLargest s) (hv : v.IsLargest t) (h : s ≤ t) :
    s / u.seconds * u.seconds ≤ t / v.seconds * v.seconds := by
  rcases (hu.mono hv h).eq_or_lt with heq | hlt
  · rw [heq]
    exact Nat.mul_le_mul_right _ (Nat.div_le_div_right h)
  · -- the larger unit is out of reach of the fewer seconds, and at least one of it is left
    have hout : s < v.seconds := by
      by_contra hin
      have hle := hu.ge v (by omega)
      omega
    have hpos : 0 < t := by
      have hle := hv.le
      have hfirst := u.seconds_pos
      omega
    calc s / u.seconds * u.seconds ≤ s := Nat.div_mul_le_self _ _
      _ ≤ v.seconds := hout.le
      _ ≤ t / v.seconds * v.seconds := hv.le_of_pos hpos

/-- What is left has the same largest unit. -/
theorem div_mul (hu : u.IsLargest s) (h : 0 < s) : u.IsLargest (s / u.seconds * u.seconds) := by
  have hle : s / u.seconds * u.seconds ≤ s := Nat.div_mul_le_self _ _
  have hunit := hu.le_of_pos h
  constructor
  · omega
  · intro v hv
    apply hu.ge
    omega

end IsLargest

end IntervalUnit

/-! ## Tokens -/

/-- How long the interval is that a token tells; no token is no time. -/
def toldBy (token : String) : Duration := ⟨(tokenSeconds? token).getD 0, 0⟩

namespace Duration

variable {d e : Duration}

theorem isZero_iff : d.isZero = true ↔ d.nanoseconds = 0 := by
  unfold isZero nanoseconds
  rw [Bool.and_eq_true, decide_eq_true_iff, decide_eq_true_iff]
  omega

/-- An interval that is not longer has no more whole seconds. -/
theorem seconds_le (he : e.nanos < 1000000000) (h : d.nanoseconds ≤ e.nanoseconds) :
    d.seconds ≤ e.seconds := by
  unfold nanoseconds at h
  omega

theorem wholeUnits_mono (h : d.seconds ≤ e.seconds) : d.wholeUnits ≤ e.wholeUnits :=
  (IntervalUnit.isLargest_largest _).div_mul_le (IntervalUnit.isLargest_largest _) h

end Duration

theorem toldBy_intervalToken (d : Duration) : toldBy (intervalToken d) = ⟨d.wholeUnits, 0⟩ := by
  unfold toldBy
  by_cases h : d.isZero
  · have hseconds : d.seconds = 0 := by
      rw [Duration.isZero_iff] at h
      unfold Duration.nanoseconds at h
      omega
    have hwhole : d.wholeUnits = 0 := by
      unfold Duration.wholeUnits
      dsimp only
      rw [hseconds, Nat.zero_div, Nat.zero_mul]
    rw [intervalToken, if_pos h, hwhole]
    decide
  · rw [tokenSeconds?_intervalToken h, Option.getD_some]

/-- What a token tells has the same token. -/
theorem intervalToken_wholeUnits {d : Duration} (h : 0 < d.seconds) :
    intervalToken ⟨d.wholeUnits, 0⟩ = intervalToken d := by
  have hunit := IntervalUnit.isLargest_largest d.seconds
  have hsame : IntervalUnit.largest d.wholeUnits = IntervalUnit.largest d.seconds :=
    (IntervalUnit.isLargest_largest _).unique (hunit.div_mul h)
  have hpos : 0 < d.wholeUnits := Duration.wholeUnits_pos_iff.mpr h
  have hcount : d.wholeUnits / (IntervalUnit.largest d.seconds).seconds =
      d.seconds / (IntervalUnit.largest d.seconds).seconds :=
    Nat.mul_div_cancel _ (IntervalUnit.seconds_pos _)
  have hd : ¬ d.isZero := by
    rw [Duration.isZero_iff]
    unfold Duration.nanoseconds
    omega
  have hwhole : ¬ (⟨d.wholeUnits, 0⟩ : Duration).isZero := by
    rw [Duration.isZero_iff]
    unfold Duration.nanoseconds
    dsimp only
    omega
  rw [intervalToken, intervalToken, if_neg hd, if_neg hwhole]
  dsimp only
  rw [hsame, hcount]

/-- The token of an interval is empty just for no time at all. For any other it
tells the whole units of the largest unit within the seconds of the interval.
Longer intervals have tokens that tell no less, and what the token of an interval
of at least one second tells has this token again. -/
theorem intervalToken_truncates (d : Duration) :
    (intervalToken d = "" ↔ d.nanoseconds = 0) ∧
    (d.nanoseconds ≠ 0 → ∃ n u, TellsUnits (intervalToken d) n u ∧
      n * u.seconds ≤ d.seconds ∧ d.seconds < (n + 1) * u.seconds ∧ u.IsLargest d.seconds ∧
      toldBy (intervalToken d) = ⟨n * u.seconds, 0⟩) ∧
    (∀ e : Duration, e.nanos < 1000000000 → d.nanoseconds ≤ e.nanoseconds →
      (toldBy (intervalToken d)).nanoseconds ≤ (toldBy (intervalToken e)).nanoseconds) ∧
    (1 ≤ d.seconds → intervalToken (toldBy (intervalToken d)) = intervalToken d) := by
  refine ⟨?_, ?_, ?_, ?_⟩
  · rw [← Duration.isZero_iff, ← isEmpty_intervalToken, String.isEmpty_iff]
  · intro h
    rw [ne_eq, ← Duration.isZero_iff] at h
    have hunit := (IntervalUnit.largest d.seconds).seconds_pos
    refine ⟨d.seconds / (IntervalUnit.largest d.seconds).seconds, IntervalUnit.largest d.seconds,
      ?_, ?_, ?_, ?_, ?_⟩
    · rw [intervalToken, if_neg h]
      exact tellsUnits_toString_append _ _
    · exact Nat.div_mul_le_self _ _
    · rw [Nat.mul_comm]
      exact Nat.lt_mul_div_succ _ hunit
    · exact IntervalUnit.isLargest_largest _
    · exact toldBy_intervalToken d
  · intro e he h
    rw [toldBy_intervalToken, toldBy_intervalToken]
    have hmono := Duration.wholeUnits_mono (Duration.seconds_le he h)
    unfold Duration.nanoseconds
    dsimp only
    omega
  · intro h
    rw [toldBy_intervalToken]
    exact intervalToken_wholeUnits h

end SearchStore
