import SearchStore.Aggregation.Plan
import SearchStore.Proofs.Number.Spelling

/-! # Widths of time buckets

The width of time buckets is a text for the engine, a number and the letter of
its unit. `tokenSeconds?` reads it again: it is the interval cut down to whole
units (`tokenSeconds?_intervalToken`). Whether the engine chooses the width is
decided before that, by whether the interval is zero, so an interval below one
second asks for buckets of no width. `AggregationPlan.fits_buckets_iff` says
which intervals give buckets that can be used.
-/

namespace SearchStore

/-- A length of time in nanoseconds. -/
def Duration.nanoseconds (d : Duration) : Nat := d.seconds * 1000000000 + d.nanos

/-! ## Units -/

namespace IntervalUnit

def ofLetter? : Char → Option IntervalUnit
  | 's' => some .second
  | 'm' => some .minute
  | 'h' => some .hour
  | 'd' => some .day
  | _ => none

@[simp] theorem ofLetter?_letter (u : IntervalUnit) : ofLetter? u.letter = some u := by
  cases u <;> rfl

theorem digit?_letter (u : IntervalUnit) : Numeral.digit? u.letter = none := by
  cases u <;> rfl

theorem seconds_pos (u : IntervalUnit) : 0 < u.seconds := by
  cases u <;> decide

theorem seconds_largest_le {s : Nat} (h : 0 < s) : (largest s).seconds ≤ s := by
  unfold largest
  split_ifs <;> simp only [seconds] <;> omega

end IntervalUnit

/-! ## Reading a width -/

/-- How many seconds a width is: its digits count the unit that its letter
names. -/
def tokenSeconds? (token : String) : Option Nat :=
  match Numeral.takeDigits token.toList with
  | ([], _) => none
  | (digits, [c]) => (IntervalUnit.ofLetter? c).map fun u => Numeral.digitsValue digits * u.seconds
  | _ => none

theorem tokenSeconds?_toString_append (n : Nat) (u : IntervalUnit) :
    tokenSeconds? (toString n ++ String.singleton u.letter) = some (n * u.seconds) := by
  have htake : Numeral.takeDigits (Nat.toDigits 10 n ++ [u.letter]) =
      (Numeral.digitValues (Nat.toDigits 10 n), [u.letter]) := by
    refine Numeral.takeDigits_append Numeral.isDigit_of_mem_toDigits ?_
    simpa using u.digit?_letter
  obtain ⟨v, vs, hdigits⟩ :=
    List.exists_cons_of_ne_nil (mt Numeral.digitValues_eq_nil.mp (Nat.toDigits_ne_nil (n := n)))
  have hvalue : Numeral.digitsValue (v :: vs) = n := by
    rw [← hdigits, Numeral.digitsValue_digitValues, Nat.ofDigitChars_ten_toDigits]
  have hchars : (toString n ++ String.singleton u.letter).toList =
      Nat.toDigits 10 n ++ [u.letter] := by
    rw [String.toList_append, String.toList_singleton, Nat.toString_eq_repr, Nat.toList_repr]
  rw [tokenSeconds?, hchars, htake, hdigits]
  simp [hvalue]

section

variable {d : Duration}

/-- An interval cut down to whole units, in seconds. The unit is the largest one
that the interval reaches. -/
def Duration.wholeUnits (d : Duration) : Nat :=
  let unit := IntervalUnit.largest d.seconds
  d.seconds / unit.seconds * unit.seconds

theorem tokenSeconds?_intervalToken (h : ¬ d.isZero) :
    tokenSeconds? (intervalToken d) = some d.wholeUnits := by
  rw [intervalToken, if_neg h]
  exact tokenSeconds?_toString_append _ _

theorem isEmpty_intervalToken (d : Duration) : (intervalToken d).isEmpty = d.isZero := by
  by_cases h : d.isZero
  · rw [intervalToken, if_pos h, h]
    rfl
  · -- a text that is read as a width is not empty
    have hread := tokenSeconds?_intervalToken h
    have hne : intervalToken d ≠ "" := by
      intro hempty
      rw [hempty] at hread
      cases hread
    simp [hne, h]

/-- Something is left of an interval just if it has a whole second. -/
theorem Duration.wholeUnits_pos_iff : 0 < d.wholeUnits ↔ 0 < d.seconds := by
  unfold wholeUnits
  have hunit := (IntervalUnit.largest d.seconds).seconds_pos
  constructor
  · intro h
    exact h.trans_le (Nat.div_mul_le_self _ _)
  · intro h
    exact Nat.mul_pos (Nat.div_pos (IntervalUnit.seconds_largest_le h) hunit) hunit

theorem Duration.wholeUnits_le : d.wholeUnits * 1000000000 ≤ d.nanoseconds := by
  have hle : d.wholeUnits ≤ d.seconds := Nat.div_mul_le_self _ _
  unfold nanoseconds
  omega

end

/-! ## Time buckets -/

namespace Aggregation

/-- The engine chooses the width of time buckets, so that there are at most
`limit` of them. -/
def IsAuto (limit : Nat) (time : String) (b : Aggregation) : Prop :=
  b.slots = { autoDateHistogram := some ⟨time, limit⟩ }

/-- The time buckets are so many seconds wide. -/
def IsFixed (time : String) (seconds : Nat) (b : Aggregation) : Prop :=
  ∃ token, b.slots = { dateHistogram := some { field := time, fixedInterval := some token } } ∧
    tokenSeconds? token = some seconds

/-- The time buckets can be used for an interval: the engine chooses their width
if the interval is zero, and otherwise they have a width, within the interval. -/
structure Fits (limit : Nat) (time : String) (d : Duration) (b : Aggregation) : Prop where
  auto_iff : b.IsAuto limit time ↔ d.isZero
  fixed : ¬ d.isZero → ∃ s, b.IsFixed time s ∧ 0 < s ∧ s * 1000000000 ≤ d.nanoseconds

/-- The first aggregation is the second, behind the wrapper for nested documents
if the field belongs to such. -/
def Encloses (field : String) (a b : Aggregation) : Prop :=
  match nestedPath? field with
  | none => a = b
  | some path => a = .mk { nested := some path } [(AggregationPlan.nestedName, b)]

theorem encloses_inNested (field : String) (a : Aggregation) :
    (AggregationPlan.inNested field a).Encloses field a := by
  unfold Encloses AggregationPlan.inNested
  cases nestedPath? field <;> rfl

/-- A width is read in one way only. -/
theorem IsFixed.unique {time : String} {b : Aggregation} {s t : Nat} (hs : b.IsFixed time s)
    (ht : b.IsFixed time t) : s = t := by
  obtain ⟨token, hslots, hread⟩ := hs
  obtain ⟨token', hslots', hread'⟩ := ht
  rw [hslots] at hslots'
  cases hslots'
  exact Option.some.inj (hread.symm.trans hread')

end Aggregation

namespace AggregationPlan

open Aggregation

@[simp] theorem slots_withMetric (a : Aggregation) (field : String) (f : AggregationFunction) :
    (withMetric a field f).slots = a.slots := by
  unfold withMetric
  split <;> rfl

section

variable {limit : Nat} {time : String} {d : Duration} {b : Aggregation}

theorem slots_timeBuckets_of_isZero (h : d.isZero) :
    (timeBuckets limit time d).slots = { autoDateHistogram := some ⟨time, limit⟩ } := by
  rw [timeBuckets, isEmpty_intervalToken, if_pos h]
  rfl

theorem slots_timeBuckets_of_not_isZero (h : ¬ d.isZero) :
    (timeBuckets limit time d).slots =
      { dateHistogram := some { field := time, fixedInterval := some (intervalToken d) } } := by
  rw [timeBuckets, isEmpty_intervalToken, if_neg h]
  rfl

theorem isAuto_iff (h : b.slots = (timeBuckets limit time d).slots) :
    b.IsAuto limit time ↔ d.isZero := by
  by_cases hzero : d.isZero
  · exact iff_of_true (h.trans (slots_timeBuckets_of_isZero hzero)) hzero
  · rw [IsAuto, h, slots_timeBuckets_of_not_isZero hzero]
    simp [hzero]

theorem isFixed (h : b.slots = (timeBuckets limit time d).slots) (hzero : ¬ d.isZero) :
    b.IsFixed time d.wholeUnits :=
  ⟨intervalToken d, h.trans (slots_timeBuckets_of_not_isZero hzero),
    tokenSeconds?_intervalToken hzero⟩

theorem fits_iff (h : b.slots = (timeBuckets limit time d).slots) :
    b.Fits limit time d ↔ d.isZero ∨ 0 < d.seconds := by
  by_cases hzero : d.isZero
  · exact iff_of_true ⟨isAuto_iff h, absurd hzero⟩ (.inl hzero)
  · have hwidth := isFixed h hzero
    constructor
    · intro hfits
      obtain ⟨s, hs, hpos, -⟩ := hfits.fixed hzero
      rw [hs.unique hwidth] at hpos
      exact .inr (Duration.wholeUnits_pos_iff.mp hpos)
    · intro hwhole
      have hpos := hwhole.resolve_left hzero
      exact ⟨isAuto_iff h, fun _ =>
        ⟨_, hwidth, Duration.wholeUnits_pos_iff.mpr hpos, Duration.wholeUnits_le⟩⟩

end

/-- The time buckets of both plans by time. The engine chooses their width just
for an interval of zero; for any other they have one within the interval, which
is positive just if the interval has a whole second. -/
theorem fits_buckets_iff (limit : Nat) (field : String) (f : AggregationFunction)
    (dimension time : String) (d : Duration) :
    ∃ line groups : Aggregation,
      (histogram limit field f time d).aggregation.Encloses time line ∧
      (histogram2d limit field f dimension time d).aggregation.Encloses time groups ∧
      ∀ b ∈ [line, groups],
        (b.IsAuto limit time ↔ d.isZero) ∧
        (¬ d.isZero → ∃ s, b.IsFixed time s ∧ s * 1000000000 ≤ d.nanoseconds ∧
          (0 < s ↔ 0 < d.seconds)) ∧
        (b.Fits limit time d ↔ d.isZero ∨ 0 < d.seconds) := by
  refine ⟨_, _, encloses_inNested time _, encloses_inNested time _, ?_⟩
  intro b hb
  have hslots : b.slots = (timeBuckets limit time d).slots := by
    rcases List.mem_pair.mp hb with rfl | rfl
    · rw [slots_withMetric]
    · rfl
  refine ⟨isAuto_iff hslots, ?_, fits_iff hslots⟩
  intro hzero
  exact ⟨_, isFixed hslots hzero, Duration.wholeUnits_le, Duration.wholeUnits_pos_iff⟩

/-- Buckets of half a second are asked for as `0s`. -/
theorem not_fits_half_second :
    ¬ ∃ b, (histogram 10 "num" .count "createdOn" ⟨0, 500000000⟩).aggregation.Encloses
      "createdOn" b ∧ b.Fits 10 "createdOn" ⟨0, 500000000⟩ := by
  rintro ⟨b, hb, hfits⟩
  have hpath : nestedPath? "createdOn" = none := by decide
  have hzero : IsFixed "createdOn" 0 b := by
    rw [Encloses, hpath] at hb
    subst hb
    exact ⟨"0s", by decide, by decide⟩
  obtain ⟨s, hs, hpos, -⟩ := hfits.fixed (by decide)
  rw [hs.unique hzero] at hpos
  exact absurd hpos (lt_irrefl 0)

end AggregationPlan

end SearchStore
