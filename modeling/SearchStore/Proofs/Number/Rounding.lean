import Mathlib.Algebra.Order.Field.Power
import Mathlib.Data.Int.Log
import Mathlib.Data.Rat.Floor
import Mathlib.Tactic.FieldSimp
import Mathlib.Tactic.Positivity
import SearchStore.Number.Format

/-! # Rounding

A fraction is rounded at an exponent that only its value decides:
`Format.exponentOf_eq` says which. So fractions of one value are rounded alike
(`round_congr`), and a number that the format has is rounded to itself in its
normal form (`round_eq`).
-/

namespace SearchStore

/-! ## Nearest integers -/

theorem divNearest_mul_left {k : Nat} (hk : 0 < k) (n d : Nat) :
    divNearest (k * n) (k * d) = divNearest n d := by
  have hscale (a b : Nat) : 2 * (k * a) < k * b ↔ 2 * a < b := by
    rw [← Nat.mul_assoc, Nat.mul_comm 2 k, Nat.mul_assoc, Nat.mul_lt_mul_left hk]
  have hscale' (a b : Nat) : k * b < 2 * (k * a) ↔ b < 2 * a := by
    rw [← Nat.mul_assoc, Nat.mul_comm 2 k, Nat.mul_assoc, Nat.mul_lt_mul_left hk]
  simp only [divNearest, Nat.mul_div_mul_left n d hk, Nat.mul_mod_mul_left, hscale, hscale']

/-- The nearest integer depends on the value of the fraction only. -/
theorem divNearest_congr {n d n' d' : Nat} (hd : 0 < d) (hd' : 0 < d') (h : n * d' = n' * d) :
    divNearest n d = divNearest n' d' := by
  rw [← divNearest_mul_left hd' n d, ← divNearest_mul_left hd n' d', Nat.mul_comm d' n, h,
    Nat.mul_comm n' d, Nat.mul_comm d' d]

theorem divNearest_mul_self {d : Nat} (hd : 0 < d) (k : Nat) : divNearest (k * d) d = k := by
  simp [divNearest, Nat.mul_div_cancel k hd, hd]

namespace Format

variable {F : Format} {n d m : Nat} {q : Int}

/-! ## Scaling -/

theorem scale_snd_pos (hd : 0 < d) : 0 < (scale n d q).2 := by
  rw [scale]
  split
  · exact Nat.mul_pos hd (Nat.two_pow_pos _)
  · exact hd

/-- Scaling divides the value. -/
theorem scale_value (n d : Nat) (q : Int) :
    ((scale n d q).1 / (scale n d q).2 : ℚ) = n / d / 2 ^ q := by
  rw [scale]
  split_ifs with hq
  · obtain ⟨k, rfl⟩ := Int.eq_ofNat_of_zero_le hq
    simp [div_div]
  · obtain ⟨k, hk⟩ := Int.eq_ofNat_of_zero_le (show 0 ≤ -q by omega)
    obtain rfl : q = -(k : Int) := by omega
    simp [zpow_neg]
    ring

/-- The fraction of a scaled significand. -/
theorem scale_value_eq (m : Nat) (q : Int) :
    ((scale m 1 (-q)).1 / (scale m 1 (-q)).2 : ℚ) = m * 2 ^ q := by
  rw [scale_value, Nat.cast_one, div_one, zpow_neg, div_inv_eq_mul]

/-- A quotient is narrow if the value is below a power of two. -/
theorem scale_div_lt_iff (hd : 0 < d) (p : Nat) :
    (scale n d q).1 / (scale n d q).2 < Nat.pow 2 p ↔ (n / d : ℚ) < 2 ^ (q + p) := by
  have hpos : (0 : ℚ) < (scale n d q).2 := by exact_mod_cast scale_snd_pos hd
  have htwo : (0 : ℚ) < 2 ^ q := by positivity
  rw [Nat.div_lt_iff_lt_mul (scale_snd_pos hd)]
  have hcast : (scale n d q).1 < Nat.pow 2 p * (scale n d q).2 ↔
      ((scale n d q).1 / (scale n d q).2 : ℚ) < 2 ^ p := by
    rw [div_lt_iff₀ hpos]
    exact_mod_cast Iff.rfl
  rw [hcast, scale_value, div_lt_iff₀ htwo, zpow_add₀ two_ne_zero, zpow_natCast, mul_comm]

/-! ## The exponent -/

/-- The logarithms of its two sides locate a fraction between two powers of two. -/
theorem log_bounds (hn : n ≠ 0) (hd : d ≠ 0) :
    Int.log 2 (n / d : ℚ) ≤ n.log2 - d.log2 ∧
      (n.log2 : Int) - d.log2 - 1 ≤ Int.log 2 (n / d : ℚ) := by
  have hn0 : (0 : ℚ) < n := by positivity
  have hd0 : (0 : ℚ) < d := by positivity
  have hx : (0 : ℚ) < n / d := by positivity
  have hnlow : (2 : ℚ) ^ n.log2 ≤ n := by exact_mod_cast Nat.log2_self_le hn
  have hnhigh : (n : ℚ) < 2 ^ (n.log2 + 1) := by exact_mod_cast Nat.lt_log2_self
  have hdlow : (2 : ℚ) ^ d.log2 ≤ d := by exact_mod_cast Nat.log2_self_le hd
  have hdhigh : (d : ℚ) < 2 ^ (d.log2 + 1) := by exact_mod_cast Nat.lt_log2_self
  constructor
  · have hlt : (n / d : ℚ) < (2 : ℕ) ^ ((n.log2 : Int) - d.log2 + 1) :=
      calc (n / d : ℚ) < 2 ^ (n.log2 + 1) / 2 ^ d.log2 :=
            div_lt_div₀ hnhigh hdlow (by positivity) (by positivity)
        _ = (2 : ℕ) ^ ((n.log2 : Int) - d.log2 + 1) := by
            rw [Nat.cast_ofNat, sub_add_eq_add_sub, zpow_sub₀ two_ne_zero]
            norm_cast
    have hlog := (Int.lt_zpow_iff_log_lt one_lt_two hx).mp hlt
    omega
  · have hle : ((2 : ℕ) : ℚ) ^ ((n.log2 : Int) - d.log2 - 1) ≤ n / d :=
      calc ((2 : ℕ) : ℚ) ^ ((n.log2 : Int) - d.log2 - 1) = 2 ^ n.log2 / 2 ^ (d.log2 + 1) := by
            rw [Nat.cast_ofNat, sub_sub, zpow_sub₀ two_ne_zero]
            norm_cast
        _ ≤ n / d := div_le_div₀ hn0.le hnlow hd0 hdhigh.le
    exact (Int.zpow_le_iff_le_log one_lt_two hx).mp hle

/-- The exponent gives the significand its full width, unless that is below the least one. -/
theorem exponentOf_eq (F : Format) (hn : n ≠ 0) (hd : d ≠ 0) :
    F.exponentOf n d = max F.least (Int.log 2 (n / d : ℚ) - F.precision + 1) := by
  have hx : (0 : ℚ) < n / d := by positivity
  obtain ⟨hhigh, hlow⟩ := log_bounds hn hd
  have hnarrow (q : Int) : (scale n d q).1 / (scale n d q).2 < Nat.pow 2 F.precision ↔
      Int.log 2 (n / d : ℚ) < q + F.precision := by
    rw [scale_div_lt_iff (Nat.pos_of_ne_zero hd), ← Int.lt_zpow_iff_log_lt one_lt_two hx,
      Nat.cast_ofNat]
  simp only [exponentOf, hnarrow]
  split_ifs <;> simp only [Int.ofNat_eq_natCast] at * <;> omega

theorem exponentOf_congr (F : Format) {n' d' : Nat} (hn : n ≠ 0) (hd : d ≠ 0) (hn' : n' ≠ 0)
    (hd' : d' ≠ 0) (h : (n / d : ℚ) = n' / d') : F.exponentOf n d = F.exponentOf n' d' := by
  rw [exponentOf_eq F hn hd, exponentOf_eq F hn' hd', h]

/-! ## Rounding -/

theorem div_eq_div_iff_mul_eq {n' d' : Nat} (hd : d ≠ 0) (hd' : d' ≠ 0) :
    (n / d : ℚ) = n' / d' ↔ n * d' = n' * d := by
  rw [div_eq_div_iff (by positivity) (by positivity)]
  exact_mod_cast Iff.rfl

/-- Fractions of one value are rounded alike. -/
theorem round_congr (F : Format) {n' d' : Nat} (hd : 0 < d) (hd' : 0 < d')
    (h : n * d' = n' * d) : F.round n d = F.round n' d' := by
  by_cases hn : n = 0
  · have hn' : n' = 0 := by
      rw [hn, Nat.zero_mul, eq_comm, Nat.mul_eq_zero] at h
      omega
    rw [hn, hn', round, round]
    rfl
  · have hn' : n' ≠ 0 := by
      rintro rfl
      rw [Nat.zero_mul, Nat.mul_eq_zero] at h
      omega
    have hvalue : (n / d : ℚ) = n' / d' := (div_eq_div_iff_mul_eq hd.ne' hd'.ne').mpr h
    have hscaled (q : Int) : divNearest (scale n d q).1 (scale n d q).2 =
        divNearest (scale n' d' q).1 (scale n' d' q).2 := by
      refine divNearest_congr (scale_snd_pos hd) (scale_snd_pos hd') ?_
      rw [← div_eq_div_iff_mul_eq (scale_snd_pos hd).ne' (scale_snd_pos hd').ne', scale_value,
        scale_value, hvalue]
    simp only [round, if_neg hn, if_neg hn', exponentOf_congr F hn hd.ne' hn' hd'.ne' hvalue,
      hscaled]

/-- A whole number of steps at its exponent is rounded to itself. -/
theorem round_eq_of_exponentOf (F : Format) (hn : n ≠ 0) (hd : 0 < d)
    (hm : m < Nat.pow 2 F.precision) (hq : F.exponentOf n d ≤ F.greatest)
    (h : (n / d : ℚ) = m * 2 ^ F.exponentOf n d) :
    F.round n d = .finite m (F.exponentOf n d) := by
  have hscaled : (scale n d (F.exponentOf n d)).1 = m * (scale n d (F.exponentOf n d)).2 := by
    have hvalue := scale_value n d (F.exponentOf n d)
    have hpos : (0 : ℚ) < (scale n d (F.exponentOf n d)).2 := by exact_mod_cast scale_snd_pos hd
    rw [h, mul_div_cancel_right₀ _ (by positivity), div_eq_iff hpos.ne'] at hvalue
    exact_mod_cast hvalue
  simp only [round, if_neg hn, hscaled, divNearest_mul_self (scale_snd_pos hd), if_neg hm.ne,
    if_neg (not_lt.mpr hq)]

/-! ## Numbers of a format -/

/-- A number of a format in normal form. -/
structure Normal (F : Format) (m : Nat) (q : Int) : Prop where
  lt : m < 2 ^ F.precision
  least_le : F.least ≤ q
  le_greatest : q ≤ F.greatest
  full : q = F.least ∨ 2 ^ (F.precision - 1) ≤ m

/-- Only zero has no significand, and it has the least exponent. -/
theorem Normal.exponent_of_zero (h : F.Normal 0 q) : q = F.least :=
  h.full.resolve_right (by simp)

theorem num_ne_zero (hm : m ≠ 0) (h : (n / d : ℚ) = m * 2 ^ q) : n ≠ 0 := by
  rintro rfl
  have hx : (0 : ℚ) < m * 2 ^ q := by positivity
  simp [← h] at hx

theorem log_mul_zpow (hm : m ≠ 0) (q : Int) : Int.log 2 (m * 2 ^ q : ℚ) = m.log2 + q := by
  have hx : (0 : ℚ) < m * 2 ^ q := by positivity
  have hlow : (2 : ℚ) ^ m.log2 ≤ m := by exact_mod_cast Nat.log2_self_le hm
  have hhigh : (m : ℚ) < 2 ^ (m.log2 + 1) := by exact_mod_cast Nat.lt_log2_self
  have hle : ((2 : ℕ) : ℚ) ^ ((m.log2 : Int) + q) ≤ m * 2 ^ q := by
    rw [Nat.cast_ofNat, zpow_add₀ two_ne_zero, zpow_natCast]
    exact mul_le_mul_of_nonneg_right hlow (by positivity)
  have hlt : (m * 2 ^ q : ℚ) < (2 : ℕ) ^ ((m.log2 : Int) + q + 1) := by
    rw [Nat.cast_ofNat, add_right_comm, zpow_add₀ two_ne_zero]
    exact mul_lt_mul_of_pos_right (by exact_mod_cast hhigh) (by positivity)
  have hle' := (Int.zpow_le_iff_le_log one_lt_two hx).mp hle
  have hlt' := (Int.lt_zpow_iff_log_lt one_lt_two hx).mp hlt
  omega

/-- A number whose significand is not too wide, at an exponent that is not too low, is rounded to
its normal form. -/
theorem exists_round_eq (F : Format) (hm : m < 2 ^ F.precision) (hleast : F.least ≤ q)
    (hgreatest : q + m.log2 < F.greatest + F.precision) (hrange : F.least ≤ F.greatest)
    (hd : 0 < d) (h : (n / d : ℚ) = m * 2 ^ q) :
    ∃ m' q', F.round n d = .finite m' q' ∧ F.Normal m' q' ∧
      (m' * 2 ^ q' : ℚ) = m * 2 ^ q := by
  have hd0 : (d : ℚ) ≠ 0 := by positivity
  by_cases hzero : m = 0
  · have hn : (n : ℚ) = 0 := by simpa [hzero, hd0] using h
    refine ⟨0, F.least, ?_, ⟨Nat.two_pow_pos _, le_rfl, hrange, .inl rfl⟩, by simp [hzero]⟩
    rw [Nat.cast_eq_zero.mp hn, round, if_pos rfl]
  · have hn : n ≠ 0 := num_ne_zero hzero h
    have hwidth : m.log2 < F.precision := (Nat.log2_lt hzero).mpr hm
    have hexp := F.exponentOf_eq hn hd.ne'
    rw [h, log_mul_zpow hzero] at hexp
    -- the exponent of the normal form is not above the given one
    obtain ⟨k, hk⟩ := Int.eq_ofNat_of_zero_le (show 0 ≤ q - F.exponentOf n d by omega)
    have hvalue : ((m * 2 ^ k : ℕ) * 2 ^ F.exponentOf n d : ℚ) = m * 2 ^ q := by
      rw [Nat.cast_mul, Nat.cast_pow, Nat.cast_ofNat, mul_assoc, ← zpow_natCast,
        ← zpow_add₀ two_ne_zero, ← hk, sub_add_cancel]
    have hlt : m * 2 ^ k < 2 ^ F.precision :=
      calc m * 2 ^ k < 2 ^ (m.log2 + 1) * 2 ^ k :=
            Nat.mul_lt_mul_of_pos_right Nat.lt_log2_self (Nat.two_pow_pos k)
        _ = 2 ^ (m.log2 + 1 + k) := (Nat.pow_add ..).symm
        _ ≤ 2 ^ F.precision := Nat.pow_le_pow_right two_pos (by omega)
    have hfull : F.exponentOf n d = F.least ∨ 2 ^ (F.precision - 1) ≤ m * 2 ^ k := by
      refine or_iff_not_imp_left.mpr fun hne => ?_
      calc 2 ^ (F.precision - 1) = 2 ^ (m.log2 + k) := by congr 1; omega
        _ = 2 ^ m.log2 * 2 ^ k := Nat.pow_add ..
        _ ≤ m * 2 ^ k := Nat.mul_le_mul_right _ (Nat.log2_self_le hzero)
    have hle : F.exponentOf n d ≤ F.greatest := by omega
    refine ⟨m * 2 ^ k, F.exponentOf n d, ?_, ⟨hlt, by omega, hle, hfull⟩, hvalue⟩
    exact F.round_eq_of_exponentOf hn hd hlt hle (h.trans hvalue.symm)

/-- A number in normal form is rounded to itself. -/
theorem Normal.round_eq (hnormal : F.Normal m q) (hd : 0 < d)
    (h : (n / d : ℚ) = m * 2 ^ q) : F.round n d = .finite m q := by
  have hd0 : (d : ℚ) ≠ 0 := by positivity
  by_cases hm : m = 0
  · have hn : (n : ℚ) = 0 := by simpa [hm, hd0] using h
    subst hm
    rw [Nat.cast_eq_zero.mp hn, hnormal.exponent_of_zero, round, if_pos rfl]
  · have hn : n ≠ 0 := num_ne_zero hm h
    have hwidth : m.log2 < F.precision := (Nat.log2_lt hm).mpr hnormal.lt
    have hexp : F.exponentOf n d = q := by
      have hleast := hnormal.least_le
      rw [F.exponentOf_eq hn hd.ne', h, log_mul_zpow hm]
      rcases hnormal.full with hq | hfull
      · omega
      · have hlog : F.precision - 1 ≤ m.log2 := (Nat.le_log2 hm).mpr hfull
        omega
    rw [← hexp] at h ⊢
    exact F.round_eq_of_exponentOf hn hd hnormal.lt (hexp.trans_le hnormal.le_greatest) h

end Format

end SearchStore
