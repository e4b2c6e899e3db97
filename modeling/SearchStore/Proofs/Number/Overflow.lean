import SearchStore.Proofs.Number.Spelling

/-! # Numbers beyond a format

A number from the limit of a format on is rounded to more than the format can hold, and no other
number is (`Format.round_eq_infinite_iff`). So a numeral is read as a finite double exactly if it is
below the limit of doubles, which is halfway from the greatest double to the next power of two
(`Numeral.isFinite_nearest_iff`). `Double.Unbounded` says which texts are read as no finite double,
by what is written in them.
-/

namespace SearchStore

/-! ## Nearest integers -/

theorem divNearest_le (n d : Nat) : divNearest n d ≤ n / d + 1 := by
  rw [divNearest]
  split_ifs <;> omega

/-- An even number is the nearest one from half below it on, as a half goes up to it. -/
theorem le_divNearest_iff {k n d : Nat} (hd : 0 < d) (heven : k % 2 = 0) :
    k ≤ divNearest n d ↔ (k - 1 / 2 : ℚ) ≤ n / d := by
  have hnat : (k - 1 / 2 : ℚ) ≤ n / d ↔ 2 * (d * k) ≤ 2 * n + d := by
    rw [le_div_iff₀ (by positivity)]
    constructor
    · intro h
      have h' : (2 * (d * k) : ℚ) ≤ 2 * n + d := by linarith
      exact_mod_cast h'
    · intro h
      have h' : (2 * (d * k) : ℚ) ≤ 2 * n + d := by exact_mod_cast h
      linarith
  have hdiv : d * (n / d) + n % d = n := Nat.div_add_mod n d
  have hmod : n % d < d := Nat.mod_lt n hd
  rw [hnat, divNearest]
  -- the quotient is `k` or more, or just below it, or smaller still
  obtain hge | hpred | hlt : k ≤ n / d ∨ n / d + 1 = k ∨ n / d + 2 ≤ k := by omega
  · have hle : d * k ≤ d * (n / d) := Nat.mul_le_mul_left d hge
    split_ifs <;> omega
  · have hstep : d * k = d * (n / d) + d := by rw [← hpred, Nat.mul_add_one]
    rw [hstep]
    split_ifs <;> omega
  · have hle : d * (n / d) + d * 2 ≤ d * k := by
      rw [← Nat.mul_add]
      exact Nat.mul_le_mul_left d hlt
    split_ifs <;> omega

namespace Format

variable {F : Format} {n d : Nat}

/-- The least number that is rounded to more than the format can hold. -/
def limit (F : Format) : ℚ := (2 ^ F.precision - 1 / 2) * 2 ^ F.greatest

theorem limit_pos (F : Format) : 0 < F.limit := by
  have hone : (1 : ℚ) ≤ 2 ^ F.precision := one_le_pow₀ (by norm_num)
  have hfactor : (0 : ℚ) < 2 ^ F.precision - 1 / 2 := by linarith
  rw [limit]
  positivity

/-- The limit lies in the topmost one of the ranges between powers of two. -/
theorem limit_bounds (hp : 0 < F.precision) :
    (2 : ℚ) ^ (F.greatest + F.precision - 1) ≤ F.limit ∧
      F.limit ≤ 2 ^ (F.greatest + F.precision) := by
  obtain ⟨p, hp⟩ : ∃ p, F.precision = p + 1 := ⟨F.precision - 1, by omega⟩
  have hpos : (0 : ℚ) < 2 ^ F.greatest := by positivity
  have hone : (1 : ℚ) ≤ 2 ^ p := one_le_pow₀ (by norm_num)
  have hlow : (2 : ℚ) ^ (F.greatest + F.precision - 1) = 2 ^ p * 2 ^ F.greatest := by
    rw [hp, Nat.cast_succ, ← add_assoc, add_sub_cancel_right, zpow_add₀ two_ne_zero, zpow_natCast,
      mul_comm]
  have hhigh : (2 : ℚ) ^ (F.greatest + F.precision) = 2 ^ (p + 1) * 2 ^ F.greatest := by
    rw [hp, zpow_add₀ two_ne_zero, zpow_natCast, mul_comm]
  rw [hlow, hhigh, limit, hp]
  constructor
  · apply mul_le_mul_of_nonneg_right _ hpos.le
    rw [pow_succ]
    linarith
  · apply mul_le_mul_of_nonneg_right _ hpos.le
    linarith

/-- The significand at the exponent of a fraction is not wider than the format. -/
theorem divNearest_scale_le (F : Format) (hn : n ≠ 0) (hd : 0 < d) :
    divNearest (scale n d (F.exponentOf n d)).1 (scale n d (F.exponentOf n d)).2 ≤
      2 ^ F.precision := by
  have hx : (0 : ℚ) < n / d := by positivity
  have hnarrow : (scale n d (F.exponentOf n d)).1 / (scale n d (F.exponentOf n d)).2 <
      Nat.pow 2 F.precision := by
    rw [scale_div_lt_iff hd, ← Nat.cast_ofNat, Int.lt_zpow_iff_log_lt one_lt_two hx]
    have hexp := F.exponentOf_eq hn hd.ne'
    omega
  have hle := divNearest_le (scale n d (F.exponentOf n d)).1 (scale n d (F.exponentOf n d)).2
  simp only [Nat.pow_eq] at hnarrow
  omega

/-- A fraction leaves the format if its exponent is too high, or becomes so as the significand is
rounded up to the next power of two. -/
theorem round_eq_infinite_iff_exponentOf (F : Format) (hn : n ≠ 0) :
    F.round n d = .infinite ↔ F.greatest < F.exponentOf n d ∨
      F.exponentOf n d = F.greatest ∧ divNearest (scale n d (F.exponentOf n d)).1
        (scale n d (F.exponentOf n d)).2 = 2 ^ F.precision := by
  simp only [round, if_neg hn, Nat.pow_eq]
  split_ifs with hwide hhigh hhigh
  · simp only [true_iff]
    omega
  · simp only [false_iff]
    omega
  · exact iff_of_true rfl (.inl hhigh)
  · simp only [false_iff, hwide, and_false, or_false]
    exact hhigh

/-- The numbers that are rounded to more than the format can hold. -/
theorem round_eq_infinite_iff (F : Format) (hp : 0 < F.precision) (hrange : F.least ≤ F.greatest)
    (hd : 0 < d) : F.round n d = .infinite ↔ F.limit ≤ n / d := by
  obtain ⟨hlow, hhigh⟩ := limit_bounds hp
  by_cases hn : n = 0
  · have hpos := F.limit_pos
    simp [round, hn, hpos]
  have hx : (0 : ℚ) < n / d := by positivity
  have hexp := F.exponentOf_eq hn hd.ne'
  rw [F.round_eq_infinite_iff_exponentOf hn]
  rcases lt_trichotomy (F.exponentOf n d) F.greatest with hlt | heq | hgt
  · -- the number is below the topmost power of two
    have hsmall : (n / d : ℚ) < 2 ^ (F.greatest + F.precision - 1) := by
      rw [← Nat.cast_ofNat, Int.lt_zpow_iff_log_lt one_lt_two hx]
      omega
    have hbelow : ¬ F.limit ≤ n / d := by linarith
    simp only [hbelow, iff_false]
    omega
  · -- only the significand decides
    have hwide := F.divNearest_scale_le hn hd
    have heven : 2 ^ F.precision % 2 = 0 := by
      obtain ⟨p, hp⟩ : ∃ p, F.precision = p + 1 := ⟨F.precision - 1, by omega⟩
      rw [hp, pow_succ]
      omega
    have hstep : (0 : ℚ) < 2 ^ F.exponentOf n d := by positivity
    have hnearest := le_divNearest_iff (n := (scale n d (F.exponentOf n d)).1)
      (scale_snd_pos hd (n := n) (q := F.exponentOf n d)) heven
    rw [scale_value, le_div_iff₀ hstep, heq] at hnearest
    rw [heq] at hwide ⊢
    simp only [lt_irrefl, false_or, true_and]
    rw [limit]
    push_cast at hnearest
    rw [← hnearest]
    omega
  · have hlarge : ((2 : ℕ) : ℚ) ^ (F.greatest + F.precision) ≤ n / d := by
      rw [Int.zpow_le_iff_le_log one_lt_two hx]
      omega
    simp only [hgt, true_or, true_iff]
    push_cast at hlarge
    linarith

/-- What is rounded within the format has a significand and an exponent of the format. -/
theorem of_round_eq_finite (F : Format) (hp : 0 < F.precision) (hrange : F.least ≤ F.greatest)
    (hd : 0 < d) {m : Nat} {q : Int} (h : F.round n d = .finite m q) :
    m < 2 ^ F.precision ∧ q ≤ F.greatest := by
  by_cases hn : n = 0
  · rw [round, if_pos hn] at h
    cases h
    exact ⟨Nat.two_pow_pos _, hrange⟩
  have hwide := F.divNearest_scale_le hn hd
  have hhalf : 2 ^ (F.precision - 1) < 2 ^ F.precision :=
    Nat.pow_lt_pow_right one_lt_two (by omega)
  simp only [round, if_neg hn, Nat.pow_eq] at h
  split_ifs at h <;> cases h <;> constructor <;> omega

end Format

/-! ## Finite doubles -/

namespace Double

variable {n d : Nat}

theorem not_isFinite_infinity (negative : Bool) : (infinity negative).isFinite = false := by
  cases negative <;> decide

theorem not_isFinite_nan (negative : Bool) : (nan negative).isFinite = false := by
  cases negative <;> decide

theorem isFinite_ofMagnitude (negative : Bool) {m : Nat} {q : Int}
    (hm : m < 2 ^ Format.double.precision) (hq : q ≤ Format.double.greatest) :
    (ofMagnitude negative (.finite m q)).isFinite := by
  simp only [Format.double, Nat.reducePow] at hm hq
  rw [isFinite_iff, ofMagnitude]
  simp only [Nat.pow_eq, Nat.reducePow]
  split_ifs with hsmall
  · obtain ⟨-, hexp, -⟩ := fields_ofNat negative (e := 0) (by norm_num) hsmall
    simp only [Nat.zero_mul, Nat.add_zero] at hexp
    omega
  · obtain ⟨-, hexp, -⟩ := fields_ofNat negative (e := (q + 1075).toNat)
      (f := m - 4503599627370496) (by omega) (by omega)
    omega

/-- The fractions that are rounded to a finite double. -/
theorem isFinite_ofFraction_iff (negative : Bool) (hd : 0 < d) :
    (ofFraction negative n d).isFinite ↔ (n / d : ℚ) < Format.double.limit := by
  have hinfinite := Format.double.round_eq_infinite_iff (n := n) (by decide) (by decide) hd
  rw [ofFraction, ← not_le, ← hinfinite]
  rcases hround : Format.double.round n d with ⟨m, q⟩ | _
  · obtain ⟨hm, hq⟩ := Format.double.of_round_eq_finite (by decide) (by decide) hd hround
    simp [isFinite_ofMagnitude negative hm hq]
  · have hnot : (ofMagnitude negative .infinite).isFinite = false := not_isFinite_infinity negative
    simp [hnot]

/-- Whole numbers are finite doubles far beyond those of 64 bits. -/
theorem isFinite_ofInt_iff (n : Int) :
    (ofInt n).isFinite ↔ (n.natAbs : ℚ) < Format.double.limit := by
  rw [ofInt, isFinite_ofFraction_iff _ one_pos, Nat.cast_one, div_one]

end Double

/-! ## Texts -/

/-- The limit of doubles is beyond the integers of 64 bits and not beyond `10 ^ 400`. -/
theorem Format.limit_double :
    (2 : ℚ) ^ 64 < Format.double.limit ∧ Format.double.limit ≤ 10 ^ 400 := by
  obtain ⟨hlow, hhigh⟩ := Format.double.limit_bounds (by decide)
  constructor
  · calc (2 : ℚ) ^ 64 = 2 ^ ((64 : ℕ) : ℤ) := (zpow_natCast 2 64).symm
      _ < 2 ^ (Format.double.greatest + Format.double.precision - 1) :=
        zpow_lt_zpow_right₀ one_lt_two (by decide)
      _ ≤ Format.double.limit := hlow
  · calc Format.double.limit ≤ 2 ^ (Format.double.greatest + Format.double.precision) := hhigh
      _ ≤ 2 ^ ((3 * 400 : ℕ) : ℤ) := zpow_le_zpow_right₀ one_le_two (by decide)
      _ = 8 ^ 400 := by rw [zpow_natCast, pow_mul]; norm_num
      _ ≤ 10 ^ 400 := pow_le_pow_left₀ (by norm_num) (by norm_num) 400

namespace Numeral

/-- A number has as many digits as it has powers of ten below it. -/
theorem length_toDigits_bounds {n : Nat} (hn : n ≠ 0) :
    10 ^ ((Nat.toDigits 10 n).length - 1) ≤ n ∧ n < 10 ^ (Nat.toDigits 10 n).length := by
  have hne : 0 < (Nat.toDigits 10 n).length := List.length_pos_iff.mpr Nat.toDigits_ne_nil
  constructor
  · by_contra! hlt
    by_cases hone : (Nat.toDigits 10 n).length = 1
    · simp [hone] at hlt
      exact hn hlt
    · have hle := (Nat.length_toDigits_le_iff (by norm_num) (by omega)).mpr hlt
      omega
  · exact (Nat.length_toDigits_le_iff (by norm_num) hne).mp le_rfl

/-- The numerals that are read as a finite double. -/
theorem isFinite_nearest_iff (negative : Bool) (x : Numeral) :
    (x.nearest negative).isFinite ↔ x.toDecimal.value < Format.double.limit := by
  obtain ⟨hlarge, hhuge⟩ := Format.limit_double
  have hone : 1 < Format.double.limit := hlarge.trans' (by norm_num)
  have hzero : (Double.ofFraction negative 0 1).isFinite := by
    rw [Double.isFinite_ofFraction_iff negative one_pos]
    simpa using Format.double.limit_pos
  have hvalue : x.toDecimal.value = x.toDecimal.coefficient * 10 ^ x.toDecimal.exponent := rfl
  generalize hd : x.toDecimal = d at hvalue
  simp only [nearest, hd, Int.ofNat_eq_natCast]
  split_ifs with hnone hhigh hlow
  · simp [hzero, hvalue, hnone, Format.double.limit_pos]
  · -- the power of ten of the first digit is beyond the limit
    obtain ⟨hdigits, -⟩ := length_toDigits_bounds hnone
    rw [Double.not_isFinite_infinity, Bool.false_eq_true, false_iff, not_lt]
    calc Format.double.limit ≤ 10 ^ ((400 : ℕ) : ℤ) := by rwa [zpow_natCast]
      _ ≤ 10 ^ (((Nat.toDigits 10 d.coefficient).length - 1 : ℕ) + d.exponent) :=
        zpow_le_zpow_right₀ (by norm_num) (by omega)
      _ = ((10 ^ ((Nat.toDigits 10 d.coefficient).length - 1) : ℕ) : ℚ) * 10 ^ d.exponent := by
        rw [zpow_add₀ (by norm_num), zpow_natCast, Nat.cast_pow, Nat.cast_ofNat]
      _ ≤ d.value := by
        rw [hvalue]
        exact mul_le_mul_of_nonneg_right (by exact_mod_cast hdigits) (by positivity)
  · -- the power of ten before the first digit is not beyond one
    obtain ⟨-, hdigits⟩ := length_toDigits_bounds hnone
    refine iff_of_true hzero (lt_of_le_of_lt ?_ hone)
    calc
      d.value ≤ ((10 ^ (Nat.toDigits 10 d.coefficient).length : ℕ) : ℚ) * 10 ^ d.exponent := by
        rw [hvalue]
        exact mul_le_mul_of_nonneg_right (by exact_mod_cast hdigits.le) (by positivity)
      _ = 10 ^ ((Nat.toDigits 10 d.coefficient).length + d.exponent) := by
        rw [zpow_add₀ (by norm_num), zpow_natCast, Nat.cast_pow, Nat.cast_ofNat]
      _ ≤ 10 ^ (0 : ℤ) := zpow_le_zpow_right₀ (by norm_num) (by omega)
      _ = 1 := zpow_zero 10
  · rw [Double.isFinite_ofFraction_iff negative (Decimal.toFraction_snd_pos _),
      Decimal.toFraction_value]

end Numeral

namespace Double

/-- Texts that are read as a number but not as a finite one: a numeral from the limit of doubles
on, or the name of what is no finite number, behind a sign or not. -/
def Unbounded (s : String) : Prop :=
  let rest := (Numeral.takeSign s.toList).2
  match Numeral.ofText? rest with
  | some x => Format.double.limit ≤ x.toDecimal.value
  | none => String.ofList (rest.map Char.toLower) ∈ ["inf", "infinity", "nan"]

theorem unbounded_iff (s : String) :
    Unbounded s ↔ ∃ x, ofText? s = some x ∧ x.isFinite = false := by
  rw [Unbounded, ofText?]
  dsimp only
  generalize Numeral.takeSign s.toList = signed
  obtain ⟨negative, rest⟩ := signed
  dsimp only
  cases Numeral.ofText? rest with
  | some x => simp [← not_lt, ← x.isFinite_nearest_iff negative]
  | none =>
    rw [named?]
    dsimp only
    split_ifs with hinf hnan
    · simp only [Bool.or_eq_true, decide_eq_true_eq] at hinf
      rcases hinf with hinf | hinf <;> simp [hinf, not_isFinite_infinity]
    · simp [hnan, not_isFinite_nan]
    · simp only [Bool.or_eq_true, decide_eq_true_eq] at hinf
      simp [hnan, not_or.mp hinf]

end Double

end SearchStore
