import SearchStore.Number.Double
import SearchStore.Proofs.Number.Rounding

/-! # Doubles and singles as bits

The sign and the magnitude of a finite double are all that its bits say:
`Double.ofMagnitude_magnitude` brings them back, and the magnitude is in normal
form. The same holds of singles. So the single nearest to a fraction of the value
of a single is the single itself (`Single.ofFraction_eq`), and a single written as
a double is read as that single.
-/

namespace SearchStore

namespace Double

variable {x : Double} {m : Nat} {q : Int}

theorem isFinite_iff : x.isFinite ↔ x.exponentField ≠ 2047 := by simp [isFinite]

theorem exists_magnitude_eq (h : x.isFinite) : ∃ m q, x.magnitude = .finite m q := by
  rw [magnitude, if_neg (isFinite_iff.mp h)]
  split_ifs
  · exact ⟨_, _, rfl⟩
  · exact ⟨_, _, rfl⟩

theorem isFinite_of_magnitude (h : x.magnitude = .finite m q) : x.isFinite := by
  rw [isFinite_iff]
  intro hexp
  rw [magnitude, if_pos hexp] at h
  cases h

/-- The magnitude of a double is in normal form. -/
theorem normal (h : x.magnitude = .finite m q) : Format.double.Normal m q := by
  have hfinite := isFinite_iff.mp (isFinite_of_magnitude h)
  have hexp : x.exponentField < 2048 := Nat.mod_lt _ (by norm_num)
  have hfraction : x.fractionField < 4503599627370496 := Nat.mod_lt _ (by norm_num)
  rw [magnitude, if_neg hfinite] at h
  split_ifs at h with hzero <;> cases h
  · exact ⟨by simp [Format.double]; omega, le_rfl, by simp [Format.double], .inl rfl⟩
  · refine ⟨?_, ?_, ?_, .inr ?_⟩ <;> simp [Format.double] <;> omega

theorem eq_of_toNat {n : Nat} (h : n = x.bits.toNat) : (⟨UInt64.ofNat n⟩ : Double) = x := by
  rw [h, UInt64.ofNat_toNat]

/-- A finite double is its sign and its magnitude. -/
theorem ofMagnitude_magnitude (h : x.isFinite) : ofMagnitude x.negative x.magnitude = x := by
  have hbits : x.bits.toNat < 18446744073709551616 := x.bits.toNat_lt
  have hsign : signBit x.negative = x.bits.toNat / 9223372036854775808 * 9223372036854775808 := by
    by_cases hneg : 9223372036854775808 ≤ x.bits.toNat <;> simp [signBit, negative, hneg] <;> omega
  have hexp : x.exponentField = x.bits.toNat / 4503599627370496 % 2048 := rfl
  have hfraction : x.fractionField = x.bits.toNat % 4503599627370496 := rfl
  rw [magnitude, if_neg (isFinite_iff.mp h)]
  split_ifs with hzero
  · have hlt : x.fractionField < Nat.pow 2 52 := Nat.mod_lt _ (by norm_num)
    rw [ofMagnitude, if_pos hlt]
    apply eq_of_toNat
    omega
  · have hle : ¬ Nat.pow 2 52 + x.fractionField < Nat.pow 2 52 := by omega
    rw [ofMagnitude, if_neg hle]
    apply eq_of_toNat
    simp only [Nat.pow_eq, Nat.reducePow, Int.ofNat_eq_natCast]
    omega

/-- The bits of a double that is made of its fields. -/
theorem fields_ofNat (negative : Bool) {e f : Nat} (he : e < 2048) (hf : f < 4503599627370496) :
    let x : Double := ⟨UInt64.ofNat (signBit negative + e * 4503599627370496 + f)⟩
    x.negative = negative ∧ x.exponentField = e ∧ x.fractionField = f := by
  have hsign : signBit negative = if negative then 9223372036854775808 else 0 := rfl
  simp only [Double.negative, exponentField, fractionField, hsign, Nat.pow_eq,
    Nat.reducePow]
  cases negative <;> simp <;> omega

/-- The sign and the magnitude of a double are those that it is made of. -/
theorem fields_ofMagnitude (negative : Bool) (h : Format.double.Normal m q) :
    (ofMagnitude negative (.finite m q)).negative = negative ∧
      (ofMagnitude negative (.finite m q)).magnitude = .finite m q := by
  obtain ⟨hlt, hleast, hgreatest, hfull⟩ := h
  simp only [Format.double, Nat.reduceSub, Nat.reducePow] at hlt hleast hgreatest hfull
  rw [ofMagnitude]
  simp only [Nat.pow_eq, Nat.reducePow]
  split_ifs with hm
  · obtain ⟨hsign, hexp, hfraction⟩ := fields_ofNat negative (e := 0) (by norm_num) hm
    simp only [Nat.zero_mul, Nat.add_zero] at hsign hexp hfraction
    refine ⟨hsign, ?_⟩
    rw [magnitude, hexp, hfraction]
    simp
    omega
  · obtain ⟨hsign, hexp, hfraction⟩ := fields_ofNat negative (e := (q + 1075).toNat)
      (f := m - 4503599627370496) (by omega) (by omega)
    refine ⟨hsign, ?_⟩
    have hne : (q + 1075).toNat ≠ 2047 := by omega
    have hne' : (q + 1075).toNat ≠ 0 := by omega
    rw [magnitude, hexp, hfraction, if_neg hne, if_neg hne', Magnitude.finite.injEq]
    simp only [Nat.pow_eq, Nat.reducePow, Int.ofNat_eq_natCast]
    omega

end Double

namespace Single

variable {x : Single} {m : Nat} {q : Int}

theorem isFinite_iff : x.isFinite ↔ x.exponentField ≠ 255 := by simp [isFinite]

theorem isFinite_of_magnitude (h : x.magnitude = .finite m q) : x.isFinite := by
  rw [isFinite_iff]
  intro hexp
  rw [magnitude, if_pos hexp] at h
  cases h

theorem exists_magnitude_eq (h : x.isFinite) : ∃ m q, x.magnitude = .finite m q := by
  rw [magnitude, if_neg (isFinite_iff.mp h)]
  split_ifs
  · exact ⟨_, _, rfl⟩
  · exact ⟨_, _, rfl⟩

/-- The magnitude of a single is in normal form. -/
theorem normal (h : x.magnitude = .finite m q) : Format.single.Normal m q := by
  have hfinite := isFinite_iff.mp (isFinite_of_magnitude h)
  have hexp : x.exponentField < 256 := Nat.mod_lt _ (by norm_num)
  have hfraction : x.fractionField < 8388608 := Nat.mod_lt _ (by norm_num)
  rw [magnitude, if_neg hfinite] at h
  split_ifs at h with hzero <;> cases h
  · exact ⟨by simp [Format.single]; omega, le_rfl, by simp [Format.single], .inl rfl⟩
  · refine ⟨?_, ?_, ?_, .inr ?_⟩ <;> simp [Format.single] <;> omega

theorem eq_of_toNat {n : Nat} (h : n = x.bits.toNat) : (⟨UInt32.ofNat n⟩ : Single) = x := by
  rw [h, UInt32.ofNat_toNat]

/-- A finite single is its sign and its magnitude. -/
theorem ofMagnitude_magnitude (h : x.isFinite) : ofMagnitude x.negative x.magnitude = x := by
  have hbits : x.bits.toNat < 4294967296 := x.bits.toNat_lt
  have hsign : (if x.negative then Nat.pow 2 31 else 0) =
      x.bits.toNat / 2147483648 * 2147483648 := by
    by_cases hneg : 2147483648 ≤ x.bits.toNat <;> simp [negative, hneg] <;> omega
  have hexp : x.exponentField = x.bits.toNat / 8388608 % 256 := rfl
  have hfraction : x.fractionField = x.bits.toNat % 8388608 := rfl
  rw [magnitude, if_neg (isFinite_iff.mp h)]
  split_ifs with hzero
  · have hlt : x.fractionField < Nat.pow 2 23 := Nat.mod_lt _ (by norm_num)
    simp only [ofMagnitude, if_pos hlt, hsign]
    apply eq_of_toNat
    omega
  · have hle : ¬ Nat.pow 2 23 + x.fractionField < Nat.pow 2 23 := by omega
    simp only [ofMagnitude, if_neg hle, hsign]
    apply eq_of_toNat
    simp only [Nat.pow_eq, Nat.reducePow, Int.ofNat_eq_natCast]
    omega

/-- The single nearest to a fraction of the value of a single is that single. -/
theorem ofFraction_eq (h : x.magnitude = .finite m q) {n d : Nat} (hd : 0 < d)
    (hvalue : (n / d : ℚ) = m * 2 ^ q) : ofFraction x.negative n d = x := by
  rw [ofFraction, (normal h).round_eq hd hvalue, ← h,
    ofMagnitude_magnitude (isFinite_of_magnitude h)]

/-- As a double a finite single keeps its sign and its value. -/
theorem exists_toDouble (h : x.magnitude = .finite m q) : ∃ m' q',
    x.toDouble.negative = x.negative ∧ x.toDouble.magnitude = .finite m' q' ∧
      (m' * 2 ^ q' : ℚ) = m * 2 ^ q := by
  obtain ⟨hlt, hleast, hgreatest, -⟩ := normal h
  simp only [Format.single, Nat.reducePow] at hlt hleast hgreatest
  have hwidth : m.log2 < 24 := by
    rcases eq_or_ne m 0 with rfl | hm
    · decide
    · exact (Nat.log2_lt hm).mpr hlt
  obtain ⟨m', q', hround, hnormal, hvalue⟩ := Format.double.exists_round_eq (m := m) (q := q)
    (by simp only [Format.double, Nat.reducePow]; omega) (by simp only [Format.double]; omega)
    (by simp only [Format.double]; omega) (by decide) (Format.scale_snd_pos one_pos)
    (Format.scale_value_eq m q)
  obtain ⟨hnegative, hmagnitude⟩ := Double.fields_ofMagnitude x.negative hnormal
  refine ⟨m', q', ?_, ?_, hvalue⟩
  · simpa only [toDouble, h, Double.ofFraction, hround] using hnegative
  · simpa only [toDouble, h, Double.ofFraction, hround] using hmagnitude

/-- A finite single is finite as a double. -/
theorem isFinite_toDouble (h : x.isFinite) : x.toDouble.isFinite := by
  obtain ⟨m, q, hx⟩ := exists_magnitude_eq h
  obtain ⟨m', q', -, hmagnitude, -⟩ := exists_toDouble hx
  exact Double.isFinite_of_magnitude hmagnitude

/-- A finite single comes back from the double with its value. -/
theorem ofDouble_toDouble (h : x.isFinite) : ofDouble x.toDouble = x := by
  obtain ⟨m, q, hx⟩ := exists_magnitude_eq h
  obtain ⟨m', q', hnegative, hmagnitude, hvalue⟩ := exists_toDouble hx
  simp only [ofDouble, hmagnitude, hnegative]
  exact ofFraction_eq hx (Format.scale_snd_pos one_pos)
    ((Format.scale_value_eq m' q').trans hvalue)

end Single

end SearchStore
