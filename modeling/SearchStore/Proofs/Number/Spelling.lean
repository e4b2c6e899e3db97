import SearchStore.Number.Numeral
import SearchStore.Proofs.Number.Bits

/-! # Numbers as texts

In every layout the text of a decimal is a `Spelling` of its value: digits, more of them behind a
point, and a power of ten. A spelling is read as a numeral of its value. The shortest decimal of a
number of a format is rounded to that number (`Decimal.round_shortest`), so the double nearest to
what the text of a finite double says is the double itself (`Double.exists_spelling`).
-/

namespace SearchStore

/-! ## Values of decimals -/

namespace Decimal

variable {F : Format} {d d' : Decimal} {m : Nat} {q : Int}

/-- The number that a decimal stands for. -/
def value (d : Decimal) : ℚ := d.coefficient * 10 ^ d.exponent

theorem toFraction_snd_pos (d : Decimal) : 0 < d.toFraction.2 := by
  rw [toFraction]
  split
  · exact one_pos
  · exact Nat.pow_pos (by norm_num)

theorem toFraction_value (d : Decimal) : (d.toFraction.1 / d.toFraction.2 : ℚ) = d.value := by
  obtain ⟨c, e⟩ := d
  rw [toFraction, value]
  split_ifs with he
  · obtain ⟨k, rfl⟩ := Int.eq_ofNat_of_zero_le he
    simp
  · obtain ⟨k, hk⟩ := Int.eq_ofNat_of_zero_le (show 0 ≤ -e by simp at he; omega)
    obtain rfl : e = -(k : Int) := by omega
    simp [zpow_neg, div_eq_mul_inv]

/-- Decimals of one value are rounded alike. -/
theorem round_toFraction_congr (F : Format) (h : d.value = d'.value) :
    F.round d.toFraction.1 d.toFraction.2 = F.round d'.toFraction.1 d'.toFraction.2 := by
  refine Format.round_congr F (toFraction_snd_pos d) (toFraction_snd_pos d') ?_
  rw [← Format.div_eq_div_iff_mul_eq (toFraction_snd_pos d).ne' (toFraction_snd_pos d').ne',
    toFraction_value, toFraction_value, h]

theorem value_dropZeros (digits : Nat) (d : Decimal) : (dropZeros digits d).value = d.value := by
  rw [dropZeros]
  split_ifs with h
  · rw [value, value, h, zpow_add₀ (by norm_num)]
    simp [mul_comm]
  · rfl

theorem value_exact (m : Nat) (q : Int) : (exact m q).value = m * 2 ^ q := by
  rw [exact, value]
  split_ifs with hq
  · obtain ⟨k, rfl⟩ := Int.eq_ofNat_of_zero_le hq
    simp
  · obtain ⟨k, hk⟩ := Int.eq_ofNat_of_zero_le (show 0 ≤ -q by omega)
    obtain rfl : q = -(k : Int) := by omega
    have hten : (10 : ℚ) ^ k = 2 ^ k * 5 ^ k := by rw [← mul_pow]; norm_num
    simp [zpow_neg, hten]
    field_simp

/-- The shortest decimal of a number of the format is rounded to that number. -/
theorem round_shortest (h : F.Normal m q) :
    F.round (shortest F m q).toFraction.1 (shortest F m q).toFraction.2 = .finite m q := by
  rw [shortest]
  split_ifs with hm
  · subst hm
    rw [h.exponent_of_zero]
    rfl
  · dsimp only
    set found := (List.range 17).findSome? _ with hfound
    cases hd : found with
    | none =>
      -- the exact value stands in
      refine h.round_eq (toFraction_snd_pos _) ?_
      rw [toFraction_value, Option.getD_none, value_exact]
    | some d =>
      obtain ⟨i, -, hi⟩ := List.exists_of_findSome?_eq_some (hfound ▸ hd)
      obtain ⟨d', hfind, rfl⟩ := Option.map_eq_some_iff.mp hi
      rw [Option.getD_some, round_toFraction_congr F (value_dropZeros (i + 1) d')]
      simpa [readsAs] using List.find?_some hfind

end Decimal

/-- The double nearest to a decimal of the value of its shortest one is the double itself. -/
theorem Double.ofFraction_of_value {x : Double} (h : x.isFinite) {d : Decimal}
    (hd : d.value = x.shortest.value) :
    Double.ofFraction x.negative d.toFraction.1 d.toFraction.2 = x := by
  obtain ⟨m, q, hx⟩ := exists_magnitude_eq h
  have hshortest : x.shortest = Decimal.shortest .double m q := by rw [Double.shortest, hx]
  rw [ofFraction, Decimal.round_toFraction_congr _ hd, hshortest,
    Decimal.round_shortest (normal hx), ← hx, ofMagnitude_magnitude h]

/-! ## Reading digits -/

namespace Numeral

/-- The values of some digits. -/
def digitValues (cs : List Char) : List Nat := cs.map fun c => c.toNat - '0'.toNat

@[simp] theorem digitValues_nil : digitValues [] = [] := rfl

@[simp] theorem digitValues_eq_nil {cs : List Char} : digitValues cs = [] ↔ cs = [] :=
  List.map_eq_nil_iff

theorem digit?_of_isDigit {c : Char} (h : c.isDigit) : digit? c = some (c.toNat - '0'.toNat) := by
  rw [Char.isDigit, Bool.and_eq_true, decide_eq_true_iff, decide_eq_true_iff] at h
  rw [digit?, if_pos]
  exact (Bool.and_eq_true ..).mpr ⟨decide_eq_true h.1, decide_eq_true h.2⟩

/-- A run of digits ends where something else stands. -/
theorem takeDigits_append {ds rest : List Char} (hds : ∀ c ∈ ds, c.isDigit)
    (hrest : ∀ c ∈ rest.head?, digit? c = none) :
    takeDigits (ds ++ rest) = (digitValues ds, rest) := by
  induction ds with
  | nil =>
    cases rest with
    | nil => rfl
    | cons c rest => rw [List.nil_append, takeDigits, hrest c rfl]; rfl
  | cons c ds ih =>
    rw [List.forall_mem_cons] at hds
    rw [List.cons_append, takeDigits, digit?_of_isDigit hds.1, ih hds.2]
    rfl

theorem takeDigits_digits {ds : List Char} (hds : ∀ c ∈ ds, c.isDigit) :
    takeDigits ds = (digitValues ds, []) := by
  have hend : ∀ c ∈ ([] : List Char).head?, digit? c = none := by simp
  simpa using takeDigits_append hds hend

theorem digitsValue_digitValues (cs : List Char) :
    digitsValue (digitValues cs) = Nat.ofDigitChars 10 cs 0 := by
  rw [digitsValue, digitValues, List.foldl_map, Nat.ofDigitChars_eq_foldl]

theorem isDigit_of_mem_toDigits {n : Nat} : ∀ c ∈ Nat.toDigits 10 n, c.isDigit :=
  fun _ h => Nat.isDigit_of_mem_toDigits (by norm_num) le_rfl h

/-- A number has no superfluous zeros. -/
theorem head?_toDigits {n : Nat} (h : (Nat.toDigits 10 n).head? = some '0') : n = 0 := by
  induction n using Nat.strongRecOn with
  | ind n ih =>
    rcases Nat.lt_or_ge n 10 with hlt | hle
    · rw [Nat.toDigits_of_lt_base hlt, List.head?_cons] at h
      have hdigit : ∀ k < 10, some k.digitChar = some '0' → k = 0 := by decide
      exact hdigit n hlt h
    · -- the front digit stays the same without the last one
      have hhead : (Nat.toDigits 10 (n / 10)).head? = some '0' := by
        rwa [Nat.toDigits_of_base_le (by decide) hle,
          List.head?_append_of_ne_nil _ Nat.toDigits_ne_nil] at h
      have hzero := ih (n / 10) (by omega) hhead
      omega

/-- The text of an integer is its digits, with a sign if it is negative. -/
theorem toList_toString (n : Int) :
    (toString n).toList =
      if n < 0 then '-' :: Nat.toDigits 10 n.natAbs else Nat.toDigits 10 n.natAbs := by
  rw [Int.toString_eq_repr, Int.repr_eq_if]
  split_ifs with hnonneg hneg hneg
  · omega
  · rw [Nat.toList_repr, show n.toNat = n.natAbs by omega]
  · rw [String.toList_append, Nat.toList_repr, show (-n).toNat = n.natAbs by omega]
    rfl
  · omega

/-- A power of ten at the end of a numeral, with the sign of its exponent. -/
def powerText (k : Int) : List Char :=
  'e' :: (if 0 ≤ k then '+' else '-') :: Nat.toDigits 10 k.natAbs

theorem exponent?_powerText (k : Int) : exponent? (powerText k) = some k := by
  have hdigits := takeDigits_digits (isDigit_of_mem_toDigits (n := k.natAbs))
  have hvalue : digitsValue (digitValues (Nat.toDigits 10 k.natAbs)) = k.natAbs := by
    rw [digitsValue_digitValues, Nat.ofDigitChars_ten_toDigits]
  obtain ⟨d, ds, hcons⟩ :=
    List.exists_cons_of_ne_nil (mt digitValues_eq_nil.mp (Nat.toDigits_ne_nil (n := k.natAbs)))
  rw [hcons] at hdigits hvalue
  rw [powerText, exponent?, if_pos (by decide)]
  split_ifs with hk
  · simp only [takeSign, hdigits, hvalue, Int.ofNat_eq_natCast, Bool.false_eq_true, if_false]
    rw [Int.natAbs_of_nonneg hk]
  · simp only [takeSign, hdigits, hvalue, Int.ofNat_eq_natCast, if_true]
    rw [Int.ofNat_natAbs_of_nonpos (not_le.mp hk).le, neg_neg]

end Numeral

/-! ## Spellings -/

/-- A numeral as it is written: its digits, more of them behind a point, and a power of ten. -/
structure Spelling where
  whole : List Char
  fraction : List Char
  exponent : Option Int
  whole_ne_nil : whole ≠ []
  isDigit_whole : ∀ c ∈ whole, c.isDigit
  isDigit_fraction : ∀ c ∈ fraction, c.isDigit

namespace Spelling

variable (s : Spelling)

/-- The digits behind the point. There is no point without any. -/
def pointed : List Char → List Char
  | [] => []
  | d :: ds => '.' :: d :: ds

@[simp] theorem pointed_nil : pointed [] = [] := rfl

@[simp] theorem pointed_cons (d : Char) (ds : List Char) : pointed (d :: ds) = '.' :: d :: ds := rfl

theorem pointed_of_ne_nil {ds : List Char} (h : ds ≠ []) : pointed ds = '.' :: ds := by
  obtain ⟨d, ds, rfl⟩ := List.exists_cons_of_ne_nil h
  rfl

/-- What follows the digits before the point. -/
def tail : List Char := pointed s.fraction ++ s.exponent.elim [] Numeral.powerText

/-- The spelling as a text. -/
def chars : List Char := s.whole ++ s.tail

/-- The numeral that is spelled. -/
def numeral : Numeral :=
  ⟨Numeral.digitValues s.whole, Numeral.digitValues s.fraction, s.exponent.getD 0⟩

theorem value_numeral : s.numeral.toDecimal.value =
    Nat.ofDigitChars 10 (s.whole ++ s.fraction) 0 *
      10 ^ (s.exponent.getD 0 - s.fraction.length) := by
  rw [← Numeral.digitsValue_digitValues]
  simp [Numeral.toDecimal, numeral, Decimal.value, Numeral.digitValues]

theorem exponent?_elim (k : Option Int) :
    Numeral.exponent? (k.elim [] Numeral.powerText) = some (k.getD 0) := by
  cases k with
  | none => rfl
  | some k => exact Numeral.exponent?_powerText k

theorem digit?_head?_elim (k : Option Int) :
    ∀ c ∈ (k.elim [] Numeral.powerText).head?, Numeral.digit? c = none := by
  cases k with
  | none => simp
  | some k => simp [Numeral.powerText, Numeral.digit?]

theorem takeDigits_chars : Numeral.takeDigits s.chars = (Numeral.digitValues s.whole, s.tail) := by
  refine Numeral.takeDigits_append s.isDigit_whole ?_
  rw [tail]
  cases s.fraction with
  | nil => exact digit?_head?_elim s.exponent
  | cons d ds => simp [Numeral.digit?]

/-- A spelling is read as what it spells. -/
theorem ofText?_chars : Numeral.ofText? s.chars = some s.numeral := by
  have hne := s.whole_ne_nil
  rw [Numeral.ofText?, takeDigits_chars]
  rw [tail, numeral]
  cases hfraction : s.fraction with
  | nil =>
    have hexponent := exponent?_elim s.exponent
    cases hpower : s.exponent <;> simp only [hpower, Option.elim] at hexponent ⊢
    · simp [hne, hexponent]
    · simp only [Numeral.powerText] at hexponent ⊢
      simp [hne, hexponent]
  | cons d ds =>
    have hdigits := Numeral.takeDigits_append (hfraction ▸ s.isDigit_fraction)
      (digit?_head?_elim s.exponent)
    simp only [pointed_cons, List.cons_append] at hdigits ⊢
    simp [hdigits, hne, exponent?_elim]

end Spelling

/-! ## Texts of decimals -/

/-- A text spells a number. If it is `marked`, it has more than the digits of a whole number. -/
def Spells (cs : List Char) (v : ℚ) (marked : Bool) : Prop :=
  ∃ s : Spelling, cs = s.chars ∧ s.numeral.toDecimal.value = v ∧ (marked → s.tail ≠ [])

section Spells

variable {ds fs : List Char}

theorem isDigit_of_mem_zeros {n : Nat} : ∀ c ∈ List.replicate n '0', c.isDigit := by
  intro c hc
  rw [List.eq_of_mem_replicate hc]
  rfl

theorem isDigit_of_mem_append (hds : ∀ c ∈ ds, c.isDigit) (hfs : ∀ c ∈ fs, c.isDigit) :
    ∀ c ∈ ds ++ fs, c.isDigit :=
  fun c hc => (List.mem_append.mp hc).elim (hds c) (hfs c)

/-- Digits before a point and behind it. -/
theorem spells_pointed (hne : ds ≠ []) (hds : ∀ c ∈ ds, c.isDigit) (hfs : ∀ c ∈ fs, c.isDigit)
    (hne' : fs ≠ []) (marked : Bool) :
    Spells (ds ++ '.' :: fs) (Nat.ofDigitChars 10 (ds ++ fs) 0 * 10 ^ (-(fs.length : Int)))
      marked := by
  refine ⟨⟨ds, fs, none, hne, hds, hfs⟩, ?_, ?_, ?_⟩
  · simp [Spelling.chars, Spelling.tail, Spelling.pointed_of_ne_nil hne']
  · simp [Spelling.value_numeral]
  · simp [Spelling.tail, Spelling.pointed_of_ne_nil hne']

/-- The digits of a whole number, with zeros where they end too early. -/
theorem spells_whole (hne : ds ≠ []) (hds : ∀ c ∈ ds, c.isDigit) (k : Nat) (marked : Bool) :
    Spells (ds ++ List.replicate k '0' ++ if marked then ['.', '0'] else [])
      (Nat.ofDigitChars 10 ds 0 * 10 ^ k) marked := by
  have hne' : ds ++ List.replicate k '0' ≠ [] := by simp [hne]
  have hwhole := isDigit_of_mem_append hds (isDigit_of_mem_zeros (n := k))
  cases marked with
  | false =>
    refine ⟨⟨_, [], none, hne', hwhole, by simp⟩, ?_, ?_, ?_⟩
    · simp [Spelling.chars, Spelling.tail]
    · simp [Spelling.value_numeral, Nat.ofDigitChars_append, Nat.ofDigitChars_replicate_zero,
        mul_comm]
    · simp
  | true =>
    obtain ⟨s, hchars, hvalue, htail⟩ :=
      spells_pointed hne' hwhole (isDigit_of_mem_zeros (n := 1)) (by simp) true
    refine ⟨s, by simpa using hchars, ?_, htail⟩
    rw [hvalue, List.append_assoc, List.replicate_append_replicate, Nat.ofDigitChars_append,
      Nat.ofDigitChars_replicate_zero]
    simp
    field_simp
    ring

namespace Decimal

/-- Digits in their places spell their value. -/
theorem positionalText_spells (L : Layout) (hne : ds ≠ []) (hds : ∀ c ∈ ds, c.isDigit) (e : Int) :
    Spells (positionalText L ds e) (Nat.ofDigitChars 10 ds 0 * 10 ^ e) L.pointZero := by
  by_cases he : 0 ≤ e
  · obtain ⟨k, rfl⟩ := Int.eq_ofNat_of_zero_le he
    simpa [positionalText] using spells_whole hne hds k L.pointZero
  · -- the last `k` digits stand behind the point, with zeros before them if there are fewer
    obtain ⟨k, hk⟩ := Int.eq_ofNat_of_zero_le (show 0 ≤ -e by omega)
    obtain rfl : e = -(k : Int) := by omega
    simp only [positionalText, if_neg he, hk, Int.toNat_natCast]
    split_ifs with hplaces
    · have hzeros := isDigit_of_mem_append (isDigit_of_mem_zeros (n := k - ds.length)) hds
      have hspells := spells_pointed (List.cons_ne_nil '0' []) (by simp) hzeros (by simp [hne])
        L.pointZero
      simpa [Nat.ofDigitChars_cons, Nat.ofDigitChars_append, Nat.ofDigitChars_replicate_zero,
        Nat.sub_add_cancel hplaces] using hspells
    · have hlength : ds.length - (ds.length - k) = k := by omega
      have hwhole : ds.take (ds.length - k) ≠ [] := by simp [hne]; omega
      have hfraction : ds.drop (ds.length - k) ≠ [] := by simp; omega
      simpa [hlength] using spells_pointed hwhole (fun c hc => hds c (List.mem_of_mem_take hc))
        (fun c hc => hds c (List.mem_of_mem_drop hc)) hfraction L.pointZero

/-- One digit before the point, the others behind it and a power of ten spell what the digits say
with the first one worth that power. -/
theorem scientificText_spells (hne : ds ≠ []) (hds : ∀ c ∈ ds, c.isDigit) (k : Int) :
    Spells (scientificText ds k) (Nat.ofDigitChars 10 ds 0 * 10 ^ (k - ds.length + 1)) true := by
  obtain ⟨d, rest, rfl⟩ := List.exists_cons_of_ne_nil hne
  rw [List.forall_mem_cons] at hds
  refine ⟨⟨[d], rest, some k, by simp, by simpa using hds.1, hds.2⟩, ?_, ?_, ?_⟩
  · cases rest <;> simp [scientificText, Spelling.chars, Spelling.tail, Numeral.powerText]
  · rw [Spelling.value_numeral]
    simp [sub_add_eq_sub_sub]
  · simp [Spelling.tail, Numeral.powerText]

/-- In every layout the text of a decimal spells its value. -/
theorem text_spells (L : Layout) (d : Decimal) : Spells (d.text L) d.value L.pointZero := by
  rw [text]
  have hne := Nat.toDigits_ne_nil (n := d.coefficient) (b := 10)
  have hds := Numeral.isDigit_of_mem_toDigits (n := d.coefficient)
  split_ifs with hzero hpositional
  · have hspells := positionalText_spells L (List.cons_ne_nil '0' []) (by simp) 0
    have hdigit : Nat.ofDigitChars 10 ['0'] 0 = 0 := rfl
    simpa [value, hzero, hdigit] using hspells
  · have hspells := positionalText_spells L hne hds d.exponent
    rwa [Nat.ofDigitChars_ten_toDigits] at hspells
  · obtain ⟨s, hchars, hvalue, htail⟩ := scientificText_spells hne hds
      (d.exponent + Int.ofNat (Nat.toDigits 10 d.coefficient).length - 1)
    refine ⟨s, hchars, ?_, fun _ => htail rfl⟩
    rw [hvalue, Nat.ofDigitChars_ten_toDigits, value, Int.ofNat_eq_natCast]
    ring_nf

end Decimal

end Spells

/-- The text of a finite double is its sign and a spelling, and the double nearest to what is
spelled is the double itself. -/
theorem Double.exists_spelling (L : Decimal.Layout) {x : Double} (h : x.isFinite) :
    ∃ s : Spelling, (x.textIn L).toList = (if x.negative then '-' :: s.chars else s.chars) ∧
      Double.ofFraction x.negative s.numeral.toDecimal.toFraction.1
        s.numeral.toDecimal.toFraction.2 = x ∧
      (L.pointZero → s.tail ≠ []) := by
  obtain ⟨s, htext, hvalue, htail⟩ := x.shortest.text_spells L
  refine ⟨s, ?_, Double.ofFraction_of_value h hvalue, htail⟩
  cases hneg : x.negative <;> simp [textIn, htext, hneg]

end SearchStore
