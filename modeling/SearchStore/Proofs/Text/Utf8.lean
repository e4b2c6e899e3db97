import Mathlib.Algebra.Group.Nat.Defs
import Mathlib.Tactic.SplitIfs
import SearchStore.Text.Utf8

/-! # What is read as UTF-8

The bytes of a character are read one by one. In the middle of one, the bits that
are there and the limits of the next byte say which characters can still come:
`Pending.Of` is that invariant, which the first byte brings about and each further
one keeps. It holds the reader to the bytes that a character is written with, so
that `decode_eq_ok_iff` knows no longer forms and no surrogates.
-/

namespace SearchStore.Text.Utf8

/-- The last bytes of the character with number `n`, each with six of its bits. -/
def lastBytes : Nat → Nat → List UInt8
  | 0, _ => []
  | k + 1, n => UInt8.ofNat (n / 64 ^ k % 64 + 0x80) :: lastBytes k n

theorem toNat_ofNat_of_lt {n : Nat} (h : n < 256) : (UInt8.ofNat n).toNat = n := by
  rw [UInt8.toNat_ofNat', Nat.mod_eq_of_lt h]

theorem eq_ofNat {b : UInt8} {n : Nat} (h : n = b.toNat) : UInt8.ofNat n = b := by
  rw [h, UInt8.ofNat_toNat]

/-- The bytes of a character, by its number. -/
theorem encodeChar_ofNat {n : Nat} (h : n.isValidChar) :
    String.utf8EncodeChar (Char.ofNat n) =
      if n ≤ 0x7F then [UInt8.ofNat n]
      else if n ≤ 0x7FF then UInt8.ofNat (n / 64 % 32 + 0xC0) :: lastBytes 1 n
      else if n ≤ 0xFFFF then UInt8.ofNat (n / 4096 % 16 + 0xE0) :: lastBytes 2 n
      else UInt8.ofNat (n / 262144 % 8 + 0xF0) :: lastBytes 3 n := by
  have hn : (Char.ofNat n).val.toNat = n := by
    rw [Char.ofNat, dif_pos h]
    rfl
  unfold String.utf8EncodeChar
  simp [hn, lastBytes]

namespace Pending

/-- A number whose character can still come. -/
structure Allows (p : Pending) (n : Nat) : Prop where
  code : n / 64 ^ p.missing = p.code
  low : p.low ≤ n / 64 ^ (p.missing - 1) % 64 + 0x80
  high : n / 64 ^ (p.missing - 1) % 64 + 0x80 ≤ p.high

/-- Some bytes are read. Each number that is still allowed is that of a character
which is written with these bytes first. -/
structure Of (p : Pending) (front : List UInt8) : Prop where
  missing : 0 < p.missing
  low : 0x80 ≤ p.low
  high : p.high ≤ 0xBF
  written : ∀ n, p.Allows n → n.isValidChar ∧
    String.utf8EncodeChar (Char.ofNat n) = front ++ lastBytes p.missing n

/-- What is known after one more byte. -/
def next (p : Pending) (b : UInt8) : Pending :=
  ⟨p.missing - 1, p.code * 64 + (b.toNat - 0x80), p.seen + 1, 0x80, 0xBF⟩

variable {p : Pending} {b : UInt8} {front : List UInt8} {n : Nat}

/-- The number of a character that goes on with a byte is allowed before it, and its next byte
is the one that is read. -/
theorem allows_of_next (hp : p.Of front) (hlow : p.low ≤ b.toNat) (hhigh : b.toNat ≤ p.high)
    (h : n / 64 ^ (p.missing - 1) = p.code * 64 + (b.toNat - 0x80)) :
    p.Allows n ∧ n / 64 ^ (p.missing - 1) % 64 + 0x80 = b.toNat := by
  have hpos := hp.missing
  have hlow' := hp.low
  have hhigh' := hp.high
  have hdigit : n / 64 ^ (p.missing - 1) % 64 + 0x80 = b.toNat := by omega
  refine ⟨⟨?_, by omega, by omega⟩, hdigit⟩
  have hsplit : 64 ^ p.missing = 64 ^ (p.missing - 1) * 64 := by
    rw [← pow_succ]
    congr 1
    omega
  rw [hsplit, ← Nat.div_div_eq_div_mul, h]
  omega

theorem lastBytes_of_pos (h : 0 < p.missing) (n : Nat) :
    lastBytes p.missing n =
      UInt8.ofNat (n / 64 ^ (p.missing - 1) % 64 + 0x80) :: lastBytes (p.missing - 1) n := by
  obtain ⟨k, hk⟩ : ∃ k, p.missing = k + 1 := ⟨p.missing - 1, by omega⟩
  rw [hk]
  rfl

/-- A further byte keeps the invariant. -/
theorem Of.next (hp : p.Of front) (hlow : p.low ≤ b.toNat) (hhigh : b.toNat ≤ p.high)
    (hmore : 1 < p.missing) : (p.next b).Of (front ++ [b]) where
  missing := by
    unfold Pending.next
    dsimp only
    omega
  low := Nat.le_refl _
  high := Nat.le_refl _
  written := by
    intro n hn
    obtain ⟨hallows, hdigit⟩ := allows_of_next hp hlow hhigh hn.code
    obtain ⟨hvalid, hwritten⟩ := hp.written n hallows
    refine ⟨hvalid, ?_⟩
    rw [hwritten, lastBytes_of_pos hp.missing, eq_ofNat hdigit, List.append_assoc]
    rfl

/-- The last byte completes a character, which is written with the bytes that are read. -/
theorem Of.last (hp : p.Of front) (hlow : p.low ≤ b.toNat) (hhigh : b.toNat ≤ p.high)
    (hlast : p.missing ≤ 1) :
    String.utf8EncodeChar (Char.ofNat (p.code * 64 + (b.toNat - 0x80))) = front ++ [b] := by
  have hone : p.missing = 1 := by
    have hpos := hp.missing
    omega
  obtain ⟨hallows, hdigit⟩ := allows_of_next hp hlow hhigh
    (n := p.code * 64 + (b.toNat - 0x80)) (by simp [hone])
  obtain ⟨-, hwritten⟩ := hp.written _ hallows
  rw [hwritten, lastBytes_of_pos hp.missing, eq_ofNat hdigit, hone]
  rfl

/-- The first byte of a character brings the invariant about. -/
theorem of_lead (h : lead b.toNat = .opens p) : p.Of [b] := by
  have hbyte : b.toNat < 256 := b.toNat_lt
  unfold lead at h
  split_ifs at h
  -- seven kinds of first bytes; the limits of each keep longer forms and surrogates out
  all_goals
    cases h
    simp only [Bool.and_eq_true, decide_eq_true_eq] at *
    refine ⟨by simp, by simp, by simp, ?_⟩
    rintro n ⟨hcode, hlow, hhigh⟩
    simp only [Nat.sub_self, Nat.reduceSub, pow_zero, pow_one, Nat.reducePow, Nat.div_one]
      at hcode hlow hhigh
    have hvalid : n.isValidChar := by
      unfold Nat.isValidChar
      omega
    refine ⟨hvalid, ?_⟩
    rw [encodeChar_ofNat hvalid]
    split_ifs
  all_goals first
    | omega
    | exact congrArg (· :: _) (eq_ofNat (by omega))

end Pending

/-- A byte that is a character is all of it. -/
theorem encodeChar_of_lead {b : UInt8} {c : Char} (h : lead b.toNat = .ascii c) :
    String.utf8EncodeChar c = [b] := by
  unfold lead at h
  split_ifs at h
  all_goals cases h
  have hvalid : b.toNat.isValidChar := by
    unfold Nat.isValidChar
    omega
  rw [encodeChar_ofNat hvalid, if_pos (by omega), UInt8.ofNat_toNat]

/-! ## From bytes to characters -/

/-- Which bytes can have been read between pieces, or in the middle of a character. -/
def Front : Option Pending → List UInt8 → Prop
  | none, front => front = []
  | some p, front => p.Of front

/-- What is read as characters are their bytes. -/
theorem eq_of_pieces {bytes front : List UInt8} {st : Option Pending} {cs : List Char}
    (h : pieces st bytes = cs.map .char) (hfront : Front st front) :
    front ++ bytes = cs.flatMap String.utf8EncodeChar := by
  induction bytes generalizing st cs front with
  | nil =>
    cases st with
    | none =>
      rw [pieces] at h
      obtain rfl : front = [] := hfront
      obtain rfl : cs = [] := List.map_eq_nil_iff.mp h.symm
      rfl
    | some p =>
      -- a character that is cut off is none
      rw [pieces] at h
      cases cs with
      | nil => cases h
      | cons c cs => cases h
  | cons b rest ih =>
    cases st with
    | none =>
      obtain rfl : front = [] := hfront
      rw [pieces, pieces.begin] at h
      cases hlead : lead b.toNat with
      | ascii c =>
        simp only [hlead] at h
        cases cs with
        | nil => cases h
        | cons d cs =>
          obtain ⟨hchar, hrest⟩ := List.cons.inj h
          have hback := ih hrest (show Front none [] from rfl)
          rw [List.nil_append] at hback
          rw [List.flatMap_cons, ← hback, ← Piece.char.inj hchar, encodeChar_of_lead hlead,
            List.singleton_append, List.nil_append]
      | opens p =>
        simp only [hlead] at h
        exact ih h (Pending.of_lead hlead)
      | bad =>
        simp only [hlead] at h
        cases cs with
        | nil => cases h
        | cons d cs => cases h
    | some p =>
      have hp : p.Of front := hfront
      rw [pieces] at h
      split at h
      · next hlimits =>
        obtain ⟨hlow, hhigh⟩ : p.low ≤ b.toNat ∧ b.toNat ≤ p.high := by simpa using hlimits
        dsimp only at h
        split at h
        · next hlast =>
          cases cs with
          | nil => cases h
          | cons d cs =>
            obtain ⟨hchar, hrest⟩ := List.cons.inj h
            have hback := ih hrest (show Front none [] from rfl)
            rw [List.nil_append] at hback
            rw [List.flatMap_cons, ← hback, ← Piece.char.inj hchar, hp.last hlow hhigh hlast,
              List.append_assoc, List.singleton_append]
        · next hmore =>
          have hnext : Front (some (p.next b)) (front ++ [b]) := hp.next hlow hhigh (by omega)
          rw [← ih h hnext, List.append_assoc, List.singleton_append]
      · cases cs with
        | nil => cases h
        | cons d cs => cases h

/-! ## From characters to bytes -/

/-- The next byte of an allowed number is within the limits, and adds its bits to those that are
there. -/
theorem pieces_next {p : Pending} {n : Nat} (hpos : 0 < p.missing) (h : p.Allows n)
    (rest : List UInt8) :
    pieces (some p) (lastBytes p.missing n ++ rest) =
      if p.missing ≤ 1 then
        .char (Char.ofNat (n / 64 ^ (p.missing - 1))) ::
          pieces none (lastBytes (p.missing - 1) n ++ rest)
      else
        pieces (some ⟨p.missing - 1, n / 64 ^ (p.missing - 1), p.seen + 1, 0x80, 0xBF⟩)
          (lastBytes (p.missing - 1) n ++ rest) := by
  obtain ⟨hcode, hlow, hhigh⟩ := h
  have hbyte : (UInt8.ofNat (n / 64 ^ (p.missing - 1) % 64 + 0x80)).toNat =
      n / 64 ^ (p.missing - 1) % 64 + 0x80 := toNat_ofNat_of_lt (by omega)
  have hbits : p.code * 64 + n / 64 ^ (p.missing - 1) % 64 = n / 64 ^ (p.missing - 1) := by
    have hsplit : 64 ^ p.missing = 64 ^ (p.missing - 1) * 64 := by
      rw [← pow_succ]
      congr 1
      omega
    rw [← hcode, hsplit, ← Nat.div_div_eq_div_mul]
    omega
  rw [p.lastBytes_of_pos hpos, List.cons_append, pieces, hbyte, if_pos (by simp [hlow, hhigh]),
    Nat.add_sub_cancel, hbits]

/-- Bytes that go on as the number of a character demands are read as this character. -/
theorem pieces_lastBytes {p : Pending} {n : Nat} (hpos : 0 < p.missing) (h : p.Allows n)
    (rest : List UInt8) :
    pieces (some p) (lastBytes p.missing n ++ rest) = .char (Char.ofNat n) :: pieces none rest := by
  obtain ⟨k, hk⟩ : ∃ k, p.missing = k + 1 := ⟨p.missing - 1, by omega⟩
  induction k generalizing p with
  | zero =>
    rw [pieces_next hpos h, if_pos (by omega), hk]
    simp [lastBytes]
  | succ k ih =>
    rw [pieces_next hpos h, if_neg (by omega)]
    -- the limits of a further byte are those of any six bits
    apply ih
    · dsimp only
      omega
    · constructor
      · rfl
      · dsimp only
        omega
      · dsimp only
        omega
    · dsimp only
      omega

theorem lead_two {b : Nat} (hlow : 0xC2 ≤ b) (hhigh : b ≤ 0xDF) :
    lead b = .opens ⟨1, b - 0xC0, 1, 0x80, 0xBF⟩ := by
  unfold lead
  rw [if_neg (by omega), if_pos (by simp [hlow, hhigh])]

theorem lead_three {b : Nat} (hlow : 0xE0 ≤ b) (hhigh : b ≤ 0xEF) :
    lead b = .opens ⟨2, b - 0xE0, 1, if b = 0xE0 then 0xA0 else 0x80,
      if b = 0xED then 0x9F else 0xBF⟩ := by
  unfold lead
  rw [if_neg (by omega), if_neg (by simp; omega)]
  by_cases hfirst : b = 0xE0
  · simp [hfirst]
  · by_cases hsurrogates : b = 0xED
    · simp [hsurrogates]
    · rw [if_neg hfirst, if_neg hsurrogates, if_neg hfirst, if_neg hsurrogates,
        if_pos (by simp; omega)]

theorem lead_four {b : Nat} (hlow : 0xF0 ≤ b) (hhigh : b ≤ 0xF4) :
    lead b = .opens ⟨3, b - 0xF0, 1, if b = 0xF0 then 0x90 else 0x80,
      if b = 0xF4 then 0x8F else 0xBF⟩ := by
  unfold lead
  rw [if_neg (by omega), if_neg (by simp; omega), if_neg (by omega), if_neg (by omega),
    if_neg (by simp; omega)]
  by_cases hfirst : b = 0xF0
  · simp [hfirst]
  · by_cases hlast : b = 0xF4
    · simp [hlast]
    · rw [if_neg hfirst, if_pos (by simp; omega), if_neg hfirst, if_neg hlast]

/-- How a character of several bytes begins. -/
theorem exists_lead {n : Nat} (hvalid : n.isValidChar) (hlong : 0x7F < n) :
    ∃ b p, String.utf8EncodeChar (Char.ofNat n) = b :: lastBytes p.missing n ∧
      lead b.toNat = .opens p ∧ 0 < p.missing ∧ p.Allows n := by
  have hrange : n < 0xD800 ∨ 0xDFFF < n ∧ n < 0x110000 := hvalid
  rw [encodeChar_ofNat hvalid, if_neg (by omega)]
  by_cases htwo : n ≤ 0x7FF
  · have hbyte : (UInt8.ofNat (n / 64 % 32 + 0xC0)).toNat = n / 64 + 0xC0 := by
      rw [toNat_ofNat_of_lt (by omega)]
      omega
    rw [if_pos htwo]
    refine ⟨_, ⟨1, n / 64, 1, 0x80, 0xBF⟩, rfl, ?_, by simp, ?_⟩
    · rw [hbyte, lead_two (by omega) (by omega), Nat.add_sub_cancel]
    · refine ⟨by simp, by simp, ?_⟩
      dsimp only
      omega
  · rw [if_neg htwo]
    by_cases hthree : n ≤ 0xFFFF
    · have hbyte : (UInt8.ofNat (n / 4096 % 16 + 0xE0)).toNat = n / 4096 + 0xE0 := by
        rw [toNat_ofNat_of_lt (by omega)]
        omega
      rw [if_pos hthree]
      refine ⟨_, ⟨2, n / 4096, 1, if n / 4096 + 0xE0 = 0xE0 then 0xA0 else 0x80,
        if n / 4096 + 0xE0 = 0xED then 0x9F else 0xBF⟩, rfl, ?_, by simp, ?_⟩
      · rw [hbyte, lead_three (by omega) (by omega), Nat.add_sub_cancel]
      · constructor <;> simp <;> split_ifs <;> omega
    · have hbyte : (UInt8.ofNat (n / 262144 % 8 + 0xF0)).toNat = n / 262144 + 0xF0 := by
        rw [toNat_ofNat_of_lt (by omega)]
        omega
      rw [if_neg hthree]
      refine ⟨_, ⟨3, n / 262144, 1, if n / 262144 + 0xF0 = 0xF0 then 0x90 else 0x80,
        if n / 262144 + 0xF0 = 0xF4 then 0x8F else 0xBF⟩, rfl, ?_, by simp, ?_⟩
      · rw [hbyte, lead_four (by omega) (by omega), Nat.add_sub_cancel]
      · constructor <;> simp <;> split_ifs <;> omega

theorem lead_of_lt {b : Nat} (h : b < 0x80) : lead b = .ascii (Char.ofNat b) := by
  unfold lead
  rw [if_pos h]

/-- The bytes of a character are read as this character, whatever follows. -/
theorem pieces_encodeChar (c : Char) (rest : List UInt8) :
    pieces none (String.utf8EncodeChar c ++ rest) = .char c :: pieces none rest := by
  have hvalid : c.toNat.isValidChar := c.valid
  rw [← Char.ofNat_toNat c]
  by_cases hshort : c.toNat ≤ 0x7F
  · rw [encodeChar_ofNat hvalid, if_pos hshort, List.singleton_append, pieces, pieces.begin,
      toNat_ofNat_of_lt (by omega), lead_of_lt (by omega)]
  · obtain ⟨b, p, hwritten, hlead, hpos, hallows⟩ := exists_lead hvalid (by omega)
    rw [hwritten, List.cons_append, pieces, pieces.begin, hlead]
    exact pieces_lastBytes hpos hallows rest

theorem pieces_encode (cs : List Char) :
    pieces none (cs.flatMap String.utf8EncodeChar) = cs.map .char := by
  induction cs with
  | nil => rw [List.flatMap_nil, pieces, List.map_nil]
  | cons c rest ih => rw [List.flatMap_cons, pieces_encodeChar, ih, List.map_cons]

/-- The pieces are all characters just for the bytes of these. -/
theorem pieces_eq_iff {bytes : List UInt8} {cs : List Char} :
    pieces none bytes = cs.map .char ↔ bytes = cs.flatMap String.utf8EncodeChar := by
  constructor
  · intro h
    exact eq_of_pieces h (show Front none [] from rfl)
  · rintro rfl
    exact pieces_encode cs

/-- A text is read as its characters. -/
theorem symbols_encode (s : String) : symbols (encode s) = s.toList.map some := by
  unfold symbols encode
  rw [pieces_encode, List.map_map]
  rfl

/-! ## Texts -/

theorem collect_eq_ok_iff {ps : List Piece} {cs : List Char} (index : Nat) :
    collect index ps = .ok cs ↔ ps = cs.map .char := by
  induction ps generalizing index cs with
  | nil => cases cs <;> simp [collect]
  | cons p rest ih =>
    cases p with
    | char c =>
      rw [collect]
      constructor
      · intro h
        cases hothers : collect (index + c.utf8Size) rest with
        | error e =>
          rw [hothers] at h
          cases h
        | ok others =>
          rw [hothers] at h
          rw [(ih _).mp hothers, ← Except.ok.inj h, List.map_cons]
      · intro h
        cases cs with
        | nil => cases h
        | cons d cs =>
          obtain ⟨hchar, hrest⟩ := List.cons.inj h
          rw [(ih _).mpr hrest, Piece.char.inj hchar]
          rfl
    | broken length => cases cs <;> simp [collect]
    | cut => cases cs <;> simp [collect]

/-- Bytes are read as a text exactly if they are its bytes. -/
theorem decode_eq_ok_iff {bytes : List UInt8} {s : String} :
    decode bytes = .ok s ↔ bytes = encode s := by
  unfold decode encode
  rw [← pieces_eq_iff, ← collect_eq_ok_iff 0]
  constructor
  · intro h
    cases hcs : collect 0 (pieces none bytes) with
    | error e =>
      rw [hcs] at h
      cases h
    | ok cs =>
      rw [hcs] at h
      rw [← Except.ok.inj h, String.toList_ofList]
  · intro h
    rw [h]
    exact congrArg Except.ok String.ofList_toList

theorem decode_encode (s : String) : decode (encode s) = .ok s := decode_eq_ok_iff.mpr rfl

end SearchStore.Text.Utf8
