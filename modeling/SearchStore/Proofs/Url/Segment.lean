import Mathlib.Data.List.Basic
import SearchStore.Engine.Transport
import SearchStore.Url.Path

/-! # Segments as they are read

A segment of a path is encoded before it is sent, and whoever reads a URL
splits the path at slashes, takes dots out, and decodes what is left.
`decode_segment` says that a segment comes back, and `isDots_segment` which
segments do not get that far: the two that consist of dots, which are written
as they are.
-/

namespace SearchStore

namespace Text

/-! ## Percent encoding -/

theorem Utf8.encode_inj {s t : String} (h : encode s = encode t) : s = t := by
  rw [← String.toByteArray_inj, ← String.ofList_toList (s := s), ← String.ofList_toList (s := t),
    String.toByteArray_ofList, String.toByteArray_ofList]
  exact congrArg List.toByteArray h

namespace Percent

/-- The characters of an encoded byte. -/
def marks : List Char := "%0123456789ABCDEF".toList

theorem digitValue?_capitalDigit : ∀ n < 16,
    Radix.digitValue? (Radix.capitalDigit n) = some n ∧ Radix.capitalDigit n ∈ marks := by
  decide

theorem mem_byte {b : UInt8} {c : Char} (h : c ∈ byte b) : c ∈ marks := by
  have hb : b.toNat < 256 := b.toNat_lt
  simp only [byte, List.mem_cons, List.not_mem_nil, or_false] at h
  rcases h with rfl | rfl | rfl
  · decide
  · exact (digitValue?_capitalDigit _ (by omega)).2
  · exact (digitValue?_capitalDigit _ (by omega)).2

theorem decodeChars_byte (b : UInt8) (rest : List Char) :
    decodeChars (byte b ++ rest) = b :: decodeChars rest := by
  have hb : b.toNat < 256 := b.toNat_lt
  have hhigh := (digitValue?_capitalDigit (b.toNat / 16) (by omega)).1
  have hlow := (digitValue?_capitalDigit (b.toNat % 16) (by omega)).1
  simp only [byte, List.cons_append, List.nil_append, decodeChars, hhigh, hlow]
  rw [Nat.div_add_mod, UInt8.ofNat_toNat]

theorem decodeChars_bytes (bs : List UInt8) (rest : List Char) :
    decodeChars (bs.flatMap byte ++ rest) = bs ++ decodeChars rest := by
  induction bs with
  | nil => rfl
  | cons b bs ih => rw [List.flatMap_cons, List.append_assoc, decodeChars_byte, ih, List.cons_append]

theorem decodeChars_cons {c : Char} (h : c ≠ '%') (rest : List Char) :
    decodeChars (c :: rest) = String.utf8EncodeChar c ++ decodeChars rest := by
  rw [decodeChars]
  rintro a b rest' rfl
  exact absurd rfl h

/-- What is encoded comes back, if the sign itself is encoded. -/
theorem decode_encode {plain : Char → Bool} (h : plain '%' = false) (s : String) :
    decode (encode plain s) = Utf8.encode s := by
  rw [decode, encode, String.toList_ofList, Utf8.encode]
  induction s.toList with
  | nil => rfl
  | cons c rest ih =>
    rw [List.flatMap_cons, List.flatMap_cons, ← ih]
    by_cases hc : plain c
    · have hne : c ≠ '%' := by
        rintro rfl
        simp [h] at hc
      rw [if_pos hc, List.singleton_append, decodeChars_cons hne]
    · rw [if_neg hc, char, decodeChars_bytes]

theorem mem_encode {plain : Char → Bool} {s : String} {c : Char} (h : c ∈ (encode plain s).toList) :
    plain c = true ∨ c ∈ marks := by
  rw [encode, String.toList_ofList] at h
  obtain ⟨d, -, hc⟩ := List.mem_flatMap.mp h
  split at hc
  · obtain rfl := List.mem_singleton.mp hc
    exact Or.inl ‹_›
  · obtain ⟨b, -, hb⟩ := List.mem_flatMap.mp hc
    exact Or.inr (mem_byte hb)

/-- A text of plain characters stays as it is. -/
theorem encode_of_plain {plain : Char → Bool} {s : String} (h : ∀ c ∈ s.toList, plain c = true) :
    encode plain s = s := by
  have hall : (s.toList.flatMap fun c => if plain c then [c] else char c) =
      s.toList.flatMap fun c => [c] :=
    List.flatMap_congr fun c hc => if_pos (h c hc)
  rw [encode, hall, List.flatMap_singleton', String.ofList_toList]

end Percent

/-! ## Pieces between slashes -/

theorem splitOn_of_not_mem {α : Type} [DecidableEq α] {separator : α} {xs : List α}
    (h : separator ∉ xs) : splitOn separator xs = [xs] := by
  induction xs with
  | nil => rfl
  | cons x xs ih =>
    have hx : separator ≠ x ∧ separator ∉ xs := by simpa using h
    rw [splitOn, if_neg hx.1.symm, ih hx.2]

theorem splitOn_append {α : Type} [DecidableEq α] {separator : α} {xs : List α}
    (h : separator ∉ xs) (ys : List α) :
    splitOn separator (xs ++ separator :: ys) = xs :: splitOn separator ys := by
  induction xs with
  | nil => rw [List.nil_append, splitOn, if_pos rfl]
  | cons x xs ih =>
    have hx : separator ≠ x ∧ separator ∉ xs := by simpa using h
    rw [List.cons_append, splitOn, if_neg hx.1.symm, ih hx.2]

end Text

/-! ## Segments -/

/-- A segment is read as what it was before it was encoded. -/
theorem decode_segment (s : String) : Text.Percent.decode (segment s) = Text.Utf8.encode s :=
  Text.Percent.decode_encode (by decide) s

/-- The characters of an encoded segment. -/
def isSegmentChar (c : Char) : Bool := plainInSegment c || c = '%'

theorem isSegmentChar_of_mem {s : String} {c : Char} (h : c ∈ (segment s).toList) :
    isSegmentChar c = true := by
  rcases Text.Percent.mem_encode h with hplain | hmark
  · simp [isSegmentChar, hplain]
  · have hall : (Text.Percent.marks.all isSegmentChar) = true := by decide
    exact List.all_eq_true.mp hall c hmark

/-- An encoded segment has nothing that ends a segment or a path, that is
passed over or that is written in another way in a URL. -/
theorem isSegmentChar_spec {c : Char} (h : isSegmentChar c = true) :
    c ∉ ['/', '\\', '?', '#'] ∧ Url.isPadding c = false ∧ Url.isBreak c = false ∧
      Url.plainInPath c = true := by
  have hcases : plainInSegment c = true ∨ c = '%' := by simpa [isSegmentChar] using h
  rcases hcases with hplain | rfl
  · simp only [plainInSegment, Bool.and_eq_true, decide_eq_true_eq, Bool.not_eq_true',
      List.contains_eq_mem, decide_eq_false_iff_not, List.mem_cons, List.not_mem_nil, or_false,
      not_or] at hplain
    obtain ⟨⟨hlow, hhigh⟩, hne⟩ := hplain
    -- controls and the space are below all characters that are written
    have hlow' : ∀ d : Char, d.toNat ≤ 0x20 → c ≠ d := by
      rintro d hd rfl
      omega
    refine ⟨by simp [hne], by simpa [Url.isPadding] using hlow, ?_, ?_⟩
    · simp [Url.isBreak, hlow' '\t' (by decide), hlow' '\n' (by decide), hlow' '\r' (by decide)]
    · simp [Url.plainInPath, Url.plainInFragment, Url.plainAscii, hne, hhigh,
        hlow' ' ' (by decide), Nat.le_of_lt hlow]
  · decide

theorem isDots_segment {s : String} : Url.isDots (segment s) = true ↔ s = "." ∨ s = ".." := by
  constructor
  · intro h
    have hdecode : ∀ t, Url.isDots t = true → Text.Percent.decode t = Text.Utf8.encode "." ∨
        Text.Percent.decode t = Text.Utf8.encode ".." := by
      intro t ht
      simp only [Url.isDots, Url.isDot, Url.isDoubleDot, List.contains_eq_mem, Bool.or_eq_true,
        decide_eq_true_eq, List.mem_cons, List.not_mem_nil, or_false] at ht
      rcases ht with (rfl | rfl | rfl) | rfl | rfl | rfl | rfl | rfl | rfl | rfl | rfl | rfl <;>
        decide
    have hs := hdecode _ h
    rw [decode_segment] at hs
    exact hs.imp Text.Utf8.encode_inj Text.Utf8.encode_inj
  · rintro (rfl | rfl)
    · decide
    · decide

end SearchStore
