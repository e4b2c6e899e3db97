import Mathlib.Data.List.TakeDrop
import SearchStore.Proofs.Json.Record
import SearchStore.Proofs.Number.Spelling
import SearchStore.Proofs.Toml.Quoted
import SearchStore.Toml.Parser
import SearchStore.Toml.Printer

/-! # Values come back

A value stands behind a name: a string, an integer of 64 bits, or an array of these. What is
written for it is read as the value, whatever follows (`value?_valueText`), if only something
follows that ends a word. An integer is read among all the words that could stand in its place:
its text is neither a truth value nor a date, and has no superfluous zeros.
-/

namespace SearchStore.Toml

variable {cs ds rest text : List Char} {j : Json}

/-- A text begins with a comma, a bracket or a line break. These can follow a value. -/
def Ends (rest : List Char) : Prop := ∃ c ∈ [',', ']', '\n'], ∃ rest', rest = c :: rest'

theorem Ends.cons {c : Char} (h : c ∈ [',', ']', '\n']) (rest : List Char) : Ends (c :: rest) :=
  ⟨c, h, rest, rfl⟩

theorem Ends.unquoted {q : Char} (h : Ends rest) (hq : q ∉ [',', ']', '\n']) : Unquoted q rest := by
  obtain ⟨c, hc, rest', rfl⟩ := h
  refine .cons (fun heq => hq ?_) _
  rwa [← heq]

/-! ## Digits -/

theorem plainDigits?_digits (hne : ds ≠ []) (hds : ∀ c ∈ ds, c.isDigit) :
    plainDigits? Char.isDigit ds = some ds := by
  induction ds with
  | nil => exact absurd rfl hne
  | cons c ds ih =>
    obtain ⟨hc, hrest⟩ := List.forall_mem_cons.mp hds
    rcases ds with _ | ⟨d, ds⟩
    · simp [plainDigits?, hc]
    · have hd : d ≠ '_' := by
        rintro rfl
        exact absurd (List.forall_mem_cons.mp hrest).1 (by decide)
      rw [plainDigits?, if_pos hc, ih (List.cons_ne_nil d ds) hrest, Option.map_some]
      · simp
      · simp [hd]

theorem wholeDigits?_toDigits (n : Nat) :
    wholeDigits? (Nat.toDigits 10 n) = some (Nat.toDigits 10 n) := by
  have hplain := plainDigits?_digits (Nat.toDigits_ne_nil (n := n) (b := 10))
    Numeral.isDigit_of_mem_toDigits
  rw [wholeDigits?, hplain]
  split
  · next c rest heq =>
    have hdigits : Nat.toDigits 10 n = '0' :: c :: rest := Option.some.inj heq
    obtain rfl : n = 0 := Numeral.head?_toDigits (by rw [hdigits]; rfl)
    simp at hdigits
  · rfl

theorem digitValue?_of_isDigit {c : Char} (h : c.isDigit) :
    Radix.digitValue? c = some (c.toNat - '0'.toNat) := by
  rw [Char.isDigit, Bool.and_eq_true, decide_eq_true_iff, decide_eq_true_iff] at h
  rw [Radix.digitValue?, if_pos]
  · rfl
  · exact (Bool.and_eq_true ..).mpr ⟨decide_eq_true h.1, decide_eq_true h.2⟩

theorem number?_digits (hds : ∀ c ∈ ds, c.isDigit) :
    Radix.number? 10 ds = some (Nat.ofDigitChars 10 ds 0) := by
  have hvalues : ds.mapM Radix.digitValue? = some (Numeral.digitValues ds) := by
    induction ds with
    | nil => rfl
    | cons c ds ih =>
      obtain ⟨hc, hrest⟩ := List.forall_mem_cons.mp hds
      simp [digitValue?_of_isDigit hc, ih hrest, Numeral.digitValues]
  have hsmall : (Numeral.digitValues ds).all (· < 10) = true := by
    refine List.all_eq_true.mpr fun v hv => ?_
    obtain ⟨c, hc, rfl⟩ := List.mem_map.mp hv
    have hdigit := hds c hc
    simp only [Char.isDigit, Bool.and_eq_true, decide_eq_true_eq] at hdigit
    have hnine : c.toNat ≤ 57 := hdigit.2
    have hzero : '0'.toNat = 48 := rfl
    exact decide_eq_true (by omega)
  rw [Radix.number?, hvalues, ← Numeral.digitsValue_digitValues]
  simp only [Option.bind_eq_bind, Option.bind_some, hsmall, if_true]
  rfl

/-! ## Words -/

/-- The characters of the text of an integer. -/
theorem mem_toString {n : Int} {c : Char} (h : c ∈ (toString n).toList) :
    c.isDigit = true ∨ c = '-' := by
  rw [Numeral.toList_toString] at h
  split_ifs at h
  · rcases List.mem_cons.mp h with hc | hc
    · exact .inr hc
    · exact .inl (Numeral.isDigit_of_mem_toDigits c hc)
  · exact .inl (Numeral.isDigit_of_mem_toDigits c h)

theorem not_mem_toString {n : Int} {c : Char} (hdigit : c.isDigit = false) (hsign : c ≠ '-') :
    c ∉ (toString n).toList := fun h =>
  (mem_toString h).elim (fun htrue => absurd htrue (by simp [hdigit])) hsign

theorem sign_not_mem_tail (n : Int) : '-' ∉ (toString n).toList.tail := by
  have hdigits : '-' ∉ Nat.toDigits 10 n.natAbs := fun h =>
    absurd (Numeral.isDigit_of_mem_toDigits _ h) (by decide)
  rw [Numeral.toList_toString]
  split_ifs
  · exact hdigits
  · exact fun h => hdigits (List.mem_of_mem_tail h)

theorem sign_mem_of_isDate (h : isDate cs = true) : '-' ∈ cs.tail := by
  revert h
  rw [isDate.eq_def]
  split
  · simp
  · exact nofun

theorem colon_mem_of_isTime (h : isTime cs = true) : ':' ∈ cs := by
  revert h
  rw [isTime.eq_def]
  split
  · simp
  · exact nofun

/-- The text of an integer is no date: its only sign stands at the front. -/
theorem isMoment_toString (n : Int) : isMoment (toString n).toList = false := by
  have hdate : isDate (toString n).toList = false :=
    Bool.eq_false_iff.mpr fun h => sign_not_mem_tail n (sign_mem_of_isDate h)
  have htime : isTime (toString n).toList = false :=
    Bool.eq_false_iff.mpr fun h =>
      not_mem_toString (by decide) (by decide) (colon_mem_of_isTime h)
  -- a date with a time begins with a date of ten characters
  have hfront : isDate ((toString n).toList.take 10) = false := by
    refine Bool.eq_false_iff.mpr fun h => sign_not_mem_tail n ?_
    have hmem := sign_mem_of_isDate h
    rw [← List.drop_one, List.drop_take, List.drop_one] at hmem
    exact List.mem_of_mem_take hmem
  rw [isMoment, hdate, htime, hfront]
  rfl

/-- The integers that a document can have. -/
def InRange (n : Int) : Prop := Int64.minValue.toInt ≤ n ∧ n ≤ Int64.maxValue.toInt

instance (n : Int) : Decidable (InRange n) := inferInstanceAs (Decidable (_ ∧ _))

theorem InRange.test_eq {n : Int} :
    (decide (Int64.minValue.toInt ≤ n) && decide (n ≤ Int64.maxValue.toInt)) =
      decide (InRange n) := by
  rw [← Bool.decide_and]
  rfl

theorem cutSign_toString (n : Int) :
    cutSign (toString n).toList = (decide (n < 0), Nat.toDigits 10 n.natAbs) := by
  rw [Numeral.toList_toString]
  split_ifs with hneg
  · simp [cutSign, hneg]
  · have hsign (c : Char) (hc : c.isDigit = false) (rest : List Char) :
        Nat.toDigits 10 n.natAbs ≠ c :: rest := by
      intro heq
      have hdigit := Numeral.isDigit_of_mem_toDigits (n := n.natAbs) c (by simp [heq])
      exact absurd hdigit (by simp [hc])
    rw [cutSign, decide_eq_false hneg]
    · exact fun rest => hsign '-' (by decide) rest
    · exact fun rest => hsign '+' (by decide) rest

theorem integer?_toString {n : Int} (h : InRange n) :
    integer? (toString n).toList = some (.int n) := by
  have hletter (c d : Char) (hd : d.isDigit = false) (hd' : d ≠ '-') (rest : List Char) :
      (toString n).toList ≠ c :: d :: rest := by
    intro heq
    refine not_mem_toString (n := n) hd hd' ?_
    rw [heq]
    simp
  have hvalue : (if decide (n < 0) then -Int.ofNat n.natAbs else Int.ofNat n.natAbs) = n := by
    simp only [decide_eq_true_eq, Int.ofNat_eq_natCast]
    split_ifs <;> omega
  -- the prefixes of other bases have a letter in the second place
  rw [integer?]
  · simp only [cutSign_toString, wholeDigits?_toDigits, Option.bind_eq_bind, Option.bind_some,
      number?_digits Numeral.isDigit_of_mem_toDigits, Nat.ofDigitChars_ten_toDigits, hvalue]
    rw [bounded?, InRange.test_eq, if_pos (decide_eq_true h)]
  · exact hletter '0' 'x' (by decide) (by decide)
  · exact hletter '0' 'o' (by decide) (by decide)
  · exact hletter '0' 'b' (by decide) (by decide)

theorem ofWord?_toString {n : Int} (h : InRange n) :
    ofWord? (toString n).toList = some (.int n) := by
  have hword (word : List Char) (hmem : 'e' ∈ word) : (toString n).toList ≠ word := by
    rintro rfl
    exact not_mem_toString (by decide) (by decide) hmem
  rw [ofWord?, if_neg (hword _ (by decide)), if_neg (hword _ (by decide)), isMoment_toString,
    if_neg Bool.false_ne_true, integer?_toString h, Option.some_or]

theorem span_append {p : Char → Bool} (hcs : ∀ c ∈ cs, p c) {c : Char} (hc : p c = false)
    (rest : List Char) : (cs ++ c :: rest).span p = (cs, c :: rest) := by
  rw [List.span_eq_takeWhile_dropWhile, List.takeWhile_append_of_pos hcs,
    List.dropWhile_append_of_pos hcs]
  simp [hc]

theorem cutWord_append (hword : ∀ c ∈ cs, isWordChar c) (hrest : Ends rest) :
    cutWord (cs ++ rest) = (cs, rest) := by
  obtain ⟨c, hc, rest', rfl⟩ := hrest
  have hend : isWordChar c = false ∧ c ≠ ' ' := by
    simp only [List.mem_cons, List.not_mem_nil, or_false] at hc
    rcases hc with rfl | rfl | rfl <;> decide
  rw [cutWord, span_append hword hend.1]
  simp [hend.2]

/-! ## Gaps -/

/-- No gap begins with the character. -/
def Solid (c : Char) : Prop := c ∉ [' ', '\t', '\n', '\r', '#']

instance (c : Char) : Decidable (Solid c) := inferInstanceAs (Decidable (¬ _))

theorem skipGap?_cons {c : Char} (h : Solid c) (rest : List Char) :
    skipGap? false (c :: rest) = some (c :: rest) := by
  simp only [Solid, List.mem_cons, List.not_mem_nil, or_false, not_or] at h
  obtain ⟨hblank, htab, hbreak, hreturn, hcomment⟩ := h
  rw [skipGap?]
  · simp [isBlank, hblank, htab, hbreak, hcomment]
  · simp [hreturn]

theorem skipGap?_break (rest : List Char) :
    skipGap? false ('\n' :: rest) = skipGap? false rest := by
  simp [skipGap?]

/-! ## Single values -/

/-- A string, or an integer that a document can have. -/
inductive Scalar : Json → Prop
  | str (s : String) : Scalar (.str s)
  | int {n : Int} (h : InRange n) : Scalar (.int n)

theorem scalarText?_eq_some_iff : scalarText? j = some text ↔
    (∃ s : String, j = .str s ∧ quote s.toList = text) ∨
      ∃ n : Int, InRange n ∧ j = .int n ∧ (toString n).toList = text := by
  cases j with
  | str s => simp [scalarText?]
  | int n =>
    rw [scalarText?, InRange.test_eq]
    by_cases h : InRange n <;> simp [h]
  | null | bool | real | arr | obj => simp [scalarText?]

theorem isSome_scalarText? : (scalarText? j).isSome ↔ Scalar j := by
  rw [Option.isSome_iff_exists]
  constructor
  · rintro ⟨text, h⟩
    rcases scalarText?_eq_some_iff.mp h with ⟨s, rfl, -⟩ | ⟨n, hrange, rfl, -⟩
    · exact .str s
    · exact .int hrange
  · rintro (s | hrange)
    · exact ⟨_, scalarText?_eq_some_iff.mpr (.inl ⟨s, rfl, rfl⟩)⟩
    · exact ⟨_, scalarText?_eq_some_iff.mpr (.inr ⟨_, hrange, rfl, rfl⟩)⟩

/-- Strings begin with a quote, integers with a sign or a digit. -/
def Front (c : Char) : Prop := c = '"' ∨ c = '\'' ∨ c = '-' ∨ c.isDigit

theorem Front.ne {c d : Char} (h : Front c) (hd : d ∉ ['"', '\'', '-'])
    (hdigit : d.isDigit = false) : c ≠ d := by
  rintro rfl
  simp only [List.mem_cons, List.not_mem_nil, or_false, not_or] at hd
  simp [Front, hd, hdigit] at h

theorem Front.solid {c : Char} (h : Front c) : Solid c := by
  simp only [Solid, List.mem_cons, List.not_mem_nil, or_false, not_or]
  exact ⟨h.ne (by decide) (by decide), h.ne (by decide) (by decide), h.ne (by decide) (by decide),
    h.ne (by decide) (by decide), h.ne (by decide) (by decide)⟩

theorem exists_quote (cs : List Char) :
    ∃ q, (q = '"' ∨ q = '\'') ∧ ∃ rest, quote cs = q :: rest := by
  rw [quote]
  split
  · exact ⟨'"', .inl rfl, _, rfl⟩
  · exact ⟨'\'', .inr rfl, _, rfl⟩
  · exact ⟨'"', .inl rfl, _, rfl⟩
  · exact ⟨'\'', .inr rfl, _, rfl⟩

theorem exists_toString (n : Int) :
    ∃ c, (c = '-' ∨ c.isDigit) ∧ ∃ rest, (toString n).toList = c :: rest := by
  have hne : (toString n).toList ≠ [] := by
    rw [Numeral.toList_toString]
    split_ifs
    · exact List.cons_ne_nil _ _
    · exact Nat.toDigits_ne_nil
  obtain ⟨c, rest, heq⟩ := List.exists_cons_of_ne_nil hne
  exact ⟨c, (mem_toString (n := n) (by rw [heq]; exact List.mem_cons_self)).symm, rest, heq⟩

theorem exists_front (h : scalarText? j = some text) : ∃ c, Front c ∧ ∃ rest, text = c :: rest := by
  rcases scalarText?_eq_some_iff.mp h with ⟨s, -, rfl⟩ | ⟨n, -, -, rfl⟩
  · obtain ⟨q, hq, rest, heq⟩ := exists_quote s.toList
    exact ⟨q, hq.elim .inl (.inr ∘ .inl), rest, heq⟩
  · obtain ⟨c, hc, rest, heq⟩ := exists_toString n
    exact ⟨c, .inr (.inr hc), rest, heq⟩

theorem value?_quote (room fuel : Nat) (s : String) (hrest : Ends rest) :
    value? room (fuel + 1) (quote s.toList ++ rest) = some (.str s, rest) := by
  have hread := string?_quote s.toList (hrest.unquoted (q := '"') (by decide))
    (hrest.unquoted (q := '\'') (by decide))
  obtain ⟨q, hq, quoted, heq⟩ := exists_quote s.toList
  rw [heq, List.cons_append] at hread ⊢
  rcases hq with rfl | rfl <;> simp [value?, hread]

theorem value?_toString (room fuel : Nat) {n : Int} (h : InRange n) (hrest : Ends rest) :
    value? room (fuel + 1) ((toString n).toList ++ rest) = some (.int n, rest) := by
  have hword : ∀ c ∈ (toString n).toList, isWordChar c := by
    intro c hc
    rcases mem_toString hc with hdigit | rfl
    · simp [isWordChar, Char.isAlphanum, hdigit]
    · decide
  have hcut := cutWord_append hword hrest
  have hread := ofWord?_toString h
  obtain ⟨c, hc, word, heq⟩ := exists_toString n
  have hfirst : c ≠ '[' ∧ c ≠ '{' ∧ c ≠ '"' ∧ c ≠ '\'' := by
    rcases hc with rfl | hdigit
    · decide
    · refine ⟨?_, ?_, ?_, ?_⟩ <;> rintro rfl <;> exact absurd hdigit (by decide)
  rw [heq, List.cons_append] at hcut ⊢
  rw [heq] at hread
  rw [value?]
  · simp [hcut, hread]
  all_goals simp [hfirst]

theorem value?_scalarText (room fuel : Nat) (h : scalarText? j = some text) (hrest : Ends rest) :
    value? room (fuel + 1) (text ++ rest) = some (j, rest) := by
  rcases scalarText?_eq_some_iff.mp h with ⟨s, rfl, rfl⟩ | ⟨n, hrange, rfl, rfl⟩
  · exact value?_quote room fuel s hrest
  · exact value?_toString room fuel hrange hrest

/-! ## Arrays -/

/-- A value that can stand behind a name. Arrays are not within each other. -/
inductive Value : Json → Prop
  | scalar {j : Json} (h : Scalar j) : Value j
  | arr {items : List Json} (h : ∀ j ∈ items, Scalar j) : Value (.arr items)

theorem skipGap?_scalarText (h : scalarText? j = some text) (rest : List Char) :
    skipGap? false (text ++ rest) = some (text ++ rest) := by
  obtain ⟨c, hc, text, rfl⟩ := exists_front h
  exact skipGap?_cons hc.solid _

theorem items?_last (room fuel : Nat) (h : scalarText? j = some text) (rest : List Char) :
    items? room (fuel + 2) (text ++ ']' :: rest) = some ([j], rest) := by
  have hvalue := value?_scalarText room fuel h (.cons (by decide) rest : Ends (']' :: rest))
  obtain ⟨c, hc, text, rfl⟩ := exists_front h
  rw [List.cons_append] at hvalue ⊢
  rw [items?]
  · simp [hvalue, skipGap?_cons (show Solid ']' by decide)]
  · simp [hc.ne (show ']' ∉ _ by decide) (by decide)]

theorem items?_cons (room fuel : Nat) (h : scalarText? j = some text) (rest : List Char) :
    items? room (fuel + 2) (text ++ ',' :: rest) = (skipGap? false rest).bind fun rest =>
      (items? room (fuel + 1) rest).map fun (items, rest) => (j :: items, rest) := by
  have hvalue := value?_scalarText room fuel h (.cons (by decide) rest : Ends (',' :: rest))
  obtain ⟨c, hc, text, rfl⟩ := exists_front h
  rw [List.cons_append] at hvalue ⊢
  rw [items?]
  · simp [hvalue, skipGap?_cons (show Solid ',' by decide), Option.map_eq_bind]
  · simp [hc.ne (show ']' ∉ _ by decide) (by decide)]

/-- Items on lines of their own are read one after the other, each with the gap before it. -/
theorem items?_itemLines (room fuel : Nat) {items : List Json} {texts : List (List Char)}
    (h : List.Forall₂ (fun j text => scalarText? j = some text) items texts)
    (hfuel : (texts.flatMap itemLine).length < fuel) (rest : List Char) :
    (skipGap? false (texts.flatMap itemLine ++ '\n' :: ']' :: rest)).bind (items? room fuel) =
      some (items, rest) := by
  induction h generalizing fuel with
  | nil =>
    obtain ⟨fuel, rfl⟩ := Nat.exists_eq_succ_of_ne_zero (Nat.ne_of_gt hfuel)
    simp [skipGap?, isBlank, items?]
  | @cons j text items texts hj hitems ih =>
    -- an item takes two steps, and its line is longer than that
    have hlength : (itemLine text).length = text.length + 6 := by simp [itemLine]
    rw [List.flatMap_cons, List.length_append, hlength] at hfuel
    obtain ⟨fuel, rfl⟩ : ∃ k, fuel = k + 2 := ⟨fuel - 2, by omega⟩
    have hgap (rest : List Char) :
        skipGap? false (itemLine text ++ rest) = some (text ++ ',' :: rest) := by
      have hskip := skipGap?_scalarText hj (',' :: rest)
      simpa [itemLine, skipGap?, isBlank] using hskip
    obtain ⟨after, hafter, hread⟩ := Option.bind_eq_some_iff.mp (ih (fuel + 1) (by omega))
    rw [List.flatMap_cons, List.append_assoc, hgap, Option.bind_some, items?_cons room fuel hj,
      hafter, Option.bind_some, hread]
    rfl

theorem value?_bracket (room fuel : Nat) (cs : List Char) :
    value? (room + 1) (fuel + 1) ('[' :: cs) =
      ((skipGap? false cs).bind (items? room fuel)).map
        fun (items, rest) => (.arr items, rest) := by
  simp [value?, Option.map_eq_bind, Option.bind_assoc]

/-- A value is read from its text. -/
theorem value?_valueText (room : Nat) {fuel : Nat} (h : valueText? j = some text)
    (hfuel : text.length + 2 ≤ fuel) (hrest : Ends rest) :
    value? (room + 1) fuel (text ++ rest) = some (j, rest) := by
  obtain ⟨fuel, rfl⟩ : ∃ k, fuel = k + 2 := ⟨fuel - 2, by omega⟩
  cases j with
  | arr items =>
    rw [valueText?] at h
    obtain ⟨texts, htexts, h⟩ := Option.bind_eq_some_iff.mp h
    have hall := Json.mapM_eq_some_iff.mp htexts
    -- one item stands on the line of the brackets, several have lines of their own
    match texts, hall with
    | [], .nil =>
      obtain rfl : "[]".toList = text := Option.some.inj h
      have hclose := skipGap?_cons (show Solid ']' by decide) rest
      simp [value?_bracket, hclose, items?]
    | [item], .cons hitem .nil =>
      obtain rfl : '[' :: (item ++ [']']) = text := Option.some.inj h
      have hread := items?_last room (fuel - 1) hitem rest
      have hfuel' : fuel - 1 + 2 = fuel + 1 := by
        simp only [List.length_cons, List.length_append] at hfuel
        omega
      rw [List.cons_append, List.append_assoc, List.singleton_append, value?_bracket,
        skipGap?_scalarText hitem, Option.bind_some, ← hfuel', hread]
      rfl
    | item :: item' :: texts, hall =>
      obtain rfl : '[' :: ((item :: item' :: texts).flatMap itemLine ++ "\n]".toList) = text :=
        Option.some.inj h
      have hlines := items?_itemLines room (fuel + 1) hall (by simp at hfuel ⊢; omega) rest
      rw [List.cons_append, List.append_assoc, value?_bracket]
      exact congrArg (Option.map _) hlines
  | str | int | null | bool | real | obj => exact value?_scalarText _ _ h hrest

theorem exists_solid (h : valueText? j = some text) :
    ∃ c, Solid c ∧ ∃ rest, text = c :: rest := by
  cases j with
  | arr items =>
    rw [valueText?] at h
    obtain ⟨texts, -, h⟩ := Option.bind_eq_some_iff.mp h
    refine ⟨'[', by decide, ?_⟩
    match texts with
    | [] | [_] | _ :: _ :: _ => exact ⟨_, (Option.some.inj h).symm⟩
  | str | int | null | bool | real | obj =>
    simp only [valueText?] at h
    obtain ⟨c, hc, rest⟩ := exists_front h
    exact ⟨c, hc.solid, rest⟩

theorem isSome_valueText?_arr (items : List Json) :
    (valueText? (.arr items)).isSome ↔ ∀ j ∈ items, Scalar j := by
  have htexts : (valueText? (.arr items)).isSome ↔ (items.mapM scalarText?).isSome := by
    rw [valueText?]
    rcases items.mapM scalarText? with _ | _ | ⟨item, _ | ⟨item', texts⟩⟩ <;> simp
  simp only [htexts, Json.isSome_mapM, isSome_scalarText?]

/-- The values that can be written. -/
theorem isSome_valueText? : (valueText? j).isSome ↔ Value j := by
  constructor
  · intro h
    cases j with
    | arr items => exact .arr ((isSome_valueText?_arr items).mp h)
    | str | int | null | bool | real | obj => exact .scalar (isSome_scalarText?.mp h)
  · rintro (h | h)
    · rcases h with s | hrange
      · exact isSome_scalarText?.mpr (.str s)
      · exact isSome_scalarText?.mpr (.int hrange)
    · exact (isSome_valueText?_arr _).mpr h

end SearchStore.Toml
