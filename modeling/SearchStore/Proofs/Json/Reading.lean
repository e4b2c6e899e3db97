import SearchStore.Json.Printer
import SearchStore.Json.Token
import SearchStore.Proofs.Number.Spelling

/-! # Reading what was written

`Json.read?` reads a text for exactly what it says: a whole number without point and exponent is
an integer of any size, any other number is the double nearest to it, and no nesting is too deep.
(`Json.parse?` is for answers: it values long numbers by their leading digits, and gives up where
nesting is deep.) Reading undoes writing (`Json.read?_render`), whatever characters the strings
have. What is written stands on one line (`Json.newline_not_mem_chars`).
-/

namespace SearchStore.Json

/-! ## Sequences as they are written -/

/-- Items with a comma between two of them. -/
def separated {α : Type} (write : α → List Char) : List α → List Char
  | [] => []
  | x :: xs => write x ++ xs.flatMap fun x => ',' :: write x

theorem length_le_separated {α : Type} (write : α → List Char) (xs : List α) :
    xs.length ≤ (separated write xs).length + 1 := by
  have hfurther (xs : List α) : xs.length ≤ (xs.flatMap fun x => ',' :: write x).length := by
    induction xs with
    | nil => simp
    | cons x xs ih =>
      simp only [List.flatMap_cons, List.length_append, List.length_cons]
      omega
  cases xs with
  | nil => simp
  | cons x xs =>
    have h := hfurther xs
    simp only [separated, List.length_append, List.length_cons]
    omega

theorem length_write_le {α : Type} (write : α → List Char) {x : α} {xs : List α} (hx : x ∈ xs) :
    (write x).length ≤ (separated write xs).length := by
  cases xs with
  | nil => cases hx
  | cons y xs =>
    simp only [separated, List.length_append]
    rcases List.mem_cons.mp hx with rfl | hx
    · omega
    · obtain ⟨before, after, rfl⟩ := List.append_of_mem hx
      simp only [List.flatMap_append, List.flatMap_cons, List.length_append, List.length_cons]
      omega

theorem itemChars_eq (js : List Json) : itemChars js = js.flatMap fun j => ',' :: chars j := by
  induction js with
  | nil => rfl
  | cons j js ih => rw [itemChars, ih, List.flatMap_cons, List.cons_append]

/-- A member as it is written. -/
def memberText (m : String × Json) : List Char := quote m.1 ++ ':' :: chars m.2

theorem memberChars_eq (ms : List (String × Json)) :
    memberChars ms = ms.flatMap fun m => ',' :: memberText m := by
  induction ms with
  | nil => rfl
  | cons m ms ih => rw [memberChars, ih, List.flatMap_cons, List.cons_append, memberText]

theorem chars_arr (js : List Json) : chars (arr js) = '[' :: (separated chars js ++ [']']) := by
  cases js with
  | nil => rfl
  | cons j js => rw [chars, itemChars_eq, separated]

theorem chars_obj (ms : List (String × Json)) :
    chars (obj ms) = '\x7b' :: (separated memberText ms ++ ['\x7d']) := by
  cases ms with
  | nil => rfl
  | cons m ms => rw [chars, memberChars_eq, separated, memberText]

/-! ## Reading -/

/-- A reader takes something from the front of a text, and leaves what follows it. -/
abbrev Reader (α : Type) := List Symbol → Option (α × List Symbol)

namespace Reader

/-- The number that a sign and an unsigned numeral say. -/
def unsigned? (negative : Bool) (cs : List Char) : Option Json :=
  match Numeral.takeDigits cs with
  | ([], _) => none
  | (ds, []) =>
    let n := Int.ofNat (Numeral.digitsValue ds)
    some (.int (if negative then -n else n))
  | (_, _ :: _) =>
    (Numeral.ofText? cs).map fun x =>
      .real (.ofFraction negative x.toDecimal.toFraction.1 x.toDecimal.toFraction.2)

/-- The number that a numeral says. -/
def number? : List Char → Option Json
  | '-' :: cs => unsigned? true cs
  | cs => unsigned? false cs

/-- What a word says: one of the three names, or a number. -/
def word? (cs : List Char) : Option Json :=
  if cs = "null".toList then some .null
  else if cs = "true".toList then some (.bool true)
  else if cs = "false".toList then some (.bool false)
  else number? cs

/-- The rest of a string after its opening quote. -/
def string? : Reader String := fun cs => do
  let (parts, rest) ← Token.cutString? cs
  let content ← Token.content? parts
  return (String.ofList content, rest)

/-- A text without the blanks at its front. -/
def skipBlanks (cs : List Symbol) : List Symbol := cs.dropWhile Token.isBlank

/-- What follows a character that has to come next. -/
def expect? (c : Char) (cs : List Symbol) : Option (List Symbol) :=
  match skipBlanks cs with
  | some d :: rest => if d = c then some rest else none
  | _ => none

/-- The name of a member, a colon, and its value. -/
def member? (value? : Reader Json) : Reader (String × Json) := fun cs => do
  let rest ← expect? '"' cs
  let (k, rest) ← string? rest
  let rest ← expect? ':' rest
  let (j, rest) ← value? rest
  return ((k, j), rest)

section Sequence

variable {α : Type} (close : Char) (item? : Reader α)

/-- Further items, less than `n`, each after a comma, up to the closing bracket. -/
def further? : Nat → Reader (List α)
  | 0, _ => none
  | n + 1, cs =>
    match expect? close cs with
    | some rest => some ([], rest)
    | none => do
      let rest ← expect? ',' cs
      let (x, rest) ← item? rest
      let (xs, rest) ← further? n rest
      return (x :: xs, rest)

/-- At most `n` items after an opening bracket, up to the closing one. -/
def sequence? (n : Nat) : Reader (List α) := fun cs =>
  match expect? close cs with
  | some rest => some ([], rest)
  | none => do
    let (x, rest) ← item? cs
    let (xs, rest) ← further? close item? n rest
    return (x :: xs, rest)

end Sequence

/-- A value whose text has at most `n` symbols. So there are no more items in it, and none that
is nested deeper. -/
def value? : Nat → Reader Json
  | 0, _ => none
  | n + 1, cs =>
    match skipBlanks cs with
    | some '"' :: rest => (string? rest).map fun (s, rest) => (.str s, rest)
    | some '[' :: rest =>
      (sequence? ']' (value? n) n rest).map fun (items, rest) => (.arr items, rest)
    | some '\x7b' :: rest =>
      (sequence? '\x7d' (member? (value? n)) n rest).map fun (members, rest) =>
        (.obj members, rest)
    | rest =>
      let (word, rest) := Token.takeWord rest
      (word? word).map fun j => (j, rest)

end Reader

/-- The value that a whole text says. -/
def read? (s : String) : Option Json := do
  let (j, rest) ← Reader.value? (symbolsOf s).length (symbolsOf s)
  if Reader.skipBlanks rest = [] then some j else none

/-- Every double inside is finite, as JSON has no other numbers. -/
inductive IsFinite : Json → Prop
  | null : IsFinite .null
  | bool (b : Bool) : IsFinite (.bool b)
  | int (n : Int) : IsFinite (.int n)
  | real {x : Double} (h : x.isFinite) : IsFinite (.real x)
  | str (s : String) : IsFinite (.str s)
  | arr {items : List Json} (h : ∀ j ∈ items, j.IsFinite) : IsFinite (.arr items)
  | obj {members : List (String × Json)} (h : ∀ m ∈ members, m.2.IsFinite) : IsFinite (.obj members)

namespace Reader

variable {rest : List Symbol}

/-! ## Strings -/

theorem hexUnit?_low : ∀ n < 0x20, Token.hexUnit? (['0', '0', Nat.digitChar (n / 16),
    Nat.digitChar (n % 16)].map some) = some n := by
  decide

/-- However a character in a string is written, it is read as that character. -/
theorem exists_part (c : Char) : ∃ p : Token.Part,
    (∀ cs, Token.cutString? ((escape c).map some ++ cs) =
      (Token.cutString? cs).map fun (ps, rest) => (p :: ps, rest)) ∧
    ∀ ps, Token.content? (p :: ps) = (Token.content? ps).map (c :: ·) := by
  -- control characters that have no letter are the only ones that are written as a unit
  by_cases hlow : c.toNat < 0x20 ∧ c ∉ ['\n', '\r', '\t', '\x08', '\x0c']
  · have hescape : escape c = ['\\', 'u', '0', '0', Nat.digitChar (c.toNat / 16),
        Nat.digitChar (c.toNat % 16)] := by
      rw [escape]
      split_ifs <;> simp_all
    have hpair : (0xD800 ≤ c.toNat && c.toNat < 0xE000) = false := by
      rw [Bool.and_eq_false_iff, decide_eq_false_iff_not]
      omega
    refine ⟨.unit c.toNat, fun cs => ?_, fun ps => ?_⟩
    · have hunit := hexUnit?_low _ hlow.1
      simp only [List.map_cons, List.map_nil] at hunit
      simp [hescape, Token.cutString?, hunit]
    · rw [Token.content?.eq_def]
      simp only [hpair, Bool.false_eq_true, if_false, Char.ofNat_toNat]
  · refine ⟨.char c, fun cs => ?_, fun ps => rfl⟩
    rw [escape]
    split_ifs <;> simp_all [Token.cutString?, Token.shortEscape?]

/-- What is written between quotes is read as it was. -/
theorem string?_escape (s : String) :
    string? ((s.toList.flatMap escape).map some ++ some '"' :: rest) = some (s, rest) := by
  have hparts (cs : List Char) : ∃ ps,
      Token.cutString? ((cs.flatMap escape).map some ++ some '"' :: rest) = some (ps, rest) ∧
        Token.content? ps = some cs := by
    induction cs with
    | nil => exact ⟨[], rfl, rfl⟩
    | cons c cs ih =>
      obtain ⟨ps, hcut, hcontent⟩ := ih
      obtain ⟨p, hpart, hchar⟩ := exists_part c
      refine ⟨p :: ps, ?_, ?_⟩
      · rw [List.flatMap_cons, List.map_append, List.append_assoc, hpart, hcut]
        rfl
      · rw [hchar, hcontent]
        rfl
  obtain ⟨ps, hcut, hcontent⟩ := hparts s.toList
  simp [string?, hcut, hcontent]

/-! ## Words -/

/-- No word goes on in what follows. -/
def Ends (rest : List Symbol) : Prop := Token.takeWord rest = ([], rest)

theorem takeWord_append {w : List Char} (hw : ∀ c ∈ w, Token.isWordChar c) (hrest : Ends rest) :
    Token.takeWord (w.map some ++ rest) = (w, rest) := by
  induction w with
  | nil => exact hrest
  | cons c w ih =>
    rw [List.forall_mem_cons] at hw
    rw [List.map_cons, List.cons_append, Token.takeWord, if_pos hw.1, ih hw.2]

/-- A text is read as something wherever it stands. -/
def Reads {α : Type} (read? : Reader α) (cs : List Char) (x : α) : Prop :=
  ∀ rest, Ends rest → read? (cs.map some ++ rest) = some (x, rest)

/-- What is written for a value is read as that value. -/
def ReadsBack (j : Json) : Prop := ∀ n, (chars j).length ≤ n → Reads (value? n) (chars j) j

/-- A value is written as one word, and the word says that value. -/
structure IsWord (j : Json) : Prop where
  isWordChar : ∀ c ∈ chars j, Token.isWordChar c
  ne_nil : chars j ≠ []
  read : word? (chars j) = some j

theorem IsWord.readsBack {j : Json} (h : IsWord j) : ReadsBack j := by
  intro n hn rest hrest
  have htake := takeWord_append h.isWordChar hrest
  obtain ⟨c, w, hcons⟩ := List.exists_cons_of_ne_nil h.ne_nil
  have hc : Token.isWordChar c := h.isWordChar c (hcons ▸ List.mem_cons_self)
  have hne (d : Char) (hd : Token.isWordChar d = false) : c ≠ d := by
    rintro rfl
    exact Bool.false_ne_true (hd.symm.trans hc)
  have hblank : skipBlanks ((c :: w).map some ++ rest) = (c :: w).map some ++ rest := by
    refine List.dropWhile_cons_of_neg ?_
    simp [Token.isBlank, hne ' ' rfl, hne '\n' rfl, hne '\t' rfl, hne '\r' rfl]
  rw [hcons] at hn
  obtain ⟨n, rfl⟩ := Nat.exists_eq_add_of_le' (show 1 ≤ n from (Nat.succ_pos _).trans_le hn)
  rw [hcons] at htake ⊢
  rw [value?, hblank]
  simp only [List.map_cons, List.cons_append] at htake ⊢
  split
  · next heq => exact absurd (Option.some.inj (List.cons.inj heq).1) (hne '"' rfl)
  · next heq => exact absurd (Option.some.inj (List.cons.inj heq).1) (hne '[' rfl)
  · next heq => exact absurd (Option.some.inj (List.cons.inj heq).1) (hne '\x7b' rfl)
  · rw [htake, ← hcons]
    simp only [h.read, Option.map_some]

theorem isWord_null : IsWord null :=
  ⟨List.all_eq_true.mp rfl, List.cons_ne_nil _ _, rfl⟩

theorem isWord_bool (b : Bool) : IsWord (bool b) := by
  cases b <;> exact ⟨List.all_eq_true.mp rfl, List.cons_ne_nil _ _, rfl⟩

/-! ## Numbers -/

theorem isWordChar_of_isDigit {c : Char} (h : c.isDigit) : Token.isWordChar c := by
  simp [Token.isWordChar, Char.isAlphanum, h]

theorem isWordChar_of_mem_powerText (k : Int) : ∀ c ∈ Numeral.powerText k, Token.isWordChar c := by
  have hsign : Token.isWordChar (if 0 ≤ k then '+' else '-') := by split <;> rfl
  simp only [Numeral.powerText, List.forall_mem_cons, hsign, true_and]
  exact ⟨rfl, fun c hc => isWordChar_of_isDigit (Numeral.isDigit_of_mem_toDigits c hc)⟩

theorem isWordChar_of_mem_chars (s : Spelling) : ∀ c ∈ s.chars, Token.isWordChar c := by
  have hpointed : ∀ c ∈ Spelling.pointed s.fraction, Token.isWordChar c := by
    intro c hc
    rcases hfraction : s.fraction with _ | ⟨d, ds⟩ <;> rw [hfraction] at hc
    · exact absurd hc List.not_mem_nil
    · rcases List.mem_cons.mp hc with rfl | hc
      · rfl
      · exact isWordChar_of_isDigit (s.isDigit_fraction c (hfraction ▸ hc))
  intro c hc
  rw [Spelling.chars, Spelling.tail, List.mem_append, List.mem_append] at hc
  rcases hc with hc | hc | hc
  · exact isWordChar_of_isDigit (s.isDigit_whole c hc)
  · exact hpointed c hc
  · cases hpower : s.exponent with
    | none => simp [hpower] at hc
    | some k => exact isWordChar_of_mem_powerText k c (by simpa [hpower] using hc)

/-- What starts with a digit is a number, also behind a sign. -/
theorem word?_signed (negative : Bool) {d : Char} (hd : d.isDigit) (cs : List Char) :
    word? (if negative then '-' :: d :: cs else d :: cs) = unsigned? negative (d :: cs) := by
  cases negative with
  | true => simp [word?, number?]
  | false =>
    have hne (c : Char) (hc : c.isDigit = false) : d ≠ c := by
      rintro rfl
      exact Bool.false_ne_true (hc.symm.trans hd)
    simp only [Bool.false_eq_true, if_false]
    rw [word?, number?]
    · simp [hne 'n' rfl, hne 't' rfl, hne 'f' rfl]
    · rintro rest ⟨⟩
      exact hne '-' rfl rfl

/-- A number that is written as a spelling with a sign. -/
theorem isWord_number (negative : Bool) (s : Spelling) {j : Json}
    (hchars : chars j = if negative then '-' :: s.chars else s.chars)
    (hj : unsigned? negative s.chars = some j) : IsWord j := by
  have hword := isWordChar_of_mem_chars s
  obtain ⟨d, ds, hwhole⟩ := List.exists_cons_of_ne_nil s.whole_ne_nil
  have hcons : s.chars = d :: (ds ++ s.tail) := by rw [Spelling.chars, hwhole, List.cons_append]
  refine ⟨?_, ?_, ?_⟩
  · rw [hchars]
    cases negative
    · exact hword
    · exact List.forall_mem_cons.mpr ⟨rfl, hword⟩
  · cases negative <;> simp [hchars, hcons]
  · rw [hchars, hcons, word?_signed negative (s.isDigit_whole d (by simp [hwhole])), ← hcons, hj]

/-- Digits alone are read as an integer. -/
theorem unsigned?_of_tail_nil (negative : Bool) (s : Spelling) (h : s.tail = []) :
    unsigned? negative s.chars =
      let n := Int.ofNat (Nat.ofDigitChars 10 s.whole 0)
      some (.int (if negative then -n else n)) := by
  obtain ⟨d, ds, hcons⟩ :=
    List.exists_cons_of_ne_nil (mt Numeral.digitValues_eq_nil.mp s.whole_ne_nil)
  have htake := s.takeDigits_chars
  rw [h, hcons] at htake
  rw [unsigned?, htake, ← Numeral.digitsValue_digitValues, hcons]

/-- Digits with more behind them are read as the nearest double. -/
theorem unsigned?_of_tail_ne_nil (negative : Bool) (s : Spelling) (h : s.tail ≠ []) :
    unsigned? negative s.chars =
      some (.real (.ofFraction negative s.numeral.toDecimal.toFraction.1
        s.numeral.toDecimal.toFraction.2)) := by
  obtain ⟨d, ds, hcons⟩ :=
    List.exists_cons_of_ne_nil (mt Numeral.digitValues_eq_nil.mp s.whole_ne_nil)
  obtain ⟨c, cs, htail⟩ := List.exists_cons_of_ne_nil h
  have htake := s.takeDigits_chars
  rw [hcons, htail] at htake
  rw [unsigned?, htake, s.ofText?_chars]
  rfl

/-- The digits of a number alone. -/
def digits (n : Nat) : Spelling where
  whole := Nat.toDigits 10 n
  fraction := []
  exponent := none
  whole_ne_nil := Nat.toDigits_ne_nil
  isDigit_whole := Numeral.isDigit_of_mem_toDigits
  isDigit_fraction := by simp

theorem chars_int (n : Int) :
    chars (int n) = if n < 0 then '-' :: (digits n.natAbs).chars else (digits n.natAbs).chars := by
  have hdigits (k : Nat) : (digits k).chars = Nat.toDigits 10 k := by
    simp [digits, Spelling.chars, Spelling.tail]
  rw [chars, Numeral.toList_toString, hdigits]

theorem isWord_int (n : Int) : IsWord (int n) := by
  refine isWord_number (decide (n < 0)) (digits n.natAbs) ?_ ?_
  · simpa using chars_int n
  · rw [unsigned?_of_tail_nil _ _ rfl]
    simp only [digits, Nat.ofDigitChars_ten_toDigits, decide_eq_true_eq, Int.ofNat_eq_natCast]
    congr 2
    split_ifs <;> omega

theorem isWord_real {x : Double} (h : x.isFinite) : IsWord (real x) := by
  obtain ⟨s, htext, hdouble, htail⟩ := Double.exists_spelling numberLayout h
  have hread := unsigned?_of_tail_ne_nil x.negative s (htail rfl)
  rw [hdouble] at hread
  exact isWord_number x.negative s (by rw [chars, htext]) hread

/-! ## Sequences -/

theorem ends_cons {c : Char} (h : Token.isWordChar c = false) (rest : List Symbol) :
    Ends (some c :: rest) := by
  simp [Ends, Token.takeWord, h]

theorem skipBlanks_cons {c : Char} (h : Token.isBlank (some c) = false) (rest : List Symbol) :
    skipBlanks (some c :: rest) = some c :: rest :=
  List.dropWhile_cons_of_neg (by simp [h])

theorem expect?_self {c : Char} (h : Token.isBlank (some c) = false) (rest : List Symbol) :
    expect? c (some c :: rest) = some rest := by
  simp [expect?, skipBlanks_cons h]

theorem expect?_ne {c d : Char} (h : Token.isBlank (some d) = false) (hne : d ≠ c)
    (rest : List Symbol) : expect? c (some d :: rest) = none := by
  simp [expect?, skipBlanks_cons h, hne]

theorem skipBlanks_of_expect? {c : Char} {cs : List Symbol} (h : expect? c cs = some rest) :
    skipBlanks cs = some c :: rest := by
  rw [expect?] at h
  split at h
  · split_ifs at h with hc
    obtain rfl := hc
    obtain rfl := Option.some.inj h
    assumption
  · cases h

section Sequence

variable {α : Type} {close : Char} {item? : Reader α} {write : α → List Char} {xs : List α}

/-- A bracket that ends a sequence, since no item can be read where it stands. -/
structure Closes (close : Char) (item? : Reader α) : Prop where
  eq : close = ']' ∨ close = '\x7d'
  item : ∀ cs rest, skipBlanks cs = some close :: rest → item? cs = none

namespace Closes

variable (hclose : Closes close item?)

include hclose

theorem expect?_close (rest : List Symbol) : expect? close (some close :: rest) = some rest := by
  rcases hclose.eq with rfl | rfl <;> exact expect?_self rfl rest

theorem expect?_comma (rest : List Symbol) : expect? close (some ',' :: rest) = none := by
  rcases hclose.eq with rfl | rfl <;> exact expect?_ne rfl (by decide) rest

theorem ends_further (write : α → List Char) (xs : List α) (rest : List Symbol) :
    Ends ((xs.flatMap fun x => ',' :: write x).map some ++ some close :: rest) := by
  cases xs with
  | nil => rcases hclose.eq with rfl | rfl <;> exact ends_cons rfl _
  | cons x xs => exact ends_cons rfl _

/-- Items that are read one by one are read one after the other, up to the bracket. -/
theorem further?_eq (h : ∀ x ∈ xs, Reads item? (write x) x) {n : Nat} (hn : xs.length < n)
    (rest : List Symbol) :
    further? close item? n ((xs.flatMap fun x => ',' :: write x).map some ++ some close :: rest) =
      some (xs, rest) := by
  induction xs generalizing n with
  | nil =>
    obtain ⟨n, rfl⟩ := Nat.exists_eq_add_of_le' (Nat.one_le_of_lt hn)
    rw [List.flatMap_nil, List.map_nil, List.nil_append, further?, hclose.expect?_close]
  | cons x xs ih =>
    obtain ⟨n, rfl⟩ := Nat.exists_eq_add_of_le' (Nat.one_le_of_lt hn)
    rw [List.forall_mem_cons] at h
    have hitem := h.1 _ (hclose.ends_further write xs rest)
    have hitems := ih h.2 (n := n) (by simpa using hn)
    simp only [List.flatMap_cons, List.map_append, List.map_cons, List.cons_append,
      List.append_assoc]
    rw [further?, hclose.expect?_comma, expect?_self rfl]
    simp only [Option.bind_eq_bind, Option.bind_some, hitem, hitems, Option.pure_def]

/-- What is written with commas between the items is read as these items. -/
theorem sequence?_eq (h : ∀ x ∈ xs, Reads item? (write x) x) {n : Nat} (hn : xs.length ≤ n)
    (rest : List Symbol) :
    sequence? close item? n ((separated write xs).map some ++ some close :: rest) =
      some (xs, rest) := by
  cases xs with
  | nil =>
    rw [separated, List.map_nil, List.nil_append, sequence?, hclose.expect?_close]
  | cons x xs =>
    rw [List.forall_mem_cons] at h
    have hitem := h.1 _ (hclose.ends_further write xs rest)
    have hitems := hclose.further?_eq h.2 hn rest
    simp only [separated, List.map_append, List.append_assoc]
    rw [sequence?]
    -- an item is read at the front, so the sequence does not end there
    split
    · next hend =>
      rw [hclose.item _ _ (skipBlanks_of_expect? hend)] at hitem
      cases hitem
    · simp only [Option.bind_eq_bind, hitem, Option.bind_some, hitems, Option.pure_def]

end Closes

end Sequence

/-! ## Arrays and objects -/

theorem value?_quote (n : Nat) (rest : List Symbol) :
    value? (n + 1) (some '"' :: rest) = (string? rest).map fun (s, rest) => (.str s, rest) := rfl

theorem value?_openArray (n : Nat) (rest : List Symbol) : value? (n + 1) (some '[' :: rest) =
    (sequence? ']' (value? n) n rest).map fun (js, rest) => (.arr js, rest) := rfl

theorem value?_openObject (n : Nat) (rest : List Symbol) : value? (n + 1) (some '\x7b' :: rest) =
    (sequence? '\x7d' (member? (value? n)) n rest).map fun (ms, rest) => (.obj ms, rest) := rfl

theorem readsBack_str (s : String) : ReadsBack (str s) := by
  intro n hn rest hrest
  rw [chars, quote] at hn ⊢
  obtain ⟨n, rfl⟩ := Nat.exists_eq_add_of_le' ((Nat.succ_pos _).trans_le hn)
  rw [List.map_cons, List.cons_append, value?_quote]
  simp only [List.map_append, List.append_assoc, List.map_cons, List.map_nil,
    List.singleton_append, string?_escape, Option.map_some]

/-- No value starts with the end of an array. -/
theorem value?_closeArray {cs : List Symbol} (h : skipBlanks cs = some ']' :: rest) (n : Nat) :
    value? n cs = none := by
  cases n with
  | zero => rfl
  | succ n =>
    rw [value?, h]
    rfl

theorem reads_member {value? : Reader Json} {k : String} {j : Json}
    (h : Reads value? (chars j) j) : Reads (member? value?) (memberText (k, j)) (k, j) := by
  intro rest hrest
  simp only [memberText, quote, List.map_cons, List.map_append, List.cons_append,
    List.append_assoc, List.nil_append]
  rw [member?, expect?_self rfl]
  simp only [Option.bind_eq_bind, Option.bind_some, string?_escape,
    expect?_self (c := ':') rfl, h rest hrest, Option.pure_def]

theorem readsBack_arr {js : List Json} (h : ∀ j ∈ js, ReadsBack j) : ReadsBack (arr js) := by
  intro n hn rest hrest
  rw [chars_arr] at hn ⊢
  simp only [List.length_cons, List.length_append, List.length_nil] at hn
  obtain ⟨n, rfl⟩ := Nat.exists_eq_add_of_le' (show 1 ≤ n by omega)
  have hclose : Closes ']' (value? n) := ⟨.inl rfl, fun _ _ hcs => value?_closeArray hcs n⟩
  have hitem : ∀ j ∈ js, Reads (value? n) (chars j) j := by
    intro j hj
    have hlength := length_write_le chars hj
    exact h j hj n (by omega)
  have hcount := length_le_separated chars js
  have hitems := hclose.sequence?_eq hitem (n := n) (by omega) rest
  rw [List.map_cons, List.cons_append, value?_openArray, List.map_append, List.append_assoc,
    List.map_singleton, List.singleton_append, hitems, Option.map_some]

theorem readsBack_obj {ms : List (String × Json)} (h : ∀ m ∈ ms, ReadsBack m.2) :
    ReadsBack (obj ms) := by
  intro n hn rest hrest
  rw [chars_obj] at hn ⊢
  simp only [List.length_cons, List.length_append, List.length_nil] at hn
  obtain ⟨n, rfl⟩ := Nat.exists_eq_add_of_le' (show 1 ≤ n by omega)
  have hclose : Closes '\x7d' (member? (value? n)) :=
    ⟨.inr rfl, fun _ _ hcs => by simp [member?, expect?, hcs]⟩
  have hitem : ∀ m ∈ ms, Reads (member? (value? n)) (memberText m) m := by
    intro m hm
    have hlength := length_write_le memberText hm
    simp only [memberText, List.length_append, List.length_cons] at hlength
    exact reads_member (h m hm n (by omega))
  have hcount := length_le_separated memberText ms
  have hitems := hclose.sequence?_eq hitem (n := n) (by omega) rest
  rw [List.map_cons, List.cons_append, value?_openObject, List.map_append, List.append_assoc,
    List.map_singleton, List.singleton_append, hitems, Option.map_some]

/-- A value of finite doubles is read wherever it is written. -/
theorem readsBack {j : Json} (h : j.IsFinite) : ReadsBack j := by
  induction h with
  | null => exact isWord_null.readsBack
  | bool b => exact (isWord_bool b).readsBack
  | int n => exact (isWord_int n).readsBack
  | real h => exact (isWord_real h).readsBack
  | str s => exact readsBack_str s
  | arr _ ih => exact readsBack_arr ih
  | obj _ ih => exact readsBack_obj ih

end Reader

/-- Reading undoes writing. -/
theorem read?_render {j : Json} (h : j.IsFinite) : read? j.render = some j := by
  have hsymbols : symbolsOf j.render = (chars j).map some := by
    rw [symbolsOf, render, String.toList_ofList]
  have hread := Reader.readsBack h (symbolsOf j.render).length (by simp [hsymbols]) [] rfl
  rw [List.append_nil, ← hsymbols] at hread
  rw [read?, hread]
  rfl

/-! ## Lines -/

theorem newline_not_mem_escape (c : Char) : '\n' ∉ escape c := by
  have hdigits : ∀ n < 0x20, '\n' ∉ ['\\', 'u', '0', '0', Nat.digitChar (n / 16),
      Nat.digitChar (n % 16)] := by decide
  rw [escape]
  split_ifs with _ _ hnewline _ _ _ _ hlow
  all_goals first
    | decide
    | exact hdigits _ hlow
    | simpa [eq_comm] using hnewline

theorem newline_not_mem_quote (s : String) : '\n' ∉ quote s := by
  simp [quote, newline_not_mem_escape]

theorem newline_not_mem_of_isWord {j : Json} (h : Reader.IsWord j) : '\n' ∉ chars j :=
  fun hmem => Bool.false_ne_true (h.isWordChar _ hmem)

theorem newline_not_mem_separated {α : Type} {write : α → List Char} {xs : List α}
    (h : ∀ x ∈ xs, '\n' ∉ write x) : '\n' ∉ separated write xs := by
  cases xs with
  | nil => simp [separated]
  | cons x xs =>
    rw [List.forall_mem_cons] at h
    simpa [separated, h.1] using h.2

/-- What is written stands on one line. -/
theorem newline_not_mem_chars {j : Json} (h : j.IsFinite) : '\n' ∉ chars j := by
  induction h with
  | null => exact newline_not_mem_of_isWord Reader.isWord_null
  | bool b => exact newline_not_mem_of_isWord (Reader.isWord_bool b)
  | int n => exact newline_not_mem_of_isWord (Reader.isWord_int n)
  | real h => exact newline_not_mem_of_isWord (Reader.isWord_real h)
  | str s => exact newline_not_mem_quote s
  | arr _ ih => simp [chars_arr, newline_not_mem_separated ih]
  | @obj members _ ih =>
    have hmember : ∀ m ∈ members, '\n' ∉ memberText m := fun m hm => by
      simp [memberText, newline_not_mem_quote, ih m hm]
    simp [chars_obj, newline_not_mem_separated hmember]

end SearchStore.Json
