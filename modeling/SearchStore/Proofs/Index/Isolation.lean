import SearchStore.Proofs.Index.Coverage

/-! # Which keys reach the indices of other keys

The key stands in the name of an index between hyphens, and a pattern ends in a
hyphen and a star. So the pattern for one key reaches the indices of another
one where one of the keys goes on with a hyphen after the other.
`isMatch_name_other_iff` says just when, and that keys without hyphens are kept
apart.
-/

namespace SearchStore.Index

/-! ## Texts that go on after a hyphen -/

/-- Of two different texts, the first and a hyphen begin the second and a
hyphen only if one of the texts goes on with a hyphen after the other. -/
theorem prefix_hyphen_iff {as bs rest : List Char} (hne : as ≠ bs) :
    as ++ ['-'] <+: bs ++ '-' :: rest ↔
      as ++ ['-'] <+: bs ∨ ∃ more, as = bs ++ '-' :: more ∧ more ++ ['-'] <+: rest := by
  induction as generalizing bs with
  | nil =>
    rcases bs with _ | ⟨b, bs⟩
    · exact absurd rfl hne
    · simp
  | cons a as ih =>
    rcases bs with _ | ⟨b, bs⟩
    · simp only [List.nil_append, List.cons_append, List.cons_prefix_cons, List.prefix_nil,
        List.cons_ne_nil, List.cons.injEq, false_or]
      constructor
      · rintro ⟨rfl, hbegins⟩
        exact ⟨as, ⟨rfl, rfl⟩, hbegins⟩
      · rintro ⟨more, ⟨rfl, rfl⟩, hbegins⟩
        exact ⟨rfl, hbegins⟩
    · simp only [List.cons_append, List.cons_prefix_cons, List.cons.injEq]
      by_cases hab : a = b
      · have hne : as ≠ bs := fun heq => hne (by rw [hab, heq])
        simp [hab, ih hne]
      · simp [hab]

/-! ## Tables with the key between hyphens -/

/-- A key as it may be asked for: some characters, but no braces, wildcards,
commas and line breaks. -/
def PlainKey (key : String) : Prop :=
  key ≠ "" ∧ ∀ c ∈ ['\x7b', '\x7d', '*', '?', ',', '\n', '\r'], c ∉ key.toList

/-- A beginning of a table: some characters, but no braces and wildcards. -/
def PlainBase (base : String) : Prop :=
  base ≠ "" ∧ ∀ c ∈ ['\x7b', '\x7d', '*', '?'], c ∉ base.toList

-- the characters to look at are those of the list, not all that there are
instance : DecidablePred PlainKey := fun _ => @instDecidableAnd _ _ _ (List.decidableBAll _ _)

instance : DecidablePred PlainBase := fun _ => @instDecidableAnd _ _ _ (List.decidableBAll _ _)

/-- The table with the token of the key between a beginning and the rest. -/
def keyedTable (start rest : String) : String := start ++ "-\x7baccountId\x7d-" ++ rest

section

variable {start rest key : String}

theorem toList_keyedTable (start rest : String) :
    (keyedTable start rest).toList =
      start.toList ++ '-' :: (single "accountId" ++ '-' :: rest.toList) := by
  simp [keyedTable, single]

/-- A text without braces has no token. -/
theorem not_single_infix {cs : List Char} (h : '\x7b' ∉ cs) (name : String) :
    ¬ single name <:+: cs :=
  fun hinside => h (hinside.subset List.mem_cons_self)

theorem fillAll_of_plain {ts : List (String × List Char)} {cs : List Char} (h : '\x7b' ∉ cs) :
    fillAll ts cs = cs :=
  fillAll_of_free fun t _ => not_single_infix h t.1

theorem baseChars_append {cs : List Char} (h : '\x7b' ∉ cs) (back : List Char) :
    baseChars (cs ++ '-' :: '\x7b' :: back) = cs := by
  induction cs with
  | nil => rfl
  | cons c cs ih =>
    have hc : '\x7b' ≠ c ∧ '\x7b' ∉ cs := by simpa using h
    have hcut : ∀ back', ¬ (c = '-' ∧ cs ++ '-' :: '\x7b' :: back = '\x7b' :: back') := by
      rintro back' ⟨-, heq⟩
      rcases cs with _ | ⟨d, cs⟩
      · exact absurd (List.cons.inj heq).1 (by decide)
      · exact hc.2 ((List.cons.inj heq).1 ▸ List.mem_cons_self)
    rw [List.cons_append, baseChars, ih hc.2]
    exact fun back' hc heq => hcut back' ⟨hc, heq⟩

theorem base_keyedTable (hne : start ≠ "") (hopen : '\x7b' ∉ start.toList) :
    base (keyedTable start rest) = start.toList := by
  have hbase : baseChars (keyedTable start rest).toList = start.toList := by
    rw [toList_keyedTable]
    exact baseChars_append hopen _
  have hchars : start.toList ≠ [] := fun hnil => hne (String.toList_eq_nil_iff.mp hnil)
  rw [base, hbase]
  split
  · exact absurd ‹_› hchars
  · rfl

/-- The name has the key where the table has its token. -/
theorem nameChars_keyedTable (hstart : '\x7b' ∉ start.toList) (hkey : '\x7b' ∉ key.toList)
    (date : Date) :
    nameChars (keyedTable start rest) key date =
      start.toList ++ '-' :: (key.toList ++ '-' :: nameChars rest key date) := by
  have hhyphen : ∀ t ∈ tokens key date, '-' ∉ single t.1 := fun t ht => hyphen_not_mem_token ht
  have htoken : fillAll (tokens key date) (single "accountId") = key.toList := by
    rw [tokens_eq, fillAll_cons, fillToken_single]
    exact fillAll_of_plain hkey
  rw [nameChars_eq, toList_keyedTable, fillAll_append_hyphen hhyphen,
    fillAll_append_hyphen hhyphen, htoken, fillAll_of_plain hstart]
  rfl

/-- The pattern is made of what the name begins with. -/
theorem patternChars_keyedTable (hstart : PlainBase start) (hkey : PlainKey key) :
    patternChars (keyedTable start rest) key =
      (start.toList ++ '-' :: (key.toList ++ ['-'])) ++ ['*'] := by
  have hne : ¬ key.isEmpty := by simpa using hkey.1
  rw [patternChars, if_neg hne, base_keyedTable hstart.1 (hstart.2 '\x7b' (by decide))]
  simp

end

/-- What a pattern for one key finds of another key. -/
theorem isMatch_keyedTable {start key₁ key₂ : String} (rest : String) (hstart : PlainBase start)
    (h₁ : PlainKey key₁) (h₂ : PlainKey key₂) (date : Date) :
    Wildcard.isMatch (name (keyedTable start rest) key₂ date)
        (pattern (keyedTable start rest) key₁) = true ↔
      '\n' ∉ nameChars rest key₂ date ∧
        key₁.toList ++ ['-'] <+: key₂.toList ++ '-' :: nameChars rest key₂ date := by
  have hstar : '*' ∉ start.toList ++ '-' :: (key₁.toList ++ ['-']) := by
    simp [hstart.2 '*' (by decide), h₁.2 '*' (by decide)]
  have hone : '?' ∉ start.toList ++ '-' :: (key₁.toList ++ ['-']) := by
    simp [hstart.2 '?' (by decide), h₁.2 '?' (by decide)]
  rw [Wildcard.isMatch_iff, pattern, name, String.toList_ofList, String.toList_ofList,
    patternChars_keyedTable hstart h₁, Wildcard.matches_append,
    nameChars_keyedTable (hstart.2 '\x7b' (by decide)) (h₂.2 '\x7b' (by decide))]
  simp only [Wildcard.matches_literal hstar hone, Wildcard.matches_star]
  constructor
  · rintro ⟨_, back, heq, rfl, hback⟩
    have hcut : key₂.toList ++ '-' :: nameChars rest key₂ date = key₁.toList ++ '-' :: back := by
      simpa using heq
    refine ⟨fun hline => ?_, back, by simp [hcut]⟩
    have hmem : '\n' ∈ key₁.toList ++ '-' :: back := by
      rw [← hcut]
      simp [hline]
    rcases List.mem_append.mp hmem with hkey | hrest
    · exact h₁.2 '\n' (by decide) hkey
    · exact hback (by simpa using hrest)
  · rintro ⟨hline, back, hback⟩
    refine ⟨_, back, by simp [← hback], rfl, fun hmem => ?_⟩
    have hname : '\n' ∈ key₂.toList ++ '-' :: nameChars rest key₂ date := by
      rw [← hback]
      simp [hmem]
    rcases List.mem_append.mp hname with hkey | hrest
    · exact h₂.2 '\n' (by decide) hkey
    · exact hline (by simpa using hrest)

/-! ## Keys that are kept apart -/

/-- The pattern for one key finds the index of another one just if the keys go
on after each other with a hyphen: the other key begins with this one and a
hyphen, or this one is the other one, a hyphen and more, where more and a
hyphen begin what the rest of the table is filled to. Keys without hyphens are
kept apart. -/
theorem isMatch_name_other_iff {start rest key₁ key₂ : String} (hstart : PlainBase start)
    (h₁ : PlainKey key₁) (h₂ : PlainKey key₂) (hne : key₁ ≠ key₂) (date : Date) :
    (Wildcard.isMatch (name (keyedTable start rest) key₂ date)
        (pattern (keyedTable start rest) key₁) = true ↔
      '\n' ∉ nameChars rest key₂ date ∧
        (key₁.toList ++ ['-'] <+: key₂.toList ∨
          ∃ more, key₁.toList = key₂.toList ++ '-' :: more ∧
            more ++ ['-'] <+: nameChars rest key₂ date)) ∧
    ('-' ∉ key₁.toList → '-' ∉ key₂.toList →
      Wildcard.isMatch (name (keyedTable start rest) key₂ date)
        (pattern (keyedTable start rest) key₁) = false) := by
  have hchars : key₁.toList ≠ key₂.toList := fun heq => hne (String.toList_inj.mp heq)
  have hmatch := isMatch_keyedTable rest hstart h₁ h₂ date
  rw [prefix_hyphen_iff hchars] at hmatch
  refine ⟨hmatch, fun hhyphen₁ hhyphen₂ => ?_⟩
  rw [Bool.eq_false_iff, ne_eq, hmatch]
  rintro ⟨-, hbegins | ⟨more, heq, -⟩⟩
  · exact hhyphen₂ (hbegins.subset (by simp))
  · exact hhyphen₁ (heq ▸ by simp)

/-- The indices of one key are not found under another. -/
theorem isMatch_name_other_hero : PlainBase "hero" ∧ PlainKey "acme" ∧ PlainKey "acmeeu" ∧
    "acme" ≠ "acmeeu" ∧
    Wildcard.isMatch (name (keyedTable "hero" "\x7byear\x7d") "acmeeu" ⟨2024, 3, 15⟩)
      (pattern (keyedTable "hero" "\x7byear\x7d") "acme") = false :=
  ⟨by decide, by decide, by decide, by decide,
    (isMatch_name_other_iff (by decide) (by decide) (by decide) (by decide) ⟨2024, 3, 15⟩).2
      (by decide) (by decide)⟩

/-- The indices of a key that goes on after another with a hyphen are found
under it, and with a date behind the key also the other way. -/
theorem isMatch_name_continued : PlainBase "hero" ∧ PlainKey "acme" ∧ PlainKey "acme-eu" ∧
    "acme" ≠ "acme-eu" ∧
    Wildcard.isMatch (name (keyedTable "hero" "v1") "acme-eu" ⟨2024, 3, 15⟩)
      (pattern (keyedTable "hero" "v1") "acme") = true ∧
    Wildcard.isMatch (name (keyedTable "hero" "\x7byear\x7d-\x7bmonth\x7d") "acme" ⟨2024, 3, 15⟩)
      (pattern (keyedTable "hero" "\x7byear\x7d-\x7bmonth\x7d") "acme-2024") = true := by
  decide

end SearchStore.Index
