import SearchStore.Proofs.Index.Filling
import SearchStore.Proofs.Index.Glob

/-! # Which indices a pattern covers

A document is written into the index that the table names, and looked for under
the pattern of the table. The two are made in different ways: the name by
filling in all tokens of the table, the pattern by cutting the table at its
first token. So a pattern does not cover every index of its table.
`isMatch_name_iff` says for which tables and keys it does.
-/

namespace SearchStore.Index

/-! ## Filling in several tokens -/

/-- Fills in tokens, each in the result of the one before. -/
def fillAll (ts : List (String × List Char)) (cs : List Char) : List Char :=
  ts.foldl (fun cs t => fillToken t.1 t.2 cs) cs

section

variable {ts : List (String × List Char)} {cs : List Char}

theorem fillAll_cons (t : String × List Char) (ts : List (String × List Char)) (cs : List Char) :
    fillAll (t :: ts) cs = fillAll ts (fillToken t.1 t.2 cs) := rfl

theorem mem_fillAll {x : Char} (h : x ∈ fillAll ts cs) : x ∈ cs ∨ ∃ t ∈ ts, x ∈ t.2 := by
  induction ts generalizing cs with
  | nil => exact Or.inl h
  | cons t ts ih =>
    rcases ih h with hx | ⟨u, hu, hx⟩
    · exact (mem_fillToken hx).symm.imp_right fun hv => ⟨t, List.mem_cons_self, hv⟩
    · exact Or.inr ⟨u, List.mem_cons_of_mem t hu, hx⟩

theorem fillAll_of_free (h : ∀ t ∈ ts, ¬ single t.1 <:+: cs) : fillAll ts cs = cs := by
  induction ts with
  | nil => rfl
  | cons t ts ih =>
    rw [fillAll_cons, fillToken_of_free (h t List.mem_cons_self)]
    exact ih fun u hu => h u (List.mem_cons_of_mem t hu)

theorem fillAll_append_hyphen (h : ∀ t ∈ ts, '-' ∉ single t.1) (xs ys : List Char) :
    fillAll ts (xs ++ '-' :: ys) = fillAll ts xs ++ '-' :: fillAll ts ys := by
  induction ts generalizing xs ys with
  | nil => rfl
  | cons t ts ih =>
    rw [fillAll_cons, fillToken_append_hyphen (h t List.mem_cons_self),
      ih fun u hu => h u (List.mem_cons_of_mem t hu)]
    rfl

theorem count_hyphen_fillAll (h : ∀ t ∈ ts, '-' ∉ single t.1 ∧ '-' ∉ t.2) :
    (fillAll ts cs).count '-' = cs.count '-' := by
  induction ts generalizing cs with
  | nil => rfl
  | cons t ts ih =>
    obtain ⟨hname, hvalue⟩ := h t List.mem_cons_self
    rw [fillAll_cons, ih fun u hu => h u (List.mem_cons_of_mem t hu),
      count_hyphen_fillToken hname hvalue]

/-- A piece that has no character of the values was there before. -/
theorem infix_of_fillAll {u : List Char} (hu : u ≠ [])
    (h : ∀ t ∈ ts, t.2 ≠ [] ∧ ∀ x ∈ t.2, x ∉ u) (hinside : u <:+: fillAll ts cs) : u <:+: cs := by
  induction ts generalizing cs with
  | nil => exact hinside
  | cons t ts ih =>
    obtain ⟨hne, hd⟩ := h t List.mem_cons_self
    exact infix_of_fillToken hu hne hd (ih (fun v hv => h v (List.mem_cons_of_mem t hv)) hinside)

/-- No token is left that has no character of the values. -/
theorem not_infix_fillAll {name : String} (hname : name ∈ ts.map Prod.fst)
    (h : ∀ t ∈ ts, t.2 ≠ [] ∧ ∀ x ∈ t.2, x ∉ single name) : ¬ single name <:+: fillAll ts cs := by
  induction ts generalizing cs with
  | nil => simp at hname
  | cons t ts ih =>
    have hrest : ∀ u ∈ ts, u.2 ≠ [] ∧ ∀ x ∈ u.2, x ∉ single name :=
      fun u hu => h u (List.mem_cons_of_mem t hu)
    rcases List.mem_cons.mp hname with rfl | hname
    · obtain ⟨hne, hd⟩ := h t List.mem_cons_self
      intro hinside
      exact not_infix_fillToken hne hd (infix_of_fillAll (single_ne_nil _) hrest hinside)
    · exact ih hname hrest

/-- A result without characters of the values is the text itself. -/
theorem eq_of_fillAll (h : ∀ t ∈ ts, ∃ x ∈ t.2, x ∉ fillAll ts cs) : fillAll ts cs = cs := by
  induction ts generalizing cs with
  | nil => rfl
  | cons t ts ih =>
    have hrest : fillAll ts (fillToken t.1 t.2 cs) = fillToken t.1 t.2 cs :=
      ih fun u hu => h u (List.mem_cons_of_mem t hu)
    obtain ⟨x, hx, hout⟩ := h t List.mem_cons_self
    rw [fillAll_cons, hrest] at hout ⊢
    exact eq_of_fillToken hx hout

end

/-! ## The tokens of a template -/

/-- The tokens that stand for parts of a date. -/
def dateNames : List String := ["year", "month", "YYYY", "MM"]

/-- All tokens. -/
def tokenNames : List String := "accountId" :: dateNames

/-- The tokens for a date with what they stand for. -/
def dateTokens (date : Date) : List (String × List Char) :=
  [("year", padded 4 date.year), ("month", padded 2 date.month), ("YYYY", padded 4 date.year),
    ("MM", padded 2 date.month)]

theorem tokens_eq (key : String) (date : Date) :
    tokens key date = ("accountId", key.toList) :: dateTokens date := rfl

theorem nameChars_eq (table key : String) (date : Date) :
    nameChars table key date = fillAll (tokens key date) table.toList := rfl

/-- Whether a character is in no token: tokens are letters in braces. -/
def isForeign (x : Char) : Bool := x.isDigit || x = '-' || x = 'q' || x = '*' || x = '?'

theorem not_mem_single {name : String} (hname : name ∈ tokenNames) {x : Char}
    (hx : isForeign x = true) : x ∉ single name := by
  have hall : (tokenNames.all fun name => (single name).all fun x => !isForeign x) = true := by
    decide
  intro hmem
  have hname := List.all_eq_true.mp (List.all_eq_true.mp hall name hname) x hmem
  simp [hx] at hname

theorem padded_ne_nil (width : Nat) (n : Int) : padded width n ≠ [] := by
  simp [padded, Nat.toDigits_ne_nil]

theorem mem_padded {width : Nat} {n : Int} {x : Char} (h : x ∈ padded width n) :
    x.isDigit = true ∨ (x = '-' ∧ n < 0) := by
  simp only [padded, List.mem_append, List.mem_replicate] at h
  rcases h with (hsign | ⟨_, rfl⟩) | hdigit
  · split at hsign
    · exact Or.inr ⟨by simpa using hsign, ‹_›⟩
    · simp at hsign
  · exact Or.inl rfl
  · exact Or.inl (Nat.isDigit_of_mem_toDigits (by omega) (by omega) hdigit)

theorem dateTokens_spec {date : Date} {t : String × List Char} (ht : t ∈ dateTokens date) :
    t.2 ≠ [] ∧ ∀ x ∈ t.2, x.isDigit = true ∨ (x = '-' ∧ date.year < 0) := by
  have hmonth : ¬ ((date.month : Int) < 0) := by omega
  simp only [dateTokens, List.mem_cons, List.not_mem_nil, or_false] at ht
  rcases ht with rfl | rfl | rfl | rfl
  · exact ⟨padded_ne_nil _ _, fun x hx => mem_padded hx⟩
  · exact ⟨padded_ne_nil _ _, fun x hx => (mem_padded hx).imp_right fun h => absurd h.2 hmonth⟩
  · exact ⟨padded_ne_nil _ _, fun x hx => mem_padded hx⟩
  · exact ⟨padded_ne_nil _ _, fun x hx => (mem_padded hx).imp_right fun h => absurd h.2 hmonth⟩

theorem dateNames_subset {name : String} (h : name ∈ dateNames) : name ∈ tokenNames :=
  List.mem_cons_of_mem _ h

theorem name_mem_of_mem_tokens {key : String} {date : Date} {t : String × List Char}
    (ht : t ∈ tokens key date) : t.1 ∈ tokenNames :=
  List.mem_map.mpr ⟨t, ht, rfl⟩

theorem hyphen_not_mem_token {key : String} {date : Date} {t : String × List Char}
    (ht : t ∈ tokens key date) : '-' ∉ single t.1 :=
  not_mem_single (name_mem_of_mem_tokens ht) (by decide)

/-- The values of a date have no character of any token. -/
theorem dateTokens_disjoint {date : Date} {name : String} (hname : name ∈ tokenNames) :
    ∀ t ∈ dateTokens date, t.2 ≠ [] ∧ ∀ x ∈ t.2, x ∉ single name := by
  intro t ht
  obtain ⟨hne, hchars⟩ := dateTokens_spec ht
  refine ⟨hne, fun x hx => not_mem_single hname ?_⟩
  rcases hchars x hx with hdigit | ⟨rfl, -⟩
  · simp [isForeign, hdigit]
  · decide

/-- The name of an index has no token of a date. -/
theorem date_not_infix_nameChars {name : String} (hname : name ∈ dateNames) (table key : String)
    (date : Date) : ¬ single name <:+: nameChars table key date := by
  rw [nameChars_eq, tokens_eq, fillAll_cons]
  exact not_infix_fillAll hname (dateTokens_disjoint (dateNames_subset hname))

theorem newline_not_mem_nameChars {table key : String} (htable : '\n' ∉ table.toList)
    (hkey : '\n' ∉ key.toList) (date : Date) : '\n' ∉ nameChars table key date := by
  intro hmem
  rcases mem_fillAll hmem with h | ⟨t, ht, hx⟩
  · exact htable h
  · rcases List.mem_cons.mp ht with rfl | ht
    · exact hkey hx
    · obtain ⟨-, hchars⟩ := dateTokens_spec ht
      have hdigit := hchars '\n' hx
      simp at hdigit

/-! ## What a pattern covers -/

/-- What the pattern of a table for a key has before its last star. -/
def stem (table key : String) : List Char :=
  base table ++ '-' :: (if key.isEmpty then [] else key.toList ++ ['-'])

theorem patternChars_eq (table key : String) :
    patternChars table key = stem table key ++ ['*'] := by
  by_cases hkey : key.isEmpty <;> simp [patternChars, stem, hkey]

/-- The name of an index begins with what the pattern has before its star. -/
def Covers (table key : String) (date : Date) : Prop :=
  ∃ front, front <+: nameChars table key date ∧ Wildcard.Matches (stem table key) front

theorem isMatch_iff_covers {table key : String} (htable : '\n' ∉ table.toList)
    (hkey : '\n' ∉ key.toList) (date : Date) :
    Wildcard.isMatch (name table key date) (pattern table key) = true ↔ Covers table key date := by
  have hline := newline_not_mem_nameChars htable hkey date
  rw [Wildcard.isMatch_iff, pattern, name, String.toList_ofList, String.toList_ofList,
    patternChars_eq, Wildcard.matches_append]
  constructor
  · rintro ⟨front, back, heq, hfront, -⟩
    exact ⟨front, ⟨back, heq.symm⟩, hfront⟩
  · rintro ⟨front, ⟨back, heq⟩, hfront⟩
    refine ⟨front, back, heq.symm, hfront, Wildcard.matches_star.mpr ?_⟩
    exact fun hmem => hline (heq ▸ List.mem_append_right front hmem)

/-- A key with a token of a date is never found: the token is in the pattern,
and in no name. -/
theorem not_covers_of_date {name : String} (hname : name ∈ dateNames) {key : String}
    (hkey : single name <:+: key.toList) (table : String) (date : Date) :
    ¬ Covers table key date := by
  rintro ⟨front, hfront, hmatches⟩
  have hne : ¬ key.isEmpty := by
    intro hempty
    have hnil : key.toList = [] := by simpa using hempty
    exact single_ne_nil name (List.infix_nil.mp (hnil ▸ hkey))
  have hstem : key.toList <:+: stem table key :=
    ⟨base table ++ ['-'], ['-'], by simp [stem, hne]⟩
  have hinside := hmatches.infix_of_literal (hkey.trans hstem)
    (not_mem_single (dateNames_subset hname) (by decide))
    (not_mem_single (dateNames_subset hname) (by decide))
  exact date_not_infix_nameChars hname table key date (hinside.trans hfront.isInfix)

/-! ## Tables with the key in its place -/

/-- A table whose first token is that of the key, between hyphens. -/
structure Sharded (table : String) : Prop where
  free : ∀ name ∈ tokenNames, ¬ single name <:+: base table
  cut : ∃ tail, table.toList = base table ++ '-' :: (single "accountId" ++ '-' :: tail) ∨
    table.toList = base table ++ '-' :: (double "accountId" ++ '-' :: tail)

theorem base_append (table : String) : ∃ rest, table.toList = base table ++ rest ∧
    (rest = [] ∨ ∃ back, rest = '-' :: '\x7b' :: back) := by
  have hcut : ∀ cs, ∃ rest, cs = baseChars cs ++ rest ∧
      (rest = [] ∨ ∃ back, rest = '-' :: '\x7b' :: back) := by
    intro cs
    induction cs using baseChars.induct with
    | case1 => exact ⟨[], rfl, Or.inl rfl⟩
    | case2 back => exact ⟨'-' :: '\x7b' :: back, rfl, Or.inr ⟨back, rfl⟩⟩
    | case3 c rest hno ih =>
      obtain ⟨last, hlast, hshape⟩ := ih
      have hcons : baseChars (c :: rest) = c :: baseChars rest := by
        rw [baseChars]
        exact hno
      exact ⟨last, by rw [hcons, List.cons_append, ← hlast], hshape⟩
  rw [base]
  split
  · exact ⟨[], by simp, Or.inl rfl⟩
  · exact hcut table.toList

/-- Texts that are cut at the same hyphen. -/
theorem append_hyphen_inj {as bs xs ys : List Char} (h : as ++ '-' :: xs = bs ++ '-' :: ys)
    (hcount : as.count '-' = bs.count '-') : as = bs ∧ xs = ys := by
  induction as generalizing bs with
  | nil =>
    rcases bs with _ | ⟨b, bs⟩
    · exact ⟨rfl, (List.cons.inj h).2⟩
    · obtain ⟨rfl, -⟩ := List.cons.inj h
      simp at hcount
  | cons a as ih =>
    rcases bs with _ | ⟨b, bs⟩
    · obtain ⟨rfl, -⟩ := List.cons.inj h
      simp at hcount
    · obtain ⟨rfl, hrest⟩ := List.cons.inj h
      have hcounts : as.count '-' = bs.count '-' := by
        rw [List.count_cons, List.count_cons] at hcount
        omega
      obtain ⟨rfl, rfl⟩ := ih hrest hcounts
      exact ⟨rfl, rfl⟩

namespace Sharded

variable {table key : String}

/-- A sharded table puts the key behind its fixed beginning. -/
theorem exists_nameChars (h : Sharded table) (hkey : ¬ single "accountId" <:+: key.toList)
    (date : Date) : ∃ rest, nameChars table key date =
      base table ++ '-' :: (fillAll (dateTokens date) key.toList ++ '-' :: rest) := by
  have hhyphen : ∀ t ∈ tokens key date, '-' ∉ single t.1 := fun t ht => hyphen_not_mem_token ht
  have hbase : fillAll (tokens key date) (base table) = base table :=
    fillAll_of_free fun t ht => h.free t.1 (name_mem_of_mem_tokens ht)
  obtain ⟨tail, htable | htable⟩ := h.cut
  · refine ⟨fillAll (tokens key date) tail, ?_⟩
    rw [nameChars_eq, htable, fillAll_append_hyphen hhyphen, fillAll_append_hyphen hhyphen, hbase]
    rw [tokens_eq, fillAll_cons, fillToken_single]
  · refine ⟨fillAll (tokens key date) tail, ?_⟩
    rw [nameChars_eq, htable, fillAll_append_hyphen hhyphen, fillAll_append_hyphen hhyphen, hbase]
    rw [tokens_eq, fillAll_cons, fillToken_double hkey]

/-- A sharded table is covered for a key without tokens. -/
theorem covers (h : Sharded table) (htable : '\n' ∉ table.toList) (hline : '\n' ∉ key.toList)
    (hkey : ∀ name ∈ tokenNames, ¬ single name <:+: key.toList) (date : Date) :
    Covers table key date := by
  obtain ⟨rest, hname⟩ := h.exists_nameChars (hkey _ List.mem_cons_self) date
  have hdates : fillAll (dateTokens date) key.toList = key.toList :=
    fillAll_of_free fun t ht =>
      hkey t.1 (dateNames_subset (List.mem_map.mpr ⟨t, ht, rfl⟩))
  rw [hdates] at hname
  have hbase : '\n' ∉ base table := by
    obtain ⟨last, hlast, -⟩ := base_append table
    exact fun hmem => htable (hlast ▸ List.mem_append_left last hmem)
  refine ⟨stem table key, ?_, Wildcard.matches_self ?_⟩
  · rw [hname, stem, List.prefix_append_right_inj, List.cons_prefix_cons]
    refine ⟨rfl, ?_⟩
    by_cases hempty : key.isEmpty
    · simp [hempty]
    · rw [if_neg hempty, List.prefix_append_right_inj]
      exact List.cons_prefix_cons.mpr ⟨rfl, List.nil_prefix⟩
  · rw [stem]
    by_cases hempty : key.isEmpty
    · simp [hempty, hbase]
    · simp [hempty, hbase, hline]

end Sharded

/-! ## One key that tells

That all keys are found follows from one key and one date, if the key has a
character that is in no token and neither has a hyphen. -/

section

variable {date : Date} {cs : List Char}

theorem plain_disjoint {name : String} (hname : name ∈ tokenNames) :
    ∀ t ∈ tokens "q" date, t.2 ≠ [] ∧ ∀ x ∈ t.2, x ∉ single name := by
  intro t ht
  rcases List.mem_cons.mp ht with rfl | hdate
  · refine ⟨by decide, fun x hx => not_mem_single hname ?_⟩
    obtain rfl : x = 'q' := List.mem_singleton.mp hx
    decide
  · exact dateTokens_disjoint hname t hdate

theorem plain_hyphen (hyear : 0 ≤ date.year) :
    ∀ t ∈ tokens "q" date, '-' ∉ single t.1 ∧ '-' ∉ t.2 := by
  intro t ht
  refine ⟨hyphen_not_mem_token ht, ?_⟩
  rcases List.mem_cons.mp ht with rfl | hdate
  · decide
  · intro hmem
    obtain ⟨-, hchars⟩ := dateTokens_spec hdate
    rcases hchars '-' hmem with hdigit | ⟨-, hneg⟩
    · exact absurd hdigit (by decide)
    · omega

/-- A text that stays as it is has no token. -/
theorem free_of_fillAll (h : fillAll (tokens "q" date) cs = cs) :
    ∀ name ∈ tokenNames, ¬ single name <:+: cs := by
  intro name hname
  rw [← h]
  exact not_infix_fillAll hname (plain_disjoint hname)

/-- Only the token of the key becomes the key. -/
theorem account_of_fillAll (h : fillAll (tokens "q" date) cs = ['q']) :
    cs = ['q'] ∨ cs = single "accountId" ∨ cs = double "accountId" := by
  have h : fillAll (dateTokens date) (fillToken "accountId" ['q'] cs) = ['q'] := h
  have hdates : fillAll (dateTokens date) (fillToken "accountId" ['q'] cs) =
      fillToken "accountId" ['q'] cs := by
    apply eq_of_fillAll
    intro t ht
    obtain ⟨hne, hchars⟩ := dateTokens_spec ht
    obtain ⟨x, hx⟩ := List.exists_mem_of_ne_nil _ hne
    refine ⟨x, hx, ?_⟩
    rw [h, List.mem_singleton]
    rintro rfl
    exact absurd (hchars 'q' hx) (by simp)
  have hplain : 'q' ∈ ['q'] := List.mem_singleton.mpr rfl
  exact fillToken_eq_value hplain (by decide) (hdates.symm.trans h)

end

/-- A table is sharded if its name is found for the plain key. -/
theorem sharded_of_covers {table : String} (hstar : '*' ∉ table.toList) (hone : '?' ∉ table.toList)
    {date : Date} (hyear : 0 ≤ date.year) (h : Covers table "q" date) : Sharded table := by
  obtain ⟨front, ⟨back, hback⟩, hmatches⟩ := h
  obtain ⟨rest, htable, hshape⟩ := base_append table
  have hstem : stem table "q" = base table ++ '-' :: ['q', '-'] := rfl
  -- without wildcards the name begins with just what is written
  have hbase : ∀ x ∈ base table, x ∈ table.toList :=
    fun x hx => htable ▸ List.mem_append_left rest hx
  have hfront : front = base table ++ '-' :: ['q', '-'] := by
    rw [hstem] at hmatches
    refine (Wildcard.matches_literal ?_ ?_).mp hmatches
    · simpa using fun hmem => hstar (hbase _ hmem)
    · simpa using fun hmem => hone (hbase _ hmem)
  have hcount : ∀ cs, (fillAll (tokens "q" date) cs).count '-' = cs.count '-' :=
    fun cs => count_hyphen_fillAll (plain_hyphen hyear)
  have hsplit : ∀ xs ys, fillAll (tokens "q" date) (xs ++ '-' :: ys) = _ :=
    fillAll_append_hyphen fun t ht => (plain_hyphen hyear t ht).1
  rw [hfront, nameChars_eq, htable] at hback
  rcases hshape with rfl | ⟨last, rfl⟩
  · -- a table that is not cut has too few hyphens
    have hcounts := congrArg (List.count '-') hback
    rw [hcount] at hcounts
    simp [List.count_append] at hcounts
  · have hcut : base table ++ '-' :: ('q' :: '-' :: back) =
        fillAll (tokens "q" date) (base table) ++
          '-' :: fillAll (tokens "q" date) ('\x7b' :: last) := by
      rw [← hsplit, ← hback]
      simp
    -- filling in keeps the number of hyphens, so both sides are cut at the same one
    obtain ⟨hfree, hlast⟩ := append_hyphen_inj hcut (hcount _).symm
    -- the part behind the cut goes on to a hyphen, where the key ends
    have hmem : '-' ∈ '\x7b' :: last := by
      rw [← List.count_pos_iff, ← hcount, ← hlast]
      simp
    obtain ⟨middle, tail, hmiddle, hno⟩ := List.eq_append_cons_of_mem hmem
    rw [hmiddle, hsplit] at hlast
    have hcounts : ['q'].count '-' = (fillAll (tokens "q" date) middle).count '-' := by
      rw [hcount, List.count_eq_zero_of_not_mem hno]
      decide
    obtain ⟨hkey, -⟩ : ['q'] = fillAll (tokens "q" date) middle ∧ _ :=
      append_hyphen_inj hlast hcounts
    refine ⟨free_of_fillAll hfree.symm, tail, ?_⟩
    rcases account_of_fillAll hkey.symm with rfl | rfl | rfl
    · -- the part begins with a brace, so it is not the key itself
      exact absurd (List.cons.inj hmiddle).1 (by decide)
    · exact Or.inl (by rw [← hmiddle]; exact htable)
    · exact Or.inr (by rw [← hmiddle]; exact htable)

/-! ## The tables and keys that are covered -/

/-- The documents of a table are found again just in these cases. In general
the name has to begin as the pattern does. For tables without wildcards, all
keys without tokens are found if and only if the first token of the table is
that of the key, between hyphens; in such a table a key is found unless it has
the token of a date. -/
theorem isMatch_name_iff (table : String) (htable : '\n' ∉ table.toList) :
    (∀ key, '\n' ∉ key.toList → ∀ date,
      (Wildcard.isMatch (name table key date) (pattern table key) = true ↔
        Covers table key date)) ∧
    ('*' ∉ table.toList → '?' ∉ table.toList →
      ((∀ key, '\n' ∉ key.toList → (∀ token ∈ tokenNames, ¬ single token <:+: key.toList) →
        ∀ date, Wildcard.isMatch (name table key date) (pattern table key) = true) ↔
          Sharded table)) ∧
    (Sharded table → ∀ key, '\n' ∉ key.toList → ¬ single "accountId" <:+: key.toList → ∀ date,
      (Wildcard.isMatch (name table key date) (pattern table key) = true ↔
        ∀ token ∈ dateNames, ¬ single token <:+: key.toList)) := by
  refine ⟨fun key hkey date => isMatch_iff_covers htable hkey date, ?_, ?_⟩
  · intro hstar hone
    constructor
    · intro hall
      -- one key without hyphens and without characters of tokens is enough
      have hplain : ∀ token ∈ tokenNames, ¬ single token <:+: ("q" : String).toList := by
        intro token _ hinside
        have hbrace : '\x7b' ∈ ("q" : String).toList := hinside.subset List.mem_cons_self
        exact absurd hbrace (by decide)
      have hcovers := (isMatch_iff_covers htable (by decide) ⟨2024, 3, 15⟩).mp
        (hall "q" (by decide) hplain ⟨2024, 3, 15⟩)
      exact sharded_of_covers hstar hone (by decide) hcovers
    · intro hsharded key hkey hfree date
      exact (isMatch_iff_covers htable hkey date).mpr (hsharded.covers htable hkey hfree date)
  · intro hsharded key hkey haccount date
    rw [isMatch_iff_covers htable hkey date]
    constructor
    · intro hcovers token htoken hinside
      exact not_covers_of_date htoken hinside table date hcovers
    · intro hdates
      refine hsharded.covers htable hkey ?_ date
      intro token htoken
      rcases List.mem_cons.mp htoken with rfl | htoken
      · exact haccount
      · exact hdates token htoken

theorem isMatch_name_hero : '\n' ∉ "hero-\x7baccountId\x7d-\x7byear\x7d".toList ∧
    Wildcard.isMatch (name "hero-\x7baccountId\x7d-\x7byear\x7d" "acme" ⟨2024, 3, 15⟩)
      (pattern "hero-\x7baccountId\x7d-\x7byear\x7d" "acme") = true := by
  have htable : '\n' ∉ "hero-\x7baccountId\x7d-\x7byear\x7d".toList := by decide
  have hsharded : Sharded "hero-\x7baccountId\x7d-\x7byear\x7d" :=
    ⟨by decide, "\x7byear\x7d".toList, Or.inl (by decide)⟩
  exact ⟨htable, ((isMatch_name_iff _ htable).2.2 hsharded "acme" (by decide) (by decide)
    ⟨2024, 3, 15⟩).mpr (by decide)⟩

/-- The index of a table without tokens is not found under any key. -/
theorem not_isMatch_name_plain :
    Wildcard.isMatch (name "hero" "acme" ⟨2024, 3, 15⟩) (pattern "hero" "acme") = false := by
  decide

end SearchStore.Index
