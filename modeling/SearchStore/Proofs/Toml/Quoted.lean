import Mathlib.Data.List.Basic
import Mathlib.Tactic.SplitIfs
import SearchStore.Toml.Quoted

/-! # Strings in quotes come back

A string is written in one of four forms, and in each it is read as it was. What
is hard about it are the quotes inside: on several lines up to two in a row stand
for themselves, also right before the closing ones. So what is read is followed
with the quotes of the last run kept apart (`basicLines?_escape`,
`literalLines?_run`); with none of them it is the whole string.
-/

namespace SearchStore.Toml

variable {c : Char} {cs rest : List Char}

/-! ## Single characters -/

theorem character?_ascii : ∀ n < 0x80,
    Radix.character? ['0', '0', Radix.capitalDigit (n / 16), Radix.capitalDigit (n % 16)] =
      some (Char.ofNat n) := by
  decide +kernel

/-- A character is written as it is, after a backslash, or by its code point. -/
theorem escapeChar_cases (lines : Bool) (c : Char) :
    (escapeChar lines c = [c] ∧ c ≠ '\\' ∧ (isControl c = true → c = '\n' ∧ lines = true)) ∨
    (∃ letter ∈ ['b', 't', 'n', 'f', 'r', '\\'], escapeChar lines c = ['\\', letter] ∧
      shortEscape? letter = some c) ∨
    ∃ w x y z, escapeChar lines c = ['\\', 'u', w, x, y, z] ∧
      Radix.character? [w, x, y, z] = some c := by
  rw [escapeChar]
  split_ifs with hb ht hn hlines hf hr hbackslash hcontrol
  · exact .inr (.inl ⟨'b', by decide, rfl, by simp [hb, shortEscape?]⟩)
  · exact .inr (.inl ⟨'t', by decide, rfl, by simp [ht, shortEscape?]⟩)
  · exact .inl ⟨by rw [hn], by simp [hn], fun _ => ⟨hn, hlines⟩⟩
  · exact .inr (.inl ⟨'n', by decide, rfl, by simp [hn, shortEscape?]⟩)
  · exact .inr (.inl ⟨'f', by decide, rfl, by simp [hf, shortEscape?]⟩)
  · exact .inr (.inl ⟨'r', by decide, rfl, by simp [hr, shortEscape?]⟩)
  · exact .inr (.inl ⟨'\\', by decide, rfl, by simp [hbackslash, shortEscape?]⟩)
  · have hlow : c.toNat < 0x80 := by
      simp only [isControl, Bool.or_eq_true, Bool.and_eq_true, decide_eq_true_eq] at hcontrol
      omega
    refine .inr (.inr ⟨_, _, _, _, rfl, ?_⟩)
    rw [character?_ascii _ hlow, Char.ofNat_toNat]
  · exact .inl ⟨rfl, hbackslash, fun h => absurd h hcontrol⟩

/-! ## On one line -/

theorem basic?_plain (hquote : c ≠ '"') (hbackslash : c ≠ '\\') (hcontrol : isControl c = false) :
    basic? (c :: rest) = before c (basic? rest) := by
  rw [basic?] <;> simp_all

theorem basic?_escapeChar (h : c ≠ '"') (rest : List Char) :
    basic? (escapeChar false c ++ rest) = before c (basic? rest) := by
  rcases escapeChar_cases false c with ⟨heq, hbackslash, hcontrol⟩ |
    ⟨letter, hletter, heq, hshort⟩ | ⟨w, x, y, z, heq, hcharacter⟩
  · rw [heq]
    exact basic?_plain h hbackslash (by simpa using hcontrol)
  · rw [heq]
    simp only [List.mem_cons, List.not_mem_nil, or_false] at hletter
    rcases hletter with rfl | rfl | rfl | rfl | rfl | rfl <;> simp [basic?, hshort]
  · rw [heq]
    simp [basic?, hcharacter]

theorem basic?_escape (run : Nat) (cs rest : List Char) :
    basic? (escape false run cs ++ '"' :: rest) = some (cs, rest) := by
  induction cs generalizing run with
  | nil => simp [escape, basic?]
  | cons c cs ih =>
    by_cases hquote : c = '"'
    · simp [escape, hquote, basic?, shortEscape?, ih, before]
    · rw [escape, if_neg hquote, List.append_assoc, basic?_escapeChar hquote, ih]
      rfl

theorem literal?_append (hquote : '\'' ∉ cs) (hcontrol : ∀ c ∈ cs, isControl c = false) :
    literal? (cs ++ '\'' :: rest) = some (cs, rest) := by
  induction cs with
  | nil => simp [literal?]
  | cons c cs ih =>
    obtain ⟨hc, hcs⟩ := List.forall_mem_cons.mp hcontrol
    have hparts : '\'' ≠ c ∧ '\'' ∉ cs := by simpa using hquote
    simp [literal?, hparts.1.symm, hc, ih hparts.2 hcs, before]

/-! ## On several lines -/

/-- A text does not begin with a quote. -/
def Unquoted (q : Char) (cs : List Char) : Prop := ∀ rest, cs ≠ q :: rest

theorem Unquoted.cons {q : Char} (h : c ≠ q) (cs : List Char) : Unquoted q (c :: cs) :=
  fun _ heq => h (List.cons.inj heq).1

/-- Quotes that are no closing ones stand for themselves. -/
theorem quotes_append {read : List Char → Option (List Char × List Char)} {q : Char}
    (hquote : ∀ t, (∀ t', t ≠ q :: q :: t') → read (q :: t) = before q (read t))
    {run : Nat} (hrun : run ≤ 2) {t : List Char} (ht : Unquoted q t) {r : List Char × List Char}
    (h : read t = some r) :
    read (List.replicate run q ++ t) = some (List.replicate run q ++ r.1, r.2) := by
  have hone : read (q :: t) = some (q :: r.1, r.2) := by
    rw [hquote t fun t' => ht _, h]
    rfl
  match run, hrun with
  | 0, _ => exact h
  | 1, _ => exact hone
  | 2, _ =>
    -- the first quote would only close with two more, and `t` does not begin with one
    have htwo : read (q :: q :: t) = before q (read (q :: t)) :=
      hquote _ fun t' heq => ht t' (List.cons.inj heq).2
    exact htwo.trans (by rw [hone]; rfl)

theorem basicLines?_quote (h : ∀ rest', rest ≠ '"' :: '"' :: rest') :
    basicLines? false ('"' :: rest) = before '"' (basicLines? false rest) := by
  rw [basicLines?] <;> simp_all [isControl]

/-- Up to two quotes can stand before the closing ones. -/
theorem basicLines?_close {run : Nat} (hrun : run ≤ 2) (h : Unquoted '"' rest) :
    basicLines? false (List.replicate run '"' ++ '"' :: '"' :: '"' :: rest) =
      some (List.replicate run '"', rest) := by
  match run, hrun with
  | 0, _ =>
    show basicLines? false ('"' :: '"' :: '"' :: rest) = some ([], rest)
    rw [basicLines?]
    · exact fun rest' heq => h _ heq
    · exact fun rest' heq => h _ heq
  | 1, _ =>
    show basicLines? false ('"' :: '"' :: '"' :: '"' :: rest) = some (['"'], rest)
    rw [basicLines?]
    exact fun rest' heq => h _ heq
  | 2, _ => simp [basicLines?]

theorem basicLines?_escapeChar (h : c ≠ '"') (rest : List Char) :
    basicLines? false (escapeChar true c ++ rest) = before c (basicLines? false rest) := by
  rcases escapeChar_cases true c with ⟨heq, hbackslash, hcontrol⟩ |
    ⟨letter, hletter, heq, hshort⟩ | ⟨w, x, y, z, heq, hcharacter⟩
  · -- written as it is, the character is no control, unless a line break
    have hreturn : c ≠ '\r' := by
      rintro rfl
      exact absurd (hcontrol (by decide)).1 (by decide)
    rw [heq, List.singleton_append, basicLines?]
    · by_cases hbreak : c = '\n'
      · simp [hbreak]
      · have hplain : isControl c = false := by
          rw [Bool.eq_false_iff]
          exact fun htrue => hbreak (hcontrol htrue).1
        simp [hbreak, hplain, hbackslash]
    all_goals simp_all
  · rw [heq]
    simp only [List.mem_cons, List.not_mem_nil, or_false] at hletter
    rcases hletter with rfl | rfl | rfl | rfl | rfl | rfl <;>
      simp [basicLines?, hshort, endsLine, isBlank]
  · rw [heq]
    simp [basicLines?, hcharacter]

theorem unquoted_escapeChar {q : Char} {lines : Bool} (h : escapeChar lines c = [c] → c ≠ q)
    (hq : q ≠ '\\') (rest : List Char) : Unquoted q (escapeChar lines c ++ rest) := by
  rcases escapeChar_cases lines c with ⟨heq, -⟩ | ⟨_, -, heq, -⟩ | ⟨_, _, _, _, heq, -⟩
  · rw [heq]
    exact .cons (h heq) _
  · rw [heq]
    exact .cons hq.symm _
  · rw [heq]
    exact .cons hq.symm _

theorem unquoted_escape {q : Char} (h : ∀ c ∈ cs, escapeChar true c = [c] → c ≠ q)
    (hq : q ≠ '\\') (hq' : q ≠ '"') (rest : List Char) :
    Unquoted q (escape true 0 cs ++ '"' :: rest) := by
  rcases cs with _ | ⟨c, cs⟩
  · exact .cons hq'.symm _
  · by_cases hquote : c = '"'
    · simpa [escape, hquote] using Unquoted.cons hq'.symm _
    · rw [escape, if_neg hquote, List.append_assoc]
      exact unquoted_escapeChar (h c List.mem_cons_self) hq _

/-- The last quotes that were written may still be unread. -/
theorem basicLines?_escape (cs : List Char) {run : Nat} (hrun : run ≤ 2) (h : Unquoted '"' rest) :
    basicLines? false
        (List.replicate run '"' ++ (escape true run cs ++ '"' :: '"' :: '"' :: rest)) =
      some (List.replicate run '"' ++ cs, rest) := by
  induction cs generalizing run with
  | nil => simpa [escape] using basicLines?_close hrun h
  | cons c cs ih =>
    have hrest := ih (Nat.zero_le 2)
    by_cases hquote : c = '"'
    · subst hquote
      rcases Nat.lt_or_eq_of_le hrun with hlt | rfl
      · have hmore := ih (show run + 1 ≤ 2 by omega)
        simpa [escape, hlt, List.replicate_succ'] using hmore
      · -- a third quote in a row is escaped
        rw [escape, if_pos rfl, if_neg (by simp)]
        refine quotes_append (fun _ => basicLines?_quote) (Nat.le_refl 2) (.cons (by decide) _)
          (r := ('"' :: cs, rest)) ?_
        simpa [basicLines?, endsLine, isBlank, shortEscape?, before] using hrest
    · rw [escape, if_neg hquote, List.append_assoc]
      refine quotes_append (fun _ => basicLines?_quote) hrun
        (unquoted_escapeChar (fun _ => hquote) (by decide) _) (r := (c :: cs, rest)) ?_
      rw [basicLines?_escapeChar hquote]
      simpa [before] using hrest

theorem literalLines?_quote (h : ∀ rest', rest ≠ '\'' :: '\'' :: rest') :
    literalLines? ('\'' :: rest) = before '\'' (literalLines? rest) := by
  rw [literalLines?] <;> simp_all [isControl]

theorem literalLines?_close {run : Nat} (hrun : run ≤ 2) (h : Unquoted '\'' rest) :
    literalLines? (List.replicate run '\'' ++ '\'' :: '\'' :: '\'' :: rest) =
      some (List.replicate run '\'', rest) := by
  match run, hrun with
  | 0, _ =>
    show literalLines? ('\'' :: '\'' :: '\'' :: rest) = some ([], rest)
    rw [literalLines?]
    · exact fun rest' heq => h _ heq
    · exact fun rest' heq => h _ heq
  | 1, _ =>
    show literalLines? ('\'' :: '\'' :: '\'' :: '\'' :: rest) = some (['\''], rest)
    rw [literalLines?]
    exact fun rest' heq => h _ heq
  | 2, _ => simp [literalLines?]

theorem literalLines?_plain (hquote : c ≠ '\'') (hcontrol : isControl c = true → c = '\n') :
    literalLines? (c :: rest) = before c (literalLines? rest) := by
  have hreturn : c ≠ '\r' := by
    rintro rfl
    exact absurd (hcontrol (by decide)) (by decide)
  have hplain : (isControl c && c ≠ '\n') = false := by
    rw [Bool.and_eq_false_imp]
    simpa using hcontrol
  rw [literalLines?]
  · rw [hplain, if_neg Bool.false_ne_true]
  all_goals simp_all

theorem literalLines?_run {run : Nat} (hrun : longestRun '\'' run cs ≤ 2)
    (hcontrol : ∀ c ∈ cs, isControl c = true → c = '\n') (h : Unquoted '\'' rest) :
    literalLines? (List.replicate run '\'' ++ (cs ++ '\'' :: '\'' :: '\'' :: rest)) =
      some (List.replicate run '\'' ++ cs, rest) := by
  induction cs generalizing run with
  | nil => simpa using literalLines?_close (show run ≤ 2 from hrun) h
  | cons c cs ih =>
    obtain ⟨hc, hcs⟩ := List.forall_mem_cons.mp hcontrol
    rw [longestRun] at hrun
    split_ifs at hrun with hquote
    · subst hquote
      simpa [List.replicate_succ'] using ih hrun hcs
    · -- the run ends before `c`, and is too short to close
      obtain ⟨hrun, hlater⟩ := Nat.max_le.mp hrun
      refine quotes_append (fun _ => literalLines?_quote) hrun (.cons hquote _)
        (r := (c :: cs, rest)) ?_
      refine (literalLines?_plain hquote hc).trans ?_
      simpa [before] using congrArg (before c) (ih hlater hcs)

/-! ## In any form -/

theorem dropOpening_opening {t : List Char}
    (h : '\n' ∉ cs → Unquoted '\n' t ∧ Unquoted '\r' t) : dropOpening (opening cs ++ t) = t := by
  rw [opening]
  by_cases hlines : '\n' ∈ cs
  · simp [hlines, dropOpening]
  · obtain ⟨hbreak, hreturn⟩ := h hlines
    rw [if_neg (by simpa using hlines), List.nil_append]
    rcases t with _ | ⟨c, t⟩
    · rfl
    · have hc : c ≠ '\n' := fun heq => hbreak t (by rw [heq])
      have hc' : c ≠ '\r' := fun heq => hreturn t (by rw [heq])
      rw [dropOpening] <;> simp_all

theorem le_longestRun (q : Char) (run : Nat) (cs : List Char) : run ≤ longestRun q run cs := by
  induction cs generalizing run with
  | nil => exact Nat.le_refl run
  | cons c cs ih =>
    rw [longestRun]
    split_ifs
    · exact Nat.le_trans (Nat.le_succ run) (ih (run + 1))
    · exact Nat.le_max_left _ _

theorem not_mem_of_longestRun {q : Char} (h : longestRun q 0 cs = 0) : q ∉ cs := by
  induction cs with
  | nil => exact List.not_mem_nil
  | cons c cs ih =>
    rw [longestRun] at h
    split_ifs at h with hquote
    · have hpos := le_longestRun q (0 + 1) cs
      omega
    · rw [Nat.zero_max] at h
      exact List.not_mem_cons_of_ne_of_not_mem (Ne.symm hquote) (ih h)

theorem of_formOf_literal (h : formOf cs = .literal) :
    '\'' ∉ cs ∧ ∀ c ∈ cs, isControl c = false := by
  rw [formOf] at h
  split_ifs at h with hbasic hliteral
  simp only [Bool.and_eq_true, Bool.not_eq_true', List.any_eq_false, decide_eq_true_eq,
    List.contains_eq_mem, decide_eq_false_iff_not] at hliteral
  obtain ⟨⟨hcontrols, hsingles⟩, hlines⟩ := hliteral
  refine ⟨not_mem_of_longestRun hsingles, fun c hc => ?_⟩
  have hbreak : c ≠ '\n' := fun heq => hlines (heq ▸ hc)
  simpa [hbreak] using hcontrols c hc

theorem of_formOf_literalLines (h : formOf cs = .literalLines) :
    longestRun '\'' 0 cs ≤ 2 ∧ ∀ c ∈ cs, isControl c = true → c = '\n' := by
  rw [formOf] at h
  split_ifs at h with hbasic hliteral hbasicLines hliteralLines
  simp only [Bool.and_eq_true, Bool.not_eq_true', List.any_eq_false, decide_eq_true_eq,
    ne_eq, not_and, Decidable.not_not] at hliteralLines
  exact ⟨hliteralLines.2, hliteralLines.1⟩

theorem string?_basic (h : ∀ rest', rest ≠ '"' :: '"' :: rest') :
    string? ('"' :: rest) = basic? rest := by
  rw [string?] <;> simp_all [lineString?]

theorem string?_literal (h : ∀ rest', rest ≠ '\'' :: '\'' :: rest') :
    string? ('\'' :: rest) = literal? rest := by
  rw [string?] <;> simp_all [lineString?]

/-- A string in quotes is read as it was, with anything but another quote behind it. -/
theorem string?_quote (cs : List Char) (hdouble : Unquoted '"' rest)
    (hsingle : Unquoted '\'' rest) :
    string? (quote cs ++ rest) = some (cs, rest) := by
  rw [quote]
  split
  · -- two more quotes at the front would open the form on several lines
    have hstart : ∀ rest', escape false 0 cs ++ '"' :: rest ≠ '"' :: '"' :: rest' := by
      rcases cs with _ | ⟨c, cs⟩
      · exact fun rest' heq => hdouble _ (List.cons.inj heq).2
      · by_cases hquote : c = '"'
        · simp [escape, hquote]
        · rw [escape, if_neg hquote, List.append_assoc]
          exact fun rest' => unquoted_escapeChar (fun _ => hquote) (by decide) _ _
    rw [List.cons_append, List.append_assoc, List.singleton_append, string?_basic hstart,
      basic?_escape]
  · next hform =>
    obtain ⟨hquote, hcontrol⟩ := of_formOf_literal hform
    have hstart : ∀ rest', cs ++ '\'' :: rest ≠ '\'' :: '\'' :: rest' := by
      rcases cs with _ | ⟨c, cs⟩
      · exact fun rest' heq => hsingle _ (List.cons.inj heq).2
      · exact fun rest' heq => hquote (by simp [(List.cons.inj heq).1])
    rw [List.cons_append, List.append_assoc, List.singleton_append, string?_literal hstart,
      literal?_append hquote hcontrol]
  · -- what is dropped at the front is the line break that was put there, and no other
    have hopening : dropOpening (opening cs ++ (escape true 0 cs ++ '"' :: '"' :: '"' :: rest)) =
        escape true 0 cs ++ '"' :: '"' :: '"' :: rest := by
      refine dropOpening_opening fun hlines => ⟨?_, ?_⟩
      · refine unquoted_escape (fun c hc _ hbreak => hlines ?_) (by decide) (by decide) _
        exact hbreak ▸ hc
      · refine unquoted_escape (fun c _ heq hreturn => ?_) (by decide) (by decide) _
        rw [hreturn] at heq
        exact absurd heq (by decide)
    have hread := basicLines?_escape cs (Nat.zero_le 2) hdouble
    simp only [List.append_assoc, List.cons_append, List.nil_append, string?, hopening]
    simpa using hread
  · next hform =>
    obtain ⟨hruns, hcontrol⟩ := of_formOf_literalLines hform
    have hopening : dropOpening (opening cs ++ (cs ++ '\'' :: '\'' :: '\'' :: rest)) =
        cs ++ '\'' :: '\'' :: '\'' :: rest := by
      have hstart {q : Char} (hq : q ≠ '\'') (hcs : q ∉ cs) :
          Unquoted q (cs ++ '\'' :: '\'' :: '\'' :: rest) := by
        rcases cs with _ | ⟨c, cs⟩
        · exact .cons hq.symm _
        · exact .cons (fun heq => hcs (by simp [heq])) _
      refine dropOpening_opening fun hlines => ⟨hstart (by decide) hlines, ?_⟩
      refine hstart (by decide) fun hmem => ?_
      exact absurd (hcontrol _ hmem (by decide)) (by decide)
    have hread := literalLines?_run hruns hcontrol hsingle
    simp only [List.append_assoc, List.cons_append, List.nil_append, string?, hopening]
    simpa using hread

end SearchStore.Toml
