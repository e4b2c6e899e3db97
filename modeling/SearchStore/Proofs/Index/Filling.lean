import Mathlib.Data.List.Infix
import SearchStore.Index.Name

/-! # Filling in templates

What it does to a text when every occurrence of a token is replaced. `Fills`
follows the walk over the text, which keeps a character where no occurrence
begins and puts the value in the place of an occurrence otherwise. The rest of
this file is by induction on the walk: a token that is gone does not come back,
hyphens stay where they are, and a text that has no token is not changed.
-/

namespace SearchStore.Index

/-- The walk that replaces `token` by `value`, with the text and the result. -/
inductive Fills (token value : List Char) : List Char → List Char → Prop
  | done : Fills token value [] []
  | keep {c : Char} {rest out : List Char} (h : ¬ token <+: c :: rest)
      (hrest : Fills token value rest out) : Fills token value (c :: rest) (c :: out)
  | fill {rest out : List Char} (hrest : Fills token value rest out) :
      Fills token value (token ++ rest) (value ++ out)

variable {token value cs out : List Char}

theorem replaceFrom_skip (n : Nat) (cs : List Char) :
    replaceFrom token value n cs = replaceAll token value (cs.drop n) := by
  induction cs generalizing n with
  | nil => cases n <;> rfl
  | cons c rest ih =>
    cases n with
    | zero => rfl
    | succ n => exact ih n

theorem replaceAll_keep {c : Char} {rest : List Char} (h : ¬ token <+: c :: rest) :
    replaceAll token value (c :: rest) = c :: replaceAll token value rest := by
  have hprefix : token.isPrefixOf (c :: rest) = false :=
    Bool.eq_false_iff.mpr fun htrue => h (List.isPrefixOf_iff_prefix.mp htrue)
  simp [replaceAll, replaceFrom, hprefix]

theorem replaceAll_fill (ht : token ≠ []) (rest : List Char) :
    replaceAll token value (token ++ rest) = value ++ replaceAll token value rest := by
  obtain ⟨c, token', rfl⟩ := List.exists_cons_of_ne_nil ht
  have hprefix : (c :: token').isPrefixOf (c :: (token' ++ rest)) = true := by
    rw [List.isPrefixOf_iff_prefix]
    exact List.prefix_append (c :: token') rest
  rw [List.cons_append, replaceAll, replaceFrom, if_pos hprefix, replaceFrom_skip]
  simp

theorem fills_replaceAll (ht : token ≠ []) (cs : List Char) :
    Fills token value cs (replaceAll token value cs) := by
  -- an occurrence is left behind as a whole, so the induction is on the length
  induction hn : cs.length using Nat.strong_induction_on generalizing cs with
  | _ n ih =>
    rcases cs with _ | ⟨c, rest⟩
    · exact .done
    · by_cases h : token <+: c :: rest
      · obtain ⟨back, hback⟩ := h
        have hpos : 0 < token.length := List.length_pos_iff.mpr ht
        have hlength : token.length + back.length = n := by
          rw [← List.length_append, hback, hn]
        rw [← hback, replaceAll_fill ht]
        exact .fill (ih back.length (by omega) back rfl)
      · rw [replaceAll_keep h]
        exact .keep h (ih rest.length (by simp [← hn]) rest rfl)

/-! ## What a walk leaves and what it brings -/

theorem not_prefix_of_head {c : Char} {t rest : List Char} (ht : t ≠ []) (hc : c ∉ t) :
    ¬ t <+: c :: rest := by
  rintro ⟨back, hback⟩
  obtain ⟨d, t', rfl⟩ := List.exists_cons_of_ne_nil ht
  obtain ⟨rfl, -⟩ := List.cons.inj hback
  exact hc List.mem_cons_self

theorem infix_of_append_left {t v w : List Char} (ht : t ≠ []) (hv : ∀ x ∈ v, x ∉ t)
    (h : t <:+: v ++ w) : t <:+: w := by
  induction v with
  | nil => exact h
  | cons x v ih =>
    rcases List.infix_cons_iff.mp h with hprefix | hinside
    · exact absurd hprefix (not_prefix_of_head ht (hv x List.mem_cons_self))
    · exact ih (fun y hy => hv y (List.mem_cons_of_mem x hy)) hinside

/-- A token without hyphens does not reach beyond one. -/
theorem prefix_of_append_hyphen {t xs ys : List Char} (hh : '-' ∉ t) (h : t <+: xs ++ '-' :: ys) :
    t <+: xs := by
  induction t generalizing xs with
  | nil => exact List.nil_prefix
  | cons c t ih =>
    have hc : '-' ≠ c ∧ '-' ∉ t := by simpa using hh
    rcases xs with _ | ⟨x, xs⟩
    · exact absurd (List.cons_prefix_cons.mp h).1.symm hc.1
    · obtain ⟨hcx, hrest⟩ := List.cons_prefix_cons.mp h
      exact List.cons_prefix_cons.mpr ⟨hcx, ih hc.2 hrest⟩

namespace Fills

/-- Nothing changes, or the value is found in the result. -/
theorem eq_or_exists (h : Fills token value cs out) :
    out = cs ∨ ∃ front back out', cs = front ++ token ++ back ∧ out = front ++ value ++ out' ∧
      Fills token value back out' := by
  induction h with
  | done => exact Or.inl rfl
  | @keep c rest out _ _ ih =>
    rcases ih with rfl | ⟨front, back, out', rfl, rfl, hback⟩
    · exact Or.inl rfl
    · exact Or.inr ⟨c :: front, back, out', rfl, rfl, hback⟩
  | @fill rest out hrest _ => exact Or.inr ⟨[], rest, out, rfl, rfl, hrest⟩

theorem mem {x : Char} (h : Fills token value cs out) (hx : x ∈ out) : x ∈ value ∨ x ∈ cs := by
  induction h with
  | done => exact Or.inr hx
  | keep _ _ ih =>
    rcases List.mem_cons.mp hx with rfl | hx
    · exact Or.inr List.mem_cons_self
    · exact (ih hx).imp_right (List.mem_cons_of_mem _)
  | fill _ ih =>
    rcases List.mem_append.mp hx with hx | hx
    · exact Or.inl hx
    · exact (ih hx).imp_right (List.mem_append_right _)

/-- A text without the token is not changed. -/
theorem eq_of_free (h : Fills token value cs out) (hno : ¬ token <:+: cs) : out = cs := by
  rcases h.eq_or_exists with heq | ⟨front, back, _, rfl, _, _⟩
  · exact heq
  · exact absurd ⟨front, back, rfl⟩ hno

/-- A result without a character of the value is the text itself. -/
theorem eq_of_not_mem {x : Char} (h : Fills token value cs out) (hx : x ∈ value) (hout : x ∉ out) :
    out = cs := by
  rcases h.eq_or_exists with heq | ⟨front, _, out', _, rfl, _⟩
  · exact heq
  · exact absurd (by simp [hx]) hout

/-- Only the token and the value itself become the value. -/
theorem eq_value (h : Fills token value cs out) (hout : out = value) (hv : value ≠ []) :
    cs = value ∨ cs = token := by
  rcases h.eq_or_exists with heq | ⟨front, back, out', rfl, hcut, hback⟩
  · exact Or.inl (heq.symm.trans hout)
  · have hlength := congrArg List.length (hcut.symm.trans hout)
    simp only [List.length_append] at hlength
    have hfront : front = [] := List.length_eq_zero_iff.mp (by omega)
    have hout' : out' = [] := List.length_eq_zero_iff.mp (by omega)
    subst hfront hout'
    -- an empty result comes from an empty text, since no value is empty
    have hnil : back = [] := by
      generalize hnone : ([] : List Char) = none' at hback
      cases hback with
      | done => rfl
      | keep => simp at hnone
      | fill => exact absurd (List.append_eq_nil_iff.mp hnone.symm).1 hv
    exact Or.inr (by simp [hnil])

/-- A beginning that has no character of the value was there before. -/
theorem prefix_of_disjoint {t : List Char} (h : Fills token value cs out) (hv : value ≠ [])
    (hd : ∀ x ∈ value, x ∉ t) (ht : t <+: out) : t <+: cs := by
  induction h generalizing t with
  | done => exact ht
  | @keep c rest out _ _ ih =>
    rcases t with _ | ⟨d, t⟩
    · exact List.nil_prefix
    · obtain ⟨hdc, hrest⟩ := List.cons_prefix_cons.mp ht
      exact List.cons_prefix_cons.mpr
        ⟨hdc, ih (fun x hx hxt => hd x hx (List.mem_cons_of_mem _ hxt)) hrest⟩
  | fill _ _ =>
    -- here the result begins with the value, which the piece has nothing of
    obtain ⟨x, value', rfl⟩ := List.exists_cons_of_ne_nil hv
    rcases t with _ | ⟨d, t⟩
    · exact List.nil_prefix
    · exact absurd ht (not_prefix_of_head (by simp) (hd x List.mem_cons_self))

/-- A piece that has no character of the value was there before. -/
theorem infix_of_disjoint {t : List Char} (h : Fills token value cs out) (ht : t ≠ [])
    (hv : value ≠ []) (hd : ∀ x ∈ value, x ∉ t) (hinside : t <:+: out) : t <:+: cs := by
  induction h with
  | done => exact hinside
  | @keep c rest out hno hrest ih =>
    rcases List.infix_cons_iff.mp hinside with hprefix | hinside
    · exact ((Fills.keep hno hrest).prefix_of_disjoint hv hd hprefix).isInfix
    · exact (ih hinside).trans (List.suffix_cons c rest).isInfix
  | fill _ ih =>
    have hrest := ih (infix_of_append_left ht hd hinside)
    exact hrest.trans (List.suffix_append _ _).isInfix

/-- No token is left. -/
theorem free (h : Fills token value cs out) (ht : token ≠ []) (hv : value ≠ [])
    (hd : ∀ x ∈ value, x ∉ token) : ¬ token <:+: out := by
  induction h with
  | done => simpa using ht
  | @keep c rest out hno hrest ih =>
    intro hinside
    rcases List.infix_cons_iff.mp hinside with hprefix | hinside
    · exact hno ((Fills.keep hno hrest).prefix_of_disjoint hv hd hprefix)
    · exact ih hinside
  | fill _ ih => exact fun hinside => ih (infix_of_append_left ht hd hinside)

theorem count_hyphen (h : Fills token value cs out) (ht : '-' ∉ token) (hv : '-' ∉ value) :
    out.count '-' = cs.count '-' := by
  induction h with
  | done => rfl
  | keep _ _ ih => simp [List.count_cons, ih]
  | fill _ ih => simp [List.count_append, List.count_eq_zero_of_not_mem ht,
      List.count_eq_zero_of_not_mem hv, ih]

/-- Filling in stops at hyphens. -/
theorem append_hyphen {xs ys outx outy : List Char} (ht : token ≠ []) (hh : '-' ∉ token)
    (hx : Fills token value xs outx) (hy : Fills token value ys outy) :
    Fills token value (xs ++ '-' :: ys) (outx ++ '-' :: outy) := by
  induction hx with
  | done => exact .keep (not_prefix_of_head ht hh) hy
  | keep h _ ih => exact .keep (fun hprefix => h (prefix_of_append_hyphen hh hprefix)) ih
  | fill _ ih => simpa only [List.append_assoc] using Fills.fill ih

theorem eq_replaceAll (h : Fills token value cs out) (ht : token ≠ []) :
    out = replaceAll token value cs := by
  induction h with
  | done => rfl
  | keep hno _ ih => rw [replaceAll_keep hno, ih]
  | fill _ ih => rw [replaceAll_fill ht, ih]

end Fills

theorem replaceAll_append_hyphen (ht : token ≠ []) (hh : '-' ∉ token) (xs ys : List Char) :
    replaceAll token value (xs ++ '-' :: ys) =
      replaceAll token value xs ++ '-' :: replaceAll token value ys :=
  ((fills_replaceAll ht xs).append_hyphen ht hh (fills_replaceAll ht ys)).eq_replaceAll ht |>.symm

theorem replaceAll_token (ht : token ≠ []) : replaceAll token value token = value := by
  have hfill : replaceAll token value (token ++ []) = value ++ [] := replaceAll_fill ht []
  simpa using hfill

/-! ## Filling in one token -/

/-- A token in braces. -/
def single (name : String) : List Char := '\x7b' :: (name.toList ++ ['\x7d'])

/-- A token in double braces. -/
def double (name : String) : List Char := '\x7b' :: (single name ++ ['\x7d'])

theorem fillToken_eq (name : String) (value cs : List Char) :
    fillToken name value cs = replaceAll (single name) value (replaceAll (double name) value cs) :=
  rfl

theorem single_ne_nil (name : String) : single name ≠ [] := by
  simp [single]

theorem double_ne_nil (name : String) : double name ≠ [] := by
  simp [double]

theorem single_infix_double (name : String) : single name <:+: double name :=
  ⟨['\x7b'], ['\x7d'], by simp [double]⟩

theorem mem_double_iff {name : String} {x : Char} : x ∈ double name ↔ x ∈ single name := by
  simp [double, single]

section

variable {name : String}

theorem mem_fillToken {x : Char} (h : x ∈ fillToken name value cs) : x ∈ value ∨ x ∈ cs := by
  rw [fillToken_eq] at h
  rcases (fills_replaceAll (single_ne_nil name) _).mem h with hx | hx
  · exact Or.inl hx
  · exact (fills_replaceAll (double_ne_nil name) _).mem hx

theorem fillToken_of_free (h : ¬ single name <:+: cs) : fillToken name value cs = cs := by
  have hdouble : ¬ double name <:+: cs := fun hd => h ((single_infix_double name).trans hd)
  rw [fillToken_eq, (fills_replaceAll (double_ne_nil name) _).eq_of_free hdouble]
  exact (fills_replaceAll (single_ne_nil name) _).eq_of_free h

theorem infix_of_fillToken {t : List Char} (ht : t ≠ []) (hv : value ≠ [])
    (hd : ∀ x ∈ value, x ∉ t) (h : t <:+: fillToken name value cs) : t <:+: cs := by
  rw [fillToken_eq] at h
  have hsingle := (fills_replaceAll (single_ne_nil name) _).infix_of_disjoint ht hv hd h
  exact (fills_replaceAll (double_ne_nil name) _).infix_of_disjoint ht hv hd hsingle

theorem not_infix_fillToken (hv : value ≠ []) (hd : ∀ x ∈ value, x ∉ single name) :
    ¬ single name <:+: fillToken name value cs :=
  (fills_replaceAll (single_ne_nil name) _).free (single_ne_nil name) hv hd

theorem fillToken_append_hyphen (hh : '-' ∉ single name) (xs ys : List Char) :
    fillToken name value (xs ++ '-' :: ys) =
      fillToken name value xs ++ '-' :: fillToken name value ys := by
  have hhd : '-' ∉ double name := fun h => hh (mem_double_iff.mp h)
  simp only [fillToken_eq, replaceAll_append_hyphen (double_ne_nil name) hhd,
    replaceAll_append_hyphen (single_ne_nil name) hh]

theorem count_hyphen_fillToken (hh : '-' ∉ single name) (hv : '-' ∉ value) (cs : List Char) :
    (fillToken name value cs).count '-' = cs.count '-' := by
  have hhd : '-' ∉ double name := fun h => hh (mem_double_iff.mp h)
  rw [fillToken_eq, (fills_replaceAll (single_ne_nil name) _).count_hyphen hh hv,
    (fills_replaceAll (double_ne_nil name) _).count_hyphen hhd hv]

/-- A result without a character of the value is the text itself. -/
theorem eq_of_fillToken {x : Char} (hx : x ∈ value) (h : x ∉ fillToken name value cs) :
    fillToken name value cs = cs := by
  -- first the last replacement did nothing, and so the one before it
  rw [fillToken_eq] at h ⊢
  have hsingle := (fills_replaceAll (single_ne_nil name) _).eq_of_not_mem hx h
  rw [hsingle] at h ⊢
  exact (fills_replaceAll (double_ne_nil name) _).eq_of_not_mem hx h

/-- Only the token in its two forms and the value itself become the value. -/
theorem fillToken_eq_value {x : Char} (hx : x ∈ value) (hxt : x ∉ single name)
    (h : fillToken name value cs = value) : cs = value ∨ cs = single name ∨ cs = double name := by
  have hv : value ≠ [] := List.ne_nil_of_mem hx
  rw [fillToken_eq] at h
  have hdouble : Fills (double name) value cs (replaceAll (double name) value cs) :=
    fills_replaceAll (double_ne_nil name) cs
  -- the value was there after the double braces, or the token in single ones was
  rcases (fills_replaceAll (single_ne_nil name) _).eq_value h hv with heq | heq
  · exact (hdouble.eq_value heq hv).imp_right Or.inr
  · rw [heq] at hdouble
    exact Or.inr (Or.inl (hdouble.eq_of_not_mem hx hxt).symm)

theorem fillToken_single : fillToken name value (single name) = value := by
  -- double braces are longer, so their turn leaves single ones alone
  have hno : ¬ double name <:+: single name := by
    intro h
    have hlength := h.length_le
    simp only [double, List.length_cons, List.length_append] at hlength
    omega
  rw [fillToken_eq, (fills_replaceAll (double_ne_nil name) _).eq_of_free hno,
    replaceAll_token (single_ne_nil name)]

theorem fillToken_double (h : ¬ single name <:+: value) :
    fillToken name value (double name) = value := by
  rw [fillToken_eq, replaceAll_token (double_ne_nil name)]
  exact (fills_replaceAll (single_ne_nil name) _).eq_of_free h

end

end SearchStore.Index
