import Mathlib
import SearchStore.Proofs.Engine.Sending
import SearchStore.Proofs.Url.Segment
import SearchStore.Url.Parser

/-! # Where a request goes

A request is sent to the URL that is read from the text of a base and the path
of its segments. `parse_append_pathOf` says what that URL is: the base with the
segments of the path, but without those of dots, which are taken out while the
path is read.
-/

namespace SearchStore

namespace Url

/-! ## Paths -/

/-- Segments, each behind a slash. -/
def slashed (parts : List String) : List Char := parts.flatMap fun s => '/' :: s.toList

theorem splitOn_slashed {parts : List String} (h : ∀ s ∈ parts, '/' ∉ s.toList) (hne : parts ≠ []) :
    Text.splitOn '/' (slashed parts).tail = parts.map String.toList := by
  induction parts with
  | nil => exact absurd rfl hne
  | cons s rest ih =>
    have hs : '/' ∉ s.toList := h s List.mem_cons_self
    have htail : (slashed (s :: rest)).tail = s.toList ++ slashed rest := rfl
    rw [htail]
    rcases rest with _ | ⟨t, rest⟩
    · simpa [slashed] using Text.splitOn_of_not_mem hs
    · have hrest := ih (fun u hu => h u (List.mem_cons_of_mem s hu)) (by simp)
      have hcons : slashed (t :: rest) = '/' :: (slashed (t :: rest)).tail := rfl
      rw [hcons, Text.splitOn_append hs, hrest]
      rfl

/-- Segments without slashes are told apart by their path. -/
theorem slashed_inj {parts parts' : List String} (h : ∀ s ∈ parts, '/' ∉ s.toList)
    (h' : ∀ s ∈ parts', '/' ∉ s.toList) (heq : slashed parts = slashed parts') : parts = parts' := by
  rcases parts with _ | ⟨s, rest⟩ <;> rcases parts' with _ | ⟨t, rest'⟩
  · rfl
  · simp [slashed] at heq
  · simp [slashed] at heq
  · have hsplit := splitOn_slashed h (by simp)
    rw [heq, splitOn_slashed h' (by simp)] at hsplit
    exact (List.map_injective_iff.mpr (fun _ _ => String.toList_inj.mp) hsplit).symm

theorem pathText_segments {u : Url} (h : u.host.isSome) (parts : List String) :
    (pathText { u with path := .segments parts }).toList = slashed parts := by
  obtain ⟨host, hhost⟩ := Option.isSome_iff_exists.mp h
  simp [pathText, hhost, slashed, String.toList_join, List.flatMap_map]

/-! ## Dots -/

theorem mem_addSegment {before : List String} {s t : String} (h : s ∈ addSegment before t) :
    s ∈ before ∨ s = t ∧ isDots t = false := by
  rw [addSegment] at h
  split at h
  · rcases before with _ | ⟨b, before⟩
    · exact Or.inl h
    · rw [above] at h
      split at h
      · exact Or.inl h
      · exact Or.inl (List.mem_cons_of_mem b h)
  · split at h
    · exact Or.inl h
    · rcases List.mem_cons.mp h with rfl | h
      · exact Or.inr ⟨rfl, by simp_all [isDots]⟩
      · exact Or.inl h

/-- What is left when dots are taken out: no segment of dots, and nothing new
but an empty segment. -/
theorem mem_resolve {before parts : List String} {s : String} (h : s ∈ resolve before parts) :
    s ∈ before ∨ s ∈ parts ∧ isDots s = false ∨ s = "" := by
  induction before, parts using resolve.induct with
  | case1 before => exact Or.inl h
  | case2 before last hdots =>
    rw [resolve, if_pos hdots] at h
    rcases List.mem_cons.mp h with rfl | h
    · exact Or.inr (Or.inr rfl)
    · rcases mem_addSegment h with h | ⟨rfl, hno⟩
      · exact Or.inl h
      · simp [hno] at hdots
  | case3 before last hdots =>
    rw [resolve, if_neg hdots] at h
    rcases List.mem_cons.mp h with rfl | h
    · exact Or.inr (Or.inl ⟨List.mem_cons_self, by simpa using hdots⟩)
    · exact Or.inl h
  | case4 before t rest hne ih =>
    rw [resolve] at h
    · rcases ih h with h | ⟨h, hno⟩ | rfl
      · rcases mem_addSegment h with h | ⟨rfl, hno⟩
        · exact Or.inl h
        · exact Or.inr (Or.inl ⟨List.mem_cons_self, hno⟩)
      · exact Or.inr (Or.inl ⟨List.mem_cons_of_mem t h, hno⟩)
      · exact Or.inr (Or.inr rfl)
    · exact hne

theorem resolve_of_free {before parts : List String} (h : ∀ s ∈ parts, isDots s = false) :
    resolve before parts = parts.reverse ++ before := by
  induction before, parts using resolve.induct with
  | case1 before => rfl
  | case2 before last hdots => simp [h last List.mem_cons_self] at hdots
  | case3 before last hdots => simp [resolve, hdots]
  | case4 before t rest hne ih =>
    have ht : isDoubleDot t = false ∧ isDot t = false := by
      simpa [isDots, and_comm] using h t List.mem_cons_self
    have hadd : addSegment before t = t :: before := by simp [addSegment, ht]
    rw [resolve]
    · rw [ih fun s hs => h s (List.mem_cons_of_mem t hs), hadd]
      simp
    · exact hne

/-! ## Reading a text to which a path is added -/

section

variable {cs path : List Char}

theorem cutBefore_of_none {stop : Char → Bool} (h : ∀ c ∈ cs, stop c = false) :
    cutBefore stop cs = (cs, []) := by
  rw [cutBefore, List.span_eq_takeWhile_dropWhile, List.takeWhile_eq_self_iff.mpr,
    List.dropWhile_eq_nil_iff.mpr]
  · simpa using h
  · simpa using h

theorem cutBefore_append {stop : Char → Bool} (h : ∀ c ∈ cs, stop c = false) {c : Char}
    (hc : stop c = true) (rest : List Char) :
    cutBefore stop (cs ++ c :: rest) = (cs, c :: rest) := by
  have hcs : ∀ d ∈ cs, (!stop d) = true := by simpa using h
  rw [cutBefore, List.span_eq_takeWhile_dropWhile, List.takeWhile_append_of_pos hcs,
    List.dropWhile_append_of_pos hcs]
  simp [hc]

/-- A scheme ends at the first colon, whatever follows that. -/
theorem exists_of_cutScheme? {scheme : String} {rest : List Char}
    (h : cutScheme? cs = some (scheme, rest)) :
    ∃ front, cs = front ++ ':' :: rest ∧ ':' ∉ front ∧
      ∀ rest', cutScheme? (front ++ ':' :: rest') = some (scheme, rest') := by
  rw [cutScheme?, List.span_eq_takeWhile_dropWhile] at h
  have hcs := List.takeWhile_append_dropWhile (p := isSchemeChar) (l := cs)
  have hall : ∀ c ∈ cs.takeWhile isSchemeChar, isSchemeChar c = true :=
    fun c hc => List.mem_takeWhile_imp hc
  split at h
  · rename_i c front rest'' heq
    obtain ⟨hfront, hrest⟩ := Prod.mk.inj heq
    rw [hfront, hrest] at hcs
    rw [hfront] at hall
    split at h
    · rename_i halpha
      obtain ⟨rfl, rfl⟩ := Prod.mk.inj (Option.some.inj h)
      refine ⟨c :: front, hcs.symm, fun hmem => ?_, fun rest' => ?_⟩
      · exact absurd (hall ':' hmem) (by decide)
      · rw [cutScheme?, List.span_eq_takeWhile_dropWhile, List.takeWhile_append_of_pos hall,
          List.dropWhile_append_of_pos hall]
        simp [isSchemeChar, halpha]
    · cases h
  · cases h

end

/-! ## Hosts -/

theorem subset_cutAtLastAt {cs before after : List Char}
    (h : cutAtLastAt cs = some (before, after)) : after ⊆ cs := by
  rw [cutAtLastAt, List.span_eq_takeWhile_dropWhile] at h
  split at h
  · rename_i heq
    obtain ⟨rfl, -⟩ := Prod.mk.inj heq
    obtain ⟨-, rfl⟩ := Prod.mk.inj (Option.some.inj h)
    intro c hc
    have hmem := (List.takeWhile_prefix _).subset (List.mem_reverse.mp hc)
    exact List.mem_reverse.mp hmem
  · cases h

theorem subset_cutHost (inside : Bool) (cs : List Char) : (cutHost inside cs).2 ⊆ cs := by
  induction cs generalizing inside with
  | nil => simp [cutHost]
  | cons c rest ih =>
    rw [cutHost]
    split
    · exact List.Subset.refl _
    · exact List.Subset.trans (ih _) (List.subset_cons_self c rest)

theorem subset_takeDigits (cs : List Char) : (Numeral.takeDigits cs).2 ⊆ cs := by
  induction cs with
  | nil => simp [Numeral.takeDigits]
  | cons c rest ih =>
    rw [Numeral.takeDigits]
    split
    · exact List.Subset.refl _
    · exact List.Subset.trans ih (List.subset_cons_self c rest)

theorem rest_of_readPortNumber {scheme : String} {cs rest : List Char} {number : Option Nat}
    (h : readPortNumber scheme cs = .ok (number, rest)) (hslash : '\\' ∉ cs) : rest = [] := by
  have hsubset := subset_takeDigits cs
  rw [readPortNumber] at h
  generalize Numeral.takeDigits cs = taken at h hsubset
  obtain ⟨digits, after⟩ := taken
  dsimp only at h
  split at h
  · split at h
    · cases h
    · split at h
      · exact (Prod.mk.inj (Except.ok.inj h)).2.symm
      · exact (Prod.mk.inj (Except.ok.inj h)).2.symm
  · exact absurd (hsubset List.mem_cons_self) hslash
  · cases h

/-- Only a backslash can follow a host and its number. -/
theorem rest_of_readHost {scheme : String} (hk : kindOf scheme = .web) {cs rest : List Char}
    {host : Host} {number : Option Nat} (h : readHost scheme cs = .ok (host, number, rest))
    (hslash : '\\' ∉ cs) : rest = [] := by
  have hspecial : (kindOf scheme).isSpecial = true := by rw [hk]; decide
  have hsubset := subset_cutHost false cs
  rw [readHost] at h
  generalize cutHost false cs = taken at h hsubset
  obtain ⟨written, after⟩ := taken
  simp only [hspecial, if_true] at h
  split at h
  · cases h
  · rcases hhost : webHost written with e | host'
    · simp [hhost, bind, Except.bind] at h
    · rcases after with _ | ⟨c, after⟩
      · simp only [hhost, bind, Except.bind, pure, Except.pure, Except.ok.injEq, Prod.mk.injEq] at h
        exact h.2.2.symm
      · rcases hnumber : readPortNumber scheme after with e | ⟨number', rest'⟩
        · simp [hhost, hnumber, bind, Except.bind] at h
        · simp only [hhost, hnumber, bind, Except.bind, pure, Except.pure, Except.ok.injEq,
            Prod.mk.injEq] at h
          obtain ⟨-, -, rfl⟩ := h
          refine rest_of_readPortNumber hnumber fun hmem => hslash (hsubset ?_)
          exact List.mem_cons_of_mem c hmem

/-- A server without a host is refused. -/
theorem readHost_nil {scheme : String} (hk : kindOf scheme = .web) :
    readHost scheme [] = .error .emptyHost := by
  have hspecial : (kindOf scheme).isSpecial = true := by rw [hk]; decide
  simp [readHost, cutHost, hspecial]

theorem readAuthority_append {scheme : String} (hk : kindOf scheme = .web) {server : List Char}
    (hserver : ∀ c ∈ server, endsAuthority .web c = false) {u : Url}
    (h : readAuthority scheme server = .ok u) {rest : List Char}
    (hrest : ∀ c ∈ rest, startsTail c = false) :
    readAuthority scheme (server ++ '/' :: rest) =
        .ok { u with path := .segments (segmentsOf .web rest) } ∧
      u.query = none ∧ u.fragment = none ∧ u.host.isSome := by
  have hslash : '\\' ∉ server := fun hmem =>
    absurd (hserver '\\' hmem) (by decide)
  have hpath : ∀ c ∈ '/' :: rest, startsTail c = false := by
    rw [List.forall_mem_cons]
    exact ⟨by decide, hrest⟩
  have hnil : cutBefore startsTail [] = ([], []) := rfl
  rw [readAuthority] at h ⊢
  simp only [hk, cutBefore_of_none hserver,
    cutBefore_append hserver (by decide : endsAuthority .web '/' = true)] at h ⊢
  generalize hcut : (cutAtLastAt server).getD ([], server) = cut at h ⊢
  have hsubset : cut.2 ⊆ server := by
    rw [← hcut]
    rcases hlast : cutAtLastAt server with _ | ⟨before, after⟩
    · exact List.Subset.refl server
    · exact subset_cutAtLastAt hlast
  obtain ⟨user, written⟩ := cut
  dsimp only at h ⊢ hsubset
  rcases hhost : readHost scheme written with e | ⟨host, number, rest'⟩
  · simp [hhost, bind, Except.bind] at h
  · have hne : written.isEmpty = false := by
      rw [Bool.eq_false_iff]
      intro hempty
      rw [List.isEmpty_iff.mp hempty, readHost_nil hk] at hhost
      cases hhost
    obtain rfl := rest_of_readHost hk hhost fun hmem => hslash (hsubset hmem)
    simp only [hhost, hne, bind, Except.bind, pure, Except.pure, Bool.false_and,
      Bool.false_eq_true, if_false, List.nil_append, hnil, cutBefore_of_none hpath] at h ⊢
    split at h
    · cases h
    · obtain rfl := Except.ok.inj h
      rw [if_neg ‹_›]
      exact ⟨rfl, rfl, rfl, rfl⟩

/-! ## Schemes -/

theorem scheme_withTail (k : Kind) (u : Url) (cs : List Char) :
    (withTail k u cs).scheme = u.scheme := by
  unfold withTail
  split <;> rfl

theorem scheme_of_readAuthority {scheme : String} {cs : List Char} {u : Url}
    (h : readAuthority scheme cs = .ok u) : u.scheme = scheme := by
  rw [readAuthority] at h
  dsimp only at h
  split at h
  · cases h
  · generalize readHost scheme _ = r at h
    rcases r with e | ⟨host, number, rest⟩
    · simp [bind, Except.bind] at h
    · simp only [bind, Except.bind, pure, Except.pure] at h
      split at h
      · cases h
      · rw [← Except.ok.inj h, scheme_withTail]

theorem scheme_of_readFile {cs : List Char} {u : Url} (h : readFile cs = .ok u) :
    u.scheme = "file" := by
  rw [readFile] at h
  rcases hparts : readFileParts (cutBefore startsTail cs).1 with e | ⟨host, path⟩
  · simp [hparts, bind, Except.bind] at h
  · simp only [hparts, bind, Except.bind, pure, Except.pure, Except.ok.injEq] at h
    rw [← h, scheme_withTail]

theorem readAuthority_nil {scheme : String} (hk : kindOf scheme = .web) :
    readAuthority scheme [] = .error .emptyHost := by
  simp [readAuthority, cutBefore, cutAtLastAt, readHost_nil hk, bind, Except.bind]

/-- A URL of the web is what is read behind its scheme and the slashes there. -/
theorem exists_of_parse {s : String} {u : Url} (h : parse s = .ok u) (hk : kindOf u.scheme = .web) :
    ∃ rest, cutScheme? (unbroken (unpadded s)) = some (u.scheme, rest) ∧
      readAuthority u.scheme (rest.dropWhile fun c => c = '/' || c = '\\') = .ok u := by
  unfold parse at h
  dsimp only at h
  split at h
  · cases h
  · rename_i scheme rest hcut
    split at h
    · -- names of files have their own scheme
      rw [scheme_of_readFile h] at hk
      cases hk
    · obtain rfl := scheme_of_readAuthority h
      exact ⟨rest, hcut, h⟩
    · rename_i hplain
      have hscheme : u.scheme = scheme := by
        split at h
        · exact scheme_of_readAuthority h
        · rw [← Except.ok.inj h, readPlain, scheme_withTail]
      rw [hscheme, hplain] at hk
      cases hk

theorem parse_of_readAuthority {s : String} {scheme : String} {rest : List Char}
    (hk : kindOf scheme = .web) (h : cutScheme? (unbroken (unpadded s)) = some (scheme, rest)) :
    parse s = readAuthority scheme (rest.dropWhile fun c => c = '/' || c = '\\') := by
  simp only [parse, h, hk]

/-! ## Bases -/

/-- A text that is read as a URL of the web and ends with the host and its
number: there is no path, no query and no fragment in it, and no space behind
it. -/
structure IsBase (base : String) (u : Url) : Prop where
  read : parse base = .ok u
  web : kindOf u.scheme = .web
  shape : ∃ scheme server, base = scheme ++ "://" ++ server ∧ ':' ∉ scheme.toList ∧
    (∀ c ∈ server.toList, endsAuthority .web c = false) ∧
    ∀ c ∈ server.toList.getLast?, isPadding c = false

theorem unpadded_eq {s : String} {front back : List Char} (hs : s.toList = front ++ ':' :: back)
    (hlast : ∀ c ∈ back.getLast?, isPadding c = false) :
    unpadded s = front.dropWhile isPadding ++ ':' :: back := by
  have hcolon : isPadding ':' = false := by decide
  have hfront : s.toList.dropWhile isPadding = front.dropWhile isPadding ++ ':' :: back := by
    rw [hs, List.dropWhile_append]
    split
    · rename_i hempty
      rw [List.isEmpty_iff.mp hempty]
      simp [hcolon]
    · rfl
  have hback : ∀ hne : front.dropWhile isPadding ++ ':' :: back ≠ [],
      ¬ isPadding ((front.dropWhile isPadding ++ ':' :: back).getLast hne) = true := by
    intro hne
    rw [List.getLast_append_of_ne_nil hne (by simp)]
    rcases back with _ | ⟨b, back⟩
    · simp [hcolon]
    · rw [List.getLast_cons (by simp), hlast _ (List.getLast?_eq_some_getLast (by simp))]
      simp
  rw [unpadded, hfront]
  exact List.rdropWhile_eq_self_iff.mpr hback

/-- Texts are the same on both sides of their first colons. -/
theorem append_colon_inj {as bs xs ys : List Char} (has : ':' ∉ as) (hbs : ':' ∉ bs)
    (h : as ++ ':' :: xs = bs ++ ':' :: ys) : as = bs ∧ xs = ys := by
  induction as generalizing bs with
  | nil =>
    rcases bs with _ | ⟨b, bs⟩
    · exact ⟨rfl, (List.cons.inj h).2⟩
    · exact absurd ((List.cons.inj h).1 ▸ List.mem_cons_self) hbs
  | cons a as ih =>
    have ha : ':' ≠ a ∧ ':' ∉ as := by simpa using has
    rcases bs with _ | ⟨b, bs⟩
    · exact absurd (List.cons.inj h).1.symm ha.1
    · obtain ⟨rfl, hrest⟩ := List.cons.inj h
      obtain ⟨rfl, rfl⟩ := ih ha.2 (fun hmem => hbs (List.mem_cons_of_mem a hmem)) hrest
      exact ⟨rfl, rfl⟩

theorem unbroken_unpadded_eq {s : String} {front back : List Char}
    (hs : s.toList = front ++ ':' :: back) (hlast : ∀ c ∈ back.getLast?, isPadding c = false) :
    unbroken (unpadded s) = unbroken (front.dropWhile isPadding) ++ ':' :: unbroken back := by
  rw [unpadded_eq hs hlast]
  simp [unbroken, isBreak]

namespace IsBase

variable {base : String} {u : Url}

/-- Behind the scheme and the slashes stands the server, and what is added
follows it. -/
theorem exists_server (h : IsBase base u) : ∃ server, (∀ c ∈ server, endsAuthority .web c = false) ∧
    readAuthority u.scheme server = .ok u ∧
    ∀ path : String, (∀ c ∈ path.toList, isPadding c = false ∧ isBreak c = false) →
      parse (base ++ path) = readAuthority u.scheme (server ++ path.toList) := by
  obtain ⟨hread, hk, scheme, written, rfl, hscheme, hwritten, hlast⟩ := h
  have hserver : ∀ c ∈ unbroken written.toList, endsAuthority .web c = false :=
    fun c hc => hwritten c (List.mem_filter.mp hc).1
  -- spaces before the scheme and breaks in the text do not come into it
  have htext : ∀ path : String, (∀ c ∈ path.toList, isPadding c = false ∧ isBreak c = false) →
      unbroken (unpadded (scheme ++ "://" ++ written ++ path)) =
        unbroken (scheme.toList.dropWhile isPadding) ++
          ':' :: '/' :: '/' :: (unbroken written.toList ++ path.toList) := by
    intro path hpath
    have hchars : (scheme ++ "://" ++ written ++ path).toList =
        scheme.toList ++ ':' :: (['/', '/'] ++ written.toList ++ path.toList) := by
      simp
    have hbreak : unbroken path.toList = path.toList :=
      List.filter_eq_self.mpr fun c hc => by simp [(hpath c hc).2]
    rw [unbroken_unpadded_eq hchars]
    · simp only [unbroken, List.filter_append] at hbreak ⊢
      rw [hbreak]
      simp [isBreak]
    · intro c hc
      rw [List.getLast?_append, List.getLast?_append] at hc
      rcases hend : path.toList.getLast? with _ | d
      · rcases hend' : written.toList.getLast? with _ | d
        · obtain rfl : '/' = c := by simpa [hend, hend'] using hc
          decide
        · obtain rfl : d = c := by simpa [hend, hend'] using hc
          exact hlast d hend'
      · obtain rfl : d = c := by simpa [hend] using hc
        exact (hpath d (List.mem_of_getLast? hend)).1
  have hslashes : ∀ cs, unbroken written.toList ≠ [] →
      ('/' :: '/' :: (unbroken written.toList ++ cs)).dropWhile (fun c => c = '/' || c = '\\') =
        unbroken written.toList ++ cs := by
    intro cs hne
    obtain ⟨d, back, hback⟩ := List.exists_cons_of_ne_nil hne
    have hd : endsAuthority .web d = false := hserver d (by simp [hback])
    have hslash : (d = '/' || d = '\\') = false := by
      by_contra hslash
      rcases (by simpa [or_iff_not_imp_left] using hslash : d = '/' ∨ d = '\\') with rfl | rfl
      · exact absurd hd (by decide)
      · exact absurd hd (by decide)
    rw [hback]
    simp [hslash]
  obtain ⟨rest, hcut, hauthority⟩ := exists_of_parse hread hk
  have hbase := htext "" (by simp)
  rw [String.append_empty] at hbase
  rw [hbase] at hcut
  obtain ⟨front, heq, hfront, hall⟩ := exists_of_cutScheme? hcut
  have hcolon : ':' ∉ unbroken (scheme.toList.dropWhile isPadding) := fun hmem =>
    hscheme ((List.dropWhile_suffix _).subset (List.mem_filter.mp hmem).1)
  obtain ⟨rfl, rfl⟩ := append_colon_inj hcolon hfront heq
  have hne : unbroken written.toList ≠ [] := by
    intro hnil
    simp [hnil, readAuthority_nil hk] at hauthority
  refine ⟨unbroken written.toList, hserver, ?_, fun path hpath => ?_⟩
  · rw [hslashes _ hne] at hauthority
    simpa using hauthority
  · rw [← hslashes _ hne]
    exact parse_of_readAuthority hk (by rw [htext path hpath]; exact hall _)

/-- The path of a request is read behind its base. -/
theorem parse_append (h : IsBase base u) {path : String} {rest : List Char}
    (hpath : path.toList = '/' :: rest) (hrest : ∀ c ∈ rest, c = '/' ∨ isSegmentChar c = true) :
    parse (base ++ path) = .ok { u with path := .segments (segmentsOf .web rest) } ∧
      u.query = none ∧ u.fragment = none ∧ u.host.isSome := by
  obtain ⟨server, hserver, hread, happend⟩ := h.exists_server
  have hchars : ∀ c ∈ rest, isPadding c = false ∧ isBreak c = false ∧ startsTail c = false := by
    intro c hc
    rcases hrest c hc with rfl | hsegment
    · decide
    · obtain ⟨hno, hpadding, hbreak, -⟩ := isSegmentChar_spec hsegment
      exact ⟨hpadding, hbreak, by simp_all [startsTail]⟩
  have hvisible : ∀ c ∈ path.toList, isPadding c = false ∧ isBreak c = false := by
    rw [hpath, List.forall_mem_cons]
    exact ⟨by decide, fun c hc => ⟨(hchars c hc).1, (hchars c hc).2.1⟩⟩
  rw [happend path hvisible, hpath]
  exact readAuthority_append h.web hserver hread fun c hc => (hchars c hc).2.2

end IsBase

/-! ## Segments in the path of a URL -/

theorem mem_slashed {parts : List String} {c : Char} (h : c ∈ slashed parts) :
    c = '/' ∨ ∃ s ∈ parts, c ∈ s.toList := by
  obtain ⟨s, hs, hc⟩ := List.mem_flatMap.mp h
  exact (List.mem_cons.mp hc).imp_right fun hc => ⟨s, hs, hc⟩

/-- Segments that are written as they may stand in a path are read so, dots
aside. -/
theorem segmentsOf_slashed {parts : List String} (hne : parts ≠ [])
    (h : ∀ s ∈ parts, ∀ c ∈ s.toList, isSegmentChar c = true) :
    segmentsOf .web (slashed parts).tail = (resolve [] parts).reverse := by
  have hslash : ∀ s ∈ parts, '/' ∉ s.toList := fun s hs hmem =>
    absurd (h s hs '/' hmem) (by decide)
  have hback : ∀ c ∈ (slashed parts).tail, (if c = '\\' then '/' else c) = c := by
    intro c hc
    refine if_neg ?_
    rintro rfl
    rcases mem_slashed (List.mem_of_mem_tail hc) with hslash | ⟨s, hs, hmem⟩
    · exact absurd hslash (by decide)
    · exact absurd (h s hs _ hmem) (by decide)
  have hplain : ∀ s ∈ parts, encoded plainInPath s.toList = s := by
    intro s hs
    rw [encoded, String.ofList_toList]
    exact Text.Percent.encode_of_plain fun c hc => (isSegmentChar_spec (h s hs c hc)).2.2.2
  rw [segmentsOf, splitPath, if_pos (by decide), List.map_congr_left hback, List.map_id',
    splitOn_slashed hslash hne, List.map_map]
  exact congrArg (fun parts => (resolve [] parts).reverse)
    ((List.map_congr_left hplain).trans (List.map_id' parts))

end Url

/-! ## Requests -/

theorem toList_pathOf (segments : List String) :
    (pathOf segments).toList = Url.slashed (segments.map segment) := by
  simp [pathOf, Url.slashed, String.toList_join, List.flatMap_map]

/-- No segment stands for a place. -/
def Undotted (segments : List String) : Prop := "." ∉ segments ∧ ".." ∉ segments

instance : DecidablePred Undotted := fun _ => inferInstanceAs (Decidable (_ ∧ _))

/-- The segments of a path that are left in a URL. -/
def resolved (segments : List String) : List String :=
  (Url.resolve [] (segments.map segment)).reverse

section

variable {segments : List String}

theorem undotted_iff : Undotted segments ↔ ∀ s ∈ segments, Url.isDots (segment s) = false := by
  simp only [Bool.eq_false_iff, ne_eq, isDots_segment, not_or]
  constructor
  · rintro ⟨hdot, hdouble⟩ s hs
    exact ⟨fun heq => hdot (heq ▸ hs), fun heq => hdouble (heq ▸ hs)⟩
  · exact fun h => ⟨fun hdot => (h _ hdot).1 rfl, fun hdouble => (h _ hdouble).2 rfl⟩

theorem mem_resolved {part : String} (h : part ∈ resolved segments) :
    (∃ s ∈ segments, part = segment s ∧ Url.isDots part = false) ∨ part = "" := by
  rcases Url.mem_resolve (List.mem_reverse.mp h) with h | ⟨h, hdots⟩ | rfl
  · cases h
  · obtain ⟨s, hs, rfl⟩ := List.mem_map.mp h
    exact Or.inl ⟨s, hs, rfl, hdots⟩
  · exact Or.inr rfl

/-- Whoever decodes the path finds the segments, if no segment is lost. -/
theorem decode_resolved_iff :
    (resolved segments).map Text.Percent.decode = segments.map Text.Utf8.encode ↔
      Undotted segments := by
  rw [undotted_iff]
  constructor
  · intro h s hs
    -- a segment that is there in the end was not taken out
    have hmem : Text.Utf8.encode s ∈ (resolved segments).map Text.Percent.decode := by
      rw [h]
      exact List.mem_map_of_mem hs
    obtain ⟨part, hpart, hdecode⟩ := List.mem_map.mp hmem
    rcases mem_resolved hpart with ⟨t, -, rfl, hdots⟩ | rfl
    · rw [decode_segment] at hdecode
      rwa [← Text.Utf8.encode_inj hdecode]
    · obtain rfl : "" = s := Text.Utf8.encode_inj hdecode
      decide
  · intro h
    have hfree : ∀ part ∈ segments.map segment, Url.isDots part = false := by simpa using h
    simp [resolved, Url.resolve_of_free hfree, decode_segment]

/-- The path is the one that is meant, if no segment is lost. -/
theorem resolved_eq_iff : resolved segments = segments.map segment ↔ Undotted segments := by
  constructor
  · intro h
    rw [← decode_resolved_iff, h, List.map_map]
    exact List.map_congr_left fun s _ => by rw [Function.comp_apply, decode_segment]
  · intro h
    have hfree : ∀ part ∈ segments.map segment, Url.isDots part = false := by
      simpa using undotted_iff.mp h
    simp [resolved, Url.resolve_of_free hfree]

theorem isSegmentChar_of_mem_map {part : String} (hpart : part ∈ segments.map segment) {c : Char}
    (hc : c ∈ part.toList) : isSegmentChar c = true := by
  obtain ⟨s, -, rfl⟩ := List.mem_map.mp hpart
  exact isSegmentChar_of_mem hc

/-- A path behind a base is read as its segments, as far as they are left. -/
theorem Url.IsBase.parse_pathOf {base : String} {u : Url} (h : Url.IsBase base u)
    (hne : segments ≠ []) :
    Url.parse (base ++ pathOf segments) = .ok { u with path := .segments (resolved segments) } ∧
      u.query = none ∧ u.fragment = none ∧ u.host.isSome := by
  have hne' : segments.map segment ≠ [] := by simpa using hne
  have hpath : (pathOf segments).toList = '/' :: (Url.slashed (segments.map segment)).tail := by
    obtain ⟨part, parts, hparts⟩ := List.exists_cons_of_ne_nil hne'
    rw [toList_pathOf, hparts]
    rfl
  have hrest : ∀ c ∈ (Url.slashed (segments.map segment)).tail,
      c = '/' ∨ isSegmentChar c = true := by
    intro c hc
    rcases Url.mem_slashed (List.mem_of_mem_tail hc) with hslash | ⟨part, hpart, hmem⟩
    · exact Or.inl hslash
    · exact Or.inr (isSegmentChar_of_mem_map hpart hmem)
  obtain ⟨hparse, hbase⟩ := h.parse_append hpath hrest
  rw [Url.segmentsOf_slashed hne' fun part hpart c hc => isSegmentChar_of_mem_map hpart hc]
    at hparse
  exact ⟨hparse, hbase⟩

/-- What is left of the segments is written as the path that is meant, if no
segment is lost. -/
theorem pathText_resolved_iff {u : Url} (hhost : u.host.isSome) :
    Url.pathText { u with path := .segments (resolved segments) } = pathOf segments ↔
      Undotted segments := by
  have hslash : ∀ part ∈ segments.map segment, '/' ∉ part.toList := fun part hpart hmem =>
    absurd (isSegmentChar_of_mem_map hpart hmem) (by decide)
  have hslash' : ∀ part ∈ resolved segments, '/' ∉ part.toList := by
    intro part hpart
    rcases mem_resolved hpart with ⟨s, hs, rfl, -⟩ | rfl
    · exact hslash _ (List.mem_map_of_mem hs)
    · decide
  rw [← String.toList_inj, Url.pathText_segments hhost, toList_pathOf, ← resolved_eq_iff]
  exact ⟨Url.slashed_inj hslash' hslash, congrArg Url.slashed⟩

end

/-- The path of a request is read behind its base, without a query and a
fragment. It is the path that is meant, and stands for the segments that are
meant, if and only if none of them is made of dots. What is written or deleted
under an id has such a path. -/
theorem parse_append_pathOf {base : String} {u : Url} (h : Url.IsBase base u) :
    (∀ segments, segments ≠ [] → ∃ parts,
      Url.parse (base ++ pathOf segments) = .ok { u with path := .segments parts } ∧
      u.query = none ∧ u.fragment = none ∧
      (Url.pathText { u with path := .segments parts } = pathOf segments ↔ Undotted segments) ∧
      (parts.map Text.Percent.decode = segments.map Text.Utf8.encode ↔ Undotted segments)) ∧
    (∀ {ε σ : Type} (schema : Schema ε) (id key : String) (server : Session.Server σ) (x : σ),
      ∀ r ∈ (Session.run server (Store.delete schema id key) x).2.1.requests,
        r.method = .delete → ∃ index, r.path = pathOf [index, "_doc", id]) ∧
    ∀ {ε σ : Type} (schema : Schema ε) (index : String) (e : ε) (server : Session.Server σ) (x : σ),
      ∀ r ∈ (Session.run server (Store.putDocument schema index e) x).2.1.requests,
        r.path = pathOf [index, "_doc", schema.id e] := by
  refine ⟨fun segments hne => ?_, fun schema id key server x => ?_,
    fun schema index e server x => ?_⟩
  · obtain ⟨hparse, hquery, hfragment, hhost⟩ := h.parse_pathOf hne
    exact ⟨resolved segments, hparse, hquery, hfragment, pathText_resolved_iff hhost,
      decode_resolved_iff⟩
  · exact (Store.sends_delete schema id key).forall_requests_run server x
  · exact (Store.sends_putDocument schema index e).forall_requests_run server x

/-- An engine on the same machine. -/
def localEngine : Url :=
  { scheme := "http"
    host := some (.name "localhost")
    portNumber := some 9200
    path := .segments [""] }

theorem isBase_localEngine : Url.IsBase "http://localhost:9200" localEngine where
  read := by cbv
  web := by decide
  shape := by
    have hserver : ("localhost:9200".toList.all fun c => !Url.endsAuthority .web c) = true := by
      decide
    have hlast : "localhost:9200".toList.getLast? = some '0' := by decide
    refine ⟨"http", "localhost:9200", by decide, by decide, by simpa using hserver, ?_⟩
    rw [hlast]
    rintro c ⟨⟩
    decide

/-- An id may be any text but one of dots. -/
theorem parse_append_pathOf_document : Url.IsBase "http://localhost:9200" localEngine ∧
    ∃ parts, Url.parse ("http://localhost:9200" ++ pathOf ["kv", "_doc", "a#b/../?c%2e"]) =
        .ok { localEngine with path := .segments parts } ∧
      Url.pathText { localEngine with path := .segments parts } = "/kv/_doc/a%23b%2F..%2F%3Fc%252e" := by
  obtain ⟨hpaths, -, -⟩ := parse_append_pathOf isBase_localEngine
  obtain ⟨parts, hparse, -, -, htext, -⟩ := hpaths ["kv", "_doc", "a#b/../?c%2e"] (by decide)
  refine ⟨isBase_localEngine, parts, hparse, ?_⟩
  rw [htext.mpr (by decide)]
  decide

/-- A document with the id `..` has the URL of its index. -/
theorem not_parse_document_dots :
    Url.parse ("http://localhost:9200" ++ pathOf ["hero-a-v1", "_doc", ".."]) =
        .ok { localEngine with path := .segments ["hero-a-v1", ""] } ∧
      pathOf ["hero-a-v1", "_doc", ".."] = "/hero-a-v1/_doc/.." ∧
      Url.pathText { localEngine with path := .segments ["hero-a-v1", ""] } = "/hero-a-v1/" := by
  obtain ⟨hparse, -⟩ := isBase_localEngine.parse_pathOf
    (List.cons_ne_nil "hero-a-v1" ["_doc", ".."])
  refine ⟨hparse.trans ?_, by decide, by decide⟩
  decide

end SearchStore
