import SearchStore.Proofs.Json.Record
import SearchStore.Proofs.Number.Spelling
import SearchStore.Proofs.Text.Utf8
import SearchStore.Proofs.Url.Destination

/-! # Credentials, host and number

What stands between the two slashes of a URL and its path: a name and a password,
a host and the number after it. `parse_withCredentials` says what is read if the
credentials are encoded and the host is a plain name: the credentials stay as they
are written, and the rest does not depend on them.
-/

namespace SearchStore

/-! ## Characters -/

/-- The characters of encoded credentials. -/
def isCredentialChar (c : Char) : Bool := c.isAlphanum || c = '%'

/-- A character that ends no part of a URL, is not passed over, and stands in credentials as it
is. -/
structure IsPlainInUrl (c : Char) : Prop where
  marks : c ∉ ['/', '\\', '?', '#', ':', '@', '[', ']']
  unpadded : Url.isPadding c = false
  unbroken : Url.isBreak c = false
  solid : Text.isBlank c = false
  plain : Url.plainInCredentials c = true

/-- A character that stands for itself in a host, but for the case of letters. -/
structure IsPlainInHost (c : Char) : Prop where
  lower : c.toLower.isAlphanum = true
  allowed : Url.forbiddenInHost c = false
  plain : Url.plainAscii c = true
  named : Domain.isDenied c = false
  direction : Domain.directionOf c = .leftToRight ∨ Domain.directionOf c = .digit

/-- A letter is no digit of a decimal number, though it may be one of a greater base. -/
structure IsNoDigit (c : Char) : Prop where
  lower : c.toLower.isAlpha = true
  digit : c.isDigit = false
  value : (Radix.digitValue? c).all (10 ≤ ·) = true

section

variable {c : Char}

/-- What is true of all ASCII can be decided. -/
@[elab_as_elim]
theorem forall_ascii {P : Char → Prop} (hc : c.toNat < 0x80) (h : ∀ n < 0x80, P (Char.ofNat n)) :
    P c := by
  have hn := h c.toNat hc
  rwa [Char.ofNat_toNat] at hn

theorem isAlphanum_lt (h : c.isAlphanum = true) : c.toNat < 0x80 := by
  have hle (m : Nat) (hm : c.val ≤ UInt32.ofNat m) (hsmall : m < 0x80) : c.toNat < 0x80 := by
    have hnat : c.val.toNat ≤ (UInt32.ofNat m).toNat := hm
    rw [UInt32.toNat_ofNat', Nat.mod_eq_of_lt (by omega)] at hnat
    exact Nat.lt_of_le_of_lt hnat hsmall
  simp only [Char.isAlphanum, Char.isAlpha, Char.isUpper, Char.isLower, Char.isDigit,
    Bool.or_eq_true, Bool.and_eq_true, decide_eq_true_eq] at h
  rcases h with (⟨-, h⟩ | ⟨-, h⟩) | ⟨-, h⟩
  · exact hle 90 h (by omega)
  · exact hle 122 h (by omega)
  · exact hle 57 h (by omega)

theorem isAlphanum_of_isAlpha (h : c.isAlpha = true) : c.isAlphanum = true := by
  simp [Char.isAlphanum, h]

theorem isCredentialChar_of_isAlphanum (h : c.isAlphanum = true) : isCredentialChar c = true := by
  simp [isCredentialChar, h]

theorem isPlainInUrl (h : isCredentialChar c = true) : IsPlainInUrl c := by
  have hlt : c.toNat < 0x80 := by
    rcases (by simpa [isCredentialChar] using h : c.isAlphanum = true ∨ c = '%') with h | rfl
    · exact isAlphanum_lt h
    · decide
  have hspec : isCredentialChar c = true →
      c ∉ ['/', '\\', '?', '#', ':', '@', '[', ']'] ∧ Url.isPadding c = false ∧
        Url.isBreak c = false ∧ Text.isBlank c = false ∧ Url.plainInCredentials c = true :=
    forall_ascii hlt (by decide)
  obtain ⟨hmarks, hunpadded, hunbroken, hsolid, hplain⟩ := hspec h
  exact ⟨hmarks, hunpadded, hunbroken, hsolid, hplain⟩

theorem isPlainInHost (h : c.isAlphanum = true) : IsPlainInHost c := by
  have hspec : c.isAlphanum = true →
      c.toLower.isAlphanum = true ∧ Url.forbiddenInHost c = false ∧ Url.plainAscii c = true ∧
        Domain.isDenied c = false ∧
        (Domain.directionOf c = .leftToRight ∨ Domain.directionOf c = .digit) :=
    forall_ascii (isAlphanum_lt h) (by decide)
  obtain ⟨hlower, hallowed, hplain, hnamed, hdirection⟩ := hspec h
  exact ⟨hlower, hallowed, hplain, hnamed, hdirection⟩

theorem isNoDigit (h : c.isAlpha = true) : IsNoDigit c := by
  have hspec : c.isAlpha = true → c.toLower.isAlpha = true ∧ c.isDigit = false ∧
      (Radix.digitValue? c).all (10 ≤ ·) = true :=
    forall_ascii (isAlphanum_lt (isAlphanum_of_isAlpha h)) (by decide)
  obtain ⟨hlower, hdigit, hvalue⟩ := hspec h
  exact ⟨hlower, hdigit, hvalue⟩

/-- No decimal number begins with a letter. -/
theorem number?_of_isAlpha (h : c.isAlpha = true) (rest : List Char) :
    Radix.number? 10 (c :: rest) = none := by
  have hvalue := (isNoDigit h).value
  unfold Radix.number?
  rw [List.mapM_cons]
  cases hdigit : Radix.digitValue? c with
  | none => rfl
  | some d =>
    have hd : 10 ≤ d := by simpa [hdigit] using hvalue
    cases rest.mapM Radix.digitValue? with
    | none => rfl
    | some ds =>
      simp
      omega

end

/-! ## Hosts -/

/-- A host of letters and digits that begins with a letter. -/
structure IsPlainHost (cs : List Char) : Prop where
  alphanum : ∀ c ∈ cs, c.isAlphanum = true
  alpha : ∃ c rest, cs = c :: rest ∧ c.isAlpha = true

theorem Text.Percent.decodeChars_of_not_mem {cs : List Char} (h : '%' ∉ cs) :
    decodeChars cs = cs.flatMap String.utf8EncodeChar := by
  induction cs with
  | nil => rfl
  | cons c rest ih =>
    obtain ⟨hc, hrest⟩ : c ≠ '%' ∧ '%' ∉ rest := by simpa [eq_comm] using h
    rw [decodeChars_cons hc, ih hrest, List.flatMap_cons]

theorem Text.eq_of_dropFront? {α : Type} [DecidableEq α] {front cs rest : List α}
    (h : dropFront? front cs = some rest) : cs = front ++ rest := by
  induction front generalizing cs with
  | nil => exact Option.some.inj h
  | cons p ps ih =>
    cases cs with
    | nil => cases h
    | cons c cs =>
      rw [dropFront?] at h
      split at h
      · next heq =>
        rw [ih h, heq, List.cons_append]
      · cases h

namespace IsPlainHost

variable {cs : List Char}

theorem ne_nil (h : IsPlainHost cs) : cs ≠ [] := by
  obtain ⟨c, rest, rfl, -⟩ := h.alpha
  exact List.cons_ne_nil c rest

theorem not_mem (h : IsPlainHost cs) {c : Char} (hc : c.isAlphanum = false) : c ∉ cs := by
  intro hmem
  rw [h.alphanum c hmem] at hc
  cases hc

theorem lower (h : IsPlainHost cs) : IsPlainHost (cs.map Char.toLower) := by
  constructor
  · intro c hc
    obtain ⟨d, hd, rfl⟩ := List.mem_map.mp hc
    exact (isPlainInHost (h.alphanum d hd)).lower
  · obtain ⟨c, rest, rfl, halpha⟩ := h.alpha
    exact ⟨c.toLower, rest.map Char.toLower, rfl, (isNoDigit halpha).lower⟩

/-- In a name a capital stands for the letter. -/
theorem foldAll?_eq (h : IsPlainHost cs) : Domain.foldAll? cs = some (cs.map Char.toLower) := by
  have hfold : ∀ c ∈ cs, Domain.fold? c = some [c.toLower] := by
    intro c hc
    unfold Domain.fold?
    exact if_pos (isAlphanum_lt (h.alphanum c hc))
  have hall : cs.mapM Domain.fold? = some (cs.map fun c => [c.toLower]) := by
    rw [Json.mapM_eq_some_iff, List.forall₂_map_right_iff]
    exact List.forall₂_same.mpr hfold
  unfold Domain.foldAll?
  rw [hall, Option.map_some, ← List.flatMap_def, ← List.map_eq_flatMap]

theorem compose_eq (h : IsPlainHost cs) : Domain.compose cs = cs := by
  unfold Domain.compose
  apply if_pos
  rw [List.all_eq_true]
  intro c hc
  exact decide_eq_true (isAlphanum_lt (h.alphanum c hc))

/-- A plain host is one label, which is in ASCII already. -/
theorem label_eq (h : IsPlainHost cs) : Domain.Label.of? cs = some ⟨cs, cs⟩ := by
  have hmark : Text.dropFront? Domain.asciiMark cs = none := by
    rw [Option.eq_none_iff_forall_not_mem]
    intro rest hrest
    -- there are hyphens in the mark of a label that needs to be decoded
    refine h.not_mem (by decide : Char.isAlphanum '-' = false) ?_
    rw [Text.eq_of_dropFront? hrest]
    simp [Domain.asciiMark]
  have hascii : cs.all Domain.isAscii = true := by
    rw [List.all_eq_true]
    intro c hc
    exact decide_eq_true (isAlphanum_lt (h.alphanum c hc))
  unfold Domain.Label.of?
  rw [hmark]
  exact if_pos hascii

theorem directionsAgree (h : IsPlainHost cs) : Domain.directionsAgree [cs] = true := by
  have hnone : Domain.turnsRight (cs.map Domain.directionOf) = false := by
    unfold Domain.turnsRight
    rw [List.any_map, List.any_eq_false]
    intro c hc
    rcases (isPlainInHost (h.alphanum c hc)).direction with hdirection | hdirection
    · simp [hdirection]
    · simp [hdirection]
  simp [Domain.directionsAgree, hnone]

theorem ascii?_eq (h : IsPlainHost cs) : Domain.ascii? cs = some (cs.map Char.toLower) := by
  have hlower := h.lower
  have hdenied : (cs.map Char.toLower).any Domain.isDenied = false := by
    rw [List.any_eq_false]
    intro c hc
    rw [(isPlainInHost (hlower.alphanum c hc)).named]
    exact Bool.false_ne_true
  have hsplit : Text.splitOn '.' (cs.map Char.toLower) = [cs.map Char.toLower] :=
    Text.splitOn_of_not_mem (hlower.not_mem (by decide))
  have hlabels : Domain.labels? cs = some [⟨cs.map Char.toLower, cs.map Char.toLower⟩] := by
    unfold Domain.labels?
    simp only [h.foldAll?_eq, Option.bind_eq_bind, Option.bind_some, hlower.compose_eq, hdenied,
      Bool.false_eq_true, if_false, hsplit, List.mapM_cons, List.mapM_nil, hlower.label_eq,
      Option.pure_def, List.map_cons, List.map_nil, hlower.directionsAgree, if_true]
  unfold Domain.ascii?
  rw [hlabels]
  simp [List.intercalate]

/-- A plain host is no address. -/
theorem endsInNumber_eq (h : IsPlainHost cs) : Url.endsInNumber cs = false := by
  have hsplit : Text.splitOn '.' cs = [cs] :=
    Text.splitOn_of_not_mem (h.not_mem (by decide))
  have hdotted : Url.dotted cs = [cs] := by
    simp [Url.dotted, hsplit]
  obtain ⟨c, rest, rfl, halpha⟩ := h.alpha
  have hdigit := (isNoDigit halpha).digit
  have hpart : Url.part? (c :: rest) = none := by
    have hzero : c ≠ '0' := by
      rintro rfl
      cases hdigit
    have hnumber : Url.part? (c :: rest) = Radix.number? 10 (c :: rest) := by
      unfold Url.part?
      -- hexadecimal and octal numbers begin with a zero
      split
      · next heq => cases heq
      · next heq => exact absurd (List.cons.inj heq).1 hzero
      · next heq => exact absurd (List.cons.inj heq).1 hzero
      · next heq => exact absurd (List.cons.inj heq).1 hzero
      · rfl
    rw [hnumber, number?_of_isAlpha halpha]
  unfold Url.endsInNumber
  simp [hdotted, hdigit, hpart]

theorem bracketed?_eq (h : IsPlainHost cs) : Url.bracketed? cs = none := by
  unfold Url.bracketed?
  split
  · exact absurd List.mem_cons_self (h.not_mem (by decide))
  · rfl

theorem webHost_eq (h : IsPlainHost cs) :
    Url.webHost cs = .ok (.name (String.ofList (cs.map Char.toLower))) := by
  have hdecode : Text.Utf8.decode (Text.Percent.decodeChars cs) = .ok (String.ofList cs) := by
    rw [Text.Percent.decodeChars_of_not_mem (h.not_mem (by decide)), Text.Utf8.decode_eq_ok_iff,
      Text.Utf8.encode, String.toList_ofList]
  have hname : Url.domainName cs = .ok (cs.map Char.toLower) := by
    unfold Url.domainName
    rw [hdecode]
    dsimp only
    rw [String.toList_ofList, h.ascii?_eq]
  have hempty : (cs.map Char.toLower).isEmpty = false := by
    simpa using h.ne_nil
  unfold Url.webHost
  simp only [h.bracketed?_eq, hname, hempty, h.lower.endsInNumber_eq, bind, Except.bind,
    Bool.false_eq_true, if_false]
  rfl

theorem plainHost_eq (h : IsPlainHost cs) : Url.plainHost cs = .ok (.name (String.ofList cs)) := by
  have hforbidden : cs.any Url.forbiddenInHost = false := by
    rw [List.any_eq_false]
    intro c hc
    rw [(isPlainInHost (h.alphanum c hc)).allowed]
    exact Bool.false_ne_true
  have hplain : Text.Percent.encode Url.plainAscii (String.ofList cs) = String.ofList cs := by
    apply Text.Percent.encode_of_plain
    intro c hc
    rw [String.toList_ofList] at hc
    exact (isPlainInHost (h.alphanum c hc)).plain
  unfold Url.plainHost
  simp only [h.bracketed?_eq, hforbidden, hplain, Bool.false_eq_true, if_false]
  rfl

end IsPlainHost

namespace Url

/-- How a plain host is read: a host of the web is written in small letters. -/
def plainHostName (scheme host : String) : String :=
  if (kindOf scheme).isSpecial then String.ofList (host.toList.map Char.toLower) else host

theorem plainHostName_ne (scheme : String) {host : String} (h : IsPlainHost host.toList) :
    plainHostName scheme host ≠ "" := by
  have hne := h.ne_nil
  unfold plainHostName
  split
  · intro heq
    have hnil : (String.ofList (host.toList.map Char.toLower)).toList = [] := by rw [heq]; rfl
    rw [String.toList_ofList, List.map_eq_nil_iff] at hnil
    exact hne hnil
  · rintro rfl
    exact hne rfl

/-- The number after a host, unless it is the one that the scheme implies. -/
def shownNumber (scheme : String) (number : Nat) : Option Nat :=
  if some number = defaultPortNumber? scheme then none else some number

/-- The URL with a name, a password, a plain host and a number, and with no more. -/
def ofParts (scheme username password host : String) (n : Nat) : Url where
  scheme := scheme
  username := username
  password := some password
  host := some (.name (plainHostName scheme host))
  portNumber := shownNumber scheme n
  path := pathAfterHost (kindOf scheme) []

theorem hostText?_ofParts (scheme username password : String) {host : String}
    (h : IsPlainHost host.toList) (n : Nat) :
    (ofParts scheme username password host n).hostText? = some (plainHostName scheme host) := by
  have hname := plainHostName_ne scheme h
  unfold hostText?
  split
  · next hhost => cases hhost
  · next hhost => simp [ofParts, hname] at hhost
  · next hhost =>
    obtain rfl := Option.some.inj hhost
    rfl

/-! ## The parts of an authority -/

theorem cutHost_append {host : List Char} (h : ∀ c ∈ host, c ∉ [':', '[', ']'])
    (rest : List Char) : cutHost false (host ++ ':' :: rest) = (host, ':' :: rest) := by
  induction host with
  | nil => rfl
  | cons c host ih =>
    obtain ⟨hc, hhost⟩ := List.forall_mem_cons.mp h
    simp only [List.mem_cons, List.not_mem_nil, or_false, not_or] at hc
    rw [List.cons_append, cutHost]
    simp [hc, ih hhost]

theorem readPortNumber_toDigits (scheme : String) {n : Nat} (h : n < 65536) :
    readPortNumber scheme (Nat.toDigits 10 n) = .ok (shownNumber scheme n, []) := by
  have hvalue : Numeral.digitsValue (Numeral.digitValues (Nat.toDigits 10 n)) = n := by
    rw [Numeral.digitsValue_digitValues, Nat.ofDigitChars_ten_toDigits]
  have hempty : (Numeral.digitValues (Nat.toDigits 10 n)).isEmpty = false := by
    simp [Numeral.digitValues_eq_nil]
  have hsmall : ¬ UInt16.size ≤ n := by
    simpa [UInt16.size] using h
  unfold readPortNumber
  rw [Numeral.takeDigits_digits Numeral.isDigit_of_mem_toDigits]
  simp only [hvalue, hempty, hsmall, if_false, Bool.false_or]
  unfold shownNumber
  simp only [decide_eq_true_eq]
  split <;> rfl

/-- A plain host and a number are read whatever the scheme. -/
theorem readHost_plain (scheme : String) {host : String} (hhost : IsPlainHost host.toList) {n : Nat}
    (hn : n < 65536) :
    readHost scheme (host.toList ++ ':' :: Nat.toDigits 10 n) =
      .ok (.name (plainHostName scheme host), shownNumber scheme n, []) := by
  have hmarks : ∀ c ∈ host.toList, c ∉ [':', '[', ']'] := by
    intro c hc hmem
    refine (isPlainInUrl (isCredentialChar_of_isAlphanum (hhost.alphanum c hc))).marks ?_
    rcases List.mem_cons.mp hmem with rfl | hmem
    · decide
    · rcases List.mem_pair.mp hmem with rfl | rfl <;> decide
  have hempty : host.toList.isEmpty = false := by simpa using hhost.ne_nil
  unfold readHost
  rw [cutHost_append hmarks]
  simp only [hempty, Bool.false_and, Bool.false_eq_true, if_false,
    readPortNumber_toDigits scheme hn]
  unfold plainHostName
  cases (kindOf scheme).isSpecial with
  | true =>
    rw [if_pos rfl, if_pos rfl, hhost.webHost_eq]
    rfl
  | false =>
    rw [if_neg Bool.false_ne_true, if_neg Bool.false_ne_true, hhost.plainHost_eq,
      String.ofList_toList]
    rfl

/-- The last `@` ends the credentials. -/
theorem cutAtLastAt_append (user : List Char) {server : List Char} (h : '@' ∉ server) :
    cutAtLastAt (user ++ '@' :: server) = some (user, server) := by
  have hall : ∀ c ∈ server.reverse, decide (c ≠ '@') = true := by
    intro c hc
    apply decide_eq_true
    rintro rfl
    exact h (List.mem_reverse.mp hc)
  have hspan : (user ++ '@' :: server).reverse.span (fun c => decide (c ≠ '@')) =
      (server.reverse, '@' :: user.reverse) := by
    rw [List.reverse_append, List.reverse_cons, List.append_assoc, List.singleton_append,
      List.span_eq_takeWhile_dropWhile, List.takeWhile_append_of_pos hall,
      List.dropWhile_append_of_pos hall]
    simp
  unfold cutAtLastAt
  rw [hspan]
  simp

/-- Encoded credentials stay as they are. -/
theorem credentials_append {username password : String}
    (husername : ∀ c ∈ username.toList, isCredentialChar c = true)
    (hpassword : ∀ c ∈ password.toList, isCredentialChar c = true) (hne : password ≠ "") :
    credentials (username.toList ++ ':' :: password.toList) = (username, some password) := by
  have hcolon : ':' ∉ username.toList := by
    intro hmem
    exact absurd (husername ':' hmem) (by decide)
  have hencoded {text : String} (h : ∀ c ∈ text.toList, isCredentialChar c = true) :
      encoded plainInCredentials text.toList = text := by
    unfold encoded
    rw [String.ofList_toList]
    apply Text.Percent.encode_of_plain
    intro c hc
    exact (isPlainInUrl (h c hc)).plain
  unfold credentials
  rw [Text.cutAt?_append hcolon]
  split
  · next hcut => cases hcut
  · next hcut =>
    -- an empty password would count as none
    obtain ⟨-, hempty⟩ := Prod.mk.inj (Option.some.inj hcut)
    exact absurd (by simpa using hempty) hne
  · next hcut =>
    obtain ⟨rfl, rfl⟩ := Prod.mk.inj (Option.some.inj hcut)
    rw [hencoded husername, hencoded hpassword]

/-! ## Authorities -/

/-- The characters of credentials, a host and a number, as they stand behind the slashes. -/
def authorityChars (username password host : String) (n : Nat) : List Char :=
  (username.toList ++ ':' :: password.toList) ++ '@' :: (host.toList ++ ':' :: Nat.toDigits 10 n)

section

variable {username password host : String} {n : Nat}
  (husername : ∀ c ∈ username.toList, isCredentialChar c = true)
  (hpassword : ∀ c ∈ password.toList, isCredentialChar c = true) (hhost : IsPlainHost host.toList)

include husername hpassword hhost

theorem mem_authorityChars {c : Char} (h : c ∈ authorityChars username password host n) :
    isCredentialChar c = true ∨ c = ':' ∨ c = '@' := by
  simp only [authorityChars, List.mem_append, List.mem_cons] at h
  rcases h with (h | rfl | h) | rfl | h | rfl | h
  · exact .inl (husername c h)
  · exact .inr (.inl rfl)
  · exact .inl (hpassword c h)
  · exact .inr (.inr rfl)
  · exact .inl (isCredentialChar_of_isAlphanum (hhost.alphanum c h))
  · exact .inr (.inl rfl)
  · refine .inl (isCredentialChar_of_isAlphanum ?_)
    simp [Char.isAlphanum, Numeral.isDigit_of_mem_toDigits c h]

/-- Nothing in an authority ends it, or is passed over. -/
theorem authorityChars_spec {c : Char} (h : c ∈ authorityChars username password host n) :
    c ∉ ['/', '\\', '?', '#'] ∧ isPadding c = false ∧ isBreak c = false ∧
      Text.isBlank c = false := by
  rcases mem_authorityChars husername hpassword hhost h with h | rfl | rfl
  · obtain ⟨hmarks, hunpadded, hunbroken, hsolid, -⟩ := isPlainInUrl h
    refine ⟨?_, hunpadded, hunbroken, hsolid⟩
    intro hmem
    exact hmarks (List.mem_append_left [':', '@', '[', ']'] hmem)
  · decide
  · decide

theorem readAuthority_authorityChars (scheme : String) (hne : password ≠ "") (hn : n < 65536) :
    readAuthority scheme (authorityChars username password host n) =
      .ok (ofParts scheme username password host n) := by
  have hends : ∀ c ∈ authorityChars username password host n,
      endsAuthority (kindOf scheme) c = false := by
    intro c hc
    have hmarks := (authorityChars_spec husername hpassword hhost hc).1
    simp only [List.mem_cons, List.not_mem_nil, or_false, not_or] at hmarks
    simp [endsAuthority, hmarks]
  -- the `@` in front of the host is the last one
  have hat : '@' ∉ host.toList ++ ':' :: Nat.toDigits 10 n := by
    simp only [List.mem_append, List.mem_cons, not_or]
    refine ⟨hhost.not_mem (by decide), by decide, ?_⟩
    intro hmem
    exact absurd (Numeral.isDigit_of_mem_toDigits _ hmem) (by decide)
  have hserver : (host.toList ++ ':' :: Nat.toDigits 10 n).isEmpty = false := by simp
  have hname : decide (Host.name (plainHostName scheme host) = .name "") = false := by
    simpa using plainHostName_ne scheme hhost
  unfold readAuthority
  dsimp only
  rw [cutBefore_of_none hends]
  dsimp only
  rw [authorityChars, cutAtLastAt_append _ hat]
  simp only [Option.getD_some, hserver, Bool.false_and, Bool.false_eq_true, if_false,
    credentials_append husername hpassword hne, readHost_plain scheme hhost hn, bind, Except.bind,
    hname]
  rfl

end

/-! ## URLs with credentials -/

/-- The text of a URL with credentials, a host and a number. -/
def withCredentials (scheme username password host : String) (n : Nat) : String :=
  scheme ++ "://" ++ username ++ ":" ++ password ++ "@" ++ host ++ ":" ++ toString n

theorem toList_withCredentials (scheme username password host : String) (n : Nat) :
    (withCredentials scheme username password host n).toList =
      scheme.toList ++ ':' :: '/' :: '/' :: authorityChars username password host n := by
  simp [withCredentials, authorityChars]

theorem dropWhile_of_none {α : Type} {p : α → Bool} {xs : List α} (h : ∀ x ∈ xs, p x = false) :
    xs.dropWhile p = xs := by
  cases xs with
  | nil => rfl
  | cons x rest => rw [List.dropWhile_cons_of_neg (by simp [h x List.mem_cons_self])]

/-- If nothing is to be dropped, nothing is dropped at either end. -/
theorem dropEnds_of_none {α : Type} {p : α → Bool} {xs : List α} (h : ∀ x ∈ xs, p x = false) :
    ((xs.dropWhile p).reverse.dropWhile p).reverse = xs := by
  have hreverse : ∀ x ∈ xs.reverse, p x = false := by simpa using h
  rw [dropWhile_of_none h, dropWhile_of_none hreverse, List.reverse_reverse]

section

variable {scheme username password host : String} {n : Nat}
  (hscheme : ∀ c ∈ scheme.toList, c.isAlphanum = true)
  (husername : ∀ c ∈ username.toList, isCredentialChar c = true)
  (hpassword : ∀ c ∈ password.toList, isCredentialChar c = true) (hhost : IsPlainHost host.toList)

include hscheme husername hpassword hhost

/-- No character of the text is passed over. -/
theorem withCredentials_visible {c : Char}
    (h : c ∈ (withCredentials scheme username password host n).toList) :
    isPadding c = false ∧ isBreak c = false ∧ Text.isBlank c = false := by
  rw [toList_withCredentials, List.mem_append] at h
  rcases h with h | h
  · obtain ⟨-, hunpadded, hunbroken, hsolid, -⟩ :=
      isPlainInUrl (isCredentialChar_of_isAlphanum (hscheme c h))
    exact ⟨hunpadded, hunbroken, hsolid⟩
  · simp only [List.mem_cons] at h
    rcases h with rfl | rfl | rfl | h
    · decide
    · decide
    · decide
    · exact (authorityChars_spec husername hpassword hhost h).2

/-- Credentials in encoded form are read as they are written, and a plain host and the number after
it are the same whatever they are. -/
theorem parse_withCredentials (hcut : cutScheme? (scheme.toList ++ [':']) = some (scheme, []))
    (hkind : kindOf scheme ≠ .file) (hne : password ≠ "") (hn : n < 65536) :
    parse (withCredentials scheme username password host n) =
      .ok (ofParts scheme username password host n) := by
  have hread := readAuthority_authorityChars husername hpassword hhost scheme hne hn
  have hvisible : unbroken (unpadded (withCredentials scheme username password host n)) =
      scheme.toList ++ ':' :: '/' :: '/' :: authorityChars username password host n := by
    unfold unpadded unbroken
    rw [dropEnds_of_none, List.filter_eq_self.mpr, toList_withCredentials]
    · intro c hc
      rw [(withCredentials_visible hscheme husername hpassword hhost hc).2.1]
      rfl
    · intro c hc
      exact (withCredentials_visible hscheme husername hpassword hhost hc).1
  have hcut' : cutScheme? (unbroken (unpadded (withCredentials scheme username password host n))) =
      some (scheme, '/' :: '/' :: authorityChars username password host n) := by
    obtain ⟨front, hfront, -, hall⟩ := exists_of_cutScheme? hcut
    rw [hvisible, List.append_cancel_right hfront]
    exact hall _
  -- of the web all slashes are dropped, of other schemes just two
  cases hk : kindOf scheme with
  | file => exact absurd hk hkind
  | web =>
    have hslashes : (authorityChars username password host n).dropWhile
        (fun c => c = '/' || c = '\\') = authorityChars username password host n := by
      apply dropWhile_of_none
      intro c hc
      have hmarks := (authorityChars_spec husername hpassword hhost hc).1
      simp only [List.mem_cons, List.not_mem_nil, or_false, not_or] at hmarks
      simp [hmarks]
    rw [parse_of_readAuthority hk hcut', List.dropWhile_cons_of_pos (by decide),
      List.dropWhile_cons_of_pos (by decide), hslashes, hread]
  | plain =>
    unfold parse
    simp only [hcut', hk]
    exact hread

end

end Url

end SearchStore
