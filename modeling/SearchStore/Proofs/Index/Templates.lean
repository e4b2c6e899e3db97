import SearchStore.Proofs.Engine.Sending
import SearchStore.Proofs.Index.Isolation

/-! # Index templates and the names they apply to

A table makes three patterns: one for a key, one for all keys, and one for its
index template. Each ends in a star, so it covers every name that begins as the
pattern does. Filling a table in leaves what stands before its first token as
it is, whatever key and date are and whatever tokens follow.

`isMatch_name_patterns` says which patterns cover the names of a table, and
that the template which is declared for a new index applies to that index.
-/

namespace SearchStore

namespace Index

/-! ## Patterns that end in a star -/

/-- A beginning and a star cover the names that begin so. -/
theorem matches_append_star {front name : List Char} (h : front <+: name) (hline : '\n' ∉ name) :
    Wildcard.Matches (front ++ ['*']) name := by
  obtain ⟨back, rfl⟩ := h
  have hparts : '\n' ∉ front ∧ '\n' ∉ back := by simpa using hline
  exact Wildcard.matches_append.mpr ⟨front, back, rfl, Wildcard.matches_self hparts.1,
    Wildcard.matches_star.mpr hparts.2⟩

section

variable {table key : String}

theorem isMatch_pattern {shard : String} {date : Date}
    (h : stem table shard <+: nameChars table key date) (hline : '\n' ∉ nameChars table key date) :
    Wildcard.isMatch (name table key date) (pattern table shard) = true := by
  rw [Wildcard.isMatch_iff, name, pattern, String.toList_ofList, String.toList_ofList,
    patternChars_eq]
  exact matches_append_star h hline

/-! ## The pattern of the index template -/

/-- What stands in a table before its first hyphen, or all of it. -/
def opening (table : String) : List Char := table.toList.takeWhile (· != '-')

theorem takeWhile_append {front : List Char} (h : '-' ∉ front) (back : List Char) :
    (front ++ back).takeWhile (· != '-') = front ++ back.takeWhile (· != '-') := by
  apply List.takeWhile_append_of_pos
  intro c hc
  exact bne_iff_ne.mpr fun hhyphen => h (hhyphen ▸ hc)

/-- The pattern is the table itself, or what stands before its first hyphen,
the hyphen and a star. -/
theorem templatePattern_cases (table : String) :
    (opening table = table.toList ∧ templatePattern table = table) ∨
      ∃ back, table.toList = opening table ++ '-' :: back ∧
        (templatePattern table).toList = (opening table ++ ['-']) ++ ['*'] := by
  unfold templatePattern opening
  split
  · rename_i hcut
    have hwhole := takeWhile_append (Text.not_mem_of_cutAt? hcut) []
    exact .inl ⟨by simpa using hwhole, rfl⟩
  · rename_i front back hcut
    obtain ⟨hno, htable⟩ := Text.eq_of_cutAt? hcut
    have hfront : table.toList.takeWhile (· != '-') = front := by
      rw [htable, takeWhile_append hno]
      simp
    rw [hfront]
    exact .inr ⟨back, htable, by simp⟩

/-- The index template applies to the names of a table that has no token before
its first hyphen. -/
theorem isMatch_templatePattern (htable : '\n' ∉ table.toList) (hkey : '\n' ∉ key.toList)
    (hopen : '\x7b' ∉ opening table) (date : Date) :
    Wildcard.isMatch (name table key date) (templatePattern table) = true := by
  have hline := newline_not_mem_nameChars htable hkey date
  rw [Wildcard.isMatch_iff, name, String.toList_ofList]
  rcases templatePattern_cases table with ⟨hwhole, heq⟩ | ⟨back, hcut, heq⟩
  · -- without hyphens there is no token at all, and the name is the table
    rw [hwhole] at hopen
    rw [heq, nameChars_eq, fillAll_of_plain hopen]
    exact Wildcard.matches_self htable
  · -- filling in leaves the text before the hyphen as it is
    rw [heq]
    refine matches_append_star ?_ hline
    rw [nameChars_eq, hcut, fillAll_append_hyphen fun t ht => hyphen_not_mem_token ht,
      fillAll_of_plain hopen]
    exact ⟨fillAll (tokens key date) back, by simp⟩

/-! ## Tables with the key between hyphens -/

variable {start rest : String}

theorem mem_of_mem_takeWhile {front back : List Char} {c : Char}
    (h : c ∈ (front ++ '-' :: back).takeWhile (· != '-')) : c ∈ front := by
  induction front with
  | nil => simp at h
  | cons d front ih =>
    rw [List.cons_append, List.takeWhile_cons] at h
    split at h
    · rcases List.mem_cons.mp h with rfl | hrest
      · exact List.mem_cons_self
      · exact List.mem_cons_of_mem d (ih hrest)
    · simp at h

theorem opening_keyedTable (h : '\x7b' ∉ start.toList) :
    '\x7b' ∉ opening (keyedTable start rest) := by
  unfold opening
  rw [toList_keyedTable]
  exact fun hmem => h (mem_of_mem_takeWhile hmem)

/-- The names begin with the beginning of the table and the key, and go on with
what the rest is filled to. -/
theorem name_keyedTable (hstart : '\x7b' ∉ start.toList) (hkey : '\x7b' ∉ key.toList)
    (date : Date) : name (keyedTable start rest) key date =
      start ++ "-" ++ key ++ "-" ++ name rest key date := by
  rw [← String.toList_inj]
  simp [name, nameChars_keyedTable hstart hkey]

/-- The patterns for the key and for all keys have nothing before their star
that the names do not begin with. -/
theorem stem_prefix_nameChars (hne : start ≠ "") (hstart : '\x7b' ∉ start.toList)
    (hkey : '\x7b' ∉ key.toList) (date : Date) {shard : String}
    (hshard : shard = key ∨ shard = "") :
    stem (keyedTable start rest) shard <+: nameChars (keyedTable start rest) key date := by
  rw [stem, base_keyedTable hne hstart, nameChars_keyedTable hstart hkey,
    List.prefix_append_right_inj, List.cons_prefix_cons]
  refine ⟨rfl, ?_⟩
  split
  · exact List.nil_prefix
  · rename_i hempty
    rcases hshard with rfl | rfl
    · rw [List.prefix_append_right_inj, List.cons_prefix_cons]
      exact ⟨rfl, List.nil_prefix⟩
    · exact absurd rfl hempty

end

end Index

/-! ## Declaring the template of an index -/

namespace Store

variable {ε σ : Type}

/-- The request that declares the index template of a table. -/
def declaration (schema : Schema ε) : Request :=
  { method := .put
    path := pathOf ["_index_template", Index.templateName schema.table]
    operation := "put_index_template"
    body := some (.json (Index.template schema.table schema.fields)) }

/-- The request that creates an index. -/
def creation (index : String) : Request :=
  { method := .put, path := pathOf [index], operation := "create_index" }

theorem requests_createIndex (server : Session.Server σ) (index : String) (x : σ) :
    (Session.run server (createIndex index) x).2.1.requests = [creation index] := by
  rw [createIndex, Action.requests_bind, Action.requests_sendChecked]
  rcases Session.run server (Action.sendChecked _) x with ⟨e | response, t, y⟩
  · rfl
  · -- the name is read off the answer, and nothing more is sent
    show [creation index] ++ (Session.run server
      (liftM response.json >>= fun body => _ : Action String) y).2.1.requests = _
    rw [Action.requests_bind, Action.requests_of_except]
    rcases response.json with e | body
    · rfl
    · rfl

/-- The index is created after its template is declared, if the engine accepts
that. -/
theorem requests_createEntityIndex (server : Session.Server σ) (s : Store) (schema : Schema ε)
    (key : String) (x : σ) :
    (Session.run server (createEntityIndex s schema key) x).2.1.requests = [declaration schema] ∨
      (Session.run server (createEntityIndex s schema key) x).2.1.requests =
        [declaration schema, creation (schema.index key s.today)] := by
  rw [createEntityIndex, Action.requests_bind, Action.requests_sendChecked]
  rcases Session.run server (Action.sendChecked _) x with ⟨e | response, t, y⟩
  · exact .inl rfl
  · right
    show [declaration schema] ++ (Session.run server (createIndex _) y).2.1.requests = _
    rw [requests_createIndex]
    rfl

end Store

/-! ## Which patterns cover the names of a table -/

namespace Index

/-- In a table with the key between hyphens, behind a beginning without braces,
the names begin with that beginning and the key, whatever follows, and the
patterns for the key, for all keys and of the index template all cover them. The
pattern of the index template covers the names of every table that has no brace
before its first hyphen. So the template that is declared for a new index
applies to that index. -/
theorem isMatch_name_patterns :
    (∀ start rest key : String, start ≠ "" → '\x7b' ∉ start.toList → '\n' ∉ start.toList →
      '\n' ∉ rest.toList → '\x7b' ∉ key.toList → '\n' ∉ key.toList → ∀ date,
      (∃ text, name (keyedTable start rest) key date = start ++ "-" ++ key ++ "-" ++ text) ∧
      Wildcard.isMatch (name (keyedTable start rest) key date)
        (pattern (keyedTable start rest) key) = true ∧
      Wildcard.isMatch (name (keyedTable start rest) key date)
        (pattern (keyedTable start rest) "") = true ∧
      Wildcard.isMatch (name (keyedTable start rest) key date)
        (templatePattern (keyedTable start rest)) = true) ∧
    (∀ table key : String, '\n' ∉ table.toList → '\x7b' ∉ opening table → '\n' ∉ key.toList →
      ∀ date, Wildcard.isMatch (name table key date) (templatePattern table) = true) ∧
    (∀ (ε σ : Type) (schema : Schema ε) (key : String), '\n' ∉ schema.table.toList →
      '\x7b' ∉ opening schema.table → '\n' ∉ key.toList →
      ∀ (s : Store) (server : Session.Server σ) (x : σ), ∃ applies,
        (Store.declaration schema).jsonBody?.bind (Json.get? "index_patterns") =
          some (.arr [.str applies]) ∧
        Wildcard.isMatch (schema.index key s.today) applies = true ∧
        ((Session.run server (Store.createEntityIndex s schema key) x).2.1.requests =
            [Store.declaration schema] ∨
          (Session.run server (Store.createEntityIndex s schema key) x).2.1.requests =
            [Store.declaration schema, Store.creation (schema.index key s.today)])) := by
  refine ⟨?_, fun table key htable hopen hkey => isMatch_templatePattern htable hkey hopen, ?_⟩
  · intro start rest key hne hopen hline hrest hkey hkeyline date
    have htable : '\n' ∉ (keyedTable start rest).toList := by
      rw [toList_keyedTable]
      simp [hline, hrest, single]
    have hname := newline_not_mem_nameChars htable hkeyline date
    refine ⟨⟨name rest key date, name_keyedTable hopen hkey date⟩, ?_, ?_, ?_⟩
    · exact isMatch_pattern (stem_prefix_nameChars hne hopen hkey date (.inl rfl)) hname
    · exact isMatch_pattern (stem_prefix_nameChars hne hopen hkey date (.inr rfl)) hname
    · exact isMatch_templatePattern htable hkeyline (opening_keyedTable hopen) date
  · intro ε σ schema key htable hopen hkey s server x
    exact ⟨templatePattern schema.table, rfl, isMatch_templatePattern htable hkey hopen s.today,
      Store.requests_createEntityIndex server s schema key x⟩

/-- Heroes that are nothing but a name. -/
def heroes : Schema String where
  table := "hero-\x7baccountId\x7d"
  id := id
  key := fun _ => "a"
  encode? := fun hero => some (.str hero)
  decode? := Json.asString?

/-- A beginning with a hyphen and a star, tokens in double braces behind it and
no key; a table without hyphens; and an engine that is out of reach. -/
theorem isMatch_name_patterns_heroes :
    (∃ text, name (keyedTable "my-hero*" "\x7b\x7byear\x7d\x7d-\x7baccountId\x7d") ""
      ⟨2024, 3, 15⟩ = "my-hero*" ++ "-" ++ "" ++ "-" ++ text) ∧
    Wildcard.isMatch (name "logs" "a" ⟨2024, 3, 15⟩) (templatePattern "logs") = true ∧
    ∃ applies, (Store.declaration heroes).jsonBody?.bind (Json.get? "index_patterns") =
        some (.arr [.str applies]) ∧
      Wildcard.isMatch (heroes.index "a" ⟨2024, 3, 15⟩) applies = true := by
  refine ⟨(isMatch_name_patterns.1 "my-hero*" "\x7b\x7byear\x7d\x7d-\x7baccountId\x7d" ""
    (by decide) (by decide) (by decide) (by decide) (by decide) (by decide) ⟨2024, 3, 15⟩).1,
    isMatch_name_patterns.2.1 "logs" "a" (by decide) (by decide) (by decide) ⟨2024, 3, 15⟩, ?_⟩
  obtain ⟨applies, hdeclared, hmatch, -⟩ := isMatch_name_patterns.2.2 String Unit heroes "a"
    (by decide) (by decide) (by decide) { today := ⟨2024, 3, 15⟩ }
    (fun _ x => (.error (.transport "refused"), x)) ()
  exact ⟨applies, hdeclared, hmatch⟩

end Index

end SearchStore
