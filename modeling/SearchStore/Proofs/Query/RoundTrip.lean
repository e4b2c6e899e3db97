import SearchStore.Proofs.Json.Record
import SearchStore.Proofs.Number.Bits
import SearchStore.Query.Wire

/-! # Queries are read back

A query as a request can hold it is read back from its value, at any depth of
nesting (`Query.Valid.decode?_toJson`), and a query that is read is such a query
if all its boosts are finite (`Query.valid_of_decode?`). What a query holds of
JSON values is in canonical form, and bounds and minima are not `null`, which
would count as none.
-/

namespace SearchStore

open Json

/-- A value that can be given where one may be missing: in canonical form, and not `null`. -/
structure Json.IsGiven (j : Json) : Prop where
  canonical : j.IsCanonical
  ne_null : j ≠ .null

theorem Json.IsGiven.back {j : Json} (h : j.IsGiven) :
    some j.canonical = some j ∧ j.canonical ≠ .null := by
  rw [h.canonical.canonical_eq]
  exact ⟨rfl, h.ne_null⟩

/-! ## Bounds and terms -/

namespace Bounds

/-- Each bound can be given. -/
structure Fits (b : Bounds) : Prop where
  gt : ∀ j ∈ b.gt, j.IsGiven
  gte : ∀ j ∈ b.gte, j.IsGiven
  lt : ∀ j ∈ b.lt, j.IsGiven
  lte : ∀ j ∈ b.lte, j.IsGiven

def fields (b : Bounds) : List (String × Option Json) :=
  [("gt", b.gt), ("gte", b.gte), ("lt", b.lt), ("lte", b.lte), ("format", b.format.map .str)]

theorem encode_eq (b : Bounds) : b.encode = .obj (present b.fields) := by
  simp [encode, present, fields]

theorem decode?_encode {b : Bounds} (h : b.Fits) : decode? b.encode.canonical = some b := by
  obtain ⟨ms, hms, hholds⟩ := exists_canonical_present b.fields (by simp [fields])
  have hgt : optional "gt" some ms = some b.gt :=
    hholds.optional id (by simp [fields]) fun j hj => (h.gt j hj).back
  have hgte : optional "gte" some ms = some b.gte :=
    hholds.optional id (by simp [fields]) fun j hj => (h.gte j hj).back
  have hlt : optional "lt" some ms = some b.lt :=
    hholds.optional id (by simp [fields]) fun j hj => (h.lt j hj).back
  have hlte : optional "lte" some ms = some b.lte :=
    hholds.optional id (by simp [fields]) fun j hj => (h.lte j hj).back
  have hformat : optional "format" asString? ms = some b.format :=
    hholds.optional .str (by simp [fields]) fun s _ => asString?_back s
  simp [decode?, encode_eq, hms, asRecord?, hgt, hgte, hlt, hlte, hformat]

/-- An optional value that is read from a canonical record can be given. -/
theorem isGiven_of_optional {j : Json} (hj : j.IsCanonical) {names : List String}
    {ms : List (String × Json)} (hms : j.asRecord? names = some ms) {name : String}
    {x : Option Json} (h : optional name some ms = some x) : ∀ v ∈ x, v.IsGiven := by
  intro v hv
  obtain ⟨m, hm, hnull, hread⟩ := of_optionalAmong h hv
  obtain rfl : m.2 = v := Option.some.inj hread
  exact ⟨hj.of_mem_values (mem_values_of_asRecord? hms hm), hnull⟩

theorem fits_of_decode? {b : Bounds} {j : Json} (hj : j.IsCanonical) (h : decode? j = some b) :
    b.Fits := by
  obtain ⟨ms, hms, h⟩ := Option.bind_eq_some_iff.mp h
  obtain ⟨gt, hgt, h⟩ := Option.bind_eq_some_iff.mp h
  obtain ⟨gte, hgte, h⟩ := Option.bind_eq_some_iff.mp h
  obtain ⟨lt, hlt, h⟩ := Option.bind_eq_some_iff.mp h
  obtain ⟨lte, hlte, h⟩ := Option.bind_eq_some_iff.mp h
  obtain ⟨format, -, h⟩ := Option.bind_eq_some_iff.mp h
  obtain rfl := Option.some.inj h
  exact ⟨isGiven_of_optional hj hms hgt, isGiven_of_optional hj hms hgte,
    isGiven_of_optional hj hms hlt, isGiven_of_optional hj hms hlte⟩

end Bounds

namespace TermsSet

def Fits (t : TermsSet) : Prop := ∀ j ∈ t.terms, j.IsCanonical

def fields (t : TermsSet) : List (String × Option Json) :=
  [("terms", some (.arr t.terms)), ("minimum_should_match", t.minimumShouldMatch.map .str)]

theorem encode_eq (t : TermsSet) : t.encode = .obj (present t.fields) := by
  simp [encode, present, fields, optionalMember]

theorem decode?_encode {t : TermsSet} (h : t.Fits) : decode? t.encode.canonical = some t := by
  obtain ⟨ms, hms, hholds⟩ := exists_canonical_present t.fields (by simp [fields])
  have hterms : required "terms" asItems? ms = some t.terms :=
    hholds.required (.arr t.terms) (by simp [fields])
      (by rw [(IsCanonical.arr h).canonical_eq, asItems?])
  have hminimum : optional "minimum_should_match" asString? ms = some t.minimumShouldMatch :=
    hholds.optional .str (by simp [fields]) fun s _ => asString?_back s
  simp [decode?, encode_eq, hms, asRecord?, hterms, hminimum]

theorem isCanonical_of_asItems? {j : Json} (hj : j.IsCanonical) {items : List Json}
    (h : j.asItems? = some items) : ∀ v ∈ items, v.IsCanonical := by
  cases j <;> simp only [asItems?, Option.some.injEq, reduceCtorEq] at h
  exact fun v hv => hj.of_mem_values (h ▸ hv)

theorem fits_of_decode? {t : TermsSet} {j : Json} (hj : j.IsCanonical) (h : decode? j = some t) :
    t.Fits := by
  obtain ⟨ms, hms, h⟩ := Option.bind_eq_some_iff.mp h
  obtain ⟨terms, hterms, h⟩ := Option.bind_eq_some_iff.mp h
  obtain ⟨minimum, -, h⟩ := Option.bind_eq_some_iff.mp h
  obtain rfl := Option.some.inj h
  obtain ⟨m, hm, hread⟩ := of_required hterms
  exact isCanonical_of_asItems? (hj.of_mem_values (mem_values_of_asRecord? hms hm)) hread

end TermsSet

namespace Query

/-! ## Trees of queries -/

/-- The queries right inside a query. -/
def parts : Query → List Query
  | nested _ query => [query]
  | bool filter must should mustNot _ => filter ++ must ++ should ++ mustNot
  | matchAll _ | term _ | terms _ | termsSet _ | range _ | wildcard _ | ids _ => []

/-- Something holds of a query and of all queries inside it. -/
inductive Throughout (P : Query → Prop) : Query → Prop
  | intro {q : Query} (h : P q) (hparts : ∀ p ∈ q.parts, p.Throughout P) : Throughout P q

/-- What a query holds itself is as a request can hold it. -/
def Fits : Query → Prop
  | matchAll boost => ∀ b ∈ boost, b.isFinite
  | term fields => InOrder fields ∧ ∀ f ∈ fields, f.2.IsCanonical
  | terms fields => InOrder fields ∧ ∀ f ∈ fields, ∀ j ∈ f.2, j.IsCanonical
  | termsSet fields => InOrder fields ∧ ∀ f ∈ fields, f.2.Fits
  | range fields => InOrder fields ∧ ∀ f ∈ fields, f.2.Fits
  | wildcard fields => InOrder fields
  | ids _ | nested _ _ => True
  | bool _ _ _ _ minimum => ∀ j ∈ minimum, j.IsGiven

/-- The boost of a query itself is finite. -/
def FiniteBoost (q : Query) : Prop := ∀ b, q = matchAll (some b) → b.isFinite

/-- A query as a request can hold it. -/
abbrev Valid : Query → Prop := Throughout Fits

/-! ## Clauses -/

theorem valueOf?_valueMember (j : Json) :
    valueOf? (valueMember j).canonical = some j.canonical := by
  have hcanonical : (valueMember j).canonical = .obj [("value", j.canonical)] := rfl
  simp [valueOf?, hcanonical, asRecord?, required, member?]

theorem asSingle?_wideBoost {b : Single} (h : b.isFinite) :
    asSingle? (wideBoost b).canonical = some b ∧ (wideBoost b).canonical ≠ .null := by
  have hwide : wideBoost b = .real b.toDouble := by
    rw [wideBoost, ofDouble, if_pos (Single.isFinite_toDouble h)]
  rw [hwide]
  exact ⟨congrArg some (Single.ofDouble_toDouble h), nofun⟩

theorem decode?_obj (clause : String) (body : Json) :
    decode? (Json.obj [(clause, body)]).canonical = decodeClause? clause body.canonical := by
  have hcanonical : (Json.obj [(clause, body)]).canonical = .obj [(clause, body.canonical)] := rfl
  rw [hcanonical, decode?]

theorem canonical_encode_ne_null (q : Query) (boost : Single → Json) :
    (encode boost q).canonical ≠ .null := by
  cases q <;> nofun

theorem decodeList?_eq (items : List Json) : decodeList? items = items.mapM decode? := by
  induction items with
  | nil => rfl
  | cons j rest ih =>
    rw [decodeList?, List.mapM_cons, ← ih]
    cases decode? j <;> cases decodeList? rest <;> rfl

theorem encodeList_eq (boost : Single → Json) (qs : List Query) :
    encodeList boost qs = qs.map (encode boost) := by
  induction qs with
  | nil => rfl
  | cons q rest ih => rw [encodeList, ih, List.map_cons]

/-- What is read of the members of a bool query, one after the other, is what each name finds. -/
def boolRecord? (ms : List (String × Json)) : Option BoolParts :=
  (found? ["filter"] decodeItems? ms).bind fun filter =>
  (found? ["must"] decodeItems? ms).bind fun must =>
  (found? ["should"] decodeItems? ms).bind fun should =>
  (found? ["must_not"] decodeItems? ms).bind fun mustNot =>
  (found? ["minimum_should_match"] (nullable some) ms).map fun minimum =>
    { filter, must, should, mustNot, minimum }

theorem boolParts?_eq (ms : List (String × Json)) : boolParts? ms = boolRecord? ms := by
  induction ms with
  | nil => rfl
  | cons m rest ih =>
    obtain ⟨name, j⟩ := m
    rw [boolParts?, ih, boolRecord?, boolRecord?]
    simp only [found?_cons, List.mem_singleton]
    generalize found? ["filter"] decodeItems? rest = filter
    generalize found? ["must"] decodeItems? rest = must
    generalize found? ["should"] decodeItems? rest = should
    generalize found? ["must_not"] decodeItems? rest = mustNot
    generalize found? ["minimum_should_match"] (nullable some) rest = minimum
    generalize decodeItems? j = queries
    generalize nullable some j = value
    by_cases hname : name ∈ BoolParts.names
    · simp only [BoolParts.names, List.mem_cons, List.not_mem_nil, or_false] at hname
      rcases hname with rfl | rfl | rfl | rfl | rfl
      all_goals
        simp only [BoolParts.add?, fill?, String.reduceEq, if_true, if_false]
        cases filter <;> cases must <;> cases should <;> cases mustNot <;> cases minimum <;>
          simp [Option.map_eq_bind]
    · simp only [BoolParts.names, List.mem_cons, List.not_mem_nil, or_false, not_or] at hname
      obtain ⟨hfilter, hmust, hshould, hmustNot, hminimum⟩ := hname
      simp only [BoolParts.add?, hfilter, hmust, hshould, hmustNot, hminimum, if_false]
      cases filter <;> cases must <;> cases should <;> cases mustNot <;> cases minimum <;> simp

/-- An array is read as the members of the names in order. -/
theorem boolParts?_of_boolItems? {names : List String} {items : List Json} {p : BoolParts}
    (h : boolItems? names items = some p) : boolParts? (names.zip items) = some p := by
  refine zip_eq_of_items (fun name j p => p.add? name (decodeItems? j) (nullable some j))
    (fun _ => by rw [boolItems?, boolParts?]) (fun _ _ => rfl) ?_ ?_ h
  · intro name names j items
    rw [boolItems?]
    cases boolItems? names items <;> rfl
  · intro name j ms
    rw [boolParts?]
    cases boolParts? ms <;> rfl

/-- What is read of the members of a nested query, one after the other, is what each name
finds. -/
def nestedRecord? (ms : List (String × Json)) : Option NestedParts :=
  (found? ["path"] asString? ms).bind fun path =>
  (found? ["query"] decode? ms).map fun query => { path, query }

theorem nestedParts?_eq (ms : List (String × Json)) : nestedParts? ms = nestedRecord? ms := by
  induction ms with
  | nil => rfl
  | cons m rest ih =>
    obtain ⟨name, j⟩ := m
    rw [nestedParts?, ih, nestedRecord?, nestedRecord?]
    simp only [found?_cons, List.mem_singleton]
    generalize found? ["path"] asString? rest = path
    generalize found? ["query"] decode? rest = query
    generalize asString? j = text
    generalize decode? j = inside
    by_cases hpath : name = "path"
    · subst hpath
      simp only [NestedParts.add?, fill?, String.reduceEq, if_true, if_false]
      cases path <;> cases query <;> simp [Option.map_eq_bind]
    by_cases hquery : name = "query"
    · subst hquery
      simp only [NestedParts.add?, fill?, String.reduceEq, if_true, if_false]
      cases path <;> cases query <;> simp
    · simp only [NestedParts.add?, hpath, hquery, if_false]
      cases path <;> cases query <;> simp

theorem nestedParts?_of_nestedItems? {names : List String} {items : List Json} {p : NestedParts}
    (h : nestedItems? names items = some p) : nestedParts? (names.zip items) = some p := by
  refine zip_eq_of_items (fun name j p => p.add? name j.asString? (decode? j))
    (fun _ => by rw [nestedItems?, nestedParts?]) (fun _ _ => rfl) ?_ ?_ h
  · intro name names j items
    rw [nestedItems?]
    cases nestedItems? names items <;> rfl
  · intro name j ms
    rw [nestedParts?]
    cases nestedParts? ms <;> rfl

/-! ## Reading back -/

/-- Queries in a list, if there are any. -/
def listed (boost : Single → Json) (qs : List Query) : Option Json :=
  if qs.isEmpty then none else some (.arr (encodeList boost qs))

def boolFields (boost : Single → Json) (filter must should mustNot : List Query)
    (minimum : Option Json) : List (String × Option Json) :=
  [("filter", listed boost filter), ("must", listed boost must), ("should", listed boost should),
    ("must_not", listed boost mustNot), ("minimum_should_match", minimum)]

theorem listMember_encodeList (name : String) (boost : Single → Json) (qs : List Query) :
    listMember name (encodeList boost qs) = optionalMember name (listed boost qs) := by
  cases qs <;> rfl

theorem encode_bool (boost : Single → Json) (filter must should mustNot : List Query)
    (minimum : Option Json) :
    encode boost (.bool filter must should mustNot minimum) =
      .obj [("bool", .obj (present (boolFields boost filter must should mustNot minimum)))] := by
  rw [encode]
  simp only [listMember_encodeList]
  simp [present, boolFields]

/-- Queries in a list are read back. -/
theorem map_listed {boost : Single → Json} {qs : List Query}
    (hback : ∀ q ∈ qs, decode? (encode boost q).canonical = some q) :
    ((listed boost qs).map fun v => decodeItems? v.canonical) =
      (if qs.isEmpty then none else some qs).map some := by
  cases qs with
  | nil => rfl
  | cons q rest =>
    have hitems : decodeItems? (Json.arr (encodeList boost (q :: rest))).canonical =
        some (q :: rest) := by
      rw [canonical, canonicalItems_eq, encodeList_eq, List.map_map, decodeItems?, decodeList?_eq]
      exact mapM_map_eq hback
    simp [listed, hitems]

theorem getD_listed (qs : List Query) : (if qs.isEmpty then none else some qs).getD [] = qs := by
  cases qs <;> rfl

/-- A clause that holds no further queries is read back from its members. -/
theorem decode?_flat {clause : String} (hnested : clause ≠ "nested") (hbool : clause ≠ "bool")
    (ms : List (String × Json)) : decode? (Json.obj [(clause, .obj ms)]).canonical =
      decodeFlat? clause (Json.obj ms).canonical := by
  rw [decode?_obj, Json.canonical, decodeClause?, if_neg hnested, if_neg hbool]

theorem decode?_matchAll {boost : Option Single} (h : ∀ b ∈ boost, b.isFinite) :
    decode? (matchAll boost).toJson = some (matchAll boost) := by
  obtain ⟨ms, hms, hholds⟩ :=
    exists_canonical_present [("boost", boost.map wideBoost)] (by simp)
  have hboost : optional "boost" asSingle? ms = some boost :=
    hholds.optional wideBoost (by simp) fun b hb => asSingle?_wideBoost (h b hb)
  rw [present, List.flatMap_singleton] at hms
  rw [toJson, encode, decode?_flat (by decide) (by decide)]
  simp [decodeFlat?, hms, asRecord?, hboost]

theorem decode?_ids (values : List String) : decode? (ids values).toJson = some (ids values) := by
  obtain ⟨ms, hms, hholds⟩ :=
    exists_canonical_present [("values", some (ofStrings values))] (by simp)
  have hvalues : required "values" asStrings? ms = some values :=
    hholds.required (ofStrings values) (by simp) (asStrings?_back values)
  rw [present, List.flatMap_singleton, optionalMember] at hms
  rw [toJson, encode, decode?_flat (by decide) (by decide)]
  simp [decodeFlat?, hms, asRecord?, hvalues]

theorem decode?_nested {path : String} {query : Query} (h : decode? query.toJson = some query) :
    decode? (nested path query).toJson = some (nested path query) := by
  obtain ⟨ms, hms, hholds⟩ := exists_canonical_present
    [("path", some (.str path)), ("query", some (encode wideBoost query))] (by simp)
  have hpath : found? ["path"] asString? ms = some (some path) :=
    hholds.found (some (.str path)) (by simp) rfl
  have hinside : found? ["query"] decode? ms = some (some query) :=
    hholds.found (some (encode wideBoost query)) (by simp) (congrArg some h)
  have hbody : (Json.obj [("path", .str path), ("query", encode wideBoost query)]).canonical =
      .obj ms := hms
  rw [toJson, encode, decode?_obj, hbody, decodeClause?, if_pos rfl, nestedParts?_eq,
    nestedRecord?, hpath, hinside]
  rfl

theorem decode?_bool {filter must should mustNot : List Query} {minimum : Option Json}
    (hgiven : ∀ j ∈ minimum, j.IsGiven)
    (hparts : ∀ q ∈ parts (.bool filter must should mustNot minimum),
      decode? q.toJson = some q) :
    decode? (bool filter must should mustNot minimum).toJson =
      some (bool filter must should mustNot minimum) := by
  obtain ⟨ms, hms, hholds⟩ := exists_canonical_present
    (boolFields wideBoost filter must should mustNot minimum) (by simp [boolFields])
  have hlisted (name : String) (qs : List Query)
      (hmem : (name, listed wideBoost qs) ∈
        boolFields wideBoost filter must should mustNot minimum)
      (hqs : ∀ q ∈ qs, q ∈ parts (.bool filter must should mustNot minimum)) :
      found? [name] decodeItems? ms = some (if qs.isEmpty then none else some qs) :=
    hholds.found _ hmem (map_listed fun q hq => hparts q (hqs q hq))
  have hfilter := hlisted "filter" filter (by simp [boolFields]) (by simp_all [parts])
  have hmust := hlisted "must" must (by simp [boolFields]) (by simp_all [parts])
  have hshould := hlisted "should" should (by simp [boolFields]) (by simp_all [parts])
  have hmustNot := hlisted "must_not" mustNot (by simp [boolFields]) (by simp_all [parts])
  have hminimum : found? ["minimum_should_match"] (nullable some) ms =
      some (minimum.map some) := by
    refine hholds.found minimum (by simp [boolFields]) ?_
    cases minimum with
    | none => rfl
    | some j =>
      obtain ⟨hcanonical, hnull⟩ := hgiven j rfl
      simp [hcanonical.canonical_eq, nullable]
  rw [toJson, encode_bool, decode?_obj, hms, decodeClause?, if_neg (by decide), if_pos rfl,
    boolParts?_eq, boolRecord?, hfilter, hmust, hshould, hmustNot, hminimum]
  simp only [Option.bind_some, Option.map_some, BoolParts.toQuery, getD_listed]
  cases minimum <;> rfl

/-- A clause about fields by name is read back, if the value of each field is. -/
theorem decode?_byField {α : Type} {clause : String} {fields : ByField α}
    {query : ByField α → Query} {write : α → Json} {read : Json → Option α}
    (hnested : clause ≠ "nested") (hbool : clause ≠ "bool")
    (hclause : ∀ body, decodeFlat? clause body = (body.asMap? read).map query)
    (horder : InOrder fields) (hread : ∀ f ∈ fields, read (write f.2).canonical = some f.2) :
    decode? (fields.encode clause write).canonical = some (query fields) := by
  rw [ByField.encode, decode?_flat hnested hbool, hclause, asMap?_eq horder write hread,
    Option.map_some]

/-- A query as a request can hold it is read back from its value. -/
theorem Valid.decode?_toJson {q : Query} (h : q.Valid) : decode? q.toJson = some q := by
  induction h with
  | @intro q hfits _ ih =>
    cases q with
    | matchAll boost => exact decode?_matchAll hfits
    | ids values => exact decode?_ids values
    | nested path query => exact decode?_nested (ih query (List.mem_singleton_self _))
    | bool filter must should mustNot minimum => exact decode?_bool hfits ih
    | term fields =>
      obtain ⟨horder, hvalues⟩ := hfits
      rw [toJson, encode]
      exact decode?_byField (by decide) (by decide) (fun _ => rfl) horder fun f hf =>
        (valueOf?_valueMember f.2).trans (congrArg some (hvalues f hf).canonical_eq)
    | terms fields =>
      obtain ⟨horder, hvalues⟩ := hfits
      have hitems : ∀ f ∈ fields, asItems? (Json.arr f.2).canonical = some f.2 := fun f hf => by
        rw [(IsCanonical.arr (hvalues f hf)).canonical_eq, asItems?]
      rw [toJson, encode]
      exact decode?_byField (by decide) (by decide) (fun _ => rfl) horder hitems
    | termsSet fields =>
      obtain ⟨horder, hvalues⟩ := hfits
      rw [toJson, encode]
      exact decode?_byField (by decide) (by decide) (fun _ => rfl) horder fun f hf =>
        TermsSet.decode?_encode (hvalues f hf)
    | range fields =>
      obtain ⟨horder, hvalues⟩ := hfits
      rw [toJson, encode]
      exact decode?_byField (by decide) (by decide) (fun _ => rfl) horder fun f hf =>
        Bounds.decode?_encode (hvalues f hf)
    | wildcard fields =>
      have hpattern : ∀ f ∈ fields,
          (valueOf? (valueMember (.str f.2)).canonical).bind asString? = some f.2 := fun f _ => by
        rw [valueOf?_valueMember]
        rfl
      rw [toJson, encode]
      exact decode?_byField (by decide) (by decide) (fun _ => rfl) hfits hpattern

/-! ## What is read -/

theorem isCanonical_of_valueOf? {j v : Json} (hj : j.IsCanonical) (h : valueOf? j = some v) :
    v.IsCanonical := by
  obtain ⟨ms, hms, h⟩ := Option.bind_eq_some_iff.mp h
  obtain ⟨m, hm, hread⟩ := of_required h
  obtain rfl : m.2 = v := Option.some.inj hread
  exact hj.of_mem_values (mem_values_of_asRecord? hms hm)

/-- A clause about fields by name is read with its fields in order, and what is known of each
value that is read holds of each field. -/
theorem of_byField {α : Type} {P : α → Prop} {read : Json → Option α} {body : Json}
    {query : ByField α → Query} {q : Query} (hbody : body.IsCanonical)
    (hread : ∀ {j : Json} {x : α}, j.IsCanonical → read j = some x → P x)
    (h : (body.asMap? read).map query = some q) :
    ∃ fields, q = query fields ∧ InOrder fields ∧ ∀ f ∈ fields, P f.2 := by
  obtain ⟨fields, hfields, rfl⟩ := Option.map_eq_some_iff.mp h
  obtain ⟨horder, hvalues⟩ := of_asMap? hfields
  refine ⟨fields, rfl, horder, fun f hf => ?_⟩
  obtain ⟨v, hv, hvalue⟩ := hvalues f hf
  exact hread (hbody.of_mem_values hv) hvalue

/-- A clause that holds no further queries is read as a query without parts, and what it holds is
as a request can hold it. -/
theorem fits_of_decodeFlat? {clause : String} {body : Json} {q : Query} (hbody : body.IsCanonical)
    (hboost : q.FiniteBoost) (h : decodeFlat? clause body = some q) : q.Fits ∧ q.parts = [] := by
  rw [decodeFlat?] at h
  split_ifs at h
  · obtain ⟨ms, -, h⟩ := Option.bind_eq_some_iff.mp h
    obtain ⟨boost, -, h⟩ := Option.bind_eq_some_iff.mp h
    obtain rfl := Option.some.inj h
    exact ⟨fun b hb => hboost b (by rw [Option.mem_def.mp hb]), rfl⟩
  · obtain ⟨fields, rfl, hfields⟩ := of_byField hbody isCanonical_of_valueOf? h
    exact ⟨hfields, rfl⟩
  · obtain ⟨fields, rfl, hfields⟩ := of_byField (P := fun items => ∀ v ∈ items, v.IsCanonical)
      hbody (fun hj hread => TermsSet.isCanonical_of_asItems? hj hread) h
    exact ⟨hfields, rfl⟩
  · obtain ⟨fields, rfl, hfields⟩ := of_byField hbody TermsSet.fits_of_decode? h
    exact ⟨hfields, rfl⟩
  · obtain ⟨fields, rfl, hfields⟩ := of_byField hbody Bounds.fits_of_decode? h
    exact ⟨hfields, rfl⟩
  · obtain ⟨fields, hfields, rfl⟩ := Option.map_eq_some_iff.mp h
    exact ⟨(of_asMap? hfields).1, rfl⟩
  · obtain ⟨ms, -, h⟩ := Option.bind_eq_some_iff.mp h
    obtain ⟨values, -, h⟩ := Option.bind_eq_some_iff.mp h
    obtain rfl := Option.some.inj h
    exact ⟨trivial, rfl⟩

/-- A clause is read as a nested query or a bool query, from members of its body, or it holds no
further queries. -/
theorem of_decodeClause? {clause : String} {body : Json} {q : Query}
    (h : decodeClause? clause body = some q) :
    (∃ ms : List (String × Json), (∀ m ∈ ms, m.2 ∈ body.values) ∧
      ((nestedParts? ms).bind NestedParts.toQuery? = some q ∨
        (boolParts? ms).map BoolParts.toQuery = some q)) ∨
      decodeFlat? clause body = some q := by
  have hzip (names : List String) (items : List Json) :
      ∀ m ∈ names.zip items, m.2 ∈ (Json.arr items).values := fun m hm => (List.of_mem_zip hm).2
  cases body with
  | null | bool | int | real | str => simp [decodeClause?] at h
  | arr items =>
    rw [decodeClause?] at h
    split_ifs at h
    · obtain ⟨p, hp, h⟩ := Option.bind_eq_some_iff.mp h
      refine .inl ⟨_, hzip NestedParts.names items, .inl ?_⟩
      rw [nestedParts?_of_nestedItems? hp, Option.bind_some, h]
    · obtain ⟨p, hp, h⟩ := Option.map_eq_some_iff.mp h
      refine .inl ⟨_, hzip BoolParts.names items, .inr ?_⟩
      rw [boolParts?_of_boolItems? hp, Option.map_some, h]
    · exact .inr h
  | obj ms =>
    have hvalues : ∀ m ∈ ms, m.2 ∈ (Json.obj ms).values := fun m hm => List.mem_map_of_mem hm
    rw [decodeClause?] at h
    split_ifs at h
    · exact .inl ⟨ms, hvalues, .inl h⟩
    · exact .inl ⟨ms, hvalues, .inr h⟩
    · exact .inr h

/-- The queries that are found in a list are read from values in some canonical value. -/
theorem of_found?_decodeItems? {name : String} {ms : List (String × Json)}
    (hms : ∀ m ∈ ms, m.2.IsCanonical) {qs : Option (List Query)}
    (h : found? [name] decodeItems? ms = some qs) {q : Query} (hq : q ∈ qs.getD []) :
    ∃ j : Json, j.IsCanonical ∧ decode? j = some q := by
  cases qs with
  | none => simp at hq
  | some qs =>
    obtain ⟨m, hm, hread⟩ := of_found? h
    have hcanonical := hms m hm
    cases hitems : m.2 with
    | arr items =>
      rw [hitems, decodeItems?, decodeList?_eq] at hread
      obtain ⟨j, hj, hread⟩ := of_mapM hread q hq
      rw [hitems] at hcanonical
      exact ⟨j, hcanonical.of_mem_values hj, hread⟩
    | null | bool | int | real | str | obj => simp [hitems, decodeItems?] at hread

theorem exists_clause {j : Json} {q : Query} (h : decode? j = some q) :
    ∃ clause body, j = .obj [(clause, body)] ∧ decodeClause? clause body = some q := by
  unfold decode? at h
  split at h
  · exact ⟨_, _, rfl, h⟩
  · cases h

/-- A query that is read from a canonical value is as a request can hold it, if its boosts are
finite. -/
theorem valid_of_decode? {q : Query} (hboosts : q.Throughout FiniteBoost) {j : Json}
    (hj : j.IsCanonical) (h : decode? j = some q) : q.Valid := by
  induction hboosts generalizing j with
  | @intro q hboost _ ih =>
    obtain ⟨clause, body, rfl, hclause⟩ := exists_clause h
    have hbody : body.IsCanonical := hj.of_mem_values (List.mem_singleton_self _)
    rcases of_decodeClause? hclause with ⟨ms, hms, hread⟩ | hflat
    · have hcanonical : ∀ m ∈ ms, m.2.IsCanonical := fun m hm => hbody.of_mem_values (hms m hm)
      rcases hread with hnested | hbool
      · rw [nestedParts?_eq, nestedRecord?] at hnested
        simp only [Option.bind_eq_some_iff, Option.map_eq_some_iff] at hnested
        obtain ⟨p, ⟨path, -, query, hquery, rfl⟩, hq⟩ := hnested
        obtain ⟨path, rfl, hq⟩ := Option.bind_eq_some_iff.mp hq
        obtain ⟨inside, rfl, hq⟩ := Option.bind_eq_some_iff.mp hq
        obtain rfl := Option.some.inj hq
        obtain ⟨m, hm, hread⟩ := of_found? hquery
        refine .intro trivial fun p hp => ?_
        obtain rfl : p = inside := List.mem_singleton.mp hp
        exact ih p hp (hcanonical m hm) hread
      · rw [boolParts?_eq, boolRecord?] at hbool
        simp only [Option.bind_eq_some_iff, Option.map_eq_some_iff] at hbool
        obtain ⟨p, ⟨filter, hfilter, must, hmust, should, hshould, mustNot, hmustNot, minimum,
          hminimum, rfl⟩, rfl⟩ := hbool
        refine .intro (fun j hj => ?_) fun p hp => ?_
        · obtain rfl : minimum = some (some j) := by
            cases minimum with
            | none => simp at hj
            | some found => exact congrArg some hj
          obtain ⟨m, hm, hread⟩ := of_found? hminimum
          obtain ⟨hnull, hread⟩ := of_nullable hread
          obtain rfl : m.2 = j := Option.some.inj hread
          exact ⟨hcanonical m hm, hnull⟩
        · have hmem := hp
          simp only [BoolParts.toQuery, parts, List.mem_append] at hmem
          obtain ⟨j, hj, hread⟩ : ∃ j : Json, j.IsCanonical ∧ decode? j = some p := by
            rcases hmem with ((hmem | hmem) | hmem) | hmem
            · exact of_found?_decodeItems? hcanonical hfilter hmem
            · exact of_found?_decodeItems? hcanonical hmust hmem
            · exact of_found?_decodeItems? hcanonical hshould hmem
            · exact of_found?_decodeItems? hcanonical hmustNot hmem
          exact ih p hp hj hread
    · obtain ⟨hfits, hparts⟩ := fits_of_decodeFlat? hbody hboost hflat
      exact .intro hfits (by simp [hparts])

end Query

end SearchStore
