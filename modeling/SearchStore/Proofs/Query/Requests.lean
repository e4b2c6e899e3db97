import SearchStore.Proofs.Aggregation.RoundTrip
import SearchStore.Proofs.Query.RoundTrip
import SearchStore.Query.Request

/-! # Requests are read back

The bodies of searches and counts are records of queries, sort clauses and
aggregations. `requests_roundTrip` says of all four that what is written for
them is read back, and that whatever they are read from, writing them and
reading that gives the same again. The name `aggs` is read as `aggregations`,
and never written.
-/

namespace SearchStore

open Json

/-! ## Sort clauses -/

theorem sortOrder_back (order : SortOrder) :
    required "order" SortOrder.decode? [("order", Json.str order.name)] = some order := by
  cases order <;> rfl

theorem decodeSort?_encodeSort {clause : SortClause} (h : InOrder clause) :
    decodeSort? (encodeSort clause).canonical = some clause :=
  asMap?_eq h (fun order => .obj [("order", .str order.name)]) fun f _ => sortOrder_back f.2

namespace SearchRequest

/-- A search as it can be asked for. -/
structure Valid (r : SearchRequest) : Prop where
  query : ∀ q ∈ r.query, q.Valid
  sort : ∀ clause ∈ r.sort, InOrder clause
  start : ∀ n ∈ r.start, n < UInt64.size
  size : ∀ n ∈ r.size, n < UInt64.size
  aggregations : ∀ inner ∈ r.aggregations, InOrder inner ∧ ∀ e ∈ inner, e.2.Valid

/-- The boosts in the query of a search are finite. -/
def FiniteBoosts (r : SearchRequest) : Prop := ∀ q ∈ r.query, q.Throughout Query.FiniteBoost

/-- Sort clauses in a list, if there are any. -/
def listedSort (sort : List SortClause) : Option Json :=
  if sort.isEmpty then none else some (.arr (sort.map encodeSort))

def fields (r : SearchRequest) : List (String × Option Json) :=
  [("query", r.query.map (Query.encode Query.wideBoost)), ("sort", listedSort r.sort),
    ("from", r.start.map ofNat), ("size", r.size.map ofNat), ("_source", r.source.map ofStrings),
    ("aggregations", r.aggregations.map fun inner => .obj (Aggregation.encodeMembers inner))]

theorem encode_eq (r : SearchRequest) : r.encode Query.wideBoost = .obj (present r.fields) := by
  have hsort : listMember "sort" (r.sort.map encodeSort) =
      optionalMember "sort" (listedSort r.sort) := by
    cases h : r.sort <;> rfl
  simp [encode, present, fields, hsort]

theorem exists_members (r : SearchRequest) : ∃ ms, r.toJson = .obj ms ∧ Holds ms r.fields := by
  rw [toJson, encode_eq]
  exact exists_canonical_present r.fields (by simp [fields])

/-- A search is read back from its value. -/
theorem Valid.decode?_toJson {r : SearchRequest} (h : r.Valid) : decode? r.toJson = some r := by
  obtain ⟨ms, hms, hholds⟩ := r.exists_members
  have hquery : optional "query" Query.decode? ms = some r.query :=
    hholds.optional (Query.encode Query.wideBoost) (by simp [fields]) fun q hq =>
      ⟨(h.query q hq).decode?_toJson, q.canonical_encode_ne_null Query.wideBoost⟩
  have hsort : withDefault "sort" [] (fun j => j.asItems?.bind fun items => items.mapM decodeSort?)
      ms = some r.sort := by
    have hmember : member? ["sort"] ms = some ((listedSort r.sort).map canonical) :=
      hholds.find (by simp [fields])
    have hback : ((r.sort.map encodeSort).map canonical).mapM decodeSort? = some r.sort := by
      rw [List.map_map]
      exact mapM_map_eq fun clause hclause => decodeSort?_encodeSort (h.sort clause hclause)
    rw [withDefault, withDefaultAmong, hmember]
    cases hsort : r.sort with
    | nil => rfl
    | cons clause rest =>
      rw [hsort] at hback
      simpa [listedSort, canonical, canonicalItems_eq, asItems?] using hback
  have hstart : optional "from" asCount? ms = some r.start :=
    hholds.optional ofNat (by simp [fields]) fun n hn => asBelow?_back (h.start n hn)
  have hsize : optional "size" asCount? ms = some r.size :=
    hholds.optional ofNat (by simp [fields]) fun n hn => asBelow?_back (h.size n hn)
  have hsource : optional "_source" asStrings? ms = some r.source :=
    hholds.optional ofStrings (by simp [fields]) fun ss _ =>
      ⟨asStrings?_back ss, canonical_arr_ne_null _⟩
  have haggregations : optionalAmong ["aggregations", "aggs"] Aggregation.decodeMap? ms =
      some r.aggregations := by
    have hmember := hholds.findAmong ["aggregations", "aggs"] "aggregations"
      (r.aggregations.map fun inner => .obj (Aggregation.encodeMembers inner))
      (by simp [fields]) (by simp) (by simp [fields])
    refine optionalAmong_eq hmember fun inner hinner => ⟨?_, canonical_obj_ne_null _⟩
    obtain ⟨horder, hvalid⟩ := h.aggregations inner hinner
    exact Aggregation.decodeMap?_encodeMembers horder fun e he => (hvalid e he).decode?_encode
  simp [decode?, hms, asRecord?, hquery, hsort, hstart, hsize, hsource, haggregations]

/-- A search that is read from a canonical value is as it can be asked for, if its boosts are
finite. -/
theorem valid_of_decode? {r : SearchRequest} (hboosts : r.FiniteBoosts) {j : Json}
    (hj : j.IsCanonical) (h : decode? j = some r) : r.Valid := by
  obtain ⟨ms, hms, h⟩ := Option.bind_eq_some_iff.mp h
  obtain ⟨query, hquery, h⟩ := Option.bind_eq_some_iff.mp h
  obtain ⟨sort, hsort, h⟩ := Option.bind_eq_some_iff.mp h
  obtain ⟨start, hstart, h⟩ := Option.bind_eq_some_iff.mp h
  obtain ⟨size, hsize, h⟩ := Option.bind_eq_some_iff.mp h
  obtain ⟨source, -, h⟩ := Option.bind_eq_some_iff.mp h
  obtain ⟨aggregations, haggregations, h⟩ := Option.bind_eq_some_iff.mp h
  obtain rfl := Option.some.inj h
  refine ⟨fun q hq => ?_, fun clause hclause => ?_, fun n hn => ?_, fun n hn => ?_,
    fun inner hinner => ?_⟩
  · obtain ⟨m, hm, -, hread⟩ := of_optionalAmong hquery hq
    exact Query.valid_of_decode? (hboosts q hq)
      (hj.of_mem_values (mem_values_of_asRecord? hms hm)) hread
  · obtain ⟨member, hmember, hread⟩ := Option.bind_eq_some_iff.mp hsort
    cases member with
    | none =>
      obtain rfl : [] = sort := Option.some.inj hread
      cases hclause
    | some v =>
      obtain ⟨items, -, hitems⟩ := Option.bind_eq_some_iff.mp hread
      obtain ⟨item, -, hitem⟩ := of_mapM hitems clause hclause
      exact (of_asMap? hitem).1
  · obtain ⟨m, -, -, hread⟩ := of_optionalAmong hstart hn
    exact lt_of_asBelow? hread
  · obtain ⟨m, -, -, hread⟩ := of_optionalAmong hsize hn
    exact lt_of_asBelow? hread
  · obtain ⟨m, -, -, hread⟩ := of_optionalAmong haggregations hinner
    rw [Aggregation.decodeMap?_eq] at hread
    obtain ⟨horder, hall⟩ := of_asMap? hread
    refine ⟨horder, fun e he => ?_⟩
    obtain ⟨v, -, hv⟩ := hall e he
    exact Aggregation.valid_of_decode? hv

end SearchRequest

namespace CountRequest

/-- A count as it can be asked for. -/
def Valid (r : CountRequest) : Prop := ∀ q ∈ r.query, q.Valid

/-- The boosts in the query of a count are finite. -/
def FiniteBoosts (r : CountRequest) : Prop := ∀ q ∈ r.query, q.Throughout Query.FiniteBoost

theorem decode?_toJson {r : CountRequest} (h : r.Valid) : decode? r.toJson = some r := by
  obtain ⟨ms, hms, hholds⟩ := exists_canonical_present
    [("query", r.query.map (Query.encode Query.wideBoost))] (by simp)
  have hquery : optional "query" Query.decode? ms = some r.query :=
    hholds.optional (Query.encode Query.wideBoost) (by simp) fun q hq =>
      ⟨(h q hq).decode?_toJson, q.canonical_encode_ne_null Query.wideBoost⟩
  have htoJson : r.toJson = .obj ms := by
    rw [← hms, toJson, encode, present, List.flatMap_singleton]
  simp [decode?, htoJson, asRecord?, hquery]

theorem valid_of_decode? {r : CountRequest} (hboosts : r.FiniteBoosts) {j : Json}
    (hj : j.IsCanonical) (h : decode? j = some r) : r.Valid := by
  obtain ⟨ms, hms, h⟩ := Option.bind_eq_some_iff.mp h
  obtain ⟨query, hquery, h⟩ := Option.bind_eq_some_iff.mp h
  obtain rfl := Option.some.inj h
  intro q hq
  obtain ⟨m, hm, -, hread⟩ := of_optionalAmong hquery hq
  exact Query.valid_of_decode? (hboosts q hq)
    (hj.of_mem_values (mem_values_of_asRecord? hms hm)) hread

end CountRequest

/-! ## All of them -/

/-- What is written for valid values is read back, and what is read from a value in canonical form
is read again from what is written for it. -/
structure RoundTrips {α : Type} (write : α → Json) (read : Json → Option α)
    (Valid FiniteBoosts : α → Prop) : Prop where
  written : ∀ x, Valid x → read (write x) = some x
  read : ∀ j x, Json.IsCanonical j → FiniteBoosts x → read j = some x → read (write x) = some x

theorem RoundTrips.of_valid {α : Type} {write : α → Json} {read : Json → Option α}
    {Valid FiniteBoosts : α → Prop} (hwritten : ∀ x, Valid x → read (write x) = some x)
    (hread : ∀ j x, Json.IsCanonical j → FiniteBoosts x → read j = some x → Valid x) :
    RoundTrips write read Valid FiniteBoosts :=
  ⟨hwritten, fun j x hj hboosts h => hwritten x (hread j x hj hboosts h)⟩

/-- Aggregations are written under their full name only, if there are any. -/
def WritesAggregations (j : Json) (any : Bool) : Prop :=
  j.get? "aggs" = none ∧ (j.get? "aggregations").isSome = any

theorem SearchRequest.writesAggregations (r : SearchRequest) :
    WritesAggregations r.toJson r.aggregations.isSome := by
  obtain ⟨ms, hms, hholds⟩ := r.exists_members
  have hfound : member? ["aggregations"] ms = some ((r.aggregations.map fun inner =>
      Json.obj (Aggregation.encodeMembers inner)).map canonical) :=
    hholds.find (by simp [fields])
  rw [WritesAggregations, hms, get?_of_member? (hholds.absent "aggs" (by simp [fields])),
    get?_of_member? hfound]
  simp

theorem Aggregation.writesAggregations (a : Aggregation) :
    WritesAggregations a.encode.canonical !a.inner.isEmpty := by
  obtain ⟨slots, inner⟩ := a
  obtain ⟨ms, hms, hholds⟩ := exists_canonical_present _ (nodup_fields (.mk slots inner))
  have habsent := hholds.absent "aggs" (by simp [fields, AggregationSlots.fields])
  have hfound := hholds.find (List.mem_append_right _ (List.mem_singleton_self _))
  rw [WritesAggregations, encode_eq, hms, get?_of_member? habsent, get?_of_member? hfound]
  cases inner <;> simp [Aggregation.inner]

/-- Queries, aggregations, searches and counts are read back. Where inner aggregations were read
under their short name, they are written under the full one. -/
theorem requests_roundTrip :
    RoundTrips Query.toJson Query.decode? Query.Valid (Query.Throughout Query.FiniteBoost) ∧
    RoundTrips (fun a => a.encode.canonical) Aggregation.decode? Aggregation.Valid
      (fun _ => True) ∧
    RoundTrips SearchRequest.toJson SearchRequest.decode? SearchRequest.Valid
      SearchRequest.FiniteBoosts ∧
    RoundTrips CountRequest.toJson CountRequest.decode? CountRequest.Valid
      CountRequest.FiniteBoosts ∧
    (∀ r : SearchRequest, WritesAggregations r.toJson r.aggregations.isSome) ∧
    ∀ a : Aggregation, WritesAggregations a.encode.canonical !a.inner.isEmpty := by
  refine ⟨.of_valid ?_ ?_, .of_valid ?_ ?_, .of_valid ?_ ?_, .of_valid ?_ ?_,
    SearchRequest.writesAggregations, Aggregation.writesAggregations⟩
  · exact fun q h => h.decode?_toJson
  · exact fun j q hj hboosts h => Query.valid_of_decode? hboosts hj h
  · exact fun a h => h.decode?_encode
  · exact fun j a _ _ h => Aggregation.valid_of_decode? h
  · exact fun r h => h.decode?_toJson
  · exact fun j r hj hboosts h => SearchRequest.valid_of_decode? hboosts hj h
  · exact fun r h => CountRequest.decode?_toJson h
  · exact fun j r hj hboosts h => CountRequest.valid_of_decode? hboosts hj h

/-- A search with a boost of one and an aggregation under its short name is read again from what
is written for it. -/
theorem requests_roundTrip_short :
    let j : Json := .obj [
      ("aggs", .obj [("a", .obj [("avg", .obj [("field", .str "x")])])]),
      ("query", .obj [("match_all", .obj [("boost", .int 1)])])]
    let r : SearchRequest :=
      { query := some (.matchAll (some ⟨1065353216⟩)), aggregations := some [("a", .avg "x")] }
    SearchRequest.decode? j = some r ∧ SearchRequest.decode? r.toJson = some r := by
  intro j r
  have hread : SearchRequest.decode? j = some r := rfl
  have hboosts : r.FiniteBoosts := by
    intro q hq
    obtain rfl : Query.matchAll (some ⟨1065353216⟩) = q := Option.some.inj hq
    refine .intro (fun b hb => ?_) nofun
    obtain rfl : (⟨1065353216⟩ : Single) = b := by simpa using hb
    decide
  have hsingle (name : String) {v : Json} (hv : v.IsCanonical) :
      (Json.obj [(name, v)]).IsCanonical :=
    .obj (List.pairwise_singleton _ _) (List.forall_mem_singleton.mpr hv)
  have hj : j.IsCanonical := by
    refine .obj (by decide) (List.forall_mem_cons.mpr ⟨?_, List.forall_mem_singleton.mpr ?_⟩)
    · exact hsingle "a" (hsingle "avg" (hsingle "field" (.str "x")))
    · exact hsingle "match_all" (hsingle "boost" (.int 1))
  exact ⟨hread, requests_roundTrip.2.2.1.read j r hj hboosts hread⟩

end SearchStore
