import SearchStore.Proofs.Store.Accounts
import SearchStore.Proofs.Store.Completeness

/-! # Lookups in pieces

Many ids are looked up in pieces, one search after the other, and what is done
with the documents that are found is done after the last search. If a search
fails, it is the last one, and its error is the result of the whole.

`LooksUp` says so of whatever follows the lookups, and `lookups_cover` of the
three actions that look up many ids: no id is left out, and none is taken twice.
-/

namespace SearchStore.Store

variable {α ε σ : Type} {pattern : String} {server : Session.Server σ}

/-- A request with the answer to it. -/
abbrev Exchange := Request × Except Error Response

/-! ## The search for a piece -/

/-- A search for a few ids asks for as many documents as there are ids. -/
theorem body_lookupRequest (pattern : String) {ids : List String} (h : ids.length ≤ listLimit) :
    (lookupRequest pattern ids).body = some (.json (.obj
      [("query", .obj [("ids", .obj [("values", Json.ofStrings ids)])]),
        ("size", Json.ofNat ids.length)])) := by
  have hvalues : Json.IsCanonical (Json.ofStrings ids) := by
    refine .arr fun j hj => ?_
    obtain ⟨s, -, rfl⟩ := List.mem_map.mp hj
    exact .str s
  have hquery : Json.IsCanonical (.obj [("ids", .obj [("values", Json.ofStrings ids)])]) := by
    refine .obj (List.pairwise_singleton _ _) (List.forall_mem_singleton.mpr ?_)
    exact .obj (List.pairwise_singleton _ _) (List.forall_mem_singleton.mpr hvalues)
  have hbody : Json.IsCanonical (.obj
      [("query", .obj [("ids", .obj [("values", Json.ofStrings ids)])]),
        ("size", Json.ofNat ids.length)]) := by
    refine .obj ?_ (List.forall_mem_cons.mpr ⟨hquery, List.forall_mem_singleton.mpr (.int _)⟩)
    exact List.pairwise_pair.mpr (show "query" < "size" by decide)
  have hsize : (idsRequest ids).size = some ids.length := by
    rw [idsRequest, min_eq_left h]
  show some (RequestBody.json (idsRequest ids).toJson) = _
  rw [SearchRequest.toJson, SearchRequest.encode, hsize, ← hbody.canonical_eq]
  rfl

theorem run_hitsById_fst (server : Session.Server σ) (pattern : String) {ids : List String}
    (h : ids ≠ []) (x : σ) :
    (Session.run server (hitsById pattern ids) x).1 =
      shownHits (server (lookupRequest pattern ids) x).1 := by
  rw [hitsById_eq pattern h]
  rfl

theorem exchanges_hitsById (server : Session.Server σ) (pattern : String) {ids : List String}
    (h : ids ≠ []) (x : σ) :
    Session.exchanges server (hitsById pattern ids) x =
      [(lookupRequest pattern ids, (server (lookupRequest pattern ids) x).1)] := by
  rw [hitsById_eq pattern h]
  rfl

/-! ## One search after the other -/

/-- Each piece is looked up, and each answer shows a page of documents. -/
structure LookedUp (pattern : String) (pieces : List (List String)) (exchanged : List Exchange)
    (hits : List Hit) : Prop where
  requests : exchanged.map Prod.fst = pieces.map (lookupRequest pattern)
  pages : ∃ pages : List (List Hit),
    exchanged.map (fun exchange => shownHits exchange.2) = pages.map .ok ∧ hits = pages.flatten

/-- The pieces are looked up until an answer shows no documents but an error. -/
structure BrokenOff (pattern : String) (pieces : List (List String)) (exchanged : List Exchange)
    (e : Error) : Prop where
  exists_last : ∃ before piece after earlier hits answer, pieces = before ++ piece :: after ∧
    exchanged = earlier ++ [(lookupRequest pattern piece, answer)] ∧
    LookedUp pattern before earlier hits ∧ shownHits answer = .error e

theorem LookedUp.nil (pattern : String) : LookedUp pattern [] [] [] :=
  ⟨rfl, [], rfl, rfl⟩

section Step

variable {piece : List String} {pieces : List (List String)} {exchanged : List Exchange}
  {answer : Except Error Response} {page hits : List Hit} {e : Error}

theorem LookedUp.cons (hpage : shownHits answer = .ok page)
    (h : LookedUp pattern pieces exchanged hits) :
    LookedUp pattern (piece :: pieces) ((lookupRequest pattern piece, answer) :: exchanged)
      (page ++ hits) := by
  obtain ⟨pages, hpages, rfl⟩ := h.pages
  constructor
  · rw [List.map_cons, List.map_cons, h.requests]
  · exact ⟨page :: pages, by rw [List.map_cons, List.map_cons, hpage, hpages], rfl⟩

theorem BrokenOff.first (pieces : List (List String)) (h : shownHits answer = .error e) :
    BrokenOff pattern (piece :: pieces) [(lookupRequest pattern piece, answer)] e :=
  ⟨[], piece, pieces, [], [], answer, rfl, rfl, .nil pattern, h⟩

theorem BrokenOff.cons (hpage : shownHits answer = .ok page)
    (h : BrokenOff pattern pieces exchanged e) :
    BrokenOff pattern (piece :: pieces) ((lookupRequest pattern piece, answer) :: exchanged) e := by
  obtain ⟨before, last, after, earlier, hits, answer', rfl, rfl, hbefore, herror⟩ := h.exists_last
  exact ⟨piece :: before, last, after, _ :: earlier, page ++ hits, answer', rfl, rfl,
    hbefore.cons hpage, herror⟩

end Step

/-- The pieces are looked up one after the other, up to the first error. -/
theorem lookedUp_or_brokenOff (server : Session.Server σ) (pattern : String)
    {pieces : List (List String)} (hne : ∀ piece ∈ pieces, piece ≠ []) (x : σ) :
    (∃ hits, (Session.run server (hitsByChunks pattern pieces) x).1 = .ok hits ∧
      LookedUp pattern pieces (Session.exchanges server (hitsByChunks pattern pieces) x) hits) ∨
    ∃ e, (Session.run server (hitsByChunks pattern pieces) x).1 = .error e ∧
      BrokenOff pattern pieces (Session.exchanges server (hitsByChunks pattern pieces) x) e := by
  induction pieces generalizing x with
  | nil => exact .inl ⟨[], rfl, .nil pattern⟩
  | cons piece rest ih =>
    obtain ⟨hpiece, hrest⟩ := List.forall_mem_cons.mp hne
    have hresult := run_hitsById_fst server pattern hpiece x
    have hsent := exchanges_hitsById server pattern hpiece x
    rw [hitsByChunks]
    rcases hshown : shownHits (server (lookupRequest pattern piece) x).1 with e | page
    · -- the first search fails, and no other one is sent
      rw [hshown] at hresult
      refine .inr ⟨e, ?_, ?_⟩
      · rw [Action.run_bind_error hresult]
      · rw [Action.exchanges_bind_error hresult, hsent]
        exact .first rest hshown
    · rw [hshown] at hresult
      have hrun : Session.run server (hitsById pattern piece) x = (.ok page, _, _) :=
        Prod.ext hresult rfl
      rw [Action.run_bind_ok hrun, Action.exchanges_bind_ok hresult, hsent]
      rcases ih hrest (Session.run server (hitsById pattern piece) x).2.2 with
        ⟨hits, hok, hlooked⟩ | ⟨e, herror, hbroken⟩
      · refine .inl ⟨page ++ hits, ?_, ?_⟩
        · rw [Action.run_bind_ok (Prod.ext hok rfl)]
          rfl
        · have hnothing (y : σ) :
              Session.exchanges server (pure (page ++ hits) : Action (List Hit)) y = [] := rfl
          rw [Action.exchanges_bind_ok hok, hnothing, List.append_nil]
          exact hlooked.cons hshown
      · refine .inr ⟨e, ?_, ?_⟩
        · rw [Action.run_bind_error herror]
        · rw [Action.exchanges_bind_error herror]
          exact hbroken.cons hshown

/-! ## What follows the lookups -/

/-- What is exchanged, and what it ends with, if some pieces are looked up first. If an answer
shows no documents, nothing follows. -/
inductive LooksUp (pattern : String) (pieces : List (List String))
    (next : List Hit → List Exchange → Except Error α → Prop) :
    List Exchange → Except Error α → Prop
  | goesOn {lookups later : List Exchange} {hits : List Hit} {result : Except Error α}
      (hlooked : LookedUp pattern pieces lookups hits) (hnext : next hits later result) :
      LooksUp pattern pieces next (lookups ++ later) result
  | ends {lookups : List Exchange} {e : Error} (hbroken : BrokenOff pattern pieces lookups e) :
      LooksUp pattern pieces next lookups (.error e)

/-- What follows a lookup follows the searches for the pieces. -/
theorem looksUp_bind (pattern : String) (ids : List String) (f : List Hit → Action α) (x : σ)
    {next : List Hit → List Exchange → Except Error α → Prop}
    (hnext : ∀ hits y, next hits (Session.exchanges server (f hits) y)
      (Session.run server (f hits) y).1) :
    LooksUp pattern (chunks listLimit ids) next
      (Session.exchanges server (allHitsById pattern ids >>= f : Action α) x)
      (Session.run server (allHitsById pattern ids >>= f : Action α) x).1 := by
  have hne : ∀ piece ∈ chunks listLimit ids, piece ≠ [] :=
    fun piece hpiece => ne_nil_of_mem_chunks hpiece
  rcases lookedUp_or_brokenOff server pattern hne x with
    ⟨hits, hok, hlooked⟩ | ⟨e, herror, hbroken⟩
  · rw [allHitsById, Action.exchanges_bind_ok hok, Action.run_bind_ok (Prod.ext hok rfl)]
    exact .goesOn hlooked (hnext hits _)
  · rw [allHitsById, Action.exchanges_bind_error herror, Action.run_bind_error herror]
    exact .ends hbroken

/-- Items are sent in shipments and in order, and the result accounts for them. -/
structure SendsItems (items : List BulkItem) (exchanged : List Exchange)
    (result : Except Error BulkReport) : Prop where
  exists_shipments : ∃ shipments, exchanged = shipments.map Shipment.exchange ∧
    shipments.flatMap Shipment.items = items ∧ Accounted items.length shipments result

theorem sendsItems_runBulk (s : Store) (items : List BulkItem) (server : Session.Server σ) (y : σ) :
    SendsItems items (Session.exchanges server (s.runBulk items) y)
      (Session.run server (s.runBulk items) y).1 := by
  obtain ⟨shipments, t, hexchanges, hitems, ht, hresult⟩ := s.exists_runBulk server items y
  refine ⟨shipments, hexchanges, hitems, ?_⟩
  rw [hresult]
  exact ht.accounted (congrArg List.length hitems)

theorem bulkSetFields_eq (s : Store) (schema : Schema ε) (field : String)
    (values : List (String × Json)) (key : String) :
    s.bulkSetFields schema field values key = (do
      let hits ← allHitsById (schema.pattern key) (values.map Prod.fst)
      s.runBulk <| values.map fun (id, value) =>
        .merge (s.deletionIndex schema key hits id) id (.obj [(field, value)])) := by
  simp only [bulkSetFields, locate, bind_assoc, pure_bind, indexAmong, lookup_add, Json.lookup_nil,
    Option.or_none, deletionIndex]

/-- The ids are looked up in pieces: as few as their sizes allow, none of them empty, in order and
with nothing left out or added, each by a search that has room for a document of every id of the
piece. A list is made of the documents that all searches show, in the order of the answers; a
deletion in bulk sends one item for each of the ids, and a change of a field one for each of the
values, in their order and to the index that the answers name last for the id, or to that of the
day if they name none. If a search fails, nothing is sent after it, and the result is its error. -/
theorem lookups_cover (s : Store) (schema : Schema ε) (key : String) (server : Session.Server σ)
    (x : σ) :
    let pattern := schema.pattern key
    let index (hits : List Hit) (id : String) : String :=
      (indicesOf hits id).getLast?.getD (schema.index key s.today)
    (∀ ids : List String,
      let pieces := chunks listLimit ids
      pieces.length = (ids.length + listLimit - 1) / listLimit ∧ pieces.flatten = ids ∧
      (∀ piece ∈ pieces, piece ≠ [] ∧ piece.length ≤ listLimit ∧
        (lookupRequest pattern piece).body = some (.json (.obj
          [("query", .obj [("ids", .obj [("values", Json.ofStrings piece)])]),
            ("size", Json.ofNat piece.length)]))) ∧
      LooksUp pattern pieces
        (fun hits later result =>
          later = [] ∧ result = .ok (hits.filterMap fun hit => schema.decode? hit.source))
        (Session.exchanges server (list schema ids key) x)
        (Session.run server (list schema ids key) x).1 ∧
      LooksUp pattern pieces
        (fun hits => SendsItems (ids.map fun id => .delete (index hits id) id))
        (Session.exchanges server (s.bulkDelete schema ids key) x)
        (Session.run server (s.bulkDelete schema ids key) x).1) ∧
    ∀ (field : String) (values : List (String × Json)),
      LooksUp pattern (chunks listLimit (values.map Prod.fst))
        (fun hits => SendsItems
          (values.map fun (id, value) => .merge (index hits id) id (.obj [(field, value)])))
        (Session.exchanges server (s.bulkSetFields schema field values key) x)
        (Session.run server (s.bulkSetFields schema field values key) x).1 := by
  intro pattern index
  have hlimit : 0 < listLimit := by decide
  refine ⟨fun ids => ⟨length_chunks hlimit ids, flatten_chunks _ ids, ?_, ?_, ?_⟩,
    fun field values => ?_⟩
  · intro piece hpiece
    have hlength : piece.length ≤ listLimit := length_le_of_mem_chunks hlimit hpiece
    exact ⟨ne_nil_of_mem_chunks hpiece, hlength, body_lookupRequest pattern hlength⟩
  · exact looksUp_bind pattern ids _ x fun hits y => ⟨rfl, rfl⟩
  · rw [bulkDelete_eq]
    exact looksUp_bind pattern ids _ x fun hits y => sendsItems_runBulk s _ server y
  · rw [bulkSetFields_eq]
    exact looksUp_bind pattern _ _ x fun hits y => sendsItems_runBulk s _ server y

end SearchStore.Store
