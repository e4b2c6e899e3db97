import Mathlib.Data.List.Perm.Subperm
import SearchStore.Proofs.Store.Documents
import SearchStore.Proofs.Store.Rewriting

/-! # Which documents a lookup of many ids shows

The ids are looked up in pieces, and a lookup asks for as many documents as its
piece has ids. That is enough if no id is stored twice. But insertions do not look
for the documents that are there: an id can be in several indices of one pattern,
and the documents of some ids can then fill the page of all.

`lookups_complete_iff` says which ids are found whatever the engine chooses to
show: those of a piece in which the documents of the others are fewer than the
ids.
-/

namespace SearchStore.Store

variable {ε σ : Type} {schema : Schema ε} {docs : List Hit} {pattern key id : String}
  {ids : List String}

/-! ## Insertions -/

/-- What is stored of an entity that is inserted. -/
def placed (s : Store) (schema : Schema ε) (e : ε) (doc : Json) : Hit :=
  ⟨schema.index (schema.key e) s.today, schema.id e, doc⟩

/-- The documents that insertions leave, each of them on a day of its own. -/
inductive Inserted (schema : Schema ε) : List Hit → Prop
  | nil : Inserted schema []
  | put {docs : List Hit} {e : ε} {doc : Json} (s : Store) (h : Inserted schema docs)
      (hencode : schema.encode? e = some doc) : Inserted schema (put docs (s.placed schema e doc))

theorem insert_eq (s : Store) {e : ε} {doc : Json} (h : schema.encode? e = some doc) :
    s.insert schema e =
      Action.ask (putRequest (s.placed schema e doc).index (s.placed schema e doc).id doc)
        accepted :=
  putDocument_eq schema _ e (Schema.encode_eq_ok_iff.mpr h)

namespace Inserted

/-- An engine that has carried out any of the items of a bulk insertion, in any order, has
documents that insertions leave. -/
theorem bulk (s : Store) (h : Inserted schema docs) {entities : List ε} {written : List (ε × Json)}
    (hwritten : ∀ w ∈ written, w ∈ documents schema entities) :
    Inserted schema
      (written.foldl (fun docs w => Store.put docs (s.placed schema w.1 w.2)) docs) := by
  induction written generalizing docs with
  | nil => exact h
  | cons w rest ih =>
    refine ih (h.put s ?_) fun w' hw' => hwritten w' (List.mem_cons_of_mem w hw')
    obtain ⟨e, -, he⟩ := List.mem_filterMap.mp (hwritten w List.mem_cons_self)
    obtain ⟨doc, hdoc, rfl⟩ := Option.map_eq_some_iff.mp he
    exact hdoc

/-- Every document is one of an entity, with the id of the entity. -/
theorem exists_entity (h : Inserted schema docs) {d : Hit} (hd : d ∈ docs) :
    ∃ e, schema.encode? e = some d.source ∧ schema.id e = d.id := by
  induction h with
  | nil => exact absurd hd List.not_mem_nil
  | put s h hencode ih =>
    rcases mem_put.mp hd with ⟨hd, -⟩ | rfl
    · exact ih hd
    · exact ⟨_, hencode, rfl⟩

theorem nodup (h : Inserted schema docs) : (docs.map Hit.place).Nodup := by
  induction h with
  | nil => exact List.nodup_nil
  | put s h hencode ih => exact nodup_put ih

end Inserted

/-! ## Pieces -/

section Pieces

variable {α β : Type} {size : Nat} {xs piece : List α}

theorem flatten_chunks (size : Nat) (xs : List α) : (chunks size xs).flatten = xs := by
  fun_induction chunks size xs with
  | case1 => rfl
  | case2 x rest ih => rw [List.flatten_cons, ih, List.cons_append, List.take_append_drop]

theorem length_chunks (hsize : 0 < size) (xs : List α) :
    (chunks size xs).length = (xs.length + size - 1) / size := by
  fun_induction chunks size xs with
  | case1 => exact (Nat.div_eq_of_lt (by simp only [List.length_nil]; omega)).symm
  | case2 x rest ih =>
    have htotal : (x :: rest).length + size - 1 = rest.length + size := by
      simp only [List.length_cons]
      omega
    rw [List.length_cons, ih, List.length_drop, htotal, Nat.add_div_right _ hsize]
    -- either nothing is left after the first piece, or at least one item more
    rcases Nat.lt_or_ge rest.length size with hlast | hmore
    · rw [Nat.div_eq_of_lt hlast, Nat.div_eq_of_lt (by omega)]
    · rw [show rest.length - (size - 1) + size - 1 = rest.length by omega]

theorem length_le_of_mem_chunks (hsize : 0 < size) (h : piece ∈ chunks size xs) :
    piece.length ≤ size := by
  fun_induction chunks size xs with
  | case1 => exact absurd h List.not_mem_nil
  | case2 x rest ih =>
    rcases List.mem_cons.mp h with rfl | h
    · simp only [List.length_cons, List.length_take]
      omega
    · exact ih h

theorem ne_nil_of_mem_chunks (h : piece ∈ chunks size xs) : piece ≠ [] := by
  fun_induction chunks size xs with
  | case1 => exact absurd h List.not_mem_nil
  | case2 x rest ih =>
    rcases List.mem_cons.mp h with rfl | h
    · exact List.cons_ne_nil _ _
    · exact ih h

theorem forall₂_mem_right {R : α → β → Prop} {ys : List β}
    (h : List.Forall₂ R xs ys) {y : β} (hy : y ∈ ys) : ∃ x ∈ xs, R x y := by
  induction h with
  | nil => exact absurd hy List.not_mem_nil
  | cons hR _ ih =>
    rcases List.mem_cons.mp hy with rfl | hy
    · exact ⟨_, List.mem_cons_self, hR⟩
    · obtain ⟨x, hx, hR⟩ := ih hy
      exact ⟨x, List.mem_cons_of_mem _ hx, hR⟩

/-- If one of the values is good however each of them is chosen, all choices for some place are
good. -/
theorem forall_forall₂_iff {R : α → β → Prop} {q : β → Prop} (h : ∀ x ∈ xs, ∃ y, R x y) :
    (∀ ys, List.Forall₂ R xs ys → ∃ y ∈ ys, q y) ↔ ∃ x ∈ xs, ∀ y, R x y → q y := by
  constructor
  · intro hall
    induction xs with
    | nil => simpa using hall [] .nil
    | cons x rest ih =>
      by_cases hx : ∀ y, R x y → q y
      · exact ⟨x, List.mem_cons_self, hx⟩
      · -- a bad choice for this place leaves a good one for the others
        push Not at hx
        obtain ⟨y, hy, hbad⟩ := hx
        obtain ⟨x', hx', hgood⟩ := ih (fun x' hx' => h x' (List.mem_cons_of_mem x hx'))
          fun ys hys => by simpa [hbad] using hall (y :: ys) (.cons hy hys)
        exact ⟨x', List.mem_cons_of_mem x hx', hgood⟩
  · rintro ⟨x, hx, hgood⟩ ys hys
    obtain ⟨y, hy, hR⟩ := forall₂_mem_right hys.flip hx
    exact ⟨y, hy, hgood y hR⟩

end Pieces

/-! ## What is shown -/

/-- The documents that the lookups of some ids can show: for each piece a page. -/
def Shown (docs : List Hit) (pattern : String) (ids : List String) (hits : List Hit) : Prop :=
  ∃ pages, List.Forall₂ (fun piece page =>
    IsPage (min piece.length listLimit) (matching docs pattern piece) page)
      (chunks listLimit ids) pages ∧ hits = pages.flatten

/-- Documents of a kind prevail for some ids if there is one, and the others with these ids are
fewer than the ids. -/
def Prevails (docs : List Hit) (pattern : String) (p : Hit → Bool) (ids : List String) : Prop :=
  (∃ d ∈ matching docs pattern ids, p d) ∧
    (matching docs pattern ids).countP (fun d => !p d) < ids.length

/-- Documents of a kind are shown in any case exactly if they prevail in some piece. -/
theorem forall_shown_iff (docs : List Hit) (pattern : String) (ids : List String) (p : Hit → Bool) :
    (∀ hits, Shown docs pattern ids hits → ∃ d ∈ hits, p d) ↔
      ∃ piece ∈ chunks listLimit ids, Prevails docs pattern p piece := by
  calc (∀ hits, Shown docs pattern ids hits → ∃ d ∈ hits, p d)
      ↔ ∀ pages, List.Forall₂ (fun piece page =>
          IsPage (min piece.length listLimit) (matching docs pattern piece) page)
            (chunks listLimit ids) pages → ∃ page ∈ pages, ∃ d ∈ page, p d := by
        constructor
        · intro h pages hpages
          obtain ⟨d, hd, hp⟩ := h _ ⟨pages, hpages, rfl⟩
          obtain ⟨page, hpage, hd⟩ := List.mem_flatten.mp hd
          exact ⟨page, hpage, d, hd, hp⟩
        · rintro h hits ⟨pages, hpages, rfl⟩
          obtain ⟨page, hpage, d, hd, hp⟩ := h pages hpages
          exact ⟨d, List.mem_flatten.mpr ⟨page, hpage, hd⟩, hp⟩
    _ ↔ ∃ piece ∈ chunks listLimit ids, ∀ page,
          IsPage (min piece.length listLimit) (matching docs pattern piece) page →
            ∃ d ∈ page, p d :=
        forall_forall₂_iff fun piece _ => exists_page _ _
    _ ↔ ∃ piece ∈ chunks listLimit ids, Prevails docs pattern p piece := by
        refine exists_congr fun piece => and_congr_right fun hpiece => ?_
        have hlength : piece.length ≤ listLimit := length_le_of_mem_chunks (by decide) hpiece
        rw [forall_page_iff, min_eq_left hlength, Prevails]

/-- The documents that are shown are stored. -/
theorem mem_of_shown {hits : List Hit} (h : Shown docs pattern ids hits) {d : Hit} (hd : d ∈ hits) :
    d ∈ docs := by
  obtain ⟨pages, hpages, rfl⟩ := h
  obtain ⟨page, hpage, hd⟩ := List.mem_flatten.mp hd
  obtain ⟨piece, -, order, horder, rfl⟩ := forall₂_mem_right hpages hpage
  exact (mem_matching.mp (horder.mem_iff.mp (List.mem_of_mem_take hd))).1

/-- If the documents that match have different ids, each of them prevails. -/
theorem prevails_of_nodup (h : ((matching docs pattern ids).map Hit.id).Nodup) {p : Hit → Bool}
    {d : Hit} (hd : d ∈ matching docs pattern ids) (hp : p d) : Prevails docs pattern p ids := by
  refine ⟨⟨d, hd, hp⟩, ?_⟩
  rw [List.countP_eq_length_filter]
  have hnodup : (d.id :: ((matching docs pattern ids).filter fun d => !p d).map Hit.id).Nodup := by
    refine List.nodup_cons.mpr ⟨?_, (List.filter_sublist.map Hit.id).nodup h⟩
    intro hmem
    obtain ⟨other, hother, hid⟩ := List.mem_map.mp hmem
    obtain ⟨hother, hnot⟩ := List.mem_filter.mp hother
    obtain rfl := List.inj_on_of_nodup_map h hother hd hid
    simp [hp] at hnot
  -- the document and the others have different ids, all of them among those looked up
  have hsubset : d.id :: ((matching docs pattern ids).filter fun d => !p d).map Hit.id ⊆ ids := by
    intro id hid
    rcases List.mem_cons.mp hid with rfl | hid
    · exact (mem_matching.mp hd).2.2
    · obtain ⟨other, hother, rfl⟩ := List.mem_map.mp hid
      exact (mem_matching.mp (List.mem_filter.mp hother).1).2.2
  have hle := (List.subperm_of_subset hnodup hsubset).length_le
  rwa [List.length_cons, List.length_map] at hle

/-! ## Carrying out the lookups -/

/-- An engine that answers the lookups of all pieces of some ids, and truthfully. -/
def Informs (server : Session.Server σ) (stored : σ → List Hit) (pattern : String)
    (pieces : List (List String)) : Prop :=
  ∀ piece ∈ pieces, Truthful server stored pattern piece ∧
    ∀ x, ∃ page, shownHits (server (lookupRequest pattern piece) x).1 = .ok page

theorem run_hitsById {server : Session.Server σ} {x : σ} {page : List Hit} (hne : ids ≠ [])
    (hpage : shownHits (server (lookupRequest pattern ids) x).1 = .ok page) :
    Session.run server (hitsById pattern ids) x =
      (.ok page, { requests := [lookupRequest pattern ids] },
        (server (lookupRequest pattern ids) x).2) := by
  rw [hitsById_eq pattern hne, Action.ask]
  simp only [ExceptT.mk, Session.run, hpage]

theorem run_hitsByChunks {server : Session.Server σ} {stored : σ → List Hit}
    {pieces : List (List String)} (hne : ∀ piece ∈ pieces, piece ≠ [])
    (h : Informs server stored pattern pieces) (x : σ) :
    ∃ pages, List.Forall₂ (fun piece page =>
        IsPage (min piece.length listLimit) (matching (stored x) pattern piece) page) pieces pages ∧
      ∃ t y, Session.run server (hitsByChunks pattern pieces) x = (.ok pages.flatten, t, y) ∧
        stored y = stored x := by
  induction pieces generalizing x with
  | nil => exact ⟨[], .nil, {}, x, rfl, rfl⟩
  | cons piece rest ih =>
    obtain ⟨htruthful, hanswers⟩ := h piece List.mem_cons_self
    obtain ⟨page, hpage⟩ := hanswers x
    have hkeeps := htruthful.keeps x
    obtain ⟨pages, hpages, t, y, hrun, hstored⟩ := ih
      (fun piece' hpiece' => hne piece' (List.mem_cons_of_mem piece hpiece'))
      (fun piece' hpiece' => h piece' (List.mem_cons_of_mem piece hpiece'))
      (server (lookupRequest pattern piece) x).2
    rw [hkeeps] at hpages hstored
    have hfirst := run_hitsById (hne piece List.mem_cons_self) hpage
    refine ⟨page :: pages, .cons (htruthful.shows x page hpage) hpages, ?_⟩
    rw [hitsByChunks, Action.run_bind_ok hfirst, Action.run_bind_ok hrun]
    exact ⟨_, y, rfl, hstored⟩

/-! ## Lists and deletions -/

/-- The entities of documents, with the ids of the documents. -/
def readings (schema : Schema ε) (hits : List Hit) : List (String × ε) :=
  hits.filterMap fun hit => (schema.decode? hit.source).map (hit.id, ·)

/-- The index from which a document is deleted after a lookup. -/
def deletionIndex (s : Store) (schema : Schema ε) (key : String) (hits : List Hit) (id : String) :
    String :=
  (indicesOf hits id).getLast?.getD (schema.index key s.today)

theorem list_eq (schema : Schema ε) (ids : List String) (key : String) :
    list schema ids key = (do
      let hits ← allHitsById (schema.pattern key) ids
      return (readings schema hits).map Prod.snd) := by
  have hread (hits : List Hit) : (readings schema hits).map Prod.snd =
      hits.filterMap fun hit => schema.decode? hit.source := by
    simp [readings, List.map_filterMap, Function.comp_def]
  simp only [list, hread]

theorem bulkDelete_eq (s : Store) (schema : Schema ε) (ids : List String) (key : String) :
    s.bulkDelete schema ids key = (do
      let hits ← allHitsById (schema.pattern key) ids
      s.runBulk <| ids.map fun id => .delete (s.deletionIndex schema key hits id) id) := by
  simp only [bulkDelete, locate, bind_assoc, pure_bind, indexAmong, lookup_add, Json.lookup_nil,
    Option.or_none, deletionIndex]

theorem mem_readings {hits : List Hit} {e : ε} :
    (id, e) ∈ readings schema hits ↔
      ∃ d ∈ hits, d.id = id ∧ schema.decode? d.source = some e := by
  simp only [readings, List.mem_filterMap, Option.map_eq_some_iff, Prod.mk.injEq]
  constructor
  · rintro ⟨d, hd, e', he, rfl, rfl⟩
    exact ⟨d, hd, rfl, he⟩
  · rintro ⟨d, hd, rfl, he⟩
    exact ⟨d, hd, e, he, rfl, rfl⟩

/-- Whether a document has an id and can be read. -/
def readable (schema : Schema ε) (id : String) (d : Hit) : Bool :=
  d.id = id && (schema.decode? d.source).isSome

/-- An id is among the readings in any case exactly if its documents that can be read prevail in
some piece. -/
theorem forall_mem_readings_iff :
    (∀ hits, Shown docs pattern ids hits → ∃ e, (id, e) ∈ readings schema hits) ↔
      ∃ piece ∈ chunks listLimit ids, Prevails docs pattern (readable schema id) piece := by
  rw [← forall_shown_iff]
  refine forall_congr' fun hits => imp_congr_right fun _ => ?_
  constructor
  · rintro ⟨e, he⟩
    obtain ⟨d, hd, hid, hread⟩ := mem_readings.mp he
    exact ⟨d, hd, by simp [readable, hid, hread]⟩
  · rintro ⟨d, hd, hp⟩
    obtain ⟨hid, hread⟩ : d.id = id ∧ (schema.decode? d.source).isSome := by
      simpa [readable] using hp
    obtain ⟨e, he⟩ := Option.isSome_iff_exists.mp hread
    exact ⟨e, mem_readings.mpr ⟨d, hd, hid, he⟩⟩

/-- Whether a document with an id is stored in an index. -/
def Lives (docs : List Hit) (id index : String) : Prop := ∃ d ∈ docs, d.id = id ∧ d.index = index

/-- A document that is shown is deleted from an index in which its id is stored. -/
theorem lives_deletionIndex (s : Store) {hits : List Hit} (h : Shown docs pattern ids hits)
    {d : Hit} (hd : d ∈ hits) (hid : d.id = id) :
    Lives docs id (s.deletionIndex schema key hits id) := by
  have hne : indicesOf hits id ≠ [] := List.ne_nil_of_mem (mem_indicesOf.mpr ⟨d, hd, hid, rfl⟩)
  obtain ⟨hit, hhit, hhitId, hindex⟩ := mem_indicesOf.mp (List.getLast_mem hne)
  refine ⟨hit, mem_of_shown h hhit, hhitId, ?_⟩
  rw [hindex, deletionIndex, List.getLast?_eq_some_getLast hne, Option.getD_some]

theorem deletionIndex_of_forall_ne (s : Store) (schema : Schema ε) (key : String) {hits : List Hit}
    (h : ∀ d ∈ hits, d.id ≠ id) :
    s.deletionIndex schema key hits id = schema.index key s.today := by
  have hnone : indicesOf hits id = [] := by
    refine List.eq_nil_iff_forall_not_mem.mpr fun index hindex => ?_
    obtain ⟨d, hd, hid, -⟩ := mem_indicesOf.mp hindex
    exact h d hd hid
  rw [deletionIndex, hnone, List.getLast?_nil, Option.getD_none]

/-- An id is deleted where it is stored in any case exactly if its documents prevail in some piece,
or it is stored in the index of the day. -/
theorem forall_lives_deletionIndex_iff (s : Store) :
    (∀ hits, Shown docs pattern ids hits →
        Lives docs id (s.deletionIndex schema key hits id)) ↔
      (∃ piece ∈ chunks listLimit ids, Prevails docs pattern (fun d => d.id = id) piece) ∨
        Lives docs id (schema.index key s.today) := by
  rw [← forall_shown_iff]
  constructor
  · intro h
    refine or_iff_not_imp_right.mpr fun hday hits hhits => ?_
    -- if the id were not shown, the index of the day would be aimed at
    by_contra hnone
    refine hday ?_
    rw [← deletionIndex_of_forall_ne s schema key fun d hd hid => hnone ⟨d, hd, by simpa using hid⟩]
    exact h hits hhits
  · rintro h hits hhits
    by_cases hshown : ∃ d ∈ hits, d.id = id
    · obtain ⟨d, hd, hid⟩ := hshown
      exact lives_deletionIndex s hhits hd hid
    · push Not at hshown
      rw [deletionIndex_of_forall_ne s schema key hshown]
      rcases h with h | h
      · obtain ⟨d, hd, hid⟩ := h hits hhits
        exact absurd (by simpa using hid) (hshown d hd)
      · exact h

/-! ## Which ids are found -/

/-- If no id is stored twice in the indices of a pattern, a document with an id of a piece
prevails in the piece. -/
theorem exists_prevails_of_single (hdocs : Inserted schema docs)
    (hsingle : ∀ d ∈ docs, ∀ d' ∈ docs, Wildcard.isMatch d.index pattern →
      Wildcard.isMatch d'.index pattern → d.id = d'.id → d.index = d'.index)
    {d : Hit} (hd : d ∈ docs) (hindex : Wildcard.isMatch d.index pattern) (hid : d.id ∈ ids)
    {p : Hit → Bool} (hp : p d) :
    ∃ piece ∈ chunks listLimit ids, Prevails docs pattern p piece := by
  rw [← flatten_chunks listLimit ids] at hid
  obtain ⟨piece, hpiece, hid⟩ := List.mem_flatten.mp hid
  refine ⟨piece, hpiece, prevails_of_nodup ?_ (mem_matching.mpr ⟨hd, hindex, hid⟩) hp⟩
  refine (hdocs.nodup.of_map.filter _).map_on ?_
  intro d₁ h₁ d₂ h₂ heq
  obtain ⟨hmem₁, hindex₁, -⟩ := mem_matching.mp h₁
  obtain ⟨hmem₂, hindex₂, -⟩ := mem_matching.mp h₂
  refine List.inj_on_of_nodup_map hdocs.nodup hmem₁ hmem₂ ?_
  exact Prod.ext (hsingle d₁ hmem₁ d₂ hmem₂ hindex₁ hindex₂ heq) heq

/-- Where documents are those that insertions leave, and the engine answers lookups truthfully, a
list has the entities of the documents that are shown, and a deletion in bulk aims at the indices
in which they are. Whatever is shown, an id is listed exactly if its documents that can be read
prevail in a piece of the ids, and it is deleted where it is stored exactly if its documents
prevail in a piece or it is stored in the index of the day. All ids are, if none is stored twice
in the indices of the pattern. -/
theorem lookups_complete_iff (s : Store) (hdocs : Inserted schema docs) (ids : List String)
    (key : String) :
    let pattern := schema.pattern key
    let pieces := chunks listLimit ids
    (∀ (σ : Type) (server : Session.Server σ) (stored : σ → List Hit) (x : σ), stored x = docs →
      Informs server stored pattern pieces →
      ∃ hits, Shown docs pattern ids hits ∧
        (Session.run server (list schema ids key) x).1 =
          .ok ((readings schema hits).map Prod.snd) ∧
        ∃ y, stored y = docs ∧ (Session.run server (s.bulkDelete schema ids key) x).1 =
          (Session.run server (s.runBulk (ids.map fun id =>
            .delete (s.deletionIndex schema key hits id) id)) y).1) ∧
    (schema.ReadsBack → ∀ hits, Shown docs pattern ids hits →
      ∀ id e, (id, e) ∈ readings schema hits → schema.id e = id) ∧
    (∀ id, (∀ hits, Shown docs pattern ids hits → ∃ e, (id, e) ∈ readings schema hits) ↔
      ∃ piece ∈ pieces, Prevails docs pattern (readable schema id) piece) ∧
    (∀ id, (∀ hits, Shown docs pattern ids hits →
        Lives docs id (s.deletionIndex schema key hits id)) ↔
      (∃ piece ∈ pieces, Prevails docs pattern (fun d => d.id = id) piece) ∨
        Lives docs id (schema.index key s.today)) ∧
    ((∀ d ∈ docs, ∀ d' ∈ docs, Wildcard.isMatch d.index pattern →
        Wildcard.isMatch d'.index pattern → d.id = d'.id → d.index = d'.index) →
      ∀ d ∈ docs, Wildcard.isMatch d.index pattern → d.id ∈ ids →
        ∀ hits, Shown docs pattern ids hits →
          ((schema.decode? d.source).isSome → ∃ e, (d.id, e) ∈ readings schema hits) ∧
          Lives docs d.id (s.deletionIndex schema key hits d.id)) := by
  intro pattern pieces
  refine ⟨?_, ?_, fun id => forall_mem_readings_iff, fun id => forall_lives_deletionIndex_iff s, ?_⟩
  · rintro σ server stored x rfl hinforms
    obtain ⟨pages, hpages, t, y, hrun, hstored⟩ :=
      run_hitsByChunks (fun _ hpiece => ne_nil_of_mem_chunks hpiece) hinforms x
    have hlookup :
        Session.run server (allHitsById pattern ids) x = (.ok pages.flatten, t, y) := hrun
    refine ⟨pages.flatten, ⟨pages, hpages, rfl⟩, ?_, y, hstored, ?_⟩
    · rw [list_eq, Action.run_bind_ok hlookup]
      rfl
    · rw [bulkDelete_eq, Action.run_bind_ok hlookup]
  · -- what is read from an inserted document is the entity that was inserted
    intro hback hits hhits id e he
    obtain ⟨d, hd, rfl, hread⟩ := mem_readings.mp he
    obtain ⟨e', hencode, hid⟩ := hdocs.exists_entity (mem_of_shown hhits hd)
    obtain rfl : e = e' := Option.some.inj (hread.symm.trans (hback e' _ hencode))
    exact hid
  · intro hsingle d hd hindex hid hits hhits
    constructor
    · intro hread
      refine forall_mem_readings_iff.mpr ?_ hits hhits
      exact exists_prevails_of_single hdocs hsingle hd hindex hid (by simp [readable, hread])
    · refine (forall_lives_deletionIndex_iff s).mpr (.inl ?_) hits hhits
      exact exists_prevails_of_single hdocs hsingle hd hindex hid (by simp)

/-! ### An id in two accounts -/

/-- A store on a day on which portraits are inserted. -/
def keeper : Store := { today := ⟨2024, 3, 15⟩ }

/-- Portraits with the indices of their accounts, and with no two in one place, can be inserted one
after the other. -/
theorem inserted_hung {hanging : List (String × Portrait)}
    (hindex : ∀ entry ∈ hanging, portraits.index entry.2.account keeper.today = entry.1)
    (hplaces : (hanging.map fun entry => (entry.1, entry.2.id)).Nodup) :
    Inserted portraits (hanging.map fun entry => (entry.2.hung entry.1).toHit) := by
  induction hanging using List.reverseRecOn with
  | nil => exact .nil
  | append_singleton hanging entry ih =>
    rw [List.map_append, List.nodup_append] at hplaces
    obtain ⟨hothers, -, hnew⟩ := hplaces
    have hinserted := (ih (fun other hother => hindex other (List.mem_append_left _ hother))
      hothers).put keeper (e := entry.2) rfl
    have hplaced : keeper.placed portraits entry.2 (.ofStringMembers entry.2.members) =
        (entry.2.hung entry.1).toHit := by
      rw [placed, show portraits.key entry.2 = entry.2.account from rfl, hindex entry (by simp)]
      rfl
    rw [hplaced, put, List.filter_eq_self.mpr] at hinserted
    · rwa [List.map_append]
    · intro other hother
      obtain ⟨entry', hentry', rfl⟩ := List.mem_map.mp hother
      have hne := hnew _ (List.mem_map_of_mem hentry') _
        (List.mem_map_of_mem (List.mem_singleton_self entry))
      exact decide_eq_true hne

/-- Portraits of different heroes in two accounts are both listed, and deleted where they are. -/
theorem lookups_complete_two :
    let hanging : List (String × Portrait) :=
      [("hero-a-v1", ⟨"a", "red", "1", "Ada"⟩), ("hero-b-v1", ⟨"b", "blue", "2", "Bob"⟩)]
    let docs := hanging.map fun entry => (entry.2.hung entry.1).toHit
    Inserted portraits docs ∧
      ∀ hits, Shown docs (portraits.pattern "") ["1", "2"] hits →
        (∃ e, ("2", e) ∈ readings portraits hits) ∧
          Lives docs "2" (keeper.deletionIndex portraits "" hits "2") := by
  intro hanging docs
  have hinserted : Inserted portraits docs := inserted_hung (by decide +kernel) (by decide)
  refine ⟨hinserted, fun hits hhits => ?_⟩
  have hmatch : Wildcard.isMatch "hero-b-v1" (portraits.pattern "") := by decide +kernel
  have hsingle : ∀ d ∈ docs, ∀ d' ∈ docs, d.id = d'.id → d.index = d'.index := by
    simp [docs, hanging, Portrait.hung, StringHit.toHit]
  obtain ⟨hread, hlives⟩ := (lookups_complete_iff keeper hinserted ["1", "2"] "").2.2.2.2
    (fun d hd d' hd' _ _ hid => hsingle d hd d' hd' hid)
    ((⟨"b", "blue", "2", "Bob"⟩ : Portrait).hung "hero-b-v1").toHit (by simp [docs, hanging])
    hmatch (by simp [Portrait.hung, StringHit.toHit]) hits hhits
  exact ⟨hread rfl, hlives⟩

/-- If a hero has portraits in two accounts, an engine can show them both and leave out the other
hero that is asked for. That one is not listed, and is deleted where it is not stored. -/
theorem not_listed_beside_twin :
    let twin : Portrait := ⟨"b", "red", "1", "Ada"⟩
    let bob : Portrait := ⟨"b", "blue", "2", "Bob"⟩
    let hanging := [("hero-a-v1", Portrait.ada), ("hero-b-v1", twin), ("hero-b-v1", bob)]
    let docs := hanging.map fun entry => (entry.2.hung entry.1).toHit
    let server := answering [Portrait.ada.hung "hero-a-v1", twin.hung "hero-b-v1"]
    let pattern := portraits.pattern ""
    Inserted portraits docs ∧
      Informs server (fun _ => docs) pattern (chunks listLimit ["1", "2"]) ∧
      Wildcard.isMatch "hero-b-v1" pattern ∧ Lives docs "2" "hero-b-v1" ∧
      (Session.run server (list portraits ["1", "2"] "") ()).1 = .ok [Portrait.ada, twin] ∧
      (Session.run server (keeper.bulkDelete portraits ["1", "2"] "") ()).1 =
        (Session.run server
          (keeper.runBulk [.delete "hero-b-v1" "1", .delete "hero--v1" "2"]) ()).1 ∧
      ¬ Lives docs "2" "hero--v1" := by
  intro twin bob hanging docs server pattern
  have hlegible : StringHit.Legible [Portrait.ada.hung "hero-a-v1", twin.hung "hero-b-v1"] := by
    decide +kernel
  have hshown (ids : List String) :
      shownHits (server (lookupRequest pattern ids) ()).1 = .ok (docs.take 2) := by
    rw [show server = answering _ from rfl, answering_lookup]
    exact hlegible.shownHits
  have hA : Wildcard.isMatch "hero-a-v1" pattern := by decide +kernel
  have hB : Wildcard.isMatch "hero-b-v1" pattern := by decide +kernel
  -- all three documents match, and the page has room for two of them
  have hmatching : matching docs pattern ["1", "2"] = docs := by
    refine List.filter_eq_self.mpr fun d hd => ?_
    simp only [docs, hanging, List.map_cons, List.map_nil, List.mem_cons, List.not_mem_nil,
      or_false] at hd
    rcases hd with rfl | rfl | rfl
    · simp [Portrait.hung, StringHit.toHit, hA, Portrait.ada]
    · simp [Portrait.hung, StringHit.toHit, hB, twin]
    · simp [Portrait.hung, StringHit.toHit, hB, bob]
  have hchunks : chunks listLimit ["1", "2"] = [["1", "2"]] :=
    chunks_of_length_le (List.cons_ne_nil _ _) (by decide)
  have hlookup : Session.run server (allHitsById pattern ["1", "2"]) () =
      (.ok (docs.take 2), { requests := [lookupRequest pattern ["1", "2"]] }, ()) := by
    have hone : allHitsById pattern ["1", "2"] = hitsById pattern ["1", "2"] := by
      rw [allHitsById, hchunks]
      simp [hitsByChunks]
    rw [hone, run_hitsById (List.cons_ne_nil _ _) (hshown _)]
  have hday : portraits.index "" keeper.today = "hero--v1" := by decide +kernel
  refine ⟨inserted_hung (by decide +kernel) (by decide), ?_, hB, ?_, ?_, ?_, ?_⟩
  · intro piece hpiece
    rw [hchunks] at hpiece
    obtain rfl := List.mem_singleton.mp hpiece
    refine ⟨⟨fun x page hpage => ⟨docs, ?_, ?_⟩, fun x => rfl⟩, fun x => ⟨_, hshown _⟩⟩
    · rw [hmatching]
    · exact (Except.ok.inj ((hshown _).symm.trans hpage)).symm
  · exact ⟨(bob.hung "hero-b-v1").toHit, by simp [docs, hanging], rfl, rfl⟩
  · rw [list_eq, Action.run_bind_ok hlookup]
    rfl
  · rw [bulkDelete_eq, Action.run_bind_ok hlookup]
    have hone : keeper.deletionIndex portraits "" (docs.take 2) "1" = "hero-b-v1" := rfl
    have htwo : keeper.deletionIndex portraits "" (docs.take 2) "2" = "hero--v1" := by
      rw [deletionIndex_of_forall_ne, hday]
      simp [docs, hanging, Portrait.hung, StringHit.toHit, Portrait.ada, twin]
    simp only [List.map_cons, List.map_nil, hone, htwo]
  · rintro ⟨d, hd, hid, hindex⟩
    simp [docs, hanging, Portrait.hung, StringHit.toHit] at hd
    rcases hd with rfl | rfl | rfl
    · exact absurd hindex (by decide)
    · exact absurd hindex (by decide)
    · exact absurd hindex (by decide)

end SearchStore.Store
