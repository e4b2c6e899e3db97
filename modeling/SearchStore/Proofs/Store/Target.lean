import SearchStore.Proofs.Store.Insertion
import SearchStore.Proofs.Store.Overlap
import SearchStore.Proofs.Store.Writing

/-! # Where changed documents go

A document whose fields are set is looked up by its id, and what becomes of it is put under the id
of the changed entity. That is the place where it was found exactly if the changed entity has the id
that was asked for (`setFields_target_iff`). It has that id if the document is read as an entity
with it and the fields leave the ids of entities as they are. Otherwise the document stays as it is,
and another one is written or replaced.
-/

namespace SearchStore

theorem pathOf_document_inj {index id target : String} :
    pathOf [index, "_doc", target] = pathOf [index, "_doc", id] ↔ target = id := by
  constructor
  · intro h
    simpa using pathOf_inj (List.cons_ne_nil _ _) (List.cons_ne_nil _ _) h
  · rintro rfl
    rfl

namespace Store

variable {ε σ : Type}

/-- A document that is put under an id leaves all documents with other ids as they are, unless it
replaces another one. -/
theorem keeps_others_iff {docs : List Hit} {index id target : String} {doc : Json} :
    (∀ d ∈ docs, d.place ≠ (index, id) → d ∈ put docs ⟨index, target, doc⟩) ↔
      target = id ∨ ∀ d ∈ docs, d.place = (index, target) → d.source = doc := by
  simp only [mem_put]
  by_cases hid : target = id
  · subst hid
    exact iff_of_true (fun d hd hplace => .inl ⟨hd, hplace⟩) (.inl rfl)
  rw [or_iff_right hid]
  constructor
  · intro h d hd hplace
    have hother : d.place ≠ (index, id) := by
      rw [hplace]
      simpa using hid
    rcases h d hd hother with ⟨-, hkept⟩ | rfl
    · exact absurd hplace hkept
    · rfl
  · intro h d hd _
    by_cases hplace : d.place = (index, target)
    · obtain ⟨rfl, rfl⟩ := Prod.mk.inj hplace
      rw [← h d hd rfl]
      exact .inr rfl
    · exact .inl ⟨hd, hplace⟩

/-- Nothing is sent after the lookup, or what becomes of the document that is found. -/
theorem setFields_exchanges (schema : Schema ε) (id key : String) (fields : List (String × Json))
    (server : Session.Server σ) (x : σ) :
    let lookup := lookupRequest (schema.pattern key) [id]
    let found := (server lookup x).1
    let sent := Session.exchanges server (setFields schema id fields key) x
    sent = [(lookup, found)] ∨ ∃ hit target doc written, Shows found hit ∧
      schema.changed fields hit.source = .ok (target, doc) ∧
      sent = [(lookup, found), (putRequest hit.index target doc, written)] := by
  intro lookup found sent
  rcases fails_or_shows (schema.pattern key) id found with ⟨error, hfails⟩ | ⟨hit, hshows⟩
  · left
    simp only [sent, setFields_eq, Session.exchanges]
    rw [hfails.firstHit]
    rfl
  rcases schema.unchangeable_or_changed fields hit.source with ⟨error, h⟩ | ⟨target, doc, h⟩
  · left
    simp only [sent, setFields_eq, Session.exchanges]
    rw [hshows.firstHit]
    simp only [h.changed_eq]
    rfl
  · exact .inr ⟨hit, target, doc, _, hshows, h, (setFields_of_changed hshows.firstHit h).1⟩

/-- To set fields of a document puts what becomes of it into the index where it was found, under
the id of the changed entity. Its path is that of the document that was found exactly if this is the
id that was asked for, which it is if the stored document is read as an entity with that id and the
fields leave the ids of entities as they are. With an engine that puts what it accepts in its place,
no other document is replaced then, and with another id exactly if there is none, or just the same
one, in the place of the changed entity. -/
theorem setFields_target_iff (schema : Schema ε) (id key : String) (fields : List (String × Json))
    (server : Session.Server σ) (x : σ) :
    let lookup := lookupRequest (schema.pattern key) [id]
    let found := (server lookup x).1
    let result := Session.run server (setFields schema id fields key) x
    let sent := Session.exchanges server (setFields schema id fields key) x
    (sent = [(lookup, found)] ∨ ∃ hit target doc written, Shows found hit ∧
      schema.changed fields hit.source = .ok (target, doc) ∧
      sent = [(lookup, found), (putRequest hit.index target doc, written)]) ∧
    ∀ hit target doc, Shows found hit → schema.changed fields hit.source = .ok (target, doc) →
      ((∀ p ∈ sent, p.1.method = .put → p.1.path = pathOf [hit.index, "_doc", id]) ↔
        target = id) ∧
      (schema.OwnId id hit.source → schema.LeavesId fields → target = id) ∧
      ∀ docs : σ → List Hit, docs (server lookup x).2 = docs x →
        Puts server docs hit.index target → result.1 = .ok () →
        ((∀ d ∈ docs x, d.place ≠ (hit.index, id) → d ∈ docs result.2.2) ↔
          target = id ∨ ∀ d ∈ docs x, d.place = (hit.index, target) → d.source = doc) := by
  intro lookup found result sent
  refine ⟨setFields_exchanges schema id key fields server x, ?_⟩
  intro hit target doc hshows hchanged
  obtain ⟨hsent, hrun⟩ := setFields_of_changed hshows.firstHit hchanged
  refine ⟨?_, ?_, ?_⟩
  · have hput : (∀ p ∈ sent, p.1.method = .put → p.1.path = pathOf [hit.index, "_doc", id]) ↔
        pathOf [hit.index, "_doc", target] = pathOf [hit.index, "_doc", id] := by
      rw [show sent = _ from hsent]
      simp [lookupRequest, searchRequest, putRequest]
    rw [hput, pathOf_document_inj]
  · intro hown hfields
    obtain ⟨e, e', hdecode, hmerge, rfl, -⟩ := Schema.changed_eq_ok_iff.mp hchanged
    exact (hfields e e' hmerge).trans (hown e hdecode)
  · intro docs hkeeps hputs hok
    rw [show result = _ from hrun] at hok ⊢
    rw [hputs _ doc hok, hkeeps]
    exact keeps_others_iff

/-- An id that is set with the other members moves the portrait: what is put has the path of another
portrait than the one that was found and asked for. -/
theorem setFields_moves_portrait :
    let stored := Portrait.ada.hung "hero-a-v1"
    let server := answering [stored]
    let fields : List (String × Json) := [("id", .str "2")]
    (Session.run server (setFields portraits "1" fields "a") ()).1 = .ok () ∧
      ∃ found doc written, Shows found stored.toHit ∧
        Session.exchanges server (setFields portraits "1" fields "a") () =
          [(lookupRequest (portraits.pattern "a") ["1"], found),
            (putRequest "hero-a-v1" "2" doc, written)] ∧
        (putRequest "hero-a-v1" "2" doc).path ≠ pathOf [stored.index, "_doc", "1"] := by
  intro stored server fields
  obtain ⟨hok, hsent⟩ := setFields_answering portraits "1" "a" fields legible_ada rfl
  refine ⟨hok, _, _, _, shows_iff.mpr ⟨[], legible_ada.shownHits⟩, hsent, ?_⟩
  intro hpath
  exact absurd (pathOf_document_inj.mp hpath) (by decide)

end Store

end SearchStore
