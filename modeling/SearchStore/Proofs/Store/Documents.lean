import Mathlib.Data.List.Nodup
import SearchStore.Proofs.Store.Lookup

/-! # Documents of an engine

An engine keeps documents in places, each of which is an index and an id: a
document that is put takes the place of the one that was there. What a lookup
shows is a page of the documents that match. There are as many on it as are asked
for, if there are that many, and the engine may choose which
(`forall_page_iff` says what is on every such page).
-/

namespace SearchStore

/-- The place of a document. -/
def Hit.place (d : Hit) : String × String := (d.index, d.id)

namespace Store

/-! ## Putting and finding -/

/-- The documents with one that is put in its place. -/
def put (docs : List Hit) (d : Hit) : List Hit :=
  docs.filter (fun other => other.place ≠ d.place) ++ [d]

/-- The documents with one of some ids in the indices of a pattern. -/
def matching (docs : List Hit) (pattern : String) (ids : List String) : List Hit :=
  docs.filter fun d => Wildcard.isMatch d.index pattern && ids.contains d.id

variable {docs : List Hit} {d : Hit} {pattern : String} {ids : List String}

theorem mem_put {other : Hit} :
    other ∈ put docs d ↔ (other ∈ docs ∧ other.place ≠ d.place) ∨ other = d := by
  simp [put]

/-- No two documents are in one place if that was so before. -/
theorem nodup_put (h : (docs.map Hit.place).Nodup) : ((put docs d).map Hit.place).Nodup := by
  rw [put, List.map_append, List.nodup_append]
  refine ⟨(List.filter_sublist.map Hit.place).nodup h, List.nodup_singleton _, ?_⟩
  intro place hplace place' hplace'
  obtain ⟨other, hother, rfl⟩ := List.mem_map.mp hplace
  obtain rfl : place' = d.place := by simpa using hplace'
  simpa using (List.mem_filter.mp hother).2

theorem mem_matching :
    d ∈ matching docs pattern ids ↔ d ∈ docs ∧ Wildcard.isMatch d.index pattern ∧ d.id ∈ ids := by
  simp [matching]

/-- What matches after a document is put is what matched before in other places, and the document
if it does. -/
theorem matching_put :
    matching (put docs d) pattern ids =
      (matching docs pattern ids).filter (fun other => other.place ≠ d.place) ++
        matching [d] pattern ids := by
  rw [put, matching, List.filter_append, List.filter_filter, matching, List.filter_filter, matching]
  congr 2
  funext other
  rw [Bool.and_comm]

/-- The document that is put is the only one that matches, if the one in its place was. -/
theorem matching_put_single {index id : String} {source body : Json}
    (h : matching docs pattern [id] = [⟨index, id, source⟩]) :
    matching (put docs ⟨index, id, body⟩) pattern [id] = [⟨index, id, body⟩] := by
  have hmem : (⟨index, id, source⟩ : Hit) ∈ matching docs pattern [id] := by simp [h]
  have hindex : Wildcard.isMatch index pattern := (mem_matching.mp hmem).2.1
  rw [matching_put, h]
  simp [Hit.place, matching, hindex]

/-! ## Pages -/

/-- A page of documents: as many as are asked for, or all, in any order. -/
def IsPage (size : Nat) (found page : List Hit) : Prop :=
  ∃ order : List Hit, order.Perm found ∧ page = order.take size

theorem exists_page (size : Nat) (found : List Hit) : ∃ page, IsPage size found page :=
  ⟨found.take size, found, .rfl, rfl⟩

/-- What is on every page: documents of a kind are, exactly if there is one and the others do not
fill a page. -/
theorem forall_page_iff (size : Nat) (found : List Hit) (p : Hit → Bool) :
    (∀ page, IsPage size found page → ∃ d ∈ page, p d) ↔
      (∃ d ∈ found, p d) ∧ found.countP (fun d => !p d) < size := by
  constructor
  · intro h
    constructor
    · obtain ⟨d, hd, hp⟩ := h _ ⟨found, .rfl, rfl⟩
      exact ⟨d, List.mem_of_mem_take hd, hp⟩
    · -- the engine may put all others first
      by_contra hsize
      rw [List.countP_eq_length_filter, not_lt] at hsize
      obtain ⟨d, hd, hp⟩ := h _ ⟨found.filter (fun d => !p d) ++ found.filter p,
        (List.perm_append_comm).trans (List.filter_append_perm p found), rfl⟩
      rw [List.take_append_of_le_length hsize] at hd
      have hnot := (List.mem_filter.mp (List.mem_of_mem_take hd)).2
      simp [hp] at hnot
  · rintro ⟨⟨d, hd, hp⟩, hcount⟩ page ⟨order, horder, rfl⟩
    by_contra hnone
    have hall : ∀ d ∈ order.take size, !p d := by
      intro d hd
      by_contra hpd
      exact hnone ⟨d, hd, by simpa using hpd⟩
    -- a page of others only is not full, so that it shows everything
    have hle : (order.take size).length ≤ found.countP fun d => !p d := by
      rw [← horder.countP_eq, ← List.countP_eq_length.mpr hall]
      exact (List.take_sublist size order).countP_le
    have hfull : order.take size = order := by
      rw [List.length_take] at hle
      exact List.take_of_length_le (by omega)
    refine hnone ⟨d, ?_, hp⟩
    rw [hfull]
    exact horder.mem_iff.mpr hd

/-! ## Engines -/

variable {σ : Type}

/-- An engine that answers the lookup of some ids with a page of the documents that match, if it
answers, and changes none. -/
structure Truthful (server : Session.Server σ) (docs : σ → List Hit) (pattern : String)
    (ids : List String) : Prop where
  shows : ∀ x page, shownHits (server (lookupRequest pattern ids) x).1 = .ok page →
    IsPage (min ids.length listLimit) (matching (docs x) pattern ids) page
  keeps : ∀ x, docs (server (lookupRequest pattern ids) x).2 = docs x

/-- An engine that puts the documents it accepts in a place. -/
def Puts (server : Session.Server σ) (docs : σ → List Hit) (index id : String) : Prop :=
  ∀ x body, accepted (server (putRequest index id body) x).1 = .ok () →
    docs (server (putRequest index id body) x).2 = put (docs x) ⟨index, id, body⟩

/-- If one document matches an id, a lookup of the id can find that one only. -/
theorem Truthful.eq_of_firstHit {server : Session.Server σ} {docs : σ → List Hit} {id : String}
    {x : σ} {d hit : Hit} (h : Truthful server docs pattern [id])
    (hsingle : matching (docs x) pattern [id] = [d])
    (hfound : firstHit pattern id (server (lookupRequest pattern [id]) x).1 = .ok hit) :
    hit = d := by
  obtain ⟨rest, hshown⟩ := firstHit_eq_ok_iff.mp hfound
  obtain ⟨order, horder, hpage⟩ := h.shows x _ hshown
  rw [hsingle] at horder
  obtain rfl := List.perm_singleton.mp horder
  simpa using List.mem_of_mem_take (hpage ▸ List.mem_cons_self : hit ∈ [d].take _)

end Store

end SearchStore
