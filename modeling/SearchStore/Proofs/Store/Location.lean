import Mathlib.Data.List.Induction
import Mathlib.Data.List.Nodup
import SearchStore.Proofs.Engine.Sending
import SearchStore.Proofs.Json.Members
import SearchStore.Proofs.Text.Utf8
import SearchStore.Store.Bulk

/-! # Where bulk writes go

Before entities are updated in bulk they are looked up, with one search for each
key, and what the searches report is kept together by id. An entity is written
into the index reported last for its id, whichever key that was for.

A `Survey` keeps the reports of each key apart, so that it can be said which
indices belong to an entity: those that the search with its own key reports, or
the index of the day if that search reports none.
-/

namespace SearchStore

namespace Json

variable {α : Type} {k name : String} (value : α)

@[simp]
theorem lookup_insertMember_self (members : List (String × α)) :
    lookup name (insertMember name value members) = some value := by
  induction members with
  | nil => simp [insertMember, lookup_cons]
  | cons m rest ih =>
    obtain ⟨k, v⟩ := m
    rw [insertMember]
    split_ifs with hlt heq
    · simp [lookup_cons]
    · simp [lookup_cons]
    · rw [lookup_cons, if_neg (Ne.symm heq), ih]

theorem lookup_insertMember_of_ne (h : k ≠ name) (members : List (String × α)) :
    lookup name (insertMember k value members) = lookup name members := by
  induction members with
  | nil => simp [insertMember, lookup_cons, h]
  | cons m rest ih =>
    obtain ⟨k', v⟩ := m
    rw [insertMember]
    split_ifs with hlt heq
    · rw [lookup_cons, if_neg h]
    · rw [lookup_cons, lookup_cons, if_neg h, if_neg (heq ▸ h)]
    · rw [lookup_cons, lookup_cons, ih]

end Json

theorem Response.read_encode {α : Type} {decode : Json.Draft → Option α} {a : α} {text : String}
    (hdraft : (Json.Draft.ofSymbols? (text.toList.map some)).bind decode = some a) (status : Nat) :
    Response.read decode ⟨status, Text.Utf8.encode text⟩ = .ok a := by
  rw [read, bodyDraft?, Text.Utf8.symbols_encode, hdraft]

/-! ## Carrying out lookups -/

section Run

variable {α β σ : Type} {server : Session.Server σ} {x y : σ}

namespace Store

/-- A list that is not too long is one piece. -/
theorem chunks_of_length_le {size : Nat} {xs : List α} (hne : xs ≠ []) (h : xs.length ≤ size) :
    chunks size xs = [xs] := by
  cases xs with
  | nil => exact absurd rfl hne
  | cons x rest =>
    have hrest : rest.length ≤ size - 1 := Nat.le_sub_one_of_lt h
    rw [chunks, List.take_of_length_le hrest, List.drop_of_length_le hrest, chunks]

/-- The request for the documents with a few ids. -/
def lookupRequest (pattern : String) (ids : List String) : Request :=
  searchRequest pattern "_search" "search" [("typed_keys", "true")] (idsRequest ids).toJson

/-- The documents with a few ids are those that one search finds. -/
theorem run_allHitsById {pattern : String} {ids : List String} {response : Response}
    {answer : SearchAnswer} (hne : ids ≠ []) (hids : ids.length ≤ listLimit)
    (hanswer : server (lookupRequest pattern ids) x = (.ok response, y))
    (hsuccess : response.isSuccess) (hread : response.read SearchAnswer.decode? = .ok answer) :
    Session.run server (allHitsById pattern ids) x =
      (.ok answer.hits.hits, { requests := [lookupRequest pattern ids] }, y) := by
  have hsearch : Session.run server (search pattern (idsRequest ids)) x =
      (.ok answer, { requests := [lookupRequest pattern ids] }, y) := by
    rw [search, ← lookupRequest, Action.run_bind_ok (Action.run_sendChecked hanswer hsuccess),
      hread]
    rfl
  have hone : allHitsById pattern ids =
      (return (← search pattern (idsRequest ids)).hits.hits) := by
    simp [allHitsById, chunks_of_length_le hne hids, hitsByChunks, hitsById, hne]
  rw [hone, Action.run_bind_ok hsearch]
  rfl

end Store

end Run

namespace Store

variable {ε : Type}

/-! ## The lookups -/

theorem eraseDups_append_single (keys : List String) (key : String) :
    (keys ++ [key]).eraseDups =
      if key ∈ keys.eraseDups then keys.eraseDups else keys.eraseDups ++ [key] := by
  rw [List.eraseDups_append]
  simp only [List.mem_eraseDups]
  split_ifs with h <;> simp [List.removeAll, List.eraseDups_cons, h]

theorem nodup_eraseDups (keys : List String) : keys.eraseDups.Nodup := by
  induction keys using List.reverseRecOn with
  | nil => simp
  | append_singleton keys key ih =>
    rw [eraseDups_append_single]
    split_ifs with h
    · exact ih
    · simpa using ih.concat h

/-- Adding an id to its key changes the ids of that key only, and a new key
comes last. -/
theorem addToKey_map (key id : String) (keys : List String) (ids : String → List String)
    (h : keys.Nodup) :
    addToKey key id (keys.map fun k => (k, ids k)) =
      if key ∈ keys then keys.map fun k => (k, if k = key then ids k ++ [id] else ids k)
      else (keys.map fun k => (k, ids k)) ++ [(key, [id])] := by
  induction keys with
  | nil => rfl
  | cons k rest ih =>
    obtain ⟨hk, hrest⟩ := List.nodup_cons.mp h
    rw [List.map_cons, addToKey, ih hrest]
    by_cases heq : k = key
    · subst heq
      have hsame : ∀ k' ∈ rest, (k', ids k') = (k', if k' = k then ids k' ++ [id] else ids k') :=
        fun k' hk' => by rw [if_neg (ne_of_mem_of_not_mem hk' hk)]
      simp [List.map_congr_left hsame]
    · by_cases hmem : key ∈ rest <;> simp [heq, hmem, Ne.symm heq]

/-- There is one lookup for each key, over the ids of all its entities. -/
theorem idsByKey_eq (schema : Schema ε) (entities : List ε) :
    idsByKey schema entities = (entities.map schema.key).eraseDups.map fun key =>
      (key, (entities.filter fun e => schema.key e = key).map schema.id) := by
  induction entities using List.reverseRecOn with
  | nil => rfl
  | append_singleton entities e ih =>
    have hstep : idsByKey schema (entities ++ [e]) =
        addToKey (schema.key e) (schema.id e) (idsByKey schema entities) := by
      simp [idsByKey]
    have hids (key : String) :
        ((entities ++ [e]).filter fun e => schema.key e = key).map schema.id =
          if key = schema.key e then
            (entities.filter fun e => schema.key e = key).map schema.id ++ [schema.id e]
          else (entities.filter fun e => schema.key e = key).map schema.id := by
      split_ifs with hkey
      · simp [List.filter_append, hkey]
      · simp [List.filter_append, Ne.symm hkey]
    rw [hstep, ih, addToKey_map _ _ _ _ (nodup_eraseDups _), List.map_append, List.map_singleton,
      eraseDups_append_single]
    simp only [hids]
    split_ifs with hmem
    · rfl
    · -- no earlier entity has the key, so that its only id is the new one
      have hnone : entities.filter (fun x => schema.key x = schema.key e) = [] := by
        simpa [List.filter_eq_nil_iff] using hmem
      have hother : ∀ key ∈ (entities.map schema.key).eraseDups, key ≠ schema.key e :=
        fun key hkey => ne_of_mem_of_not_mem hkey hmem
      rw [List.map_append, List.map_singleton, if_pos rfl, hnone]
      congr 1
      exact List.map_congr_left fun key hkey => by rw [if_neg (hother key hkey)]

/-- What lookups reported: the documents found with each key. -/
abbrev Survey := List (String × List Hit)

/-- The lookups of several keys, with what each of them reports. -/
def survey (schema : Schema ε) (groups : List (String × List String)) : Action Survey :=
  groups.mapM fun (key, ids) => return (key, ← allHitsById (schema.pattern key) ids)

/-- Whether the lookup of some ids with their key answers with some documents, in
some state of the engine. -/
def Answers {σ : Type} (server : Session.Server σ) (schema : Schema ε)
    (group : String × List String) (hits : List Hit) : Prop :=
  ∃ x, (Session.run server (allHitsById (schema.pattern group.1) group.2) x).1 = .ok hits

/-- A survey has an entry for each key, with what the lookup answers. -/
theorem forall₂_survey {σ : Type} {server : Session.Server σ} {x : σ} {schema : Schema ε}
    {groups : List (String × List String)} {found : Survey}
    (h : (Session.run server (survey schema groups) x).1 = .ok found) :
    List.Forall₂ (fun group entry => entry.1 = group.1 ∧ Answers server schema group entry.2)
      groups found := by
  induction groups generalizing x found with
  | nil =>
    rw [survey, List.mapM_nil] at h
    obtain rfl : [] = found := Except.ok.inj h
    exact .nil
  | cons group rest ih =>
    rw [survey, List.mapM_cons, bind_assoc] at h
    obtain ⟨hits, hhits, h⟩ := Action.exists_of_run_bind h
    rw [pure_bind] at h
    obtain ⟨others, hothers, h⟩ := Action.exists_of_run_bind h
    obtain rfl : (group.1, hits) :: others = found := Except.ok.inj h
    exact .cons ⟨rfl, x, hhits⟩ (ih hothers)

/-- The locations are those of all documents of the survey, whichever key they
were found with. -/
theorem locateKeys_eq (schema : Schema ε) (groups : List (String × List String))
    (located : Locations) :
    locateKeys schema groups located =
      (return located.add ((← survey schema groups).flatMap Prod.snd)) := by
  induction groups generalizing located with
  | nil => simp [locateKeys, survey, Locations.add]
  | cons group rest ih =>
    obtain ⟨key, ids⟩ := group
    simp [locateKeys, survey, List.mapM_cons, ih, Locations.add]

/-! ## What is reported -/

/-- The indices of the documents with an id, in the order of the documents. -/
def indicesOf (hits : List Hit) (id : String) : List String :=
  (hits.filter fun hit => hit.id = id).map Hit.index

theorem mem_indicesOf {hits : List Hit} {id index : String} :
    index ∈ indicesOf hits id ↔ ∃ hit ∈ hits, hit.id = id ∧ hit.index = index := by
  simp only [indicesOf, List.mem_map, List.mem_filter, decide_eq_true_eq, and_assoc]

/-- The last document with an id gives its location. -/
theorem lookup_add (located : Locations) (hits : List Hit) (id : String) :
    Json.lookup id (located.add hits) =
      (indicesOf hits id).getLast?.or (Json.lookup id located) := by
  induction hits using List.reverseRecOn with
  | nil => rfl
  | append_singleton hits hit ih =>
    have hstep : located.add (hits ++ [hit]) =
        Json.insertMember hit.id hit.index (located.add hits) := by
      simp [Locations.add]
    rw [hstep]
    by_cases h : hit.id = id
    · subst h
      simp [indicesOf]
    · rw [Json.lookup_insertMember_of_ne _ h, ih]
      simp [indicesOf, h]

namespace Survey

/-- The indices that the lookups with a key report for an id. -/
def reported (found : Survey) (key id : String) : List String :=
  indicesOf ((found.filter fun entry => entry.1 = key).flatMap Prod.snd) id

/-- The index reported last for an id, by the lookups of all keys. -/
def last? (found : Survey) (id : String) : Option String :=
  (indicesOf (found.flatMap Prod.snd) id).getLast?

/-- Whether each lookup reported documents only with ids that it asked for. -/
def Asked (found : Survey) (groups : List (String × List String)) : Prop :=
  ∀ key hits, (key, hits) ∈ found → ∃ ids, (key, ids) ∈ groups ∧ ∀ hit ∈ hits, hit.id ∈ ids

variable {found : Survey} {key id index : String}

theorem mem_reported_iff :
    index ∈ found.reported key id ↔
      ∃ hits, (key, hits) ∈ found ∧ ∃ hit ∈ hits, hit.id = id ∧ hit.index = index := by
  rw [reported, mem_indicesOf]
  constructor
  · rintro ⟨hit, hmem, hid, hindex⟩
    obtain ⟨⟨k, hits⟩, hentry, hhits⟩ := List.mem_flatMap.mp hmem
    obtain ⟨hfound, hkey⟩ := List.mem_filter.mp hentry
    obtain rfl : k = key := by simpa using hkey
    exact ⟨hits, hfound, hit, hhits, hid, hindex⟩
  · rintro ⟨hits, hfound, hit, hhit, hid, hindex⟩
    refine ⟨hit, List.mem_flatMap.mpr ⟨(key, hits), ?_, hhit⟩, hid, hindex⟩
    exact List.mem_filter.mpr ⟨hfound, by simp⟩

/-- What is reported with some key is reported at all, and conversely. -/
theorem mem_indicesOf_flatMap :
    index ∈ indicesOf (found.flatMap Prod.snd) id ↔ ∃ key, index ∈ found.reported key id := by
  rw [mem_indicesOf]
  constructor
  · rintro ⟨hit, hmem, hid, hindex⟩
    obtain ⟨⟨key, hits⟩, hfound, hhits⟩ := List.mem_flatMap.mp hmem
    exact ⟨key, mem_reported_iff.mpr ⟨hits, hfound, hit, hhits, hid, hindex⟩⟩
  · rintro ⟨key, hindex⟩
    obtain ⟨hits, hfound, hit, hhit, hid, hindex⟩ := mem_reported_iff.mp hindex
    exact ⟨hit, List.mem_flatMap.mpr ⟨_, hfound, hhit⟩, hid, hindex⟩

/-- Entries that are made one for each group have the keys of the groups, and
there is one for each of them. -/
theorem entries_of_forall₂ {groups : List (String × List String)}
    {R : String × List String → List Hit → Prop}
    (h : List.Forall₂ (fun group entry => entry.1 = group.1 ∧ R group entry.2) groups found) :
    found.map Prod.fst = groups.map Prod.fst ∧
      ∀ group ∈ groups, ∃ hits, (group.1, hits) ∈ found ∧ R group hits := by
  induction h with
  | nil => simp
  | cons hentry _ ih =>
    obtain ⟨hkeys, hentries⟩ := ih
    refine ⟨by rw [List.map_cons, List.map_cons, hentry.1, hkeys], ?_⟩
    intro group hgroup
    rcases List.mem_cons.mp hgroup with rfl | hgroup
    · exact ⟨_, hentry.1 ▸ List.mem_cons_self, hentry.2⟩
    · obtain ⟨hits, hmem, hR⟩ := hentries group hgroup
      exact ⟨hits, List.mem_cons_of_mem _ hmem, hR⟩

/-- Of a survey with one entry for each key, one entry is for a key. -/
theorem filter_eq_single {hits : List Hit} (hkeys : (found.map Prod.fst).Nodup)
    (hmem : (key, hits) ∈ found) : (found.filter fun entry => entry.1 = key) = [(key, hits)] := by
  induction found with
  | nil => exact absurd hmem List.not_mem_nil
  | cons entry rest ih =>
    obtain ⟨hentry, hrest⟩ := List.nodup_cons.mp hkeys
    rcases List.mem_cons.mp hmem with rfl | hmem
    · have hnone : (rest.filter fun entry => entry.1 = key) = [] := by
        refine List.filter_eq_nil_iff.mpr fun other hother heq => hentry ?_
        exact List.mem_map.mpr ⟨other, hother, by simpa using heq⟩
      rw [List.filter_cons_of_pos (by simp), hnone]
    · have hne : entry.1 ≠ key := by
        rintro rfl
        exact hentry (List.mem_map.mpr ⟨_, hmem, rfl⟩)
      rw [List.filter_cons_of_neg (by simpa using hne), ih hrest hmem]

theorem reported_eq {hits : List Hit} (hkeys : (found.map Prod.fst).Nodup)
    (hmem : (key, hits) ∈ found) : found.reported key id = indicesOf hits id := by
  simp [reported, filter_eq_single hkeys hmem]

/-- What is reported last is reported with some key. -/
theorem exists_reported_of_last? (h : found.last? id = some index) :
    ∃ key, index ∈ found.reported key id :=
  mem_indicesOf_flatMap.mp (List.mem_of_getLast? h)

/-- What is reported with some key is not overlooked. -/
theorem last?_ne_none (h : index ∈ found.reported key id) : found.last? id ≠ none := by
  intro hnone
  have hmem : index ∈ indicesOf (found.flatMap Prod.snd) id := mem_indicesOf_flatMap.mpr ⟨key, h⟩
  rw [List.getLast?_eq_none_iff.mp hnone] at hmem
  exact List.not_mem_nil hmem

end Survey

/-- What is reported for an entity with its own key is what the lookup with that
key answers. -/
theorem exists_own_lookup {σ : Type} {server : Session.Server σ} {x : σ} {schema : Schema ε}
    {entities : List ε} {found : Survey}
    (h : (Session.run server (survey schema (idsByKey schema entities)) x).1 = .ok found)
    {e : ε} (he : e ∈ entities) :
    ∃ hits, Answers server schema (schema.key e,
        (entities.filter fun e' => schema.key e' = schema.key e).map schema.id) hits ∧
      found.reported (schema.key e) (schema.id e) = indicesOf hits (schema.id e) := by
  obtain ⟨hkeys, hentries⟩ :=
    Survey.entries_of_forall₂ (R := Answers server schema) (forall₂_survey h)
  have hnodup : (found.map Prod.fst).Nodup := by
    rw [hkeys, idsByKey_eq, List.map_map]
    exact (nodup_eraseDups _).map_on fun _ _ _ _ heq => heq
  have hgroup : (schema.key e, (entities.filter fun e' => schema.key e' = schema.key e).map
      schema.id) ∈ idsByKey schema entities := by
    rw [idsByKey_eq]
    exact List.mem_map.mpr ⟨_, List.mem_eraseDups.mpr (List.mem_map_of_mem he), rfl⟩
  obtain ⟨hits, hmem, hanswers⟩ := hentries _ hgroup
  exact ⟨hits, hanswers, Survey.reported_eq hnodup hmem⟩

/-! ## What is written -/

variable (s : Store) (schema : Schema ε)

/-- The index into which an entity is written after a survey. -/
def target (found : Survey) (e : ε) : String :=
  (found.last? (schema.id e)).getD (schema.index (schema.key e) s.today)

/-- Whether an index belongs to an entity: the lookup with its own key reports
it, or reports none, and it is the index of the day. -/
def Owns (found : Survey) (e : ε) (index : String) : Prop :=
  index ∈ found.reported (schema.key e) (schema.id e) ∨
    found.reported (schema.key e) (schema.id e) = [] ∧ index = schema.index (schema.key e) s.today

theorem indexAmong_add (found : Survey) (e : ε) :
    s.indexAmong schema (Locations.add [] (found.flatMap Prod.snd)) (schema.id e) (schema.key e) =
      s.target schema found e := by
  rw [indexAmong, lookup_add, Json.lookup_nil, Option.or_none, target, Survey.last?]

theorem bulkUpdate_eq (entities : List ε) :
    s.bulkUpdate schema entities = (do
      let found ← survey schema (idsByKey schema entities)
      s.runBulk <| (documents schema entities).map fun (e, doc) =>
        .merge (s.target schema found e) (schema.id e) doc) := by
  simp only [bulkUpdate, locateEntities, locateKeys_eq, bind_assoc, pure_bind, indexAmong_add]

theorem bulkUpsert_eq (entities : List ε) :
    s.bulkUpsert schema entities = (do
      let found ← survey schema (idsByKey schema entities)
      s.runBulk <| (documents schema entities).map fun (e, doc) =>
        .upsert (s.target schema found e) (schema.id e) doc) := by
  simp only [bulkUpsert, locateEntities, locateKeys_eq, bind_assoc, pure_bind, indexAmong_add]

variable {found : Survey} {e : ε}

theorem owns_day_of_last?_eq_none (h : found.last? (schema.id e) = none) :
    s.Owns schema found e (schema.index (schema.key e) s.today) := by
  refine .inr ⟨List.eq_nil_iff_forall_not_mem.mpr fun index hindex => ?_, rfl⟩
  exact Survey.last?_ne_none hindex h

/-- An entity is written into an index of its own exactly if the index that is
reported last belongs to it. -/
theorem owns_target_iff :
    s.Owns schema found e (s.target schema found e) ↔
      ∀ index, found.last? (schema.id e) = some index → s.Owns schema found e index := by
  rw [target]
  rcases hlast : found.last? (schema.id e) with - | index
  · simpa using s.owns_day_of_last?_eq_none schema hlast
  · simp

/-- An entity that is not written into an index of its own is written into one
that is found for another key only. -/
theorem reported_of_not_owns (h : ¬ s.Owns schema found e (s.target schema found e)) :
    s.target schema found e ∉ found.reported (schema.key e) (schema.id e) ∧
      ∃ key, key ≠ schema.key e ∧ s.target schema found e ∈ found.reported key (schema.id e) := by
  have hown : s.target schema found e ∉ found.reported (schema.key e) (schema.id e) :=
    fun hmem => h (.inl hmem)
  refine ⟨hown, ?_⟩
  rcases hlast : found.last? (schema.id e) with - | index
  · exact absurd ((s.owns_target_iff schema).mpr (by simp [hlast])) h
  · have htarget : s.target schema found e = index := by rw [target, hlast, Option.getD_some]
    obtain ⟨key, hkey⟩ := Survey.exists_reported_of_last? hlast
    refine ⟨key, ?_, htarget ▸ hkey⟩
    rintro rfl
    exact hown (htarget ▸ hkey)

theorem owns_target_of_reported_nil
    (h : ∀ key, key ≠ schema.key e → found.reported key (schema.id e) = []) :
    s.Owns schema found e (s.target schema found e) := by
  by_contra hnot
  obtain ⟨key, hkey, hmem⟩ := (s.reported_of_not_owns schema hnot).2
  rw [h key hkey] at hmem
  exact List.not_mem_nil hmem

/-- Lookups that report what they ask for report an id with the keys of its
entities only. -/
theorem reported_eq_nil_of_asked {entities : List ε} {key : String}
    (hasked : found.Asked (idsByKey schema entities))
    (h : ∀ e' ∈ entities, schema.id e' = schema.id e → schema.key e' ≠ key) :
    found.reported key (schema.id e) = [] := by
  refine List.eq_nil_iff_forall_not_mem.mpr fun index hindex => ?_
  obtain ⟨hits, hfound, hit, hhit, hid, -⟩ := Survey.mem_reported_iff.mp hindex
  obtain ⟨ids, hids, hmem⟩ := hasked key hits hfound
  rw [idsByKey_eq] at hids
  obtain ⟨k, -, hk⟩ := List.mem_map.mp hids
  obtain ⟨rfl, rfl⟩ := Prod.mk.inj hk
  obtain ⟨e', he', hid'⟩ := List.mem_map.mp (hmem hit hhit)
  obtain ⟨hentity, hkey⟩ := List.mem_filter.mp he'
  exact h e' hentity (hid'.trans hid) (by simpa using hkey)

/-- Bulk writes go where the lookups say, and it is known when that is an index
of the entity's own. The lookups are one for each key, over the ids of all its
entities, and what they report for an entity with its own key is what that lookup
answers. The items are merged or upserted into the targets. The target of an
entity belongs to it exactly if the index that is reported last for its id does.
If it does not, it is found for another key only. That cannot be so where no
lookup with another key reports the id, as when the engine answers what it is
asked and no entity of another key has the id. -/
theorem bulk_owns_iff (entities : List ε) :
    idsByKey schema entities =
        ((entities.map schema.key).eraseDups.map fun key =>
          (key, (entities.filter fun e => schema.key e = key).map schema.id)) ∧
      s.bulkUpdate schema entities = (do
        let found ← survey schema (idsByKey schema entities)
        s.runBulk <| (documents schema entities).map fun (e, doc) =>
          .merge (s.target schema found e) (schema.id e) doc) ∧
      s.bulkUpsert schema entities = (do
        let found ← survey schema (idsByKey schema entities)
        s.runBulk <| (documents schema entities).map fun (e, doc) =>
          .upsert (s.target schema found e) (schema.id e) doc) ∧
      (∀ (σ : Type) (server : Session.Server σ) (x : σ) (found : Survey),
        (Session.run server (survey schema (idsByKey schema entities)) x).1 = .ok found →
        ∀ e ∈ entities, ∃ hits, Answers server schema (schema.key e,
            (entities.filter fun e' => schema.key e' = schema.key e).map schema.id) hits ∧
          found.reported (schema.key e) (schema.id e) = indicesOf hits (schema.id e)) ∧
      ∀ (found : Survey) (e : ε),
        (s.Owns schema found e (s.target schema found e) ↔
            ∀ index, found.last? (schema.id e) = some index → s.Owns schema found e index) ∧
          (¬ s.Owns schema found e (s.target schema found e) →
            s.target schema found e ∉ found.reported (schema.key e) (schema.id e) ∧
              ∃ key, key ≠ schema.key e ∧
                s.target schema found e ∈ found.reported key (schema.id e)) ∧
          ((∀ key, key ≠ schema.key e → found.reported key (schema.id e) = []) →
            s.Owns schema found e (s.target schema found e)) ∧
          (found.Asked (idsByKey schema entities) →
            (∀ e' ∈ entities, schema.id e' = schema.id e → schema.key e' = schema.key e) →
            s.Owns schema found e (s.target schema found e)) := by
  refine ⟨idsByKey_eq schema entities, s.bulkUpdate_eq schema entities,
    s.bulkUpsert_eq schema entities, ?_, ?_⟩
  · intro σ server x found hfound e he
    exact exists_own_lookup hfound he
  · intro found e
    refine ⟨s.owns_target_iff schema, s.reported_of_not_owns schema,
      s.owns_target_of_reported_nil schema, ?_⟩
    intro hasked hkey
    have hother : ∀ key, key ≠ schema.key e → found.reported key (schema.id e) = [] := by
      intro key hne
      refine reported_eq_nil_of_asked schema hasked fun e' he' hid heq => hne ?_
      rw [← heq, hkey e' he' hid]
    exact s.owns_target_of_reported_nil schema hother

/-! ### An id under two keys -/

/-- Heroes as pairs of an id and an account, in a table that has indices for
each account. -/
def heroes : Schema (String × String) where
  table := "hero-\x7baccountId\x7d-v1"
  id := Prod.fst
  key := Prod.snd
  encode? _ := some (.obj [])
  decode? _ := none

/-- Ids that are not shared between accounts keep their heroes apart. -/
theorem owns_distinct_ids :
    let s : Store := { today := ⟨2024, 3, 15⟩ }
    let found : Survey := [("a", [⟨"hero-a-v1", "1", .int 0⟩]), ("b", [])]
    found.Asked (idsByKey heroes [("1", "a"), ("2", "b")]) ∧
      s.Owns heroes found ("2", "b") (s.target heroes found ("2", "b")) := by
  intro s found
  have hasked : found.Asked (idsByKey heroes [("1", "a"), ("2", "b")]) := by
    intro key hits hmem
    simp only [found, List.mem_cons, Prod.mk.injEq, List.not_mem_nil, or_false] at hmem
    obtain ⟨rfl, rfl⟩ | ⟨rfl, rfl⟩ := hmem
    · exact ⟨["1"], by decide, by simp⟩
    · exact ⟨["2"], by decide, by simp⟩
  refine ⟨hasked, ?_⟩
  exact ((s.bulk_owns_iff heroes [("1", "a"), ("2", "b")]).2.2.2.2 found ("2", "b")).2.2.2 hasked
    (by decide)

/-- The answer that the hero with id 1 is in an index of account `a`. -/
def heroFound : String :=
  "\x7b\"hits\":\x7b\"hits\":" ++
    "[\x7b\"_index\":\"hero-a-v1\",\"_id\":\"1\",\"_source\":null\x7d]\x7d\x7d"

/-- The answer that nothing is found. -/
def nothingFound : String := "\x7b\x7d"

/-- An engine that has a hero of account `a` and none of other accounts. -/
def engineOfA : Session.Server Unit := fun r x =>
  let text := if r.path = "/hero-a-*/_search" then heroFound else nothingFound
  (.ok ⟨200, Text.Utf8.encode text⟩, x)

/-- The survey of two heroes with one id finds one in account `a` and none in
account `b`. -/
theorem survey_engineOfA :
    ∃ hit : Hit, hit.index = "hero-a-v1" ∧ hit.id = "1" ∧
      Session.run engineOfA (survey heroes (idsByKey heroes [("1", "a"), ("1", "b")])) () =
        (.ok [("a", [hit]), ("b", [])], { requests := [lookupRequest (heroes.pattern "a") ["1"],
          lookupRequest (heroes.pattern "b") ["1"]] }, ()) := by
  have hdraftA : (((Json.Draft.ofSymbols? (heroFound.toList.map some)).bind
      SearchAnswer.decode?).map fun a => a.hits.hits.map fun hit => (hit.index, hit.id)) =
        some [("hero-a-v1", "1")] := by decide +kernel
  have hdraftB : (((Json.Draft.ofSymbols? (nothingFound.toList.map some)).bind
      SearchAnswer.decode?).map fun a => a.hits.hits.map fun hit => (hit.index, hit.id)) =
        some [] := by decide +kernel
  obtain ⟨answerA, hanswerA, hhitsA⟩ := Option.map_eq_some_iff.mp hdraftA
  obtain ⟨answerB, hanswerB, hhitsB⟩ := Option.map_eq_some_iff.mp hdraftB
  obtain ⟨hit, hhit, hfields⟩ := List.map_eq_singleton_iff.mp hhitsA
  obtain ⟨hindex, hid⟩ := Prod.mk.inj hfields
  have hpathA : pathOf [heroes.pattern "a", "_search"] = "/hero-a-*/_search" := by decide +kernel
  have hpathB : pathOf [heroes.pattern "b", "_search"] = "/hero-b-*/_search" := by decide +kernel
  have hlookupA : Session.run engineOfA (allHitsById (heroes.pattern "a") ["1"]) () =
      (.ok [hit], { requests := [lookupRequest (heroes.pattern "a") ["1"]] }, ()) := by
    rw [← hhit]
    refine run_allHitsById (by simp) (by decide) ?_ (by decide)
      (Response.read_encode hanswerA 200)
    simp [engineOfA, lookupRequest, searchRequest, hpathA]
  have hlookupB : Session.run engineOfA (allHitsById (heroes.pattern "b") ["1"]) () =
      (.ok [], { requests := [lookupRequest (heroes.pattern "b") ["1"]] }, ()) := by
    rw [← List.map_eq_nil_iff.mp hhitsB]
    refine run_allHitsById (by simp) (by decide) ?_ (by decide)
      (Response.read_encode hanswerB 200)
    simp [engineOfA, lookupRequest, searchRequest, hpathB]
  have hgroups : idsByKey heroes [("1", "a"), ("1", "b")] = [("a", ["1"]), ("b", ["1"])] := by
    decide
  refine ⟨hit, hindex, hid, ?_⟩
  rw [hgroups, survey, List.mapM_cons, List.mapM_cons, List.mapM_nil]
  simp only [bind_assoc, pure_bind]
  rw [Action.run_bind_ok hlookupA, Action.run_bind_ok hlookupB]
  rfl

/-- Two heroes with one id are both written into the index of the account in
which the id is found. -/
theorem not_owns_shared_id :
    let s : Store := { today := ⟨2024, 3, 15⟩ }
    let entities := [("1", "a"), ("1", "b")]
    ∃ hit : Hit, hit.index = "hero-a-v1" ∧ hit.id = "1" ∧
      let found : Survey := [("a", [hit]), ("b", [])]
      (Session.run engineOfA (survey heroes (idsByKey heroes entities)) ()).1 = .ok found ∧
        (Session.run engineOfA (s.bulkUpdate heroes entities) ()).1 =
          (Session.run engineOfA (s.runBulk
            [.merge "hero-a-v1" "1" (.obj []), .merge "hero-a-v1" "1" (.obj [])]) ()).1 ∧
        ¬ s.Owns heroes found ("1", "b") "hero-a-v1" := by
  intro s entities
  obtain ⟨hit, hindex, hid, hsurvey⟩ := survey_engineOfA
  refine ⟨hit, hindex, hid, ?_⟩
  intro found
  refine ⟨by rw [hsurvey], ?_, ?_⟩
  · have hlast : found.last? "1" = some "hero-a-v1" := by
      simp [found, Survey.last?, indicesOf, hid, hindex]
    have htarget (key : String) : s.target heroes found ("1", key) = "hero-a-v1" := by
      rw [target, show heroes.id ("1", key) = "1" from rfl, hlast, Option.getD_some]
    have hitems : (documents heroes entities).map (fun (e, doc) =>
        BulkItem.merge (s.target heroes found e) (heroes.id e) doc) =
          [.merge "hero-a-v1" "1" (.obj []), .merge "hero-a-v1" "1" (.obj [])] := by
      show [BulkItem.merge (s.target heroes found ("1", "a")) "1" (.obj []),
        BulkItem.merge (s.target heroes found ("1", "b")) "1" (.obj [])] = _
      rw [htarget, htarget]
    rw [bulkUpdate_eq, Action.run_bind_ok hsurvey, hitems]
  · -- account b has reported nothing, so that only its index of the day belongs to the hero
    have hday : heroes.index "b" s.today = "hero-b-v1" := by decide +kernel
    rintro (hmem | ⟨-, heq⟩)
    · simp [found, Survey.reported, indicesOf, heroes] at hmem
    · rw [show heroes.key ("1", "b") = "b" from rfl, hday] at heq
      exact absurd heq (by decide)

end Store

end SearchStore
