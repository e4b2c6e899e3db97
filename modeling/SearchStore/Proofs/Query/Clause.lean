import Mathlib.Data.List.Basic
import SearchStore.Proofs.Query.Demand

/-! # What a clause collects

Queries are added to a clause one after the other, each with the path of the
nested documents that it is about, if it is about such. `Collects` says what
the entries of the clause are then, whatever the order: one entry for each
query without a path, and one for each path, with all queries of the path in
the order in which they came.

From this `Collects.all_hold` and `Collects.some_holds` read off what the
entries say of a document: each entry stands for one group of demands.
-/

namespace SearchStore

/-- A query with the path of the nested documents that it is about. -/
abbrev Placed := Option String × Query

namespace Placed

/-- The queries that are about nested documents of a path, in order. -/
def onPath (path : String) (ps : List Placed) : List Query :=
  (ps.filter fun p => p.1 = some path).map Prod.snd

theorem mem_onPath {path : String} {q : Query} {ps : List Placed} :
    q ∈ onPath path ps ↔ (some path, q) ∈ ps := by
  simp [onPath]

theorem onPath_append (path : String) (ps qs : List Placed) :
    onPath path (ps ++ qs) = onPath path ps ++ onPath path qs := by
  simp [onPath]

theorem onPath_single_self (path : String) (q : Query) :
    onPath path [(some path, q)] = [q] := by
  simp [onPath]

theorem onPath_single_other {path : String} {p : Placed} (h : p.1 ≠ some path) :
    onPath path [p] = [] := by
  simp [onPath, h]

end Placed

namespace Entry

/-- The path of an entry for nested documents. -/
def path? : Entry → Option String
  | .plain _ => none
  | .nested path _ => some path

end Entry

namespace Clause

/-- The clause of some queries, added in order. -/
def ofPlaced (ps : List Placed) : Clause := ps.foldl (fun c p => c.add p.1 p.2) []

/-- The paths of the entries for nested documents. -/
def paths (c : Clause) : List String := c.filterMap Entry.path?

@[simp] theorem paths_plain_cons (q : Query) (c : Clause) :
    paths (.plain q :: c) = c.paths := rfl

@[simp] theorem paths_nested_cons (path : String) (queries : List Query) (c : Clause) :
    paths (.nested path queries :: c) = path :: c.paths := rfl

@[simp] theorem paths_append_plain (c : Clause) (q : Query) :
    paths (c ++ [.plain q]) = c.paths := by
  simp [paths, Entry.path?]

theorem mem_paths {path : String} {c : Clause} :
    path ∈ c.paths ↔ ∃ queries, Entry.nested path queries ∈ c := by
  simp only [paths, List.mem_filterMap]
  constructor
  · rintro ⟨e, he, hp⟩
    cases e with
    | plain q => simp [Entry.path?] at hp
    | nested p queries =>
      have hpath : p = path := by simpa [Entry.path?] using hp
      exact ⟨queries, hpath ▸ he⟩
  · rintro ⟨queries, he⟩
    exact ⟨_, he, rfl⟩

/-! ## Adding to the entry of a path -/

theorem plain_mem_addNested {path : String} {q x : Query} {c : Clause} :
    Entry.plain x ∈ addNested path q c ↔ Entry.plain x ∈ c := by
  induction c with
  | nil => simp [addNested]
  | cons e rest ih =>
    cases e with
    | plain other => simp [addNested, ih]
    | nested p queries =>
      by_cases hp : p = path
      · simp [addNested, hp]
      · simp [addNested, hp, ih]

/-- Entries for other paths stay as they are. -/
theorem nested_mem_addNested_of_ne {path other : String} {q : Query} {queries : List Query}
    {c : Clause} (h : other ≠ path) :
    Entry.nested other queries ∈ addNested path q c ↔ Entry.nested other queries ∈ c := by
  induction c with
  | nil => simp [addNested, h]
  | cons e rest ih =>
    cases e with
    | plain x => simp [addNested, ih]
    | nested p old =>
      by_cases hp : p = path
      · have hne : other ≠ p := fun heq => h (heq.trans hp)
        simp [addNested, hp, h]
      · simp [addNested, hp, ih]

/-- A path without an entry gets one. -/
theorem nested_mem_addNested_of_not_mem {path : String} {q : Query} {queries : List Query}
    {c : Clause} (h : path ∉ c.paths) :
    Entry.nested path queries ∈ addNested path q c ↔ queries = [q] := by
  induction c with
  | nil => simp [addNested]
  | cons e rest ih =>
    cases e with
    | plain x =>
      have hrest : path ∉ paths rest := by simpa using h
      simp [addNested, ih hrest]
    | nested p old =>
      have hcons : ¬ path = p ∧ path ∉ paths rest := by simpa using h
      have hp : p ≠ path := fun heq => hcons.1 heq.symm
      simp [addNested, hp, ih hcons.2, hcons.1]

/-- The one entry of a path is extended. -/
theorem nested_mem_addNested_of_mem {path : String} {q : Query} {queries old : List Query}
    {c : Clause} (hd : c.paths.Nodup) (h : Entry.nested path old ∈ c) :
    Entry.nested path queries ∈ addNested path q c ↔ queries = old ++ [q] := by
  induction c with
  | nil => simp at h
  | cons e rest ih =>
    cases e with
    | plain x =>
      have hrest : Entry.nested path old ∈ rest := by simpa using h
      have hdrest : (paths rest).Nodup := by simpa using hd
      simp [addNested, ih hdrest hrest]
    | nested p first =>
      have hdcons : p ∉ paths rest ∧ (paths rest).Nodup := by simpa using hd
      by_cases hp : p = path
      · -- no later entry has the path, so the first one is the one meant
        have hnone : ∀ qs, Entry.nested path qs ∉ rest := by
          intro qs hqs
          exact hdcons.1 (hp ▸ mem_paths.mpr ⟨qs, hqs⟩)
        have hold : old = first := by
          rcases List.mem_cons.mp h with heq | hrest
          · simpa [hp] using heq
          · exact absurd hrest (hnone old)
        simp [addNested, hp, hold, hnone]
      · have hrest : Entry.nested path old ∈ rest := by
          rcases List.mem_cons.mp h with heq | hrest
          · exact absurd (Entry.nested.inj heq).1.symm hp
          · exact hrest
        have hpath : ¬ path = p := fun heq => hp heq.symm
        simp [addNested, hp, hpath, ih hdcons.2 hrest]

theorem paths_addNested (path : String) (q : Query) (c : Clause) :
    paths (addNested path q c) = if path ∈ c.paths then c.paths else c.paths ++ [path] := by
  induction c with
  | nil => rfl
  | cons e rest ih =>
    cases e with
    | plain x =>
      rw [addNested, paths_plain_cons, ih]
      rfl
    | nested p old =>
      by_cases hp : p = path
      · simp [addNested, hp]
      · have hpath : ¬ path = p := fun heq => hp heq.symm
        simp only [addNested, if_neg hp, paths_nested_cons, ih, List.mem_cons, hpath, false_or]
        split <;> rfl

/-! ## The entries of a clause -/

/-- A clause collects some queries: each query without a path has an entry of
its own, and the queries of each path share one. -/
structure Collects (c : Clause) (ps : List Placed) : Prop where
  plain : ∀ q, Entry.plain q ∈ c ↔ (none, q) ∈ ps
  nested : ∀ path queries, Entry.nested path queries ∈ c ↔
    queries = Placed.onPath path ps ∧ queries ≠ []
  distinct : c.paths.Nodup

namespace Collects

variable {c : Clause} {ps : List Placed}

theorem mem_paths_iff (h : Collects c ps) {path : String} :
    path ∈ c.paths ↔ Placed.onPath path ps ≠ [] := by
  rw [Clause.mem_paths]
  constructor
  · rintro ⟨queries, hq⟩
    obtain ⟨rfl, hne⟩ := (h.nested path queries).mp hq
    exact hne
  · intro hne
    exact ⟨_, (h.nested path _).mpr ⟨rfl, hne⟩⟩

theorem add_plain (h : Collects c ps) (q : Query) :
    Collects (c.add none q) (ps ++ [(none, q)]) where
  plain := by
    intro x
    simp [add, h.plain x]
  nested := by
    intro path queries
    have hother : Placed.onPath path [((none, q) : Placed)] = [] :=
      Placed.onPath_single_other (by simp)
    simp [add, h.nested path queries, Placed.onPath_append, hother]
  distinct := by
    simpa [add] using h.distinct

theorem add_nested (h : Collects c ps) (path : String) (q : Query) :
    Collects (c.add (some path) q) (ps ++ [(some path, q)]) where
  plain := by
    intro x
    simp [add, plain_mem_addNested, h.plain x]
  nested := by
    intro other queries
    simp only [add, Placed.onPath_append]
    by_cases hother : other = path
    · -- the entry of the path grows, or is new if nothing of the path came before
      subst hother
      rw [Placed.onPath_single_self]
      by_cases hmem : other ∈ c.paths
      · have hold : Entry.nested other (Placed.onPath other ps) ∈ c :=
          (h.nested other _).mpr ⟨rfl, h.mem_paths_iff.mp hmem⟩
        rw [nested_mem_addNested_of_mem h.distinct hold]
        constructor
        · rintro rfl
          simp
        · exact fun hq => hq.1
      · have hnone : Placed.onPath other ps = [] := by
          by_contra hne
          exact hmem (h.mem_paths_iff.mpr hne)
        rw [nested_mem_addNested_of_not_mem hmem, hnone]
        constructor
        · rintro rfl
          simp
        · exact fun hq => hq.1
    · have hnone : Placed.onPath other [(some path, q)] = [] :=
        Placed.onPath_single_other (by simpa using fun heq => hother heq.symm)
      rw [nested_mem_addNested_of_ne hother, hnone, List.append_nil]
      exact h.nested other queries
  distinct := by
    simp only [add, paths_addNested]
    split
    · exact h.distinct
    · rename_i hmem
      simpa [List.nodup_append] using ⟨h.distinct, fun p hp heq => hmem (heq ▸ hp)⟩

theorem add (h : Collects c ps) (p : Placed) : Collects (c.add p.1 p.2) (ps ++ [p]) := by
  rcases p with ⟨_ | path, q⟩
  · exact h.add_plain q
  · exact h.add_nested path q

end Collects

theorem collects_nil : Collects [] [] where
  plain := by simp
  nested := by simp [Placed.onPath]
  distinct := by simp [paths]

theorem collects_foldl {c : Clause} {done : List Placed} (h : Collects c done)
    (ps : List Placed) : Collects (ps.foldl (fun c p => c.add p.1 p.2) c) (done ++ ps) := by
  induction ps generalizing c done with
  | nil => simpa using h
  | cons p rest ih => simpa using ih (h.add p)

/-- A clause collects what is added to it. -/
theorem collects_ofPlaced (ps : List Placed) : Collects (ofPlaced ps) ps := by
  have h := collects_foldl collects_nil ps
  rwa [List.nil_append] at h

/-! ## What the entries say of a document -/

section Meaning

variable {φ : Type} (tests : FieldTests φ)

/-- A query that is placed, as a demand. -/
def demand (p : Placed) : Demand φ := ⟨p.1, fun d => p.2.holds tests d⟩

theorem met_plain {ps : List Placed} {q : Query} {d : Document φ} :
    Demand.Met (ps.map (demand tests)) d (demand tests (none, q)) ↔ q.holds tests d = true := by
  have hpath : (demand tests (none, q)).path = none := rfl
  simp only [Demand.Met, Demand.mem_group_plain hpath, forall_eq]
  simp [Demand.scope, demand]

theorem met_nested {ps : List Placed} {path : String} {q : Query} {d : Document φ} :
    Demand.Met (ps.map (demand tests)) d (demand tests (some path, q)) ↔
      (Entry.nested path (Placed.onPath path ps)).toQuery.holds tests d = true := by
  have hpath : (demand tests (some path, q)).path = some path := rfl
  rw [Entry.toQuery, Query.holds_nested]
  simp only [Query.holds_must, Placed.mem_onPath]
  -- both sides name one nested document, and it is the same one
  constructor
  · rintro ⟨inner, hin, hall⟩
    refine ⟨inner, hin, ?_⟩
    intro x hx
    exact hall (demand tests (some path, x))
      ((Demand.mem_group_nested hpath).mpr ⟨List.mem_map.mpr ⟨_, hx, rfl⟩, rfl⟩)
  · rintro ⟨inner, hin, hall⟩
    refine ⟨inner, hin, ?_⟩
    intro y hy
    obtain ⟨hy, hother⟩ := (Demand.mem_group_nested hpath).mp hy
    obtain ⟨⟨other, x⟩, hx, rfl⟩ := List.mem_map.mp hy
    obtain rfl : other = some path := hother
    exact hall x hx

namespace Collects

variable {c : Clause} {ps : List Placed}

/-- Each demand has the entry that says whether its group is met. -/
theorem exists_entry (h : Collects c ps) (d : Document φ) {p : Placed} (hp : p ∈ ps) :
    ∃ e ∈ c, (e.toQuery.holds tests d = true ↔
      Demand.Met (ps.map (demand tests)) d (demand tests p)) := by
  rcases p with ⟨_ | path, q⟩
  · exact ⟨.plain q, (h.plain q).mpr hp, (met_plain tests).symm⟩
  · have hmem : q ∈ Placed.onPath path ps := Placed.mem_onPath.mpr hp
    exact ⟨_, (h.nested path _).mpr ⟨rfl, List.ne_nil_of_mem hmem⟩, (met_nested tests).symm⟩

/-- Each entry is there for some demand. -/
theorem exists_placed (h : Collects c ps) (d : Document φ) {e : Entry} (he : e ∈ c) :
    ∃ p ∈ ps, (e.toQuery.holds tests d = true ↔
      Demand.Met (ps.map (demand tests)) d (demand tests p)) := by
  cases e with
  | plain q => exact ⟨_, (h.plain q).mp he, (met_plain tests).symm⟩
  | nested path queries =>
    -- an entry is never empty, so some query is there to speak for the group
    obtain ⟨rfl, hne⟩ := (h.nested path queries).mp he
    obtain ⟨q, hq⟩ := List.exists_mem_of_ne_nil _ hne
    exact ⟨_, Placed.mem_onPath.mp hq, (met_nested tests).symm⟩

theorem all_hold (h : Collects c ps) (d : Document φ) :
    (∀ q ∈ c.toQueries, q.holds tests d = true) ↔
      ∀ x ∈ ps.map (demand tests), Demand.Met (ps.map (demand tests)) d x := by
  simp only [toQueries, List.forall_mem_map]
  constructor
  · intro hall p hp
    obtain ⟨e, he, hiff⟩ := h.exists_entry tests d hp
    exact hiff.mp (hall e he)
  · intro hall e he
    obtain ⟨p, hp, hiff⟩ := h.exists_placed tests d he
    exact hiff.mpr (hall p hp)

theorem some_holds (h : Collects c ps) (d : Document φ) :
    (∃ q ∈ c.toQueries, q.holds tests d = true) ↔
      ∃ x ∈ ps.map (demand tests), Demand.Met (ps.map (demand tests)) d x := by
  simp only [toQueries, List.mem_map]
  constructor
  · rintro ⟨_, ⟨e, he, rfl⟩, hq⟩
    obtain ⟨p, hp, hiff⟩ := h.exists_placed tests d he
    exact ⟨_, ⟨p, hp, rfl⟩, hiff.mp hq⟩
  · rintro ⟨_, ⟨p, hp, rfl⟩, hmet⟩
    obtain ⟨e, he, hiff⟩ := h.exists_entry tests d hp
    exact ⟨_, ⟨e, he, rfl⟩, hiff.mpr hmet⟩

theorem none_holds (h : Collects c ps) (d : Document φ) :
    (∀ q ∈ c.toQueries, q.holds tests d = false) ↔
      ∀ x ∈ ps.map (demand tests), ¬ Demand.Met (ps.map (demand tests)) d x := by
  have hsome := h.some_holds tests d
  constructor
  · intro hnone x hx hmet
    obtain ⟨q, hq, htrue⟩ := hsome.mpr ⟨x, hx, hmet⟩
    simp [hnone q hq] at htrue
  · intro hnone q hq
    by_contra htrue
    obtain ⟨x, hx, hmet⟩ := hsome.mp ⟨q, hq, by simpa using htrue⟩
    exact hnone x hx hmet

theorem eq_nil_iff (h : Collects c ps) : c = [] ↔ ps = [] := by
  constructor
  · rintro rfl
    rcases ps with _ | ⟨⟨_ | path, q⟩, rest⟩
    · rfl
    · exact absurd ((h.plain q).mpr List.mem_cons_self) List.not_mem_nil
    · have hmem : q ∈ Placed.onPath path ((some path, q) :: rest) :=
        Placed.mem_onPath.mpr List.mem_cons_self
      exact absurd ((h.nested path _).mpr ⟨rfl, List.ne_nil_of_mem hmem⟩) List.not_mem_nil
  · rintro rfl
    rcases c with _ | ⟨_ | ⟨path, queries⟩, rest⟩
    · rfl
    · rename_i q
      exact absurd ((h.plain q).mp List.mem_cons_self) List.not_mem_nil
    · exact absurd rfl (((h.nested path queries).mp List.mem_cons_self).1 ▸
        ((h.nested path queries).mp List.mem_cons_self).2)

end Collects

end Meaning

end Clause

end SearchStore
