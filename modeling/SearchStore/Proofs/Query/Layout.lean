import Mathlib.Data.List.Induction
import SearchStore.Proofs.Query.Translation

/-! # Where each predicate ends up

The clauses of a selection in full. A query that is added to a clause opens an
entry of its own, unless it joins the entry of its path; `Placed.openers` are
the queries that open one. `Clause.ofPlaced_eq` gives the clause of some
queries by its openers, and `Placement.placeAll_eq` the clauses and the dropped
filters of a whole walk.

From these `ofFilters_arranged` follows: every active filter has its predicate
in just one place, or is reported as dropped, or asks for nothing.
-/

namespace SearchStore

/-! ## The queries that open an entry -/

namespace Placed

/-- The queries that open an entry of a clause, in order: those without a path,
and the first one of each path. -/
def openers : List Placed → List Placed
  | [] => []
  | p :: rest => p :: (openers rest).filter fun x => x.1 = none ∨ x.1 ≠ p.1

theorem openers_append_single (ps : List Placed) (p : Placed) :
    openers (ps ++ [p]) =
      openers ps ++ if p.1 = none ∨ p.1 ∉ ps.map Prod.fst then [p] else [] := by
  induction ps with
  | nil => simp [openers]
  | cons first rest ih =>
    -- the new query opens an entry if it does so behind `rest` and is not of the first path
    have hiff : p.1 = none ∨ p.1 ∉ (first :: rest).map Prod.fst ↔
        (p.1 = none ∨ p.1 ∉ rest.map Prod.fst) ∧ (p.1 = none ∨ p.1 ≠ first.1) := by
      simp only [List.map_cons, List.mem_cons, not_or]
      tauto
    rw [List.cons_append, openers, openers, ih, List.filter_append, List.cons_append,
      if_congr hiff rfl rfl]
    congr 2
    by_cases hrest : p.1 = none ∨ p.1 ∉ rest.map Prod.fst
    · by_cases hfirst : p.1 = none ∨ p.1 ≠ first.1
      · rw [if_pos hrest, if_pos ⟨hrest, hfirst⟩, List.filter_cons_of_pos (by simpa using hfirst)]
        rfl
      · rw [if_pos hrest, if_neg fun h => hfirst h.2,
          List.filter_cons_of_neg (by simpa using hfirst)]
        rfl
    · rw [if_neg hrest, if_neg fun h => hrest h.1]
      rfl

/-- The opener of a path is the first of its queries. -/
theorem head?_onPath_of_mem_openers {ps : List Placed} {path : String} {q : Query}
    (h : (some path, q) ∈ openers ps) : (onPath path ps).head? = some q := by
  induction ps with
  | nil => simp [openers] at h
  | cons p rest ih =>
    rw [openers] at h
    rcases List.mem_cons.mp h with rfl | hrest
    · simp [onPath]
    · obtain ⟨hmem, hother⟩ := List.mem_filter.mp hrest
      have hne : ¬ p.1 = some path := fun heq => by simp [heq] at hother
      have hskip : onPath path (p :: rest) = onPath path rest := by simp [onPath, hne]
      rw [hskip]
      exact ih hmem

theorem onPath_ne_nil_iff {ps : List Placed} {path : String} :
    onPath path ps ≠ [] ↔ some path ∈ ps.map Prod.fst := by
  simp [onPath, List.filter_eq_nil_iff]

/-- The entry that a query has or shares in the clause of some queries. -/
def entry (ps : List Placed) (p : Placed) : Entry :=
  match p.1 with
  | none => .plain p.2
  | some path => .nested path (onPath path ps)

end Placed

/-! ## The clause of some queries -/

namespace Entry

/-- The entry with one more query, if it is the one for a path. -/
def extend (path : String) (q : Query) : Entry → Entry
  | .plain other => .plain other
  | .nested p queries => .nested p (if p = path then queries ++ [q] else queries)

/-- The queries of an entry. -/
def queries : Entry → List Query
  | .plain q => [q]
  | .nested _ queries => queries

end Entry

namespace Clause

theorem addNested_of_not_mem {path : String} {q : Query} {c : Clause} (h : path ∉ c.paths) :
    addNested path q c = c ++ [.nested path [q]] := by
  induction c with
  | nil => rfl
  | cons e rest ih =>
    cases e with
    | plain other =>
      have hrest : path ∉ paths rest := by simpa using h
      rw [addNested, ih hrest]
      rfl
    | nested p old =>
      have hcons : ¬ path = p ∧ path ∉ paths rest := by simpa using h
      rw [addNested, if_neg fun heq => hcons.1 heq.symm, ih hcons.2]
      rfl

theorem map_extend_of_not_mem {path : String} {q : Query} {c : Clause} (h : path ∉ c.paths) :
    c.map (Entry.extend path q) = c := by
  induction c with
  | nil => rfl
  | cons e rest ih =>
    cases e with
    | plain other =>
      have hrest : path ∉ paths rest := by simpa using h
      rw [List.map_cons, ih hrest, Entry.extend]
    | nested p old =>
      have hcons : ¬ path = p ∧ path ∉ paths rest := by simpa using h
      rw [List.map_cons, ih hcons.2, Entry.extend, if_neg fun heq => hcons.1 heq.symm]

theorem addNested_of_mem {path : String} {q : Query} {c : Clause} (hd : c.paths.Nodup)
    (h : path ∈ c.paths) : addNested path q c = c.map (Entry.extend path q) := by
  induction c with
  | nil => simp [paths] at h
  | cons e rest ih =>
    cases e with
    | plain other =>
      have hrest : path ∈ paths rest := by simpa using h
      have hdrest : (paths rest).Nodup := by simpa using hd
      rw [addNested, ih hdrest hrest, List.map_cons, Entry.extend]
    | nested p old =>
      have hdcons : p ∉ paths rest ∧ (paths rest).Nodup := by simpa using hd
      by_cases hp : p = path
      · -- the entry is found, and no later one is for its path
        rw [addNested, if_pos hp, List.map_cons, Entry.extend, if_pos hp,
          map_extend_of_not_mem (hp ▸ hdcons.1)]
      · have hrest : path ∈ paths rest := by
          rw [paths_nested_cons] at h
          exact (List.mem_cons.mp h).resolve_left fun heq => hp heq.symm
        rw [addNested, if_neg hp, ih hdcons.2 hrest, List.map_cons, Entry.extend, if_neg hp]

theorem ofPlaced_append_single (ps : List Placed) (p : Placed) :
    ofPlaced (ps ++ [p]) = (ofPlaced ps).add p.1 p.2 := by
  rw [ofPlaced, List.foldl_append]
  rfl

/-- A query without a path leaves the entries of the others as they are. -/
theorem entry_append_plain (ps : List Placed) (q : Query) :
    Placed.entry (ps ++ [(none, q)]) = Placed.entry ps := by
  funext x
  rcases x with ⟨_ | path, x⟩
  · rfl
  · have hother : Placed.onPath path [((none, q) : Placed)] = [] :=
      Placed.onPath_single_other (by simp)
    simp [Placed.entry, Placed.onPath_append, hother]

/-- A query with a path extends the entry of its path. -/
theorem entry_append_nested (ps : List Placed) (path : String) (q : Query) :
    Placed.entry (ps ++ [(some path, q)]) = Entry.extend path q ∘ Placed.entry ps := by
  funext x
  rcases x with ⟨_ | other, x⟩
  · rfl
  · by_cases hother : other = path
    · subst hother
      simp [Placed.entry, Entry.extend, Placed.onPath_append, Placed.onPath_single_self]
    · have hnone : Placed.onPath other [((some path, q) : Placed)] = [] :=
        Placed.onPath_single_other (by simpa using fun heq => hother heq.symm)
      simp [Placed.entry, Entry.extend, Placed.onPath_append, hnone, hother]

/-- A clause has the entries of its openers, each with all queries of its
path. -/
theorem ofPlaced_eq (ps : List Placed) :
    ofPlaced ps = (Placed.openers ps).map (Placed.entry ps) := by
  induction ps using List.reverseRecOn with
  | nil => rfl
  | append_singleton ps p ih =>
    rw [ofPlaced_append_single, Placed.openers_append_single]
    have hcollects := collects_ofPlaced ps
    rcases p with ⟨_ | path, q⟩
    · rw [if_pos (Or.inl rfl), List.map_append, entry_append_plain, ← ih]
      rfl
    · have hmem : path ∈ (ofPlaced ps).paths ↔ some path ∈ ps.map Prod.fst :=
        hcollects.mem_paths_iff.trans Placed.onPath_ne_nil_iff
      have hold : (Placed.openers ps).map (Placed.entry (ps ++ [(some path, q)])) =
          (ofPlaced ps).map (Entry.extend path q) := by
        rw [entry_append_nested, ← List.map_map, ← ih]
      rw [List.map_append, hold]
      -- the path has an entry that is extended, or gets a new one at the end
      by_cases hpath : path ∈ (ofPlaced ps).paths
      · have hseen : ¬ (some path = none ∨ some path ∉ ps.map Prod.fst) := by
          simpa using hmem.mp hpath
        rw [if_neg hseen, List.map_nil, List.append_nil]
        exact addNested_of_mem hcollects.distinct hpath
      · have hnew : some path ∉ ps.map Prod.fst := fun h => hpath (hmem.mpr h)
        have hnone : Placed.onPath path ps = [] := by
          by_contra hne
          exact hnew (Placed.onPath_ne_nil_iff.mp hne)
        have hlast : Placed.entry (ps ++ [(some path, q)]) (some path, q) = .nested path [q] := by
          simp [Placed.entry, Placed.onPath_append, hnone, Placed.onPath_single_self]
        rw [if_pos (Or.inr hnew), List.map_singleton, hlast, map_extend_of_not_mem hpath]
        exact addNested_of_not_mem hpath

theorem queries_addNested_perm (path : String) (q : Query) (c : Clause) :
    ((addNested path q c).flatMap Entry.queries).Perm (c.flatMap Entry.queries ++ [q]) := by
  induction c with
  | nil => rfl
  | cons e rest ih =>
    cases e with
    | plain other => exact ih.cons other
    | nested p old =>
      by_cases hp : p = path
      · rw [addNested, if_pos hp, List.flatMap_cons, List.flatMap_cons, Entry.queries,
          List.append_assoc, List.append_assoc]
        exact (List.perm_append_comm).append_left old
      · rw [addNested, if_neg hp, List.flatMap_cons, List.flatMap_cons, List.append_assoc]
        exact ih.append_left _

/-- The entries of a clause hold what was added, each query once. -/
theorem queries_ofPlaced_perm (ps : List Placed) :
    ((ofPlaced ps).flatMap Entry.queries).Perm (ps.map Prod.snd) := by
  induction ps using List.reverseRecOn with
  | nil => rfl
  | append_singleton ps p ih =>
    rw [ofPlaced_append_single, List.map_append]
    rcases p with ⟨_ | path, q⟩
    · rw [add, List.flatMap_append]
      exact ih.append_right [q]
    · exact (queries_addNested_perm path q _).trans (ih.append_right [q])

end Clause

/-! ## What queries are about -/

namespace Query

/-- The names of the fields that a clause about fields names. -/
def fieldNames : Query → List String
  | .term fields => fields.map Prod.fst
  | .terms fields => fields.map Prod.fst
  | .termsSet fields => fields.map Prod.fst
  | .range fields => fields.map Prod.fst
  | .wildcard fields => fields.map Prod.fst
  | .matchAll _ | .ids _ | .nested _ _ | .bool _ _ _ _ _ => []

/-- The path of a query on nested documents. -/
def wrapper? : Query → Option String
  | .nested path _ => some path
  | _ => none

/-- The queries that must hold inside a wrapper; any other query by itself. -/
def leaves : Query → List Query
  | .nested _ (.bool _ must _ _ _) => must
  | q => [q]

theorem wrapper?_of_fieldNames {q : Query} {field : String} (h : q.fieldNames = [field]) :
    q.wrapper? = none ∧ q.leaves = [q] := by
  cases q <;> first | exact ⟨rfl, rfl⟩ | simp [fieldNames] at h

end Query

namespace Filter

variable {like : LikePolarity} {f : Filter} {p : Predicate}

theorem fieldNames_onFirst {negated : Bool} {query : Json → Query}
    (hquery : ∀ v, (query v).fieldNames = [f.field])
    (h : f.onFirst negated query = some p) : p.query.fieldNames = [f.field] := by
  obtain ⟨v, -, rfl⟩ := Option.map_eq_some_iff.mp h
  exact hquery v

theorem fieldNames_onAll {negated : Bool} (h : f.onAll negated = some p) :
    p.query.fieldNames = [f.field] := by
  obtain ⟨-, rfl⟩ : ¬ f.values.isEmpty = true ∧ _ = p := by simpa [onAll] using h
  rfl

theorem fieldNames_comparison {bounds : Json → Bounds} (h : f.comparison bounds = .ok (some p)) :
    p.query.fieldNames = [f.field] := by
  rcases hn : f.numberAt 0 with e | _ | x
  · simp [comparison, hn, bind, Except.bind] at h
  · simp [comparison, hn, bind, Except.bind, pure, Except.pure] at h
  · obtain rfl : _ = p := by
      simpa [comparison, hn, bind, Except.bind, pure, Except.pure] using h
    rfl

theorem fieldNames_range (h : f.range = .ok (some p)) : p.query.fieldNames = [f.field] := by
  rcases hn : f.numberAt 0 with e | _ | x
  · simp [range, hn, bind, Except.bind] at h
  · simp [range, hn, bind, Except.bind, pure, Except.pure] at h
  · rcases hm : f.numberAt 1 with e | y
    · simp [range, hn, hm, bind, Except.bind] at h
    · obtain rfl : _ = p := by
        simpa [range, hn, hm, bind, Except.bind, pure, Except.pure] using h
      rfl

/-- The query of a filter is about the filter's field and no other. -/
theorem fieldNames_predicate (h : f.predicate like = .ok (some p)) :
    p.query.fieldNames = [f.field] := by
  rcases hop : f.operator <;> simp only [predicate, hop] at h
  case eq | neq | like | contains =>
    exact fieldNames_onFirst (fun _ => rfl) (Except.ok.inj h)
  case isIn | notIn => exact fieldNames_onAll (Except.ok.inj h)
  case between => exact fieldNames_range h
  all_goals exact fieldNames_comparison h

theorem numberAt_error {place : Nat} {e : Error} (h : f.numberAt place = .error e) :
    ∃ v ∈ f.values, toDouble? v = none ∧ e = .conversion f.field v.render := by
  rw [numberAt] at h
  rcases hv : f.values[place]? with _ | v
  · simp [hv] at h
  · rcases hx : toDouble? v with _ | x
    · refine ⟨v, List.mem_of_getElem? hv, hx, ?_⟩
      simpa [hv, hx] using h.symm
    · simp [hv, hx] at h

theorem numberAt_of_comparison_error {bounds : Json → Bounds} {e : Error}
    (h : f.comparison bounds = .error e) : f.numberAt 0 = .error e := by
  rcases hn : f.numberAt 0 with e' | _ | x
  · simpa [comparison, hn, bind, Except.bind] using h
  · simp [comparison, hn, bind, Except.bind, pure, Except.pure] at h
  · simp [comparison, hn, bind, Except.bind, pure, Except.pure] at h

theorem numberAt_of_range_error {e : Error} (h : f.range = .error e) :
    f.numberAt 0 = .error e ∨ f.numberAt 1 = .error e := by
  rcases hn : f.numberAt 0 with e' | _ | x
  · left
    simpa [range, hn, bind, Except.bind] using h
  · simp [range, hn, bind, Except.bind, pure, Except.pure] at h
  · right
    rcases hm : f.numberAt 1 with e' | y
    · simpa [range, hn, hm, bind, Except.bind] using h
    · simp [range, hn, hm, bind, Except.bind, pure, Except.pure] at h

/-- A filter is refused for one of its values that is no number, and the error
names the field and the value. -/
theorem refused_value {e : Error} (h : f.predicate like = .error e) :
    ∃ v ∈ f.values, toDouble? v = none ∧ e = .conversion f.field v.render := by
  rcases hop : f.operator <;> simp only [predicate, hop] at h
  case eq | neq | like | contains | isIn | notIn => cases h
  case between =>
    rcases numberAt_of_range_error h with hn | hm
    · exact numberAt_error hn
    · exact numberAt_error hm
  all_goals exact numberAt_error (numberAt_of_comparison_error h)

end Filter

/-- What stands in a field before its first point, and after it. -/
def IsPathOf (path field : String) : Prop :=
  '.' ∉ path.toList ∧ ∃ rest, field.toList = path.toList ++ '.' :: rest

theorem isPathOf_of_nestedPath? {field path : String} (h : nestedPath? field = some path) :
    IsPathOf path field := by
  obtain ⟨parts, hparts, rfl⟩ := Option.map_eq_some_iff.mp h
  obtain ⟨hno, hfield⟩ := Text.eq_of_cutAt? hparts
  exact ⟨by simpa using hno, parts.2, by simpa using hfield⟩

theorem not_mem_of_nestedPath? {field : String} (h : nestedPath? field = none) :
    '.' ∉ field.toList :=
  Text.not_mem_of_cutAt? (Option.map_eq_none_iff.mp h)

/-! ## Clauses that are arranged -/

namespace Placed

/-- A query is about one field, which the path that it is placed with belongs
to. -/
def OnField (p : Placed) : Prop :=
  ∃ field, p.2.fieldNames = [field] ∧ p.1 = nestedPath? field

end Placed

/-- The queries of a clause are what was placed in it: nothing is lost and
nothing is there twice, queries on nested documents stand in the one wrapper of
their path, and the order is kept. -/
structure Arranged (queries : List Query) (ps : List Placed) : Prop where
  /-- The leaves are the queries that were placed. -/
  conserved : (queries.flatMap Query.leaves).Perm (ps.map Prod.snd)
  /-- No path has two wrappers. -/
  distinct : (queries.filterMap Query.wrapper?).Nodup
  /-- Entries stand in the order in which their first query came. -/
  ordered : (queries.map fun q => (q.wrapper?, q.leaves.head?)) =
    (Placed.openers ps).map fun p => (p.1, some p.2)
  /-- A wrapper holds all queries of its path, in the order in which they came. -/
  inside : ∀ path q, Query.nested path q ∈ queries →
    q = .bool [] (Placed.onPath path ps) [] [] none
  /-- What stands in a wrapper is about a field of its path. -/
  nested : ∀ path q, Query.nested path q ∈ queries →
    ∀ leaf ∈ (Query.nested path q).leaves, ∃ field, leaf.fieldNames = [field] ∧ IsPathOf path field
  /-- What stands outside is about a field without a point. -/
  plain : ∀ q ∈ queries, q.wrapper? = none →
    ∃ field, q.fieldNames = [field] ∧ '.' ∉ field.toList

namespace Clause

variable {ps : List Placed}

/-- A query without a path is no wrapper. -/
theorem wrapper?_of_plain_mem (h : ∀ p ∈ ps, p.OnField) {q : Query}
    (hq : Entry.plain q ∈ ofPlaced ps) : q.wrapper? = none ∧ q.leaves = [q] := by
  obtain ⟨field, hfield, -⟩ := h _ (((collects_ofPlaced ps).plain q).mp hq)
  exact Query.wrapper?_of_fieldNames hfield

theorem toQuery_eq_nested (h : ∀ p ∈ ps, p.OnField) {path : String} {q : Query}
    (hq : Query.nested path q ∈ (ofPlaced ps).toQueries) :
    q = .bool [] (Placed.onPath path ps) [] [] none := by
  obtain ⟨e, he, heq⟩ := List.mem_map.mp hq
  cases e with
  | plain x =>
    have hwrapper := (wrapper?_of_plain_mem h he).1
    rw [show x = .nested path q from heq] at hwrapper
    cases hwrapper
  | nested other queries =>
    obtain ⟨rfl, rfl⟩ := Query.nested.inj heq
    rw [(((collects_ofPlaced ps).nested _ _).mp he).1]

theorem toQuery_spec (h : ∀ p ∈ ps, p.OnField) {e : Entry} (he : e ∈ ofPlaced ps) :
    e.toQuery.wrapper? = e.path? ∧ e.toQuery.leaves = e.queries := by
  cases e with
  | plain q => exact wrapper?_of_plain_mem h he
  | nested path queries => exact ⟨rfl, rfl⟩

/-- The clause of queries that are placed by their fields is arranged. -/
theorem arranged (h : ∀ p ∈ ps, p.OnField) : Arranged (ofPlaced ps).toQueries ps where
  conserved := by
    have hleaves : (ofPlaced ps).toQueries.flatMap Query.leaves =
        (ofPlaced ps).flatMap Entry.queries := by
      rw [toQueries, List.flatMap_map]
      exact List.flatMap_congr fun e he => (toQuery_spec h he).2
    rw [hleaves]
    exact queries_ofPlaced_perm ps
  distinct := by
    have hpaths : (ofPlaced ps).toQueries.filterMap Query.wrapper? = (ofPlaced ps).paths := by
      rw [toQueries, List.filterMap_map]
      exact List.filterMap_congr fun e he => (toQuery_spec h he).1
    rw [hpaths]
    exact (collects_ofPlaced ps).distinct
  ordered := by
    have hmem : ∀ p ∈ Placed.openers ps, Placed.entry ps p ∈ ofPlaced ps := by
      intro p hp
      rw [ofPlaced_eq]
      exact List.mem_map_of_mem hp
    rw [toQueries, List.map_map, ofPlaced_eq, List.map_map]
    refine List.map_congr_left fun p hp => ?_
    obtain ⟨hwrapper, hleaves⟩ := toQuery_spec h (hmem p hp)
    rw [Function.comp_apply, Function.comp_apply, hwrapper, hleaves]
    rcases p with ⟨_ | path, q⟩
    · rfl
    · rw [Placed.entry, Entry.path?, Entry.queries, Placed.head?_onPath_of_mem_openers hp]
  inside := fun _ _ hq => toQuery_eq_nested h hq
  nested := by
    intro path q hq leaf hleaf
    rw [toQuery_eq_nested h hq] at hleaf
    obtain ⟨field, hfield, hpath⟩ := h _ (Placed.mem_onPath.mp hleaf)
    exact ⟨field, hfield, isPathOf_of_nestedPath? hpath.symm⟩
  plain := by
    intro q hq hwrapper
    obtain ⟨e, he, rfl⟩ := List.mem_map.mp hq
    cases e with
    | plain x =>
      obtain ⟨field, hfield, hpath⟩ := h _ (((collects_ofPlaced ps).plain x).mp he)
      exact ⟨field, hfield, not_mem_of_nestedPath? hpath.symm⟩
    | nested path queries => cases hwrapper

end Clause

/-! ## The walk in full -/

namespace Filter

variable (like : LikePolarity)

/-- The active filters of which no query can be made, with the reasons. -/
def refused (filters : List Filter) : List (Filter × Error) :=
  (filters.filter active).filterMap fun f =>
    match f.predicate like with
    | .error e => some (f, e)
    | .ok _ => none

/-- Whether a filter asks for nothing. -/
def isSilent (f : Filter) : Bool :=
  match f.predicate like with
  | .ok none => true
  | _ => false

theorem refused_cons (f : Filter) (rest : List Filter) :
    refused like (f :: rest) = refused like [f] ++ refused like rest := by
  rw [← List.singleton_append]
  simp only [refused, List.filter_append, List.filterMap_append]

theorem refused_of_inactive {f : Filter} (h : f.active = false) : refused like [f] = [] := by
  simp [refused, h]

theorem refused_of_error {f : Filter} {e : Error} (ha : f.active = true)
    (h : f.predicate like = .error e) : refused like [f] = [(f, e)] := by
  simp [refused, ha, h]

theorem refused_of_ok {f : Filter} {p : Option Predicate} (h : f.predicate like = .ok p) :
    refused like [f] = [] := by
  by_cases ha : f.active <;> simp [refused, ha, h]

theorem onField_of_mem_placed {negated : Bool} {filters : List Filter} {p : Placed}
    (h : p ∈ placed like negated filters) : p.OnField := by
  obtain ⟨f, -, hf⟩ := List.mem_filterMap.mp h
  rcases hp : f.predicate like with e | _ | q
  · simp [placed?, hp] at hf
  · simp [placed?, hp] at hf
  · obtain ⟨-, rfl⟩ : q.negated = negated ∧ (f.path?, q.query) = p := by
      simpa [placed?, hp] using hf
    exact ⟨f.field, fieldNames_predicate hp, rfl⟩

/-- An active filter is placed once, refused, or asks for nothing. -/
theorem length_active (filters : List Filter) :
    (placed like false filters).length + (placed like true filters).length +
      (refused like filters).length + (filters.filter active).countP (isSilent like) =
        (filters.filter active).length := by
  induction filters with
  | nil => rfl
  | cons f rest ih =>
    rw [placed_cons f rest, placed_cons f rest, refused_cons like f rest]
    simp only [List.length_append]
    by_cases ha : f.active
    · rw [List.filter_cons_of_pos ha, List.countP_cons, List.length_cons]
      -- the filter counts in just one of the four sums
      rcases hp : f.predicate like with e | _ | ⟨query, _ | _⟩
      · rw [placed_of_error hp, placed_of_error hp, refused_of_error like ha hp]
        simp only [isSilent, hp, List.length_nil, List.length_singleton,
          Bool.false_eq_true, if_false]
        omega
      · rw [placed_of_none hp, placed_of_none hp, refused_of_ok like hp]
        simp only [isSilent, hp, List.length_nil, if_true]
        omega
      · rw [placed_of_some ha hp, placed_of_some ha hp, refused_of_ok like hp]
        simp only [isSilent, hp, List.length_nil, List.length_singleton, Bool.false_eq_true,
          if_true, if_false]
        omega
      · rw [placed_of_some ha hp, placed_of_some ha hp, refused_of_ok like hp]
        simp only [isSilent, hp, List.length_nil, List.length_singleton, Bool.false_eq_true,
          reduceCtorEq, if_true, if_false]
        omega
    · have hactive : f.active = false := by simpa using ha
      rw [placed_of_inactive hactive, placed_of_inactive hactive, refused_of_inactive like hactive,
        List.filter_cons_of_neg ha]
      simpa using ih

end Filter

/-- A clause with more queries added, in order. -/
def Clause.addAll (c : Clause) (ps : List Placed) : Clause :=
  ps.foldl (fun c p => c.add p.1 p.2) c

namespace Placement

variable (like : LikePolarity)

theorem place_eq (p : Placement) (f : Filter) :
    p.place like f =
      { positive := Clause.addAll p.positive (Filter.placed like false [f])
        negative := Clause.addAll p.negative (Filter.placed like true [f])
        dropped := p.dropped ++ Filter.refused like [f] } := by
  by_cases ha : f.active
  · rcases hp : f.predicate like with e | _ | ⟨query, _ | _⟩
    · rw [Filter.placed_of_error hp, Filter.placed_of_error hp, Filter.refused_of_error like ha hp]
      simp [place, ha, hp, Clause.addAll]
    · rw [Filter.placed_of_none hp, Filter.placed_of_none hp, Filter.refused_of_ok like hp]
      simp [place, ha, hp, Clause.addAll]
    · rw [Filter.placed_of_some ha hp, Filter.placed_of_some ha hp, Filter.refused_of_ok like hp]
      simp [place, ha, hp, Clause.addAll]
    · rw [Filter.placed_of_some ha hp, Filter.placed_of_some ha hp, Filter.refused_of_ok like hp]
      simp [place, ha, hp, Clause.addAll]
  · have hactive : f.active = false := by simpa using ha
    rw [Filter.placed_of_inactive hactive, Filter.placed_of_inactive hactive,
      Filter.refused_of_inactive like hactive]
    simp [place, hactive, Clause.addAll]

/-- A walk adds the queries of each polarity to their clause, and drops the
filters that are refused. -/
theorem placeAll_eq (p : Placement) (filters : List Filter) :
    placeAll like p filters =
      { positive := Clause.addAll p.positive (Filter.placed like false filters)
        negative := Clause.addAll p.negative (Filter.placed like true filters)
        dropped := p.dropped ++ Filter.refused like filters } := by
  induction filters generalizing p with
  | nil => simp [placeAll, Clause.addAll, Filter.placed, Filter.refused]
  | cons f rest ih =>
    have hstep : placeAll like p (f :: rest) = placeAll like (p.place like f) rest := rfl
    rw [hstep, ih, place_eq, Filter.placed_cons f rest, Filter.placed_cons f rest,
      Filter.refused_cons like f rest]
    simp only [Clause.addAll, List.foldl_append, List.append_assoc]

end Placement

namespace Selection

theorem ofFilters_eq (like : LikePolarity) (all any : List Filter) (range : Option RangeFilter) :
    ofFilters like all any range =
      { clauses :=
          { filter := (Clause.ofPlaced (Filter.placed like false all)).toQueries
            should := (Clause.ofPlaced (Filter.placed like false any)).toQueries
            mustNot := (Clause.ofPlaced (Filter.placed like true (all ++ any))).toQueries
            range := range.map RangeFilter.toQuery }
        dropped := Filter.refused like (all ++ any) } := by
  have hdropped : Filter.refused like all ++ Filter.refused like any =
      Filter.refused like (all ++ any) := by
    simp only [Filter.refused, List.filter_append, List.filterMap_append]
  have hnegative (xs ys : List Placed) :
      Clause.addAll (Clause.addAll [] xs) ys = Clause.ofPlaced (xs ++ ys) := by
    rw [Clause.ofPlaced, List.foldl_append]
    rfl
  simp only [ofFilters, Placement.placeAll_eq, List.nil_append, hdropped, hnegative,
    Filter.placed_append]
  rfl

/-- No predicate is lost, doubled or misplaced. Each clause holds the queries
of the active filters of its list and polarity, and the exclusions those of
both lists; what no query is made of is dropped, with its field and the value
that is no number; and these and the filters that ask for nothing are all. -/
theorem ofFilters_arranged (like : LikePolarity) (all any : List Filter)
    (range : Option RangeFilter) :
    let selection := ofFilters like all any range
    let leaves (queries : List Query) := (queries.flatMap Query.leaves).length
    let active := (all ++ any).filter Filter.active
    Arranged selection.clauses.filter (Filter.placed like false all) ∧
    Arranged selection.clauses.should (Filter.placed like false any) ∧
    Arranged selection.clauses.mustNot (Filter.placed like true (all ++ any)) ∧
    selection.clauses.range = range.map RangeFilter.toQuery ∧
    selection.dropped = Filter.refused like (all ++ any) ∧
    (∀ (f : Filter) (e : Error), f.predicate like = .error e →
      ∃ v ∈ f.values, Filter.toDouble? v = none ∧ e = .conversion f.field v.render) ∧
    leaves selection.clauses.filter + leaves selection.clauses.should +
      leaves selection.clauses.mustNot + selection.dropped.length +
        active.countP (Filter.isSilent like) = active.length := by
  intro selection leaves active
  have heq : selection = _ := ofFilters_eq like all any range
  have hfilter : Arranged selection.clauses.filter (Filter.placed like false all) := by
    rw [heq]
    exact Clause.arranged fun p hp => Filter.onField_of_mem_placed like hp
  have hshould : Arranged selection.clauses.should (Filter.placed like false any) := by
    rw [heq]
    exact Clause.arranged fun p hp => Filter.onField_of_mem_placed like hp
  have hmustNot : Arranged selection.clauses.mustNot (Filter.placed like true (all ++ any)) := by
    rw [heq]
    exact Clause.arranged fun p hp => Filter.onField_of_mem_placed like hp
  have hdropped : selection.dropped = Filter.refused like (all ++ any) := by rw [heq]
  refine ⟨hfilter, hshould, hmustNot, by rw [heq], hdropped, fun f e => Filter.refused_value, ?_⟩
  have hcount := Filter.length_active like (all ++ any)
  have hleaves {queries : List Query} {ps : List Placed} (h : Arranged queries ps) :
      leaves queries = ps.length :=
    h.conserved.length_eq.trans (List.length_map Prod.snd)
  rw [hleaves hfilter, hleaves hshould, hleaves hmustNot, hdropped]
  rw [Filter.placed_append, List.length_append] at hcount
  omega

end Selection

end SearchStore
