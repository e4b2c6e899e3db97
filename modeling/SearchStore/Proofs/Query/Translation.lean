import SearchStore.Proofs.Query.Clause

/-! # Translation preserves meaning

The filters are placed one after the other into two clauses. `Gathers` is the
invariant of the walk: the clauses collect the queries of the filters seen so
far, and only filters with a value that is no number were dropped.
`Gathers.place` keeps it for one filter, and `Gathers.placeAll` for a list.

With what clauses say of a document, `ofFilters_holds_iff` follows: the query
of a selection holds on just the documents that meet what the filters ask for.
-/

namespace SearchStore

namespace Filter

/-- The query of a filter with its path, if the filter is of the polarity. -/
def placed? (like : LikePolarity) (negated : Bool) (f : Filter) : Option Placed :=
  match f.predicate like with
  | .ok (some p) => if p.negated = negated then some (f.path?, p.query) else none
  | _ => none

/-- The queries that active filters put into the clause of a polarity. -/
def placed (like : LikePolarity) (negated : Bool) (filters : List Filter) : List Placed :=
  (filters.filter active).filterMap (placed? like negated)

section

variable {like : LikePolarity} {negated : Bool} {f : Filter} {p : Predicate}

theorem placed_of_inactive (h : f.active = false) : placed like negated [f] = [] := by
  simp [placed, h]

theorem placed_of_error {e : Error} (h : f.predicate like = .error e) :
    placed like negated [f] = [] := by
  by_cases ha : f.active <;> simp [placed, placed?, ha, h]

theorem placed_of_none (h : f.predicate like = .ok none) : placed like negated [f] = [] := by
  by_cases ha : f.active <;> simp [placed, placed?, ha, h]

theorem placed_of_some (ha : f.active = true) (h : f.predicate like = .ok (some p)) :
    placed like negated [f] = if p.negated = negated then [(f.path?, p.query)] else [] := by
  by_cases hn : p.negated = negated <;> simp [placed, placed?, ha, h, hn]

theorem placed_cons (f : Filter) (rest : List Filter) :
    placed like negated (f :: rest) = placed like negated [f] ++ placed like negated rest := by
  rw [← List.singleton_append]
  simp only [placed, List.filter_append, List.filterMap_append]

theorem placed_append (xs ys : List Filter) :
    placed like negated (xs ++ ys) = placed like negated xs ++ placed like negated ys := by
  simp only [placed, List.filter_append, List.filterMap_append]

end

/-- What is placed demands what the filters ask for. -/
theorem map_demand_placed {φ : Type} (tests : FieldTests φ) (like : LikePolarity)
    (negated : Bool) (filters : List Filter) :
    (placed like negated filters).map (Clause.demand tests) =
      Demand.ofFilters tests like negated filters := by
  rw [placed, Demand.ofFilters, List.map_filterMap]
  congr 1
  -- from here on one filter, with what its query was shown to agree with
  funext f
  have hagrees := f.agrees_predicate tests like
  rcases hp : f.predicate like with e | _ | p
  · rw [hp] at hagrees
    simp [placed?, hp, hagrees.1]
  · rw [hp] at hagrees
    have hnone : f.asks tests like = none := hagrees
    simp [placed?, hp, hnone]
  · rw [hp] at hagrees
    obtain ⟨test, hasks, hquery⟩ := hagrees
    by_cases hn : p.negated = negated
    · simp [placed?, hp, hasks, hn, Clause.demand, hquery]
    · simp [placed?, hp, hasks, hn]

end Filter

/-! ## The walk over the filters -/

namespace Placement

/-- The clauses of a placement collect some queries, and it dropped only
filters with a value that could not be converted. -/
structure Gathers (p : Placement) (positive negative : List Placed) : Prop where
  positive : Clause.Collects p.positive positive
  negative : Clause.Collects p.negative negative
  dropped : ∀ x ∈ p.dropped, ∃ value, x.2 = .conversion x.1.field value

namespace Gathers

variable {like : LikePolarity} {p : Placement} {pos neg : List Placed}

theorem empty : Gathers {} [] [] where
  positive := Clause.collects_nil
  negative := Clause.collects_nil
  dropped := by simp

/-- A filter goes into the clause of its polarity, or nowhere. -/
theorem place (h : p.Gathers pos neg) (f : Filter) :
    (p.place like f).Gathers (pos ++ Filter.placed like false [f])
      (neg ++ Filter.placed like true [f]) := by
  by_cases ha : f.active
  · -- an error, no query, a query of the first clause, or one of the second
    rcases hp : f.predicate like with e | _ | ⟨query, _ | _⟩
    · have hplace : p.place like f = { p with dropped := p.dropped ++ [(f, e)] } := by
        simp [Placement.place, ha, hp]
      rw [hplace, Filter.placed_of_error hp, Filter.placed_of_error hp]
      refine ⟨by simpa using h.positive, by simpa using h.negative, ?_⟩
      intro x hx
      rcases List.mem_append.mp hx with hx | hx
      · exact h.dropped x hx
      · obtain rfl := List.mem_singleton.mp hx
        exact f.predicate_error like hp
    · simpa [Placement.place, ha, hp, Filter.placed_of_none hp] using h
    · have hplace : p.place like f = { p with positive := p.positive.add f.path? query } := by
        simp [Placement.place, ha, hp]
      rw [hplace, Filter.placed_of_some ha hp, Filter.placed_of_some ha hp]
      exact ⟨h.positive.add (f.path?, query), by simpa using h.negative, h.dropped⟩
    · have hplace : p.place like f = { p with negative := p.negative.add f.path? query } := by
        simp [Placement.place, ha, hp]
      rw [hplace, Filter.placed_of_some ha hp, Filter.placed_of_some ha hp]
      exact ⟨by simpa using h.positive, h.negative.add (f.path?, query), h.dropped⟩
  · have hactive : f.active = false := by simpa using ha
    simpa [Placement.place, hactive, Filter.placed_of_inactive hactive] using h

theorem placeAll (h : p.Gathers pos neg) (filters : List Filter) :
    (Placement.placeAll like p filters).Gathers (pos ++ Filter.placed like false filters)
      (neg ++ Filter.placed like true filters) := by
  induction filters generalizing p pos neg with
  | nil => simpa [Placement.placeAll, Filter.placed] using h
  | cons f rest ih =>
    rw [Filter.placed_cons f rest, Filter.placed_cons f rest, ← List.append_assoc,
      ← List.append_assoc]
    exact ih (h.place f)

end Gathers

end Placement

/-! ## The whole query -/

namespace BoolClauses

variable {φ : Type} (tests : FieldTests φ)

/-- A query of clauses needs all filters and the range, one of the
alternatives if there are any, and none of the exclusions. -/
theorem holds_toQuery (b : BoolClauses) (d : Document φ) :
    b.toQuery.holds tests d = true ↔
      (∀ q ∈ b.filter, q.holds tests d = true) ∧
      (b.should = [] ∨ ∃ q ∈ b.should, q.holds tests d = true) ∧
      (∀ q ∈ b.mustNot, q.holds tests d = false) ∧
      ∀ q ∈ b.range, q.holds tests d = true := by
  have hrange : (∀ q ∈ b.filter ++ b.range.toList, q.holds tests d = true) ↔
      (∀ q ∈ b.filter, q.holds tests d = true) ∧ ∀ q ∈ b.range, q.holds tests d = true := by
    simp [or_imp, forall_and]
  rw [toQuery]
  by_cases hempty : b.isEmpty
  · -- without any clause the query is the one that always holds
    obtain ⟨⟨⟨hfilter, hshould⟩, hmustNot⟩, hnone⟩ :
        ((b.filter = [] ∧ b.should = []) ∧ b.mustNot = []) ∧ b.range = none := by
      simpa [isEmpty] using hempty
    simp [hempty, Query.holds, hfilter, hshould, hmustNot, hnone]
  · rw [if_neg hempty]
    by_cases hshould : b.should = []
    · rw [if_pos (by simp [hshould]), Query.holds_filter, hrange]
      simp only [hshould, true_or, true_and]
      tauto
    · rw [if_neg (by simp [hshould]), Query.holds_required, hrange,
        Query.holds_should tests hshould]
      simp only [hshould, false_or]
      tauto

end BoolClauses

namespace RangeFilter

variable {φ : Type} (tests : FieldTests φ)

/-- Whether the fields of a document are in range, both ends included. -/
def includes (r : RangeFilter) (fields : φ) : Bool :=
  tests.range r.field
    { gte := some (.int r.first), lte := some (.int r.last), format := some "epoch_millis" } fields

theorem holds_toQuery (r : RangeFilter) (d : Document φ) :
    r.toQuery.holds tests d = r.includes tests d.fields := by
  simp [toQuery, includes, Query.holds]

end RangeFilter

namespace Selection

variable {φ : Type} (tests : FieldTests φ)

/-- The selection of filters never fails: what it drops are filters with a
value that is no number. Its query holds on the documents for which each
demand of the filters in `all` is met, one demand of those in `any` if there
are some, and none of the negated ones of both lists, and that are in range.
Demands on nested documents of one path are met by one and the same of them,
or not at all. -/
theorem ofFilters_holds_iff (like : LikePolarity) (all any : List Filter)
    (range : Option RangeFilter) (d : Document φ) :
    let selection := ofFilters like all any range
    let required := Demand.ofFilters tests like false all
    let optional := Demand.ofFilters tests like false any
    let excluded := Demand.ofFilters tests like true (all ++ any)
    (∀ x ∈ selection.dropped, ∃ value, x.2 = .conversion x.1.field value) ∧
    (selection.toQuery.holds tests d = true ↔
      (∀ x ∈ required, Demand.Met required d x) ∧
      (optional = [] ∨ ∃ x ∈ optional, Demand.Met optional d x) ∧
      (∀ x ∈ excluded, ¬ Demand.Met excluded d x) ∧
      ∀ r ∈ range, r.includes tests d.fields = true) := by
  intro selection required optional excluded
  have hfirst : (Placement.placeAll like {} all).Gathers _ _ :=
    Placement.Gathers.empty.placeAll all
  -- the second walk keeps what is excluded and starts a new clause
  have hsecond : (Placement.placeAll like
      { Placement.placeAll like {} all with positive := [] } any).Gathers _ _ :=
    Placement.Gathers.placeAll
      (show Placement.Gathers { Placement.placeAll like {} all with positive := [] } [] _ from
        ⟨Clause.collects_nil, hfirst.negative, hfirst.dropped⟩) any
  simp only [List.nil_append, ← Filter.placed_append] at hfirst hsecond
  have hrequired : (∀ q ∈ selection.clauses.filter, q.holds tests d = true) ↔
      ∀ x ∈ required, Demand.Met required d x := by
    have hclause := hfirst.positive.all_hold tests d
    rw [Filter.map_demand_placed] at hclause
    exact hclause
  have hoptional : (∃ q ∈ selection.clauses.should, q.holds tests d = true) ↔
      ∃ x ∈ optional, Demand.Met optional d x := by
    have hclause := hsecond.positive.some_holds tests d
    rw [Filter.map_demand_placed] at hclause
    exact hclause
  have hexcluded : (∀ q ∈ selection.clauses.mustNot, q.holds tests d = false) ↔
      ∀ x ∈ excluded, ¬ Demand.Met excluded d x := by
    have hclause := hsecond.negative.none_holds tests d
    rw [Filter.map_demand_placed] at hclause
    exact hclause
  have hnone : selection.clauses.should = [] ↔ optional = [] := by
    have hclause := hsecond.positive.eq_nil_iff
    rw [← List.map_eq_nil_iff (f := Clause.demand tests), Filter.map_demand_placed] at hclause
    exact List.map_eq_nil_iff.trans hclause
  have hrange : (∀ q ∈ selection.clauses.range, q.holds tests d = true) ↔
      ∀ r ∈ range, r.includes tests d.fields = true := by
    rcases range with _ | r
    · simp [selection, ofFilters]
    · simp [selection, ofFilters, RangeFilter.holds_toQuery]
  refine ⟨hsecond.dropped, ?_⟩
  rw [toQuery, BoolClauses.holds_toQuery, hrequired, hoptional, hexcluded, hnone, hrange]

end Selection

end SearchStore
