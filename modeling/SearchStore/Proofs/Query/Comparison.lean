import SearchStore.Proofs.Number.Overflow
import SearchStore.Proofs.Query.Layout

/-! # Comparisons with numbers

What becomes of a filter that compares its field with numbers: nothing if it has no value, an error
if a value that counts is no number, and otherwise a positive range on the field in which just the
bounds of the operator are set, each from its own value (`Filter.compared_predicate`).

A text can be read as a number that JSON does not have, and such a bound is written as `null`, as if
there were none. Just those values keep a comparison from being one with numbers
(`Filter.predicate_isNumeric_iff`).
-/

namespace SearchStore

/-- Operators that compare a field with numbers. -/
def Operator.ComparesNumbers (o : Operator) : Prop := o ∈ [.gt, .gte, .lt, .lte, .between]

instance (o : Operator) : Decidable o.ComparesNumbers := List.instDecidableMemOfLawfulBEq _ _

namespace Json

/-- Numbers of JSON: integers of 64 bits, with a sign or without one, and finite doubles. -/
def IsNumber : Json → Prop
  | .int n => Int64.minValue.toInt ≤ n ∧ n < UInt64.size
  | .real x => x.isFinite
  | _ => False

/-- Values that are read as a number, but not as a finite one. -/
def Boundless : Json → Prop
  | .str s => Double.Unbounded (Text.trim s)
  | .int n => Format.double.limit ≤ n.natAbs
  | .real x => x.isFinite = false
  | _ => False

theorem isNumber_ofDouble {x : Double} : (ofDouble x).IsNumber ↔ x.isFinite := by
  rw [ofDouble]
  split_ifs with h <;> simp [IsNumber, h]

theorem boundless_iff {v : Json} :
    v.Boundless ↔ ∃ x, Filter.toDouble? v = some x ∧ x.isFinite = false := by
  cases v with
  | str s => exact Double.unbounded_iff _
  | int n =>
    rw [Boundless, ← not_lt, ← Double.isFinite_ofInt_iff]
    simp [Filter.toDouble?, asDouble?]
  | real x => simp [Boundless, Filter.toDouble?, asDouble?]
  | null | bool | arr | obj => simp [Boundless, Filter.toDouble?, asDouble?]

/-- No number of JSON is too large for a double. -/
theorem IsNumber.not_boundless {v : Json} (h : v.IsNumber) : ¬ v.Boundless := by
  cases v with
  | int n =>
    have hmin : Int64.minValue.toInt = -2 ^ 63 := rfl
    have hsize : UInt64.size = 2 ^ 64 := rfl
    obtain ⟨hlow, hhigh⟩ := h
    have habs : n.natAbs < 2 ^ 64 := by omega
    rw [Boundless, not_le]
    calc (n.natAbs : ℚ) ≤ ((2 ^ 64 : ℕ) : ℚ) := by exact_mod_cast habs.le
      _ < Format.double.limit := Format.limit_double.1
  | real x => simpa [Boundless, IsNumber] using h
  | null | bool | str | arr | obj => exact h.elim

end Json

/-- The bounds that are set, from the lower ones up. -/
def Bounds.values (b : Bounds) : List Json :=
  b.gt.toList ++ b.gte.toList ++ b.lt.toList ++ b.lte.toList

namespace Filter

variable {f : Filter} {like : LikePolarity}

/-- The values that a comparison with numbers looks at. -/
def boundValues (f : Filter) : List Json := f.values.take (if f.operator = .between then 2 else 1)

/-- Just the bounds of the operator are set: for a range between two values the upper one if there
is a second value. -/
structure Sets (f : Filter) (b : Bounds) : Prop where
  gt : b.gt.isSome ↔ f.operator = .gt
  gte : b.gte.isSome ↔ f.operator = .gte ∨ f.operator = .between
  lt : b.lt.isSome ↔ f.operator = .lt
  lte : b.lte.isSome ↔ f.operator = .lte ∨ f.operator = .between ∧ 1 < f.values.length
  format : b.format = none

/-- The bound that a value gives: what it is read as, which is `null` if it is not finite. -/
def Gives (v bound : Json) : Prop := ∃ x, toDouble? v = some x ∧ bound = .ofDouble x

/-- What can become of a comparison with numbers. An error names the first value that is none, and
each bound comes from its own value. -/
def Compared (f : Filter) : Except Error (Option Predicate) → Prop
  | .ok none => f.values = []
  | .error e =>
    ∃ v, f.boundValues.find? (fun v => (toDouble? v).isNone) = some v ∧
      e = .conversion f.field v.render
  | .ok (some p) =>
    p.negated = false ∧ ∃ b, p.query = .range [(f.field, b)] ∧ f.Sets b ∧
      List.Forall₂ Gives f.boundValues b.values

/-- Every bound that is set is a number. -/
def IsNumeric : Except Error (Option Predicate) → Prop
  | .ok (some p) => ∀ field b, p.query = .range [(field, b)] → ∀ j ∈ b.values, j.IsNumber
  | _ => True

theorem compared_comparison {bounds : Json → Bounds} (hone : f.operator ≠ .between)
    (hsets : ∀ j, f.Sets (bounds j)) (hvalues : ∀ j, (bounds j).values = [j]) :
    f.Compared (f.comparison bounds) := by
  rcases hf : f.values with _ | ⟨v, rest⟩
  · simp [comparison, numberAt, hf, Compared, bind, Except.bind, pure, Except.pure]
  have hbound : f.boundValues = [v] := by simp [boundValues, hf, hone]
  rcases hv : toDouble? v with _ | x
  · simp [comparison, numberAt, hf, hv, hbound, Compared, bind, Except.bind]
  · simp [comparison, numberAt, hf, hv, hbound, hsets, hvalues, Compared, Gives, bind, Except.bind,
      pure, Except.pure]

theorem compared_range (htwo : f.operator = .between) : f.Compared f.range := by
  rcases hf : f.values with _ | ⟨v, _ | ⟨w, rest⟩⟩
  · simp [range, numberAt, hf, Compared, bind, Except.bind, pure, Except.pure]
  · have hbound : f.boundValues = [v] := by simp [boundValues, hf, htwo]
    rcases hv : toDouble? v with _ | x
    · simp [range, numberAt, hf, hv, hbound, Compared, bind, Except.bind]
    · have hsets : f.Sets { gte := some (.ofDouble x) } := by constructor <;> simp [htwo, hf]
      simpa [range, numberAt, hf, hv, hbound, Compared, Gives, Bounds.values, bind, Except.bind,
        pure, Except.pure] using hsets
  · have hbound : f.boundValues = [v, w] := by simp [boundValues, hf, htwo]
    rcases hv : toDouble? v with _ | x
    · simp [range, numberAt, hf, hv, hbound, Compared, bind, Except.bind]
    rcases hw : toDouble? w with _ | y
    · simp [range, numberAt, hf, hv, hw, hbound, Compared, bind, Except.bind]
    · have hsets : f.Sets { gte := some (.ofDouble x), lte := some (.ofDouble y) } := by
        constructor <;> simp [htwo, hf]
      simpa [range, numberAt, hf, hv, hw, hbound, Compared, Gives, Bounds.values, bind, Except.bind,
        pure, Except.pure] using hsets

theorem compared_predicate (hop : f.operator.ComparesNumbers) :
    f.Compared (f.predicate like) := by
  rcases ho : f.operator <;> simp only [predicate, ho]
  case gt | gte | lt | lte =>
    refine compared_comparison (by simp [ho]) (fun j => ?_) fun j => rfl
    constructor <;> simp [ho]
  case between => exact compared_range ho
  all_goals
    rw [ho] at hop
    exact absurd hop (by decide)

theorem Gives.isNumber_iff {v bound : Json} (h : Gives v bound) :
    bound.IsNumber ↔ ¬ v.Boundless := by
  obtain ⟨x, hx, rfl⟩ := h
  simp [Json.isNumber_ofDouble, Json.boundless_iff, hx]

theorem forall_isNumber_iff {vs bounds : List Json} (h : List.Forall₂ Gives vs bounds) :
    (∀ j ∈ bounds, j.IsNumber) ↔ ∀ v ∈ vs, ¬ v.Boundless := by
  induction h with
  | nil => simp
  | cons hgives _ ih => rw [List.forall_mem_cons, List.forall_mem_cons, hgives.isNumber_iff, ih]

theorem toDouble?_ne_none {vs bounds : List Json} (h : List.Forall₂ Gives vs bounds) :
    ∀ v ∈ vs, toDouble? v ≠ none := by
  induction h with
  | nil => simp
  | cons hgives _ ih =>
    obtain ⟨x, hx, -⟩ := hgives
    rw [List.forall_mem_cons]
    exact ⟨by simp [hx], ih⟩

/-- A comparison is one with numbers unless a value is read as a number that is not finite, while
each one that counts is read. -/
theorem Compared.isNumeric_iff {outcome : Except Error (Option Predicate)}
    (h : f.Compared outcome) : IsNumeric outcome ↔
      (∃ v ∈ f.boundValues, toDouble? v = none) ∨ ∀ v ∈ f.boundValues, ¬ v.Boundless := by
  rcases outcome with e | _ | p
  · obtain ⟨v, hfind, -⟩ := h
    have hread : toDouble? v = none := by simpa using List.find?_some hfind
    exact iff_of_true trivial (.inl ⟨v, List.mem_of_find?_eq_some hfind, hread⟩)
  · have hnil : f.values = [] := h
    exact iff_of_true trivial (.inr (by simp [boundValues, hnil]))
  · obtain ⟨-, b, hquery, -, hgives⟩ := h
    have hnumeric : IsNumeric (.ok (some p)) ↔ ∀ j ∈ b.values, j.IsNumber := by
      constructor
      · intro h
        exact h f.field b hquery
      · intro h field b' hquery'
        rw [hquery] at hquery'
        cases hquery'
        exact h
    have hread : ¬ ∃ v ∈ f.boundValues, toDouble? v = none := by
      rintro ⟨v, hv, hnone⟩
      exact toDouble?_ne_none hgives v hv hnone
    rw [hnumeric, forall_isNumber_iff hgives, or_iff_right hread]

/-- What is refused is what the selection reports as dropped. -/
theorem mem_refused {filters : List Filter} {e : Error} :
    (f, e) ∈ refused like filters ↔ f ∈ filters ∧ f.active ∧ f.predicate like = .error e := by
  rw [refused, List.mem_filterMap]
  constructor
  · rintro ⟨g, hg, h⟩
    rcases hp : g.predicate like with e' | p
    · obtain ⟨rfl, rfl⟩ : g = f ∧ e' = e := by simpa [hp] using h
      obtain ⟨hmem, hactive⟩ := List.mem_filter.mp hg
      exact ⟨hmem, hactive, hp⟩
    · simp [hp] at h
  · rintro ⟨hmem, hactive, hp⟩
    exact ⟨f, List.mem_filter.mpr ⟨hmem, hactive⟩, by simp [hp]⟩

/-- A comparison that looks at a value that is no number is the only one that fails. -/
theorem Compared.error_iff {outcome : Except Error (Option Predicate)} (h : f.Compared outcome) :
    (∃ e, outcome = .error e) ↔ ∃ v ∈ f.boundValues, toDouble? v = none := by
  rcases outcome with e | _ | p
  · obtain ⟨v, hfind, -⟩ := h
    have hread : toDouble? v = none := by simpa using List.find?_some hfind
    exact iff_of_true ⟨e, rfl⟩ ⟨v, List.mem_of_find?_eq_some hfind, hread⟩
  · have hnil : f.values = [] := h
    simp [boundValues, hnil]
  · obtain ⟨-, b, -, -, hgives⟩ := h
    have hread := toDouble?_ne_none hgives
    simpa using hread

/-- Every comparison with numbers comes to nothing for want of a value, fails on the first value
that is none, or is a positive range on its field with just the bounds of its operator. Each bound
is what its value is read as, so all of them are numbers exactly if none of the values is read as a
number that is not finite (or the comparison fails). The active ones that fail are reported. -/
theorem predicate_isNumeric_iff (like : LikePolarity) (f : Filter)
    (hop : f.operator.ComparesNumbers) :
    f.Compared (f.predicate like) ∧
    (IsNumeric (f.predicate like) ↔
      (∃ v ∈ f.boundValues, toDouble? v = none) ∨ ∀ v ∈ f.boundValues, ¬ v.Boundless) ∧
    (∀ v : Json, v.IsNumber → ¬ v.Boundless) ∧
    ∀ (all any : List Filter) (range : Option RangeFilter), f ∈ all ++ any → f.active →
      ((∃ e, (f, e) ∈ (Selection.ofFilters like all any range).dropped) ↔
        ∃ v ∈ f.boundValues, toDouble? v = none) := by
  have hcompared : f.Compared (f.predicate like) := compared_predicate hop
  refine ⟨hcompared, hcompared.isNumeric_iff, fun v => Json.IsNumber.not_boundless, ?_⟩
  intro all any range hmem hactive
  rw [Selection.ofFilters_eq, ← hcompared.error_iff]
  simp [mem_refused, hactive, List.mem_append.mp hmem]

/-- A range between a number and a text that says one. -/
theorem between_isNumeric :
    let f := between "num" (.int 1) (.str " 2.5 ")
    f.operator.ComparesNumbers ∧ IsNumeric (f.predicate .include) := by
  intro f
  have hop : f.operator.ComparesNumbers := by decide
  have hread : toDouble? (.str " 2.5 ") = some ⟨0x4004000000000000⟩ := by decide +kernel
  refine ⟨hop, (predicate_isNumeric_iff .include f hop).2.1.mpr (.inr ?_)⟩
  intro v hv
  obtain rfl | rfl : v = .int 1 ∨ v = .str " 2.5 " := by simpa [f, between, boundValues] using hv
  · exact Json.IsNumber.not_boundless (v := .int 1) ⟨by decide, by decide⟩
  · rw [Json.boundless_iff, hread]
    rintro ⟨x, hx, hfinite⟩
    cases hx
    revert hfinite
    decide

/-- The name of infinity gives no number: the one bound of the range is `null`, and the filter is
not reported. -/
theorem gt_infinity_not_isNumeric :
    let f := gt "num" (.str "inf")
    f.predicate .include = .ok (some ⟨.range [("num", { gt := some .null })], false⟩) ∧
      ¬ IsNumeric (f.predicate .include) ∧
      (Selection.ofFilters .include [f] [] none).dropped = [] := by
  intro f
  have hread : toDouble? (.str "inf") = some (.infinity false) := by decide +kernel
  have hpredicate : f.predicate .include =
      .ok (some ⟨.range [("num", { gt := some .null })], false⟩) := by
    simp [f, gt, predicate, comparison, numberAt, hread, bind, Except.bind, pure, Except.pure,
      Json.ofDouble, Double.not_isFinite_infinity]
  refine ⟨hpredicate, ?_, ?_⟩
  · rw [hpredicate]
    intro h
    exact h "num" _ rfl .null (by simp [Bounds.values])
  · rw [Selection.ofFilters_eq]
    simp [refused, hpredicate]

end Filter

end SearchStore
