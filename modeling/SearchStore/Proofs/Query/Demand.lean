import SearchStore.Proofs.Query.Meaning

/-! # What filters ask for

The meaning of filters, without the queries that are made of them. A filter
that has values asks for one test, on the document itself or on the nested
documents at a path, or asks that the test fail. Demands on nested documents of
one path are met together, by one and the same nested document.

`predicate_asks` and its companions tie this to `Filter.predicate`: the query
that is made of a filter holds where the test of the filter passes.
-/

namespace SearchStore

variable {φ : Type}

namespace Filter

/-- The test that a filter asks for, and whether it is to fail. A filter
without values asks for nothing, and neither does one that compares numbers
with something else. -/
def asks (tests : FieldTests φ) (like : LikePolarity) (f : Filter) :
    Option (Bool × (φ → Bool)) :=
  let number (bounds : Json → Bounds) (v : Json) : Option (Bool × (φ → Bool)) :=
    (toDouble? v).map fun x => (false, tests.range f.field (bounds (.ofDouble x)))
  match f.operator, f.values with
  | _, [] => none
  | .eq, v :: _ => some (false, tests.term f.field v)
  | .neq, v :: _ => some (true, tests.term f.field v)
  | .like, v :: _ => some (like = .exclude, tests.wildcard f.field (likePattern v))
  | .gt, v :: _ => number (fun x => { gt := some x }) v
  | .gte, v :: _ => number (fun x => { gte := some x }) v
  | .lt, v :: _ => number (fun x => { lt := some x }) v
  | .lte, v :: _ => number (fun x => { lte := some x }) v
  | .isIn, vs => some (false, tests.terms f.field vs)
  | .notIn, vs => some (true, tests.terms f.field vs)
  | .between, [v] => number (fun x => { gte := some x }) v
  | .between, v :: w :: _ =>
    (toDouble? w).bind fun y => number (fun x => { gte := some x, lte := some (.ofDouble y) }) v
  | .contains, v :: _ => some (false, tests.termsSet f.field { terms := [v] })

end Filter

/-! ## Demands and their groups -/

/-- A test of documents: of the document itself, or of the nested ones at a
path. -/
structure Demand (φ : Type) where
  path : Option String
  test : Document φ → Bool

namespace Demand

/-- The documents that a demand looks at. -/
def scope (d : Document φ) : Option String → List (Document φ)
  | none => [d]
  | some path => d.nested path

/-- The demands among `ds` that are met together with `x`: those on the nested
documents of its path, and itself alone if it is on the document itself. -/
def group (ds : List (Demand φ)) (x : Demand φ) : List (Demand φ) :=
  if x.path = none then [x] else ds.filter fun y => y.path = x.path

theorem mem_group_plain {ds : List (Demand φ)} {x y : Demand φ} (h : x.path = none) :
    y ∈ group ds x ↔ y = x := by
  simp [group, h]

theorem mem_group_nested {ds : List (Demand φ)} {x y : Demand φ} {path : String}
    (h : x.path = some path) : y ∈ group ds x ↔ y ∈ ds ∧ y.path = some path := by
  simp [group, h]

/-- The group of a demand is met: one and the same document passes all its
tests. -/
def Met (ds : List (Demand φ)) (d : Document φ) (x : Demand φ) : Prop :=
  ∃ inner ∈ scope d x.path, ∀ y ∈ group ds x, y.test inner = true

/-- What active filters ask for: the tests that are to pass, or those that are
to fail. -/
def ofFilters (tests : FieldTests φ) (like : LikePolarity) (negated : Bool)
    (filters : List Filter) : List (Demand φ) :=
  (filters.filter Filter.active).filterMap fun f =>
    (f.asks tests like).bind fun (n, test) =>
      if n = negated then some ⟨f.path?, fun d => test d.fields⟩ else none

end Demand

/-! ## The query of a filter -/

namespace Filter

variable (tests : FieldTests φ) (like : LikePolarity) (f : Filter)

/-- A result of `Filter.predicate` is right if its query holds where the test
that the filter asks for passes; an error is right for a filter that asks for
nothing, and tells of a value that is no number. -/
def Agrees : Except Error (Option Predicate) → Prop
  | .error e => f.asks tests like = none ∧ ∃ value, e = .conversion f.field value
  | .ok none => f.asks tests like = none
  | .ok (some p) => ∃ test, f.asks tests like = some (p.negated, test) ∧
      ∀ d, p.query.holds tests d = test d.fields

theorem agrees_onFirst (negated : Bool) (query : Json → Query) (test : Json → φ → Bool)
    (hquery : ∀ v d, (query v).holds tests d = test v d.fields)
    (hasks : f.asks tests like = f.first?.map fun v => (negated, test v)) :
    f.Agrees tests like (.ok (f.onFirst negated query)) := by
  rcases hv : f.first? with _ | v
  · simpa [onFirst, hv, Agrees] using hasks
  · rw [hv] at hasks
    simp only [onFirst, hv, Option.map_some, Agrees]
    exact ⟨test v, hasks, hquery v⟩

theorem agrees_onAll (negated : Bool)
    (hasks : f.asks tests like =
      if f.values.isEmpty then none else some (negated, tests.terms f.field f.values)) :
    f.Agrees tests like (.ok (f.onAll negated)) := by
  by_cases hv : f.values.isEmpty
  · rw [if_pos hv] at hasks
    simpa [onAll, hv, Agrees] using hasks
  · rw [if_neg hv] at hasks
    simp only [onAll, if_neg hv, Agrees]
    refine ⟨_, hasks, ?_⟩
    intro d
    simp [Query.holds]

theorem agrees_comparison (bounds : Json → Bounds)
    (hnil : f.values = [] → f.asks tests like = none)
    (hcons : ∀ v rest, f.values = v :: rest → f.asks tests like =
      (toDouble? v).map fun x => (false, tests.range f.field (bounds (.ofDouble x)))) :
    f.Agrees tests like (f.comparison bounds) := by
  -- no value, a value that is no number, or a number
  rcases hv : f.values with _ | ⟨v, rest⟩
  · have hn : f.numberAt 0 = .ok none := by simp [numberAt, hv]
    simpa [comparison, hn, Agrees, bind, Except.bind, pure, Except.pure] using hnil hv
  · rcases hx : toDouble? v with _ | x
    · have hn : f.numberAt 0 = .error (.conversion f.field v.render) := by
        simp [numberAt, hv, hx]
      simp [comparison, hn, Agrees, bind, Except.bind, hcons v rest hv, hx]
    · have hn : f.numberAt 0 = .ok (some x) := by simp [numberAt, hv, hx]
      simp [comparison, hn, Agrees, bind, Except.bind, pure, Except.pure, hcons v rest hv, hx,
        Query.holds]

theorem agrees_range (hop : f.operator = .between) : f.Agrees tests like f.range := by
  -- no bound, the lower one, or both; of two, the upper one may be no number too
  rcases hv : f.values with _ | ⟨v, _ | ⟨w, rest⟩⟩
  · simp [range, numberAt, hv, Agrees, bind, Except.bind, pure, Except.pure, asks, hop]
  · rcases hx : toDouble? v with _ | x
    · simp [range, numberAt, hv, hx, Agrees, bind, Except.bind, asks, hop]
    · simp [range, numberAt, hv, hx, Agrees, bind, Except.bind, pure, Except.pure, asks, hop,
        Query.holds]
  · rcases hx : toDouble? v with _ | x
    · simp [range, numberAt, hv, hx, Agrees, bind, Except.bind, asks, hop]
    · rcases hy : toDouble? w with _ | y
      · simp [range, numberAt, hv, hx, hy, Agrees, bind, Except.bind, asks, hop]
      · simp [range, numberAt, hv, hx, hy, Agrees, bind, Except.bind, pure, Except.pure, asks,
          hop, Query.holds]

/-- `Filter.predicate` gives what the filter asks for, whatever its operator
and values are. -/
theorem agrees_predicate : f.Agrees tests like (f.predicate like) := by
  rcases hop : f.operator
  case eq =>
    simp only [predicate, hop]
    apply agrees_onFirst tests like f false _ (tests.term f.field)
    · intro v d
      simp [Query.holds]
    · rcases hv : f.values <;> simp [asks, hop, hv, first?]
  case neq =>
    simp only [predicate, hop]
    apply agrees_onFirst tests like f true _ (tests.term f.field)
    · intro v d
      simp [Query.holds]
    · rcases hv : f.values <;> simp [asks, hop, hv, first?]
  case like =>
    simp only [predicate, hop]
    apply agrees_onFirst tests like f (like = .exclude) _
      fun v => tests.wildcard f.field (likePattern v)
    · intro v d
      simp [Query.holds]
    · rcases hv : f.values <;> simp [asks, hop, hv, first?]
  case contains =>
    simp only [predicate, hop]
    apply agrees_onFirst tests like f false _ fun v => tests.termsSet f.field { terms := [v] }
    · intro v d
      simp [Query.holds]
    · rcases hv : f.values <;> simp [asks, hop, hv, first?]
  case isIn =>
    simp only [predicate, hop]
    apply agrees_onAll
    rcases hv : f.values <;> simp [asks, hop, hv]
  case notIn =>
    simp only [predicate, hop]
    apply agrees_onAll
    rcases hv : f.values <;> simp [asks, hop, hv]
  case between =>
    simp only [predicate, hop]
    exact f.agrees_range tests like hop
  -- the four comparisons differ only in the bound that they set
  all_goals
    simp only [predicate, hop]
    apply agrees_comparison
    · intro hv
      simp [asks, hop, hv]
    · intro v rest hv
      simp [asks, hop, hv]

/-- The only errors are values that are no numbers. -/
theorem predicate_error {e : Error} (h : f.predicate like = .error e) :
    ∃ value, e = .conversion f.field value := by
  have hagrees := f.agrees_predicate (default : FieldTests Unit) like
  rw [h] at hagrees
  exact hagrees.2

end Filter

end SearchStore
