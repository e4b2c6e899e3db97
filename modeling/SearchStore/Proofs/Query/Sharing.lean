import SearchStore.Proofs.Query.Layout
import SearchStore.Query.Builder

/-! # Filters that share a path

A demand on nested documents can be met on its own, by any of them, or with the
others of its group, by one of them that meets them all. Where no two demands
share a path the two are the same, and then filters act one by one: of those of
which one must hold, one that holds is enough (`matchAny_holds_iff`), and each
negated filter excludes what it is about (`not_holds_of_excluded`). Where
demands share a path they are met together or not at all, in either place.
-/

namespace SearchStore

variable {φ : Type}

/-! ## Demands on their own -/

namespace Demand

/-- A document meets a demand on its own: it passes the test, or one of the
nested documents at the path does. -/
def Holds (d : Document φ) (x : Demand φ) : Prop :=
  ∃ inner ∈ scope d x.path, x.test inner = true

instance (d : Document φ) (x : Demand φ) : Decidable (x.Holds d) :=
  inferInstanceAs (Decidable (∃ inner ∈ scope d x.path, x.test inner = true))

/-- A demand among others that shares its path with no other. -/
def Alone (ds : List (Demand φ)) (x : Demand φ) : Prop :=
  x.path = none ∨ ∀ y ∈ ds, y.path = x.path → y = x

variable {ds : List (Demand φ)} {d : Document φ} {x : Demand φ}

theorem self_mem_group (h : x ∈ ds) : x ∈ group ds x := by
  rcases hpath : x.path with _ | path
  · exact (mem_group_plain hpath).mpr rfl
  · exact (mem_group_nested hpath).mpr ⟨h, hpath⟩

/-- A demand whose group is met is met. -/
theorem Met.holds (hx : x ∈ ds) (h : Met ds d x) : x.Holds d := by
  obtain ⟨inner, hin, hall⟩ := h
  exact ⟨inner, hin, hall x (self_mem_group hx)⟩

theorem Alone.met_iff (hx : x ∈ ds) (h : Alone ds x) : Met ds d x ↔ x.Holds d := by
  refine ⟨Met.holds hx, ?_⟩
  rintro ⟨inner, hin, hpass⟩
  refine ⟨inner, hin, ?_⟩
  intro y hy
  rcases hpath : x.path with _ | path
  · rwa [(mem_group_plain hpath).mp hy]
  · obtain ⟨hmem, hy⟩ := (mem_group_nested hpath).mp hy
    have hone := h.resolve_left (by simp [hpath])
    rwa [hone y hmem (hy.trans hpath.symm)]

/-- A group that is met stays met with one more demand, unless that is on the
path of the group. -/
theorem Met.insert {as bs : List (Demand φ)} {y : Demand φ} (h : Met (as ++ bs) d x)
    (hy : y.path = none ∨ x.path ≠ y.path) : Met (as ++ y :: bs) d x := by
  obtain ⟨inner, hin, hall⟩ := h
  refine ⟨inner, hin, ?_⟩
  intro z hz
  rcases hpath : x.path with _ | path
  · exact hall z ((mem_group_plain hpath).mpr ((mem_group_plain hpath).mp hz))
  · obtain ⟨hmem, hzpath⟩ := (mem_group_nested hpath).mp hz
    have hne : z ≠ y := by
      rintro rfl
      rcases hy with hnone | hother
      · simp [hnone] at hzpath
      · exact hother (hpath.trans hzpath.symm)
    have hold : z ∈ as ++ bs := by simpa [hne] using hmem
    exact hall z ((mem_group_nested hpath).mpr ⟨hold, hzpath⟩)

theorem mem_insert_of_mem {as bs : List (Demand φ)} {y : Demand φ} (h : x ∈ as ++ bs) :
    x ∈ as ++ y :: bs := by
  rcases List.mem_append.mp h with has | hbs
  · exact List.mem_append_left _ has
  · exact List.mem_append_right _ (List.mem_cons_of_mem y hbs)

/-- Groups that are not met with one more demand are not met without it. -/
theorem not_met_of_insert {as bs : List (Demand φ)} {y : Demand φ}
    (hy : y.path = none ∨ ∀ x ∈ as ++ bs, x.path ≠ y.path)
    (h : ∀ x ∈ as ++ y :: bs, ¬ Met (as ++ y :: bs) d x) :
    ∀ x ∈ as ++ bs, ¬ Met (as ++ bs) d x := by
  intro x hx hmet
  exact h x (mem_insert_of_mem hx) (hmet.insert (hy.imp_right fun hother => hother x hx))

section

variable (tests : FieldTests φ) (like : LikePolarity) {negated : Bool}

theorem ofFilters_append (xs ys : List Filter) :
    ofFilters tests like negated (xs ++ ys) =
      ofFilters tests like negated xs ++ ofFilters tests like negated ys := by
  simp only [ofFilters, List.filter_append, List.filterMap_append]

/-- What a filter asks for stands where the filter stands. -/
theorem ofFilters_insert {f : Filter} {test : φ → Bool} (hactive : f.active = true)
    (hasks : f.asks tests like = some (negated, test)) (before after : List Filter) :
    ofFilters tests like negated (before ++ f :: after) =
      ofFilters tests like negated before ++
        ⟨f.path?, fun d => test d.fields⟩ :: ofFilters tests like negated after := by
  rw [ofFilters_append]
  simp [ofFilters, hactive, hasks]

theorem ofFilters_not_met_of_insert {f : Filter} {test : φ → Bool} (hactive : f.active = true)
    (hasks : f.asks tests like = some (negated, test)) {before after : List Filter}
    (hpath : f.path? = none ∨
      ∀ x ∈ ofFilters tests like negated (before ++ after), x.path ≠ f.path?)
    (h : ∀ x ∈ ofFilters tests like negated (before ++ f :: after),
      ¬ Met (ofFilters tests like negated (before ++ f :: after)) d x) :
    ∀ x ∈ ofFilters tests like negated (before ++ after),
      ¬ Met (ofFilters tests like negated (before ++ after)) d x := by
  rw [ofFilters_insert tests like hactive hasks] at h
  rw [ofFilters_append] at hpath ⊢
  exact not_met_of_insert hpath h

end

end Demand

/-- A filter of one polarity puts nothing into the clause of the other. -/
theorem Filter.placed_insert_of_asks (tests : FieldTests φ) (like : LikePolarity) (negated : Bool)
    {f : Filter} {test : φ → Bool} (hasks : f.asks tests like = some (!negated, test))
    (before after : List Filter) :
    placed like negated (before ++ f :: after) = placed like negated (before ++ after) := by
  have hagrees := f.agrees_predicate tests like
  have hnone : placed like negated [f] = [] := by
    rcases hp : f.predicate like with e | _ | p
    · exact placed_of_error hp
    · exact placed_of_none hp
    · rw [hp] at hagrees
      obtain ⟨test', hasks', -⟩ := hagrees
      have hn : p.negated = !negated := by
        rw [hasks] at hasks'
        simpa using (congrArg Prod.fst (Option.some.inj hasks')).symm
      by_cases ha : f.active
      · rw [placed_of_some ha hp, if_neg (by simp [hn])]
      · exact placed_of_inactive (by simpa using ha)
  rw [placed_append, placed_cons, hnone, List.nil_append, placed_append]

/-! ## Alternatives and exclusions of a selection -/

namespace Selection

variable (tests : FieldTests φ) (like : LikePolarity) (all any : List Filter)
  (range : Option RangeFilter) (d : Document φ)

theorem should_iff :
    ((ofFilters like all any range).clauses.should = [] ∨
        ∃ q ∈ (ofFilters like all any range).clauses.should, q.holds tests d = true) ↔
      let optional := Demand.ofFilters tests like false any
      optional = [] ∨ ∃ x ∈ optional, Demand.Met optional d x := by
  have hcollects := Clause.collects_ofPlaced (Filter.placed like false any)
  have hsome := hcollects.some_holds tests d
  have hnil := hcollects.eq_nil_iff
  rw [← List.map_eq_nil_iff (f := Clause.demand tests)] at hnil
  rw [Filter.map_demand_placed] at hsome hnil
  rw [ofFilters_eq]
  exact or_congr (List.map_eq_nil_iff.trans hnil) hsome

theorem mustNot_iff :
    (∀ q ∈ (ofFilters like all any range).clauses.mustNot, q.holds tests d = false) ↔
      let excluded := Demand.ofFilters tests like true (all ++ any)
      ∀ x ∈ excluded, ¬ Demand.Met excluded d x := by
  have hnone := (Clause.collects_ofPlaced (Filter.placed like true (all ++ any))).none_holds tests d
  rw [Filter.map_demand_placed] at hnone
  rw [ofFilters_eq]
  exact hnone

end Selection

/-! ## Alternatives -/

/-- Fields with texts, and the test for one of the texts of a field. -/
def FieldTests.texts : FieldTests (List (String × String)) :=
  { (default : FieldTests (List (String × String))) with
    term := fun field v fields =>
      match v with
      | .str s => fields.contains (field, s)
      | _ => false }

/-- A red document with one nested document, which is tagged `a`. -/
def Document.tagged : Document (List (String × String)) :=
  .mk [("color", "red")] fun path =>
    if path = "tags" then [.mk [("tags.name", "a")] fun _ => []] else []

namespace QueryBuilder

/-- The query of a builder that was given alternatives and nothing else. -/
def anyQuery (ε : Type) (config : StoreConfig) (filters : List Filter) : Query :=
  (((start config).matchAny filters : QueryBuilder ε).selection config).toQuery

variable (ε : Type) (tests : FieldTests φ) (config : StoreConfig)

theorem anyQuery_eq (filters : List Filter) :
    anyQuery ε config filters =
      (Selection.ofFilters config.likePolarity [] (filters.filter Filter.active) none).toQuery :=
  rfl

/-- Alternatives of which none is negated need one of their demands, if they
have any, together with those on its path. -/
theorem anyQuery_holds_iff {filters : List Filter} (d : Document φ)
    (hnone : Demand.ofFilters tests config.likePolarity true filters = []) :
    (anyQuery ε config filters).holds tests d = true ↔
      let positive := Demand.ofFilters tests config.likePolarity false filters
      positive = [] ∨ ∃ x ∈ positive, Demand.Met positive d x := by
  have hactive (negated : Bool) :
      Demand.ofFilters tests config.likePolarity negated (filters.filter Filter.active) =
        Demand.ofFilters tests config.likePolarity negated filters := by
    simp [Demand.ofFilters]
  have hshould := Selection.should_iff tests config.likePolarity [] (filters.filter Filter.active)
    none d
  have hmustNot := Selection.mustNot_iff tests config.likePolarity []
    (filters.filter Filter.active) none d
  rw [hactive] at hshould
  rw [List.nil_append, hactive, hnone] at hmustNot
  rw [anyQuery_eq, Selection.toQuery, BoolClauses.holds_toQuery, hshould, hmustNot]
  simp [Selection.ofFilters_eq, Filter.placed, Clause.ofPlaced, Clause.toQueries]

/-- Of alternatives that are not negated one is enough, but those on nested
documents of one path count as one: a document matches if it meets one of them
together with all on its path. So a document that matches meets one of them;
where no two share a path, a document that meets one matches; and one more
alternative takes no document away unless another one is on its path. -/
theorem matchAny_holds_iff (filters : List Filter) (d : Document φ)
    (hsome : Demand.ofFilters tests config.likePolarity false filters ≠ [])
    (hnone : Demand.ofFilters tests config.likePolarity true filters = []) :
    let positive := Demand.ofFilters tests config.likePolarity false filters
    let matchesAny (filters : List Filter) : Prop :=
      (anyQuery ε config filters).holds tests d = true
    (matchesAny filters ↔ ∃ x ∈ positive, Demand.Met positive d x) ∧
    (matchesAny filters → ∃ x ∈ positive, x.Holds d) ∧
    ((∀ x ∈ positive, Demand.Alone positive x) →
      (matchesAny filters ↔ ∃ x ∈ positive, x.Holds d)) ∧
    ∀ before after f test, filters = before ++ after → f.active = true →
      f.asks tests config.likePolarity = some (false, test) →
      (f.path? = none ∨ ∀ x ∈ positive, x.path ≠ f.path?) →
      matchesAny filters → matchesAny (before ++ f :: after) := by
  intro positive matchesAny
  have hmatches : matchesAny filters ↔ ∃ x ∈ positive, Demand.Met positive d x :=
    (anyQuery_holds_iff ε tests config d hnone).trans (or_iff_right hsome)
  refine ⟨hmatches, ?_, ?_, ?_⟩
  · intro hm
    obtain ⟨x, hx, hmet⟩ := hmatches.mp hm
    exact ⟨x, hx, hmet.holds hx⟩
  · intro halone
    rw [hmatches]
    exact exists_congr fun x => and_congr_right fun hx => (halone x hx).met_iff hx
  · rintro before after f test rfl hactive hasks hpath hm
    obtain ⟨x, hx, hmet⟩ := hmatches.mp hm
    have hnone' : Demand.ofFilters tests config.likePolarity true (before ++ f :: after) = [] := by
      rw [← Filter.map_demand_placed, Filter.placed_insert_of_asks tests _ true hasks,
        Filter.map_demand_placed, hnone]
    refine (anyQuery_holds_iff ε tests config d hnone').mpr (Or.inr ?_)
    have hsplit : positive = _ := Demand.ofFilters_append tests config.likePolarity before after
    rw [hsplit] at hx hmet
    rw [Demand.ofFilters_insert tests config.likePolarity hactive hasks]
    exact ⟨x, Demand.mem_insert_of_mem hx,
      hmet.insert (hpath.imp_right fun hother => hother x (hsplit ▸ hx))⟩

/-- A document with the tag matches, and also when its size would do. -/
theorem matchAny_holds_tagged :
    let filters := [Filter.eq "color" (.str "blue"), .eq "tags.name" (.str "a")]
    Demand.ofFilters .texts .include false filters ≠ [] ∧
    Demand.ofFilters .texts .include true filters = [] ∧
    (anyQuery Unit {} filters).holds .texts .tagged = true ∧
    (anyQuery Unit {} (Filter.eq "size.name" (.str "L") :: filters)).holds .texts .tagged =
      true := by
  intro filters
  have hpositive : Demand.ofFilters .texts .include false filters =
      [⟨none, fun d => FieldTests.texts.term "color" (.str "blue") d.fields⟩,
        ⟨some "tags", fun d => FieldTests.texts.term "tags.name" (.str "a") d.fields⟩] := rfl
  have hsome : Demand.ofFilters .texts .include false filters ≠ [] := by simp [hpositive]
  obtain ⟨-, -, hone, hmore⟩ :=
    matchAny_holds_iff Unit .texts {} filters .tagged hsome rfl
  have hmatches := (hone (by simp [hpositive, Demand.Alone])).mpr (by decide)
  refine ⟨hsome, rfl, hmatches, ?_⟩
  exact hmore [] filters (.eq "size.name" (.str "L")) _ rfl rfl rfl
    (Or.inr (by simp [hpositive]; decide)) hmatches

/-- Of two alternatives on one path one is met, and the document does not
match; with this one alone it matches. -/
theorem not_matchAny_same_path :
    let first := Filter.eq "tags.name" (.str "a")
    let second := Filter.eq "tags.name" (.str "b")
    Demand.ofFilters .texts .include true [first, second] = [] ∧
    (∃ x ∈ Demand.ofFilters .texts .include false [first, second], x.Holds .tagged) ∧
    (anyQuery Unit {} [first, second]).holds .texts .tagged = false ∧
    (anyQuery Unit {} [first]).holds .texts .tagged = true := by
  decide

end QueryBuilder

/-! ## Exclusions -/

namespace Selection

variable (tests : FieldTests φ)

theorem not_met_of_holds {like : LikePolarity} {all any : List Filter}
    {range : Option RangeFilter} {d : Document φ}
    (h : (ofFilters like all any range).toQuery.holds tests d = true) :
    let excluded := Demand.ofFilters tests like true (all ++ any)
    ∀ x ∈ excluded, ¬ Demand.Met excluded d x := by
  rw [toQuery, BoolClauses.holds_toQuery] at h
  exact (mustNot_iff tests like all any range d).mp h.2.2.1

/-- Selections that differ in what they exclude alone. -/
theorem holds_of_less_excluded {like : LikePolarity} {all any all' any' : List Filter}
    {range : Option RangeFilter} {d : Document φ}
    (hall : Filter.placed like false all' = Filter.placed like false all)
    (hany : Filter.placed like false any' = Filter.placed like false any)
    (hnone : let excluded := Demand.ofFilters tests like true (all ++ any)
      ∀ x ∈ excluded, ¬ Demand.Met excluded d x)
    (h : (ofFilters like all' any' range).toQuery.holds tests d = true) :
    (ofFilters like all any range).toQuery.holds tests d = true := by
  have hfilter : (ofFilters like all any range).clauses.filter =
      (ofFilters like all' any' range).clauses.filter := by
    rw [ofFilters_eq, ofFilters_eq, hall]
  have hshould : (ofFilters like all any range).clauses.should =
      (ofFilters like all' any' range).clauses.should := by
    rw [ofFilters_eq, ofFilters_eq, hany]
  have hrange : (ofFilters like all any range).clauses.range =
      (ofFilters like all' any' range).clauses.range := rfl
  rw [toQuery, BoolClauses.holds_toQuery] at h ⊢
  rw [hfilter, hshould, hrange]
  exact ⟨h.1, h.2.1, (mustNot_iff tests like all any range d).mpr hnone, h.2.2.2⟩

/-- A negated filter excludes the documents that meet it together with the
others on its path, and by itself if there are no others. One more negated
filter lets no document in unless another one is on its path. -/
theorem not_holds_of_excluded (like : LikePolarity) (all any : List Filter)
    (range : Option RangeFilter) (d : Document φ) :
    let excluded := Demand.ofFilters tests like true (all ++ any)
    let found (all any : List Filter) : Prop :=
      (ofFilters like all any range).toQuery.holds tests d = true
    (∀ x ∈ excluded, Demand.Met excluded d x → ¬ found all any) ∧
    (∀ x ∈ excluded, Demand.Alone excluded x → x.Holds d → ¬ found all any) ∧
    ∀ before after f test, f.active = true → f.asks tests like = some (true, test) →
      (f.path? = none ∨ ∀ x ∈ excluded, x.path ≠ f.path?) →
      (all = before ++ after → found (before ++ f :: after) any → found all any) ∧
      (any = before ++ after → found all (before ++ f :: after) → found all any) := by
  intro excluded found
  have hmet : ∀ x ∈ excluded, Demand.Met excluded d x → ¬ found all any :=
    fun x hx hmet hfound => not_met_of_holds tests hfound x hx hmet
  refine ⟨hmet, ?_, ?_⟩
  · intro x hx halone hholds
    exact hmet x hx ((halone.met_iff hx).mpr hholds)
  · intro before after f test hactive hasks hpath
    constructor
    · rintro rfl hfound
      have hplaced := Filter.placed_insert_of_asks tests like false hasks before after
      refine holds_of_less_excluded tests hplaced rfl ?_ hfound
      have hnone := not_met_of_holds tests hfound
      simp only [List.append_assoc, List.cons_append] at hnone
      have hexcluded : excluded = Demand.ofFilters tests like true (before ++ (after ++ any)) := by
        rw [← List.append_assoc]
      rw [hexcluded] at hpath
      have hless := Demand.ofFilters_not_met_of_insert tests like hactive hasks hpath hnone
      rwa [← List.append_assoc] at hless
    · rintro rfl hfound
      have hplaced := Filter.placed_insert_of_asks tests like false hasks before after
      refine holds_of_less_excluded tests rfl hplaced ?_ hfound
      have hnone := not_met_of_holds tests hfound
      rw [← List.append_assoc] at hnone ⊢
      have hexcluded : excluded = Demand.ofFilters tests like true ((all ++ before) ++ after) := by
        rw [List.append_assoc]
      rw [hexcluded] at hpath
      exact Demand.ofFilters_not_met_of_insert tests like hactive hasks hpath hnone

/-- A document with an excluded tag is not found, whatever else is asked. -/
theorem not_holds_of_excluded_tag :
    let filters := [Filter.neq "tags.name" (.str "a"), .eq "color" (.str "red")]
    let excluded := Demand.ofFilters .texts .include true filters
    (∃ x ∈ excluded, Demand.Alone excluded x ∧ x.Holds .tagged) ∧
    ¬ (ofFilters .include filters [] none).toQuery.holds .texts .tagged = true := by
  intro filters excluded
  have hexcluded : excluded =
      [⟨some "tags", fun d => FieldTests.texts.term "tags.name" (.str "a") d.fields⟩] := by rfl
  obtain ⟨x, hx, halone, hholds⟩ : ∃ x ∈ excluded, Demand.Alone excluded x ∧ x.Holds .tagged := by
    rw [hexcluded]
    exact ⟨_, List.mem_singleton_self _, Or.inr (by simp), by decide⟩
  exact ⟨⟨x, hx, halone, hholds⟩,
    (not_holds_of_excluded .texts .include filters [] none .tagged).2.1 x hx halone hholds⟩

/-- Of two excluded tags of one path the document has one, and it is found;
with this one alone it is not. -/
theorem holds_of_excluded_same_path :
    let first := Filter.neq "tags.name" (.str "a")
    let second := Filter.neq "tags.name" (.str "b")
    (∃ x ∈ Demand.ofFilters .texts .include true [first, second], x.Holds .tagged) ∧
    (ofFilters .include [first, second] [] none).toQuery.holds .texts .tagged = true ∧
    (ofFilters .include [first] [] none).toQuery.holds .texts .tagged = false := by
  decide

end Selection

end SearchStore
