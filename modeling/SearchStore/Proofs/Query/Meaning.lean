import SearchStore.Query.Selection

/-! # What queries mean

The engine's reading of a query. A document has fields of its own and, at each
path, a list of nested documents. How a single field is tested is left open:
`FieldTests` is whatever the engine does about one field, and what is proved
here holds for all of them. What is fixed is how clauses are put together.
-/

namespace SearchStore

/-- A document: its own fields, and the nested documents at each path. -/
inductive Document (φ : Type) where
  | mk (fields : φ) (nested : String → List (Document φ))

namespace Document

variable {φ : Type}

def fields : Document φ → φ
  | mk fields _ => fields

def nested : Document φ → String → List (Document φ)
  | mk _ nested => nested

end Document

/-- How the engine tests the fields of one document. -/
structure FieldTests (φ : Type) where
  term : String → Json → φ → Bool
  terms : String → List Json → φ → Bool
  termsSet : String → TermsSet → φ → Bool
  range : String → Bounds → φ → Bool
  wildcard : String → String → φ → Bool
  ids : List String → φ → Bool
deriving Inhabited

namespace Query

variable {φ : Type} (tests : FieldTests φ)

/-- How many of its alternatives a bool query needs. Without a number that is
one, if nothing else has to hold. Numbers that are no integers, which this
library does not write, count as missing. -/
def leastShould (filter must should : List Query) : Option Json → Nat
  | some (.int n) => n.toNat
  | _ => if filter.isEmpty && must.isEmpty && !should.isEmpty then 1 else 0

mutual

/-- Whether a document satisfies a query. -/
def holds : Query → Document φ → Bool
  | .matchAll _, _ => true
  | .term fields, d => fields.all fun (field, v) => tests.term field v d.fields
  | .terms fields, d => fields.all fun (field, vs) => tests.terms field vs d.fields
  | .termsSet fields, d => fields.all fun (field, s) => tests.termsSet field s d.fields
  | .range fields, d => fields.all fun (field, b) => tests.range field b d.fields
  | .wildcard fields, d => fields.all fun (field, p) => tests.wildcard field p d.fields
  | .ids values, d => tests.ids values d.fields
  | .nested path query, d => (d.nested path).any fun inner => query.holds inner
  | .bool filter must should mustNot minimum, d =>
    (verdicts filter d).all id && (verdicts must d).all id && !(verdicts mustNot d).any id
      && decide (leastShould filter must should minimum ≤ (verdicts should d).count true)

/-- What each of several queries says about a document. -/
def verdicts : List Query → Document φ → List Bool
  | [], _ => []
  | q :: rest, d => q.holds d :: verdicts rest d

end

/-! ## Small laws -/

theorem verdicts_eq_map (queries : List Query) (d : Document φ) :
    verdicts tests queries d = queries.map fun q => q.holds tests d := by
  induction queries with
  | nil => rfl
  | cons q rest ih => rw [verdicts, ih, List.map_cons]

theorem holds_nested {path : String} {q : Query} {d : Document φ} :
    (Query.nested path q).holds tests d = true ↔
      ∃ inner ∈ d.nested path, q.holds tests inner = true := by
  rw [holds, List.any_eq_true]

/-- What a bool query needs of its four lists. -/
theorem holds_bool {filter must should mustNot : List Query} {minimum : Option Json}
    {d : Document φ} :
    (Query.bool filter must should mustNot minimum).holds tests d = true ↔
      (∀ q ∈ filter, q.holds tests d = true) ∧ (∀ q ∈ must, q.holds tests d = true) ∧
      (∀ q ∈ mustNot, q.holds tests d = false) ∧
      leastShould filter must should minimum ≤
        (should.map fun q => q.holds tests d).count true := by
  simp [holds, verdicts_eq_map, and_assoc]

/-- A bool query of alternatives alone holds if one of them does. -/
theorem holds_should {should : List Query} {d : Document φ} (h : should ≠ []) :
    (Query.bool [] [] should [] none).holds tests d = true ↔
      ∃ q ∈ should, q.holds tests d = true := by
  have hleast : leastShould [] [] should none = 1 := by simp [leastShould, h]
  simp [holds_bool, hleast, List.one_le_count_iff]

/-- A bool query of queries that must hold holds if all of them do. -/
theorem holds_must {must : List Query} {d : Document φ} :
    (Query.bool [] must [] [] none).holds tests d = true ↔
      ∀ q ∈ must, q.holds tests d = true := by
  simp [holds_bool, leastShould]

/-- A bool query without alternatives. -/
theorem holds_filter {filter mustNot : List Query} {d : Document φ} :
    (Query.bool filter [] [] mustNot none).holds tests d = true ↔
      (∀ q ∈ filter, q.holds tests d = true) ∧ ∀ q ∈ mustNot, q.holds tests d = false := by
  simp [holds_bool, leastShould]

/-- A bool query with one alternative that it needs. -/
theorem holds_required {filter mustNot : List Query} {q : Query} {d : Document φ} :
    (Query.bool filter [] [q] mustNot (some (.int 1))).holds tests d = true ↔
      (∀ q ∈ filter, q.holds tests d = true) ∧ q.holds tests d = true ∧
      ∀ q ∈ mustNot, q.holds tests d = false := by
  have hleast : leastShould filter [] [q] (some (.int 1)) = 1 := rfl
  rw [holds_bool, hleast]
  cases hq : q.holds tests d <;> simp [hq]

end Query

end SearchStore
