import Mathlib.Logic.Relation
import SearchStore.Proofs.Json.Members
import SearchStore.Result.Series

/-! # Looking through wrappers

An aggregate for nested documents is a wrapper: decoders go on to one of the
aggregates inside it, and from there on until they meet one that is no wrapper.
`Wraps` is one step of this. A tree has no endless chain of steps, so every
chain comes to an aggregate that is no wrapper, or to a wrapper that does not
say how to go on. `unwrap_transparent` says that the decoders see just the end
of the chain.
-/

namespace SearchStore.Aggregate

/-- A wrapper and the aggregate to go on to: the one that stands under `nested`
beside any others, or the only one. -/
inductive Wraps : Aggregate → Aggregate → Prop
  | named {n : Int} {inner : Aggregates} {a : Aggregate}
      (h : Json.lookup AggregationPlan.nestedName inner = some a) : Wraps (.nested n inner) a
  | only (n : Int) (name : String) (a : Aggregate) : Wraps (.nested n [(name, a)]) a

/-- The aggregate is a wrapper. -/
def IsNested : Aggregate → Prop
  | .nested _ _ => True
  | _ => False

/-- A wrapper around these does not say how to go on. -/
def Ambiguous (inner : Aggregates) : Prop :=
  Json.lookup AggregationPlan.nestedName inner = none ∧ inner.length ≠ 1

/-! ## One step -/

section

variable {w a b : Aggregate}

theorem unwrapNamed_eq (inner : Aggregates) :
    unwrapNamed inner = (Json.lookup AggregationPlan.nestedName inner).map unwrap := by
  induction inner with
  | nil => simp [unwrapNamed]
  | cons m inner ih =>
    obtain ⟨name, a⟩ := m
    rw [unwrapNamed, Json.lookup_cons, ih]
    split <;> rfl

namespace Wraps

/-- There is one way to go on. -/
theorem unique (ha : Wraps w a) (hb : Wraps w b) : a = b := by
  cases ha with
  | named ha =>
    cases hb with
    | named hb => exact Option.some.inj (ha.symm.trans hb)
    | only =>
      have hmem := Json.mem_of_lookup ha
      exact congrArg Prod.snd (List.mem_singleton.mp hmem)
  | only n name =>
    cases hb with
    | named hb =>
      have hmem := Json.mem_of_lookup hb
      exact (congrArg Prod.snd (List.mem_singleton.mp hmem)).symm
    | only => rfl

theorem unwrap_eq (h : Wraps w a) : w.unwrap = a.unwrap := by
  cases h with
  | named h => rw [unwrap, unwrapNamed_eq, h, Option.map_some]
  | only n name =>
    -- the only one may itself stand under `nested`
    rw [unwrap, unwrapNamed_eq, Json.lookup_cons]
    by_cases hname : name = AggregationPlan.nestedName
    · rw [if_pos hname, Option.map_some]
    · rw [if_neg hname, Json.lookup_nil, Option.map_none, unwrapOnly]

theorem sizeOf_lt (h : Wraps w a) : sizeOf a < sizeOf w := by
  have hinside : ∀ {n : Int} {inner : Aggregates} {name : String}, (name, a) ∈ inner →
      sizeOf a < sizeOf (nested n inner) := by
    intro n inner name hmem
    have hlt := List.sizeOf_lt_of_mem hmem
    simp only [Prod.mk.sizeOf_spec, nested.sizeOf_spec] at *
    omega
  cases h with
  | named h => exact hinside (Json.mem_of_lookup h)
  | only n name => exact hinside (List.mem_singleton.mpr rfl)

end Wraps

/-- There is no endless chain of wrappers. -/
theorem wellFounded_wraps : WellFounded fun a w => Wraps w a :=
  Subrelation.wf Wraps.sizeOf_lt (measure sizeOf).wf

theorem unwrap_of_not_isNested (h : ¬ a.IsNested) : a.unwrap = .ok a := by
  cases a with
  | nested => exact absurd trivial h
  | metric | stringTerms | longTerms | doubleTerms | unmappedTerms | dateHistogram
  | autoDateHistogram => rfl

theorem unwrapOnly_of_length_ne {inner : Aggregates} (h : inner.length ≠ 1) :
    unwrapOnly inner = .error (ambiguousNested inner) := by
  unfold unwrapOnly
  split
  · exact absurd rfl h
  · rfl

theorem unwrap_of_ambiguous {inner : Aggregates} (h : Ambiguous inner) (n : Int) :
    (nested n inner).unwrap = .error (ambiguousNested inner) := by
  obtain ⟨hnone, hlength⟩ := h
  rw [unwrap, unwrapNamed_eq, hnone, Option.map_none]
  exact unwrapOnly_of_length_ne hlength

theorem wraps_or_ambiguous (n : Int) (inner : Aggregates) :
    (∃ a, Wraps (nested n inner) a) ∨ Ambiguous inner := by
  rcases hnamed : Json.lookup AggregationPlan.nestedName inner with _ | a
  · by_cases hlength : inner.length = 1
    · obtain ⟨⟨name, a⟩, rfl⟩ := List.length_eq_one_iff.mp hlength
      exact .inl ⟨a, .only n name a⟩
    · exact .inr ⟨hnamed, hlength⟩
  · exact .inl ⟨a, .named hnamed⟩

end

/-! ## Chains of wrappers -/

section

variable {w a r : Aggregate}

open Relation (ReflTransGen)

theorem unwrap_eq_of_chain (h : ReflTransGen Wraps w a) : w.unwrap = a.unwrap := by
  induction h with
  | refl => rfl
  | tail _ hstep ih => rw [ih, hstep.unwrap_eq]

/-- Every chain comes to an end, in one of two ways. -/
theorem exists_end (w : Aggregate) :
    (∃ r, ReflTransGen Wraps w r ∧ ¬ r.IsNested) ∨
      ∃ n inner, ReflTransGen Wraps w (nested n inner) ∧ Ambiguous inner := by
  induction w using wellFounded_wraps.induction with
  | _ w ih =>
    by_cases hnested : w.IsNested
    · obtain ⟨n, inner, rfl⟩ : ∃ n inner, w = nested n inner := by
        cases w with
        | nested n inner => exact ⟨n, inner, rfl⟩
        | metric | stringTerms | longTerms | doubleTerms | unmappedTerms | dateHistogram
        | autoDateHistogram => exact hnested.elim
      rcases wraps_or_ambiguous n inner with ⟨a, hstep⟩ | hambiguous
      · rcases ih a hstep with ⟨r, hchain, hr⟩ | ⟨m, others, hchain, hothers⟩
        · exact .inl ⟨r, .head hstep hchain, hr⟩
        · exact .inr ⟨m, others, .head hstep hchain, hothers⟩
      · exact .inr ⟨n, inner, .refl, hambiguous⟩
    · exact .inl ⟨w, .refl, hnested⟩

/-- What is found is the end of the chain. -/
theorem unwrap_eq_ok_iff : w.unwrap = .ok r ↔ ReflTransGen Wraps w r ∧ ¬ r.IsNested := by
  constructor
  · intro h
    rcases exists_end w with ⟨a, hchain, ha⟩ | ⟨n, inner, hchain, hambiguous⟩
    · rw [unwrap_eq_of_chain hchain, unwrap_of_not_isNested ha] at h
      obtain rfl := Except.ok.inj h
      exact ⟨hchain, ha⟩
    · rw [unwrap_eq_of_chain hchain, unwrap_of_ambiguous hambiguous] at h
      exact absurd h nofun
  · rintro ⟨hchain, hr⟩
    rw [unwrap_eq_of_chain hchain, unwrap_of_not_isNested hr]

theorem unwrap_eq_error_iff {e : Error} : w.unwrap = .error e ↔
    ∃ n inner, ReflTransGen Wraps w (nested n inner) ∧ Ambiguous inner ∧
      e = ambiguousNested inner := by
  constructor
  · intro h
    rcases exists_end w with ⟨a, hchain, ha⟩ | ⟨n, inner, hchain, hambiguous⟩
    · rw [unwrap_eq_of_chain hchain, unwrap_of_not_isNested ha] at h
      exact absurd h nofun
    · rw [unwrap_eq_of_chain hchain, unwrap_of_ambiguous hambiguous] at h
      exact ⟨n, inner, hchain, hambiguous, (Except.error.inj h).symm⟩
  · rintro ⟨n, inner, hchain, hambiguous, rfl⟩
    rw [unwrap_eq_of_chain hchain, unwrap_of_ambiguous hambiguous]

end

/-! ## Decoders -/

section

variable {a b : Aggregate}

theorem scalar_congr (h : a.unwrap = b.unwrap) : a.scalar = b.scalar := by
  rw [scalar, scalar, h]

theorem grouped_congr (h : a.unwrap = b.unwrap) : a.grouped = b.grouped := by
  rw [grouped, grouped, h]

theorem timeBuckets_congr (h : a.unwrap = b.unwrap) : a.timeBuckets = b.timeBuckets := by
  rw [timeBuckets, timeBuckets, h]

theorem histogram_congr (h : a.unwrap = b.unwrap) : a.histogram = b.histogram := by
  rw [histogram, histogram, timeBuckets_congr h]

theorem histogram2d_congr (h : a.unwrap = b.unwrap) (name : String) :
    a.histogram2d name = b.histogram2d name := by
  rw [histogram2d, histogram2d, timeBuckets_congr h]

end

/-- All decoders give the same on an aggregate and on whatever it is wrapped
in, errors included. Looking through wrappers is one chain of steps in every
tree. It comes to an end and gives an aggregate that is no wrapper, on which
nothing changes any more; or it fails, just if the chain comes to a wrapper
that has nothing under `nested` and does not have one aggregate inside. -/
theorem unwrap_transparent :
    (∀ w a : Aggregate, Relation.ReflTransGen Wraps w a →
      w.scalar = a.scalar ∧ w.grouped = a.grouped ∧ w.histogram = a.histogram ∧
        (∀ name, w.histogram2d name = a.histogram2d name) ∧ w.unwrap = a.unwrap) ∧
    (∀ w r : Aggregate, w.unwrap = .ok r → Relation.ReflTransGen Wraps w r ∧ ¬ r.IsNested) ∧
    (∀ w : Aggregate, (w.unwrap >>= unwrap) = w.unwrap) ∧
    (Relator.RightUnique Wraps ∧ WellFounded fun a w => Wraps w a) ∧
    (∀ (w : Aggregate) (e : Error), w.unwrap = .error e ↔ ∃ n inner,
      Relation.ReflTransGen Wraps w (nested n inner) ∧ Ambiguous inner ∧
        e = ambiguousNested inner) := by
  refine ⟨?_, fun w r => unwrap_eq_ok_iff.mp, ?_, ⟨fun _ _ _ => Wraps.unique, wellFounded_wraps⟩,
    fun w e => unwrap_eq_error_iff⟩
  · intro w a hchain
    have h := unwrap_eq_of_chain hchain
    exact ⟨scalar_congr h, grouped_congr h, histogram_congr h, histogram2d_congr h, h⟩
  · intro w
    cases hw : w.unwrap with
    | error e => rfl
    | ok r => exact unwrap_of_not_isNested (unwrap_eq_ok_iff.mp hw).2

/-- A sum in two wrappers, beside a count in the outer one. -/
def wrappedSum : Aggregate :=
  .nested 7 [("count", .metric .cardinality none),
    ("nested", .nested 5 [("power", .metric .sum (some .zero))])]

theorem unwrap_transparent_sum :
    Relation.ReflTransGen Wraps wrappedSum (.metric .sum (some .zero)) ∧
      wrappedSum.scalar = .ok .zero ∧
      wrappedSum.histogram = .error (.unsupportedAggregation "sum") ∧
      ¬ (metric .sum (some .zero)).IsNested := by
  have hchain : Relation.ReflTransGen Wraps wrappedSum (.metric .sum (some .zero)) :=
    .head (.named rfl) (.single (.only 5 "power" _))
  obtain ⟨hscalar, -, hhistogram, -, -⟩ := unwrap_transparent.1 _ _ hchain
  have hfound : wrappedSum.unwrap = .ok (.metric .sum (some .zero)) := rfl
  exact ⟨hchain, hscalar, hhistogram, (unwrap_transparent.2.1 _ _ hfound).2⟩

end SearchStore.Aggregate
