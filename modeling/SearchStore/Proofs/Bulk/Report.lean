import SearchStore.Proofs.Bulk.Calls

/-! # What a bulk write reports

A request fails if no success came back for it, or one that cannot be read. Its
items count as failed then, and so do the items that the engine reports as
such. `Tally.Of` says that a tally has counted the items of some shipments so,
and has kept the first failure among them; `Accounted` says what is reported
from it: every item is affected or failed, and there is an error exactly if a
request has failed. `Bulk.Reachable.accounted` shows it for every run.
-/

namespace SearchStore

/-! ## Requests that fail -/

namespace Worker

/-- The entries of an answer are there if a success came back whose body is an answer to a bulk
write. -/
theorem readAnswer_eq_ok_iff {answer : Except Error Response}
    {entries : List (List (String × ItemResult))} :
    readAnswer answer = .ok entries ↔ ∃ response a, answer = .ok response ∧
      response.isSuccess ∧ response.read BulkAnswer.decode? = .ok a ∧ a.items = entries := by
  cases answer with
  | error e => simp [readAnswer, bind, Except.bind]
  | ok response =>
    by_cases hsuccess : response.isSuccess
    · cases hread : response.read BulkAnswer.decode? <;>
        simp [readAnswer, bind, Except.bind, Response.checked, hsuccess, hread, pure, Except.pure]
    · simp [readAnswer, bind, Except.bind, Response.checked, hsuccess]

end Worker

namespace Shipment

/-- The request of a shipment, with the answer to it. -/
def exchange (s : Shipment) : Request × Except Error Response := (s.request, s.answer)

/-- Whether the request was answered by a success that can be read. -/
def Answered (s : Shipment) : Prop :=
  ∃ response answer, s.answer = .ok response ∧ response.isSuccess ∧
    response.read BulkAnswer.decode? = .ok answer

/-- Why the request failed, if it did. -/
def failure? (s : Shipment) : Option Error :=
  match Worker.readAnswer s.answer with
  | .ok _ => none
  | .error e => some e

theorem failure?_eq_none_iff {s : Shipment} : s.failure? = none ↔ s.Answered := by
  have hok : s.failure? = none ↔ ∃ entries, Worker.readAnswer s.answer = .ok entries := by
    rw [failure?]
    split <;> simp [*]
  simp only [hok, Worker.readAnswer_eq_ok_iff, Answered]
  constructor
  · rintro ⟨entries, response, a, hanswer, hsuccess, hread, -⟩
    exact ⟨response, a, hanswer, hsuccess, hread⟩
  · rintro ⟨response, a, hanswer, hsuccess, hread⟩
    exact ⟨a.items, response, a, hanswer, hsuccess, hread, rfl⟩

theorem failure?_eq_some_iff {s : Shipment} {e : Error} :
    s.failure? = some e ↔ Worker.readAnswer s.answer = .error e := by
  rw [failure?]
  split <;> simp [*]

/-- How many items of some shipments were accepted. -/
def affected (shipments : List Shipment) : Nat :=
  (shipments.flatMap settled).countP fun x => x.2.isSuccess

/-- How many items of some shipments were not accepted. -/
def failed (shipments : List Shipment) : Nat :=
  (shipments.flatMap settled).countP fun x => !x.2.isSuccess

theorem affected_add_failed (shipments : List Shipment) :
    affected shipments + failed shipments = (shipments.flatMap items).length := by
  have hfst : (shipments.flatMap settled).map Prod.fst = shipments.flatMap items := by
    simp only [List.map_flatMap, map_fst_settled]
  rw [← hfst, List.length_map, List.length_eq_countP_add_countP fun x => x.2.isSuccess]
  simp [affected, failed]

end Shipment

/-! ## Reports -/

theorem BulkReport.toResult_eq_error_iff (r : BulkReport) :
    r.toResult = .error (.partialBulkFailure r.affected r.failed) ↔ 0 < r.failed := by
  rw [toResult]
  split_ifs with h <;> simp [h]

/-- What a bulk write reports once nothing is left to do: the counts, or why the first request
failed that did. -/
def Tally.report (t : Tally) : Except Error BulkReport :=
  match t.firstError with
  | some e => .error (.bulkFlush t.stats.flushed t.stats.failed e.message)
  | none => .ok (.ofStats t.stats)

/-- A tally is that of some shipments. -/
structure Tally.Of (t : Tally) (shipments : List Shipment) : Prop where
  counts : t.stats.Counts (shipments.flatMap Shipment.settled)
  firstError : t.firstError = shipments.findSome? Shipment.failure?

/-- A result accounts for a number of items that were sent in some shipments. The counts are
reported in either case; only a failed request makes the result an error. -/
structure Accounted (n : Nat) (shipments : List Shipment) (result : Except Error BulkReport) :
    Prop where
  total : Shipment.affected shipments + Shipment.failed shipments = n
  answered : (∀ s ∈ shipments, s.Answered) →
    result = .ok ⟨Shipment.affected shipments, Shipment.failed shipments⟩
  broken : (∃ s ∈ shipments, ¬ s.Answered) → ∃ before s after e,
    shipments = before ++ s :: after ∧ (∀ b ∈ before, b.Answered) ∧
    Worker.readAnswer s.answer = .error e ∧
    result = .error
      (.bulkFlush (Shipment.affected shipments) (Shipment.failed shipments) e.message)
  asResult : ∀ report, result = .ok report →
    (report.toResult = .error (.partialBulkFailure report.affected report.failed) ↔
      0 < report.failed)

/-! ## Counting shipments -/

namespace BulkStats.Counts

variable {s : BulkStats} {landed : List (BulkItem × ItemOutcome)}

/-- More outcomes, one after the other, are counted as what they are. -/
theorem settle (h : s.Counts landed) (settled : List (BulkItem × ItemOutcome)) :
    (settled.foldl (fun s (item, o) => s.count item o) s).Counts (landed ++ settled) := by
  induction settled generalizing s landed with
  | nil => simpa using h
  | cons x rest ih =>
    obtain ⟨item, o⟩ := x
    have hrest := ih (h.count item o)
    rwa [List.append_assoc] at hrest

/-- The order of outcomes does not matter to the counters. -/
theorem perm (h : s.Counts landed) {landed' : List (BulkItem × ItemOutcome)}
    (hperm : landed.Perm landed') : s.Counts landed' where
  flushed := h.flushed.trans (hperm.countP_eq _)
  failed := h.failed.trans (hperm.countP_eq _)
  indexed := h.indexed.trans (hperm.countP_eq _)
  updated := h.updated.trans (hperm.countP_eq _)
  deleted := h.deleted.trans (hperm.countP_eq _)
  created := h.created.trans (hperm.countP_eq _)

end BulkStats.Counts

/-- An answer is the first failure only if there was none before. -/
theorem Tally.firstError_hear (t : Tally) (size : Nat) (s : Shipment) :
    (t.hear size s.answer).firstError = t.firstError.or s.failure? := by
  rw [hear, Shipment.failure?]
  split <;> simp [*]

namespace Tally.Of

variable {t : Tally} {shipments : List Shipment}

theorem nil : Tally.Of {} [] := ⟨.nil, rfl⟩

/-- The tally of some shipments accounts for their items. -/
theorem accounted (h : t.Of shipments) {n : Nat}
    (hn : (shipments.flatMap Shipment.items).length = n) : Accounted n shipments t.report where
  total := (Shipment.affected_add_failed shipments).trans hn
  answered := fun hall => by
    have hnone : t.firstError = none := by
      rw [h.firstError, List.findSome?_eq_none_iff]
      exact fun s hs => Shipment.failure?_eq_none_iff.mpr (hall s hs)
    rw [report, hnone, BulkReport.ofStats, h.counts.flushed, h.counts.failed]
    rfl
  broken := by
    rintro ⟨s, hs, hanswered⟩
    obtain ⟨e, he⟩ : ∃ e, shipments.findSome? Shipment.failure? = some e := by
      rw [← Option.isSome_iff_exists, List.findSome?_isSome_iff]
      refine ⟨s, hs, ?_⟩
      rwa [Option.isSome_iff_ne_none, ne_eq, Shipment.failure?_eq_none_iff]
    obtain ⟨before, first, after, rfl, hfirst, hbefore⟩ := List.findSome?_eq_some_iff.mp he
    refine ⟨before, first, after, e, rfl,
      fun b hb => Shipment.failure?_eq_none_iff.mp (hbefore b hb),
      Shipment.failure?_eq_some_iff.mp hfirst, ?_⟩
    rw [report, h.firstError, he, h.counts.flushed, h.counts.failed]
    rfl
  asResult := fun report _ => report.toResult_eq_error_iff

/-- The outcomes of one more shipment are counted, and its failure is kept if it is the first. -/
theorem hear (h : t.Of shipments) (s : Shipment) (size : Nat) :
    (Worker.settle (t.hear size s.answer) s.settled).Of (shipments ++ [s]) where
  counts := by
    obtain ⟨n, hstats⟩ := t.stats_hear size s.answer
    have hstart : (t.hear size s.answer).stats.Counts (shipments.flatMap Shipment.settled) := by
      rw [hstats]
      exact h.counts.congr rfl rfl rfl rfl rfl rfl
    rw [List.flatMap_append, List.flatMap_singleton]
    exact hstart.settle s.settled
  firstError := by
    have hlast : (t.hear size s.answer).firstError = t.firstError.or s.failure? :=
      t.firstError_hear size s
    rw [List.findSome?_append, ← h.firstError, List.findSome?_singleton]
    exact hlast

end Tally.Of

/-! ## Runs -/

namespace Bulk

variable {c : BulkConfig} {r s : Run}

/-- What a run keeps as the first error is the first failure among its answers. -/
theorem firstError_eq (h : Reachable c r) (hphase : r.phase ≠ .closed) :
    r.tally.firstError = r.answered.findSome? Shipment.failure? := by
  induction h with
  | refl => rfl
  | @step q r _ hstep ih =>
    cases hstep with
    | call | giveUp | accept | hold | fill | flush | schedule | pass | settle | settled =>
      exact ih hphase
    | close hopen => exact ih (by simp [hopen])
    | closed => exact absurd rfl hphase
    | @answer before after w hhands answer =>
      have hlast : (q.hear before w answer after).tally.firstError = _ :=
        q.tally.firstError_hear w.body.utf8ByteSize ⟨w.items.toList, answer⟩
      rw [hlast, ih hphase]
      simp [Run.hear, List.findSome?_append]

/-- Whoever sends and whenever, a run in which nothing is left to do has sent each item that was
accepted once, and accounts for all of them. -/
theorem Reachable.accounted (h : Reachable c r) (hphase : r.phase ≠ .closed)
    (hdrained : r.Drained) : (r.answered.flatMap Shipment.items).Perm r.accepted ∧
      Accounted r.accepted.length r.answered r.tally.report := by
  have hbalanced := (Ledger.of_reachable h).balanced hdrained
  have hof : r.tally.Of r.answered :=
    ⟨hbalanced.counts.perm hbalanced.outcomes, firstError_eq h hphase⟩
  exact ⟨hbalanced.items, hof.accounted hbalanced.items.length_eq⟩

end Bulk

end SearchStore
