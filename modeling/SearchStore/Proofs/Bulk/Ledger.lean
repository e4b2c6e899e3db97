import Mathlib.Algebra.BigOperators.Group.Multiset.Basic
import Mathlib.Tactic.Abel
import SearchStore.Proofs.Bulk.Run

/-! # Nothing is lost and nothing counted twice

`Ledger` is the invariant of runs. An item that was accepted is in the queue,
with a worker, or in a request that was answered; the outcomes of answered
requests are settled or with a worker; requests are sent for the texts that
workers hold; and the counters count what is settled. `Ledger.step` keeps it
from one moment to the next, with one lemma for each thing that a worker does.

Where nothing is left to do the parts with the queue and the workers are empty,
and what remains is `Balanced`.
-/

namespace SearchStore.Bulk

/-! ## What is with the workers -/

namespace Hand

/-- The items that a worker holds, or for which it waits. -/
def held (h : Hand) : Multiset BulkItem := h.worker.items.toList

/-- The request for whose answer a worker waits. -/
def outstanding (h : Hand) : Multiset Request :=
  match h.doing with
  | .waiting => {Worker.request h.worker.body}
  | _ => 0

/-- The outcomes that a worker has not settled yet. -/
def unsettled (h : Hand) : Multiset (BulkItem × ItemOutcome) :=
  match h.doing with
  | .settling rest => rest
  | _ => 0

end Hand

/-- What all workers have together. -/
def total {α : Type} (f : Hand → Multiset α) (hands : List Hand) : Multiset α := (hands.map f).sum

theorem total_split {α : Type} (f : Hand → Multiset α) (before after : List Hand) (h : Hand) :
    total f (before ++ h :: after) = f h + total f (before ++ after) := by
  simp only [total, List.map_append, List.map_cons, List.sum_append, List.sum_cons]
  abel

theorem total_eq_zero {α : Type} {f : Hand → Multiset α} {hands : List Hand}
    (h : ∀ x ∈ hands, f x = 0) : total f hands = 0 :=
  List.sum_eq_zero fun y hy => by
    obtain ⟨x, hx, rfl⟩ := List.mem_map.mp hy
    exact h x hx

theorem forall_split {P : Hand → Prop} {before after : List Hand} {h : Hand} :
    (∀ x ∈ before ++ h :: after, P x) ↔ P h ∧ ∀ x ∈ before ++ after, P x := by
  simp only [List.mem_append, List.mem_cons, or_imp, forall_and, forall_eq]
  tauto

/-! ## The invariant -/

/-- What a run has accepted, sent, answered and settled fits together, if so
much is with its workers. -/
structure Accounts (r : Run) (held : Multiset BulkItem) (outstanding : Multiset Request)
    (unsettled : Multiset (BulkItem × ItemOutcome)) : Prop where
  added : r.tally.stats.added = r.accepted.length
  items : (r.accepted : Multiset BulkItem) =
    r.queue + held + (r.answered.flatMap Shipment.items : List BulkItem)
  sent : (r.sent : Multiset Request) =
    (r.answered.map Shipment.request : List Request) + outstanding
  requests : r.tally.stats.requests = r.sent.length
  outcomes : ((r.answered.flatMap Shipment.settled : List _) : Multiset (BulkItem × ItemOutcome)) =
    r.landed + unsettled
  counts : r.tally.stats.Counts r.landed
  heard : r.heard = r.landed.filterMap fun x => x.1.heard x.2

/-- The text of a worker is that of its items. -/
def Hand.Written (h : Hand) : Prop := h.worker.body = Shipment.text h.worker.items.toList

/-- The invariant of runs. -/
structure Ledger (r : Run) : Prop where
  accounts : Accounts r (total Hand.held r.hands) (total Hand.outstanding r.hands)
    (total Hand.unsettled r.hands)
  texts : ∀ h ∈ r.hands, h.Written
  closed : r.phase = .closed → r.Drained

namespace Ledger

variable {c : BulkConfig} {r s : Run} {before after : List Hand} {w : Worker} {x y : Hand}

theorem start (c : BulkConfig) : Ledger (Run.start c) := by
  have hhands : ∀ h ∈ (Run.start c).hands, h.doing = .idle ∧ h.worker.items = #[] ∧
      h.worker.body = "" := by
    intro h hh
    obtain ⟨w, hw, rfl⟩ := List.mem_map.mp hh
    obtain ⟨-, rfl⟩ := List.mem_replicate.mp hw
    exact ⟨rfl, rfl, rfl⟩
  have hheld : total Hand.held (Run.start c).hands = 0 :=
    total_eq_zero fun h hh => by simp [Hand.held, (hhands h hh).2.1]
  have houtstanding : total Hand.outstanding (Run.start c).hands = 0 :=
    total_eq_zero fun h hh => by simp [Hand.outstanding, (hhands h hh).1]
  have hunsettled : total Hand.unsettled (Run.start c).hands = 0 :=
    total_eq_zero fun h hh => by simp [Hand.unsettled, (hhands h hh).1]
  refine ⟨?_, ?_, fun h => by cases h⟩
  · rw [hheld, houtstanding, hunsettled]
    exact ⟨rfl, rfl, rfl, rfl, rfl, .nil, rfl⟩
  · intro h hh
    simp [Hand.Written, hhands h hh, Shipment.text]

/-! ## One worker among others -/

/-- What one worker has is taken out of the totals. -/
theorem split (h : Ledger r) (hhands : r.hands = before ++ x :: after) :
    Accounts r (x.held + total Hand.held (before ++ after))
      (x.outstanding + total Hand.outstanding (before ++ after))
      (x.unsettled + total Hand.unsettled (before ++ after)) ∧
    x.Written ∧ ∀ h ∈ before ++ after, h.Written := by
  have haccounts := h.accounts
  have htexts := h.texts
  rw [hhands] at haccounts htexts
  rw [total_split, total_split, total_split] at haccounts
  exact ⟨haccounts, forall_split.mp htexts⟩

/-- What one worker has is put back into the totals. -/
theorem join (hhands : r.hands = before ++ x :: after) (hphase : r.phase ≠ .closed)
    (haccounts : Accounts r (x.held + total Hand.held (before ++ after))
      (x.outstanding + total Hand.outstanding (before ++ after))
      (x.unsettled + total Hand.unsettled (before ++ after)))
    (hwritten : x.Written) (htexts : ∀ h ∈ before ++ after, h.Written) : Ledger r := by
  refine ⟨?_, ?_, fun hclosed => absurd hclosed hphase⟩
  · rw [hhands, total_split, total_split, total_split]
    exact haccounts
  · rw [hhands]
    exact forall_split.mpr ⟨hwritten, htexts⟩

/-- Only in an open run is a worker at work. -/
theorem phase_of_busy (h : Ledger r) (hhands : r.hands = before ++ x :: after)
    (hbusy : x.doing = .idle → x.worker.items ≠ #[]) : r.phase ≠ .closed := by
  intro hclosed
  obtain ⟨hidle, hitems⟩ := (h.closed hclosed).hands x (by simp [hhands])
  exact hbusy hidle hitems

/-! ## Steps -/

theorem accept (h : Ledger r) {as bs : List BulkItem} {item : BulkItem}
    (hcallers : r.callers = as ++ item :: bs) :
    Ledger { r with
      callers := as ++ bs
      queue := r.queue ++ [item]
      tally.stats.added := r.tally.stats.added + 1
      accepted := r.accepted ++ [item] } where
  accounts := {
    added := by simp [h.accounts.added]
    items := by
      simp only [← Multiset.coe_add, h.accounts.items]
      abel
    sent := h.accounts.sent
    requests := h.accounts.requests
    outcomes := h.accounts.outcomes
    counts := h.accounts.counts.congr rfl rfl rfl rfl rfl rfl
    heard := h.accounts.heard }
  texts := h.texts
  closed := fun hclosed => absurd (h.closed hclosed).callers (by simp [hcallers])

/-- A worker takes the next item of the queue. -/
theorem take (h : Ledger r) {item : BulkItem} {rest : List BulkItem}
    (hqueue : r.queue = item :: rest) (hhands : r.hands = before ++ ⟨w, .idle⟩ :: after) :
    Ledger { r with queue := rest, hands := before ++ ⟨w.push item, .idle⟩ :: after } := by
  obtain ⟨haccounts, hwritten, htexts⟩ := h.split hhands
  have hphase : r.phase ≠ .closed := fun hclosed => by
    simpa [hqueue] using (h.closed hclosed).queue
  refine join rfl hphase { haccounts with items := ?_ } ?_ htexts
  · -- the item only changes its place, from the queue to the worker
    have hpush : ((w.push item).items.toList : Multiset BulkItem) = w.items.toList + {item} := by
      simp [Worker.push, ← Multiset.coe_add]
    have hitems := haccounts.items
    simp only [hqueue, ← Multiset.singleton_add, ← Multiset.cons_coe, Hand.held] at hitems ⊢
    rw [hpush, hitems]
    abel
  · have htext : w.body = Shipment.text w.items.toList := hwritten
    simp [Hand.Written, Worker.push, Shipment.text_append_single, htext]

/-- What a worker holds is sent, and stays with it until the answer is there. -/
theorem send (h : Ledger r) (hhands : r.hands = before ++ ⟨w, .idle⟩ :: after)
    (hitems : w.items ≠ #[]) : Ledger (r.send before w after) := by
  obtain ⟨haccounts, hwritten, htexts⟩ := h.split hhands
  refine join rfl (h.phase_of_busy hhands fun _ => hitems) { haccounts with
    sent := ?_
    requests := ?_
    counts := haccounts.counts.congr rfl rfl rfl rfl rfl rfl } hwritten htexts
  · -- the new request is the one that the worker waits for now
    have hsent := haccounts.sent
    simp only [Run.send, ← Multiset.coe_add, Hand.outstanding] at hsent ⊢
    rw [hsent]
    simp only [Multiset.coe_singleton]
    abel
  · simp [Run.send, haccounts.requests]

/-- The items of a request that is answered are no longer with the worker, but
their outcomes are. -/
theorem hear (h : Ledger r) (hhands : r.hands = before ++ ⟨w, .waiting⟩ :: after)
    (answer : Except Error Response) : Ledger (r.hear before w answer after) := by
  obtain ⟨haccounts, hwritten, htexts⟩ := h.split hhands
  obtain ⟨n, hstats⟩ := r.tally.stats_hear w.body.utf8ByteSize answer
  -- the request is that of the items, as the text was written from them
  have hrequest : Worker.request w.body = Shipment.request ⟨w.items.toList, answer⟩ :=
    congrArg Worker.request hwritten
  refine join rfl (h.phase_of_busy hhands nofun) { haccounts with
    added := ?_
    items := ?_
    sent := ?_
    requests := ?_
    outcomes := ?_
    counts := ?_ } rfl htexts
  · simpa only [Run.hear, hstats] using haccounts.added
  · have hitems := haccounts.items
    simp only [Run.hear, List.flatMap_append, List.flatMap_singleton, ← Multiset.coe_add,
      Hand.held, Multiset.coe_nil] at hitems ⊢
    rw [hitems]
    abel
  · have hsent := haccounts.sent
    simp only [Run.hear, List.map_append, List.map_singleton, ← Multiset.coe_add,
      Hand.outstanding, hrequest] at hsent ⊢
    rw [hsent]
    simp only [Multiset.coe_singleton]
    abel
  · simpa only [Run.hear, hstats] using haccounts.requests
  · have houtcomes := haccounts.outcomes
    simp only [Run.hear, List.flatMap_append, List.flatMap_singleton, ← Multiset.coe_add,
      Hand.unsettled] at houtcomes ⊢
    rw [houtcomes]
    abel
  · simp only [Run.hear, hstats]
    exact haccounts.counts.congr rfl rfl rfl rfl rfl rfl

/-- An outcome that a worker had is settled. -/
theorem settle (h : Ledger r) {item : BulkItem} {o : ItemOutcome}
    {rest : List (BulkItem × ItemOutcome)}
    (hhands : r.hands = before ++ ⟨w, .settling ((item, o) :: rest)⟩ :: after) :
    Ledger (r.settle before w item o rest after) := by
  obtain ⟨haccounts, hwritten, htexts⟩ := h.split hhands
  refine join rfl (h.phase_of_busy hhands nofun) { haccounts with
    added := ?_
    requests := ?_
    outcomes := ?_
    counts := haccounts.counts.count item o
    heard := ?_ } hwritten htexts
  · simpa [Run.settle] using haccounts.added
  · simpa [Run.settle] using haccounts.requests
  · have houtcomes := haccounts.outcomes
    simp only [Run.settle, ← Multiset.coe_add, Hand.unsettled, ← Multiset.cons_coe,
      ← Multiset.singleton_add] at houtcomes ⊢
    rw [houtcomes]
    simp only [Multiset.coe_nil]
    abel
  · rw [Run.settle, haccounts.heard, List.filterMap_append]
    cases hheard : item.heard o <;> simp [hheard]

/-- A worker that sets its time has what it had before, also after the end. -/
theorem schedule (h : Ledger r) (hhands : r.hands = before ++ ⟨w, .idle⟩ :: after) (due : Nat) :
    Ledger { r with hands := before ++ ⟨{ w with nextTick := due }, .idle⟩ :: after } := by
  obtain ⟨haccounts, hwritten, htexts⟩ := h.split hhands
  refine ⟨?_, forall_split.mpr ⟨hwritten, htexts⟩, fun hclosed => ?_⟩
  · rw [total_split, total_split, total_split]
    exact { haccounts with }
  · obtain ⟨hcallers, hqueue, hdrained⟩ := h.closed hclosed
    rw [hhands] at hdrained
    exact ⟨hcallers, hqueue, forall_split.mpr (forall_split.mp hdrained)⟩

/-- Every step keeps the books. -/
theorem step (h : Ledger r) (hstep : Step c r s) : Ledger s := by
  cases hstep with
  | call item hphase =>
    exact ⟨{ h.accounts with }, h.texts, fun hclosed => absurd hclosed hphase⟩
  | giveUp hcallers =>
    refine ⟨{ h.accounts with }, h.texts, fun hclosed => ?_⟩
    exact absurd (h.closed hclosed).callers (by simp [hcallers])
  | accept hcallers => exact h.accept hcallers
  | hold hqueue hhands _ => exact h.take hqueue hhands
  | fill hqueue hhands _ =>
    exact (h.take hqueue hhands).send rfl (by simp [Worker.push])
  | flush hhands hitems => exact h.send hhands hitems
  | schedule hhands due => exact h.schedule hhands due
  | pass now => exact ⟨{ h.accounts with }, h.texts, fun hclosed =>
      ⟨(h.closed hclosed).callers, (h.closed hclosed).queue, (h.closed hclosed).hands⟩⟩
  | answer hhands answer => exact h.hear hhands answer
  | settle hhands => exact h.settle hhands
  | settled hhands =>
    obtain ⟨haccounts, hwritten, htexts⟩ := h.split hhands
    exact join rfl (h.phase_of_busy hhands nofun) { haccounts with } hwritten htexts
  | close hphase =>
    exact ⟨{ h.accounts with }, h.texts, nofun⟩
  | closed hphase hdrained =>
    refine ⟨{ h.accounts with }, h.texts, fun _ => ?_⟩
    exact ⟨hdrained.callers, hdrained.queue, hdrained.hands⟩

/-- The books are kept in every run. -/
theorem of_reachable (h : Reachable c r) : Ledger r := by
  induction h with
  | refl => exact start c
  | step _ hstep ih => exact ih.step hstep

end Ledger

/-! ## What is left in the end -/

/-- A run that is balanced: the counters add up, each item that was accepted
was part of one request and got one outcome, and each outcome was counted
once and heard by the hook that is set for it. -/
structure Balanced (r : Run) : Prop where
  accepted : r.tally.stats.added = r.accepted.length
  added : r.tally.stats.added = r.tally.stats.flushed + r.tally.stats.failed
  flushed : r.tally.stats.flushed =
    r.tally.stats.indexed + r.tally.stats.updated + r.tally.stats.deleted
  created : r.tally.stats.created ≤ r.tally.stats.flushed
  requests : r.tally.stats.requests = r.sent.length
  sent : r.sent.Perm (r.answered.map Shipment.request)
  items : (r.answered.flatMap Shipment.items).Perm r.accepted
  landed : (r.landed.map Prod.fst).Perm r.accepted
  outcomes : r.landed.Perm (r.answered.flatMap Shipment.settled)
  settled : ∀ s ∈ r.answered, s.settled.map Prod.fst = s.items
  success : ∀ s ∈ r.answered, ∀ k item o, s.settled[k]? = some (item, o) →
    ∀ result, o = .success result ↔
      s.result? k = some result ∧ result.error = none ∧ result.status ≤ 201
  counts : r.tally.stats.Counts r.landed
  heard : r.heard = r.landed.filterMap fun x => x.1.heard x.2

/-- A run in which nothing is left to do is balanced. -/
theorem Ledger.balanced {r : Run} (h : Ledger r) (hdrained : r.Drained) : Balanced r := by
  have hheld : total Hand.held r.hands = 0 :=
    total_eq_zero fun x hx => by simp [Hand.held, (hdrained.hands x hx).2]
  have houtstanding : total Hand.outstanding r.hands = 0 :=
    total_eq_zero fun x hx => by simp [Hand.outstanding, (hdrained.hands x hx).1]
  have hunsettled : total Hand.unsettled r.hands = 0 :=
    total_eq_zero fun x hx => by simp [Hand.unsettled, (hdrained.hands x hx).1]
  obtain ⟨hadded, hitems, hsent, hrequests, houtcomes, hcounts, hheard⟩ := h.accounts
  -- with nothing on the way, what was accepted is what was settled
  rw [hheld, hdrained.queue] at hitems
  rw [houtstanding, add_zero, Multiset.coe_eq_coe] at hsent
  rw [hunsettled, add_zero, Multiset.coe_eq_coe] at houtcomes
  have hperm : (r.answered.flatMap Shipment.items).Perm r.accepted := by
    rw [← Multiset.coe_eq_coe, hitems]
    simp
  have hfst : (r.answered.flatMap Shipment.settled).map Prod.fst =
      r.answered.flatMap Shipment.items := by
    simp only [List.map_flatMap, Shipment.map_fst_settled]
  have hlanded : (r.landed.map Prod.fst).Perm r.accepted :=
    ((houtcomes.symm.map Prod.fst).trans (.of_eq hfst)).trans hperm
  have hlength : r.landed.length = r.accepted.length := by
    simpa using hlanded.length_eq
  exact {
    accepted := hadded
    added := by rw [hadded, hcounts.settled, hlength]
    flushed := hcounts.byAction
    created := hcounts.created_le
    requests := hrequests
    sent := hsent
    items := hperm
    landed := hlanded
    outcomes := houtcomes.symm
    settled := fun s _ => s.map_fst_settled
    success := fun _ _ _ _ _ hk result => Shipment.settled_success_iff hk result
    counts := hcounts
    heard := hheard }

end SearchStore.Bulk
