import SearchStore.Proofs.Bulk.Order

/-! # Answers to a single worker

A single worker waits for the answer to a request before it takes the next item,
so its requests are answered one after the other. `InTurn` is the invariant: the
items of the answered requests, those that the worker holds and those in the
queue are, in this order, the items that were accepted, and no request was empty.
-/

namespace SearchStore.Bulk

variable {c : BulkConfig} {r s : Run}

/-- A single worker has had its requests answered in the order of their items. -/
structure InTurn (r : Run) : Prop where
  alone : r.hands.length = 1
  order : r.accepted = r.answered.flatMap Shipment.items ++
    r.hands.flatMap (fun h => h.worker.items.toList) ++ r.queue
  waiting : ∀ h ∈ r.hands, h.doing = .waiting → h.worker.items ≠ #[]
  nonempty : ∀ shipment ∈ r.answered, shipment.items ≠ []

namespace InTurn

variable {before after : List Hand} {w : Worker} {x y : Hand}

theorem start (hworkers : c.workers ≤ 1) : InTurn (Run.start c) where
  alone := by
    simp only [Run.start, Indexer.start, List.length_map, List.length_replicate]
    omega
  order := by simp [Run.start, Indexer.start]
  waiting := by simp [Run.start, Indexer.start]
  nonempty := List.forall_mem_nil _

/-- The worker goes on, and all items stay in order. -/
theorem move (h : InTurn r) (hhands : r.hands = before ++ x :: after)
    (hhands' : s.hands = before ++ y :: after)
    (horder : s.answered.flatMap Shipment.items ++ y.worker.items.toList ++ s.queue =
      r.answered.flatMap Shipment.items ++ x.worker.items.toList ++ r.queue)
    (haccepted : s.accepted = r.accepted) (hwaiting : y.doing = .waiting → y.worker.items ≠ #[])
    (hnonempty : ∀ shipment ∈ s.answered, shipment.items ≠ []) : InTurn s := by
  -- the hand that moves is the only one
  obtain ⟨rfl, rfl⟩ := nobody_beside h.alone hhands
  have heq : r.hands = [x] := hhands
  have hhands' : s.hands = [y] := hhands'
  refine ⟨by rw [hhands']; rfl, ?_, by simpa [hhands'] using hwaiting, hnonempty⟩
  rw [haccepted, h.order, heq, hhands', List.flatMap_singleton, List.flatMap_singleton, horder]

/-- Every step keeps the order. -/
theorem step (h : InTurn r) (hstep : Step c r s) : InTurn s := by
  cases hstep with
  | call | giveUp | pass | close | closed => exact ⟨h.alone, h.order, h.waiting, h.nonempty⟩
  | accept => exact ⟨h.alone, by simp [h.order], h.waiting, h.nonempty⟩
  | hold hqueue hhands _ =>
    exact h.move hhands rfl (by simp [hqueue, Worker.push]) rfl (by simp) h.nonempty
  | fill hqueue hhands _ =>
    exact h.move hhands rfl (by simp [hqueue, Worker.push, Run.send]) rfl
      (fun _ => by simp [Worker.push]) h.nonempty
  | flush hhands hitems => exact h.move hhands rfl rfl rfl (fun _ => hitems) h.nonempty
  | schedule hhands due => exact h.move hhands rfl rfl rfl (by simp) h.nonempty
  | @answer before after w hhands answer =>
    have hitems : w.items ≠ #[] := h.waiting ⟨w, .waiting⟩ (by simp [hhands]) rfl
    refine h.move hhands rfl (by simp [Run.hear]) rfl (by simp) ?_
    exact List.forall_mem_append.mpr
      ⟨h.nonempty, List.forall_mem_singleton.mpr (by simpa using hitems)⟩
  | settle hhands => exact h.move hhands rfl rfl rfl (by simp) h.nonempty
  | settled hhands => exact h.move hhands rfl rfl rfl (by simp) h.nonempty

/-- The order is kept in every run with a single worker. -/
theorem of_reachable (hworkers : c.workers ≤ 1) (h : Reachable c r) : InTurn r := by
  induction h with
  | refl => exact start hworkers
  | step _ hstep ih => exact ih.step hstep

/-- With nothing left to do, all that was accepted was answered. -/
theorem flatMap_items_eq (h : InTurn r) (hdrained : r.Drained) :
    r.answered.flatMap Shipment.items = r.accepted := by
  have hheld : r.hands.flatMap (fun h => h.worker.items.toList) = [] := by
    rw [List.flatMap_eq_nil_iff]
    intro x hx
    simp [(hdrained.hands x hx).2]
  rw [h.order, hheld, hdrained.queue, List.append_nil, List.append_nil]

end InTurn

end SearchStore.Bulk
