import SearchStore.Proofs.Bulk.Order

/-! # How much a request carries

A worker sends when it holds enough, that is bytes or items up to a threshold, and earlier when its
time has come or the queue has ended. `Sends` tells the two apart, and a `Trail` is what a run has
sent so far, cut into batches. Before it takes an item a worker never holds enough (`Spare`), so
that no batch goes further beyond the thresholds than its last item (`Batch.Cut`).
-/

namespace SearchStore

/-- Without its last item a text is not longer. -/
theorem Shipment.utf8ByteSize_text_dropLast_le (items : List BulkItem) :
    (text items.dropLast).utf8ByteSize ≤ (text items).utf8ByteSize := by
  rcases items.eq_nil_or_concat' with rfl | ⟨rest, item, rfl⟩
  · rfl
  · rw [List.dropLast_concat, text_append_single, String.utf8ByteSize_append]
    exact Nat.le_add_right _ _

namespace Bulk

variable {c : BulkConfig} {r s : Run}

/-! ## Batches -/

/-- The items of a request, and whether the worker sent them because they were enough. -/
structure Batch where
  items : List BulkItem
  full : Bool

namespace Batch

def request (b : Batch) : Request := Worker.request (Shipment.text b.items)

/-- A batch is cut at the thresholds: its items but the last were not enough, and all of them are if
that made the worker send. Items count only if there is a threshold for them. -/
structure Cut (c : BulkConfig) (b : Batch) : Prop where
  nonempty : b.items ≠ []
  bounded : 0 < c.flushItems → b.items.length ≤ c.flushItems
  before : b.items.dropLast = [] ∨
    (Shipment.text b.items.dropLast).utf8ByteSize < c.flushBytes
  enough : b.full = true → c.flushBytes ≤ (Shipment.text b.items).utf8ByteSize ∨
    0 < c.flushItems ∧ b.items.length = c.flushItems
  early : b.full = false → (Shipment.text b.items).utf8ByteSize < c.flushBytes ∧
    (0 < c.flushItems → b.items.length < c.flushItems)

end Batch

/-- What makes a worker send: an item that it takes, or something else while it holds items. -/
inductive Sends (c : BulkConfig) (r : Run) : Run → Batch → Prop
  | fill {item : BulkItem} {rest : List BulkItem} {before after : List Hand} {w : Worker}
      (hqueue : r.queue = item :: rest) (hhands : r.hands = before ++ ⟨w, .idle⟩ :: after)
      (hfull : (w.push item).isFull c = true) :
      Sends c r ({ r with queue := rest }.send before (w.push item) after)
        ⟨(w.push item).items.toList, true⟩
  | flush {before after : List Hand} {w : Worker}
      (hhands : r.hands = before ++ ⟨w, .idle⟩ :: after) (hitems : w.items ≠ #[]) :
      Sends c r (r.send before w after) ⟨w.items.toList, false⟩

theorem Sends.step {b : Batch} (h : Sends c r s b) : Step c r s := by
  cases h with
  | fill hqueue hhands hfull => exact .fill hqueue hhands hfull
  | flush hhands hitems => exact .flush hhands hitems

theorem Sends.sent_ne {b : Batch} (h : Sends c r s b) : s.sent ≠ r.sent := by
  cases h <;> simp [Run.send]

/-- Whatever else happens, nothing is sent. -/
theorem Step.quiet_or_sends (h : Step c r s) : s.sent = r.sent ∨ ∃ b, Sends c r s b := by
  cases h with
  | fill hqueue hhands hfull => exact .inr ⟨_, .fill hqueue hhands hfull⟩
  | flush hhands hitems => exact .inr ⟨_, .flush hhands hitems⟩
  | call | giveUp | accept | hold | schedule | pass | answer | settle | settled | close | closed =>
    exact .inl rfl

/-! ## What workers hold -/

/-- A worker that has sent what it held does not hold enough to send. -/
def Hand.Spare (c : BulkConfig) (h : Hand) : Prop :=
  h.doing ≠ .waiting → h.worker.items = #[] ∨ h.worker.isFull c = false

theorem isFull_eq_false_iff {w : Worker} :
    w.isFull c = false ↔ w.body.utf8ByteSize < c.flushBytes ∧
      (0 < c.flushItems → w.items.size < c.flushItems) := by
  simp [Worker.isFull]

theorem isFull_eq_true_iff {w : Worker} :
    w.isFull c = true ↔ c.flushBytes ≤ w.body.utf8ByteSize ∨
      0 < c.flushItems ∧ c.flushItems ≤ w.items.size := by
  simp [Worker.isFull]

namespace Hand.Spare

variable {before after : List Hand} {x y : Hand}

/-- When a hand moves, all are spare if this one is. -/
theorem move (h : ∀ z ∈ r.hands, z.Spare c) (hhands : r.hands = before ++ x :: after)
    (hy : x.Spare c → y.Spare c) : ∀ z ∈ before ++ y :: after, z.Spare c := by
  rw [hhands] at h
  obtain ⟨hx, hothers⟩ := forall_split.mp h
  exact forall_split.mpr ⟨hy hx, hothers⟩

theorem step (h : ∀ x ∈ r.hands, x.Spare c) (hstep : Step c r s) : ∀ x ∈ s.hands, x.Spare c := by
  cases hstep with
  | call | giveUp | accept | pass | close | closed => exact h
  | hold _ hhands hfull => exact move h hhands fun _ _ => .inr hfull
  | fill _ hhands _ => exact move h hhands fun _ hdoing => absurd rfl hdoing
  | flush hhands _ => exact move h hhands fun _ hdoing => absurd rfl hdoing
  | schedule hhands due => exact move h hhands fun hspare hdoing => hspare hdoing
  | answer hhands answer => exact move h hhands fun _ _ => .inl rfl
  | settle hhands => exact move h hhands fun hspare _ => hspare nofun
  | settled hhands => exact move h hhands fun hspare _ => hspare nofun

theorem of_reachable (h : Reachable c r) : ∀ x ∈ r.hands, x.Spare c := by
  induction h with
  | refl =>
    intro x hx _
    obtain ⟨w, hw, rfl⟩ := List.mem_map.mp hx
    obtain ⟨-, rfl⟩ := List.mem_replicate.mp hw
    exact .inl rfl
  | step _ hstep ih => exact step ih hstep

end Hand.Spare

/-- A worker that can take an item or send has the text of its items, and does not hold enough. -/
theorem Reachable.idle (h : Reachable c r) {before after : List Hand} {w : Worker}
    (hhands : r.hands = before ++ ⟨w, .idle⟩ :: after) :
    w.body = Shipment.text w.items.toList ∧ (w.items = #[] ∨ w.isFull c = false) := by
  have hmem : (⟨w, .idle⟩ : Hand) ∈ r.hands := by simp [hhands]
  exact ⟨(Ledger.of_reachable h).texts _ hmem, Hand.Spare.of_reachable h _ hmem nofun⟩

/-! ## What is sent -/

namespace Sends

variable {b : Batch}

theorem sent_eq (h : Sends c r s b) (hreachable : Reachable c r) :
    s.sent = r.sent ++ [b.request] := by
  cases h with
  | fill hqueue hhands hfull =>
    have htext := (hreachable.idle hhands).1
    simp [Run.send, Batch.request, Worker.push, htext, Shipment.text_append_single]
  | flush hhands hitems =>
    rw [Batch.request, ← (hreachable.idle hhands).1]
    rfl

/-- What is sent is cut at the thresholds. -/
theorem cut (h : Sends c r s b) (hreachable : Reachable c r) : b.Cut c := by
  cases h with
  | @fill item rest before after w hqueue hhands hfull =>
    obtain ⟨htext, hspare⟩ := hreachable.idle hhands
    have hitems : (w.push item).items.toList = w.items.toList ++ [item] := by simp [Worker.push]
    have htext' : (w.push item).body = Shipment.text (w.items.toList ++ [item]) := by
      simp [Worker.push, htext, Shipment.text_append_single]
    -- with the last item there are at most as many as the threshold says
    have hbounded : 0 < c.flushItems → w.items.size + 1 ≤ c.flushItems := by
      intro hpos
      rcases hspare with hnone | hspare
      · simpa [hnone, Nat.one_le_iff_ne_zero, Nat.pos_iff_ne_zero] using hpos
      · exact (isFull_eq_false_iff.mp hspare).2 hpos
    rw [hitems]
    refine ⟨by simp, by simpa using hbounded, ?_, fun _ => ?_, fun hearly => ?_⟩
    · rw [List.dropLast_concat, ← htext]
      rcases hspare with hnone | hspare
      · exact .inl (by simp [hnone])
      · exact .inr (isFull_eq_false_iff.mp hspare).1
    · rw [← htext']
      rcases isFull_eq_true_iff.mp hfull with hbytes | ⟨hpos, henough⟩
      · exact .inl hbytes
      · have hsize : (w.push item).items.size = w.items.size + 1 := by simp [Worker.push]
        exact .inr ⟨hpos, by simpa using (hbounded hpos).antisymm (hsize ▸ henough)⟩
    · cases hearly
  | @flush before after w hhands hitems =>
    obtain ⟨htext, hspare⟩ := hreachable.idle hhands
    obtain ⟨hbytes, hless⟩ := isFull_eq_false_iff.mp (hspare.resolve_left hitems)
    rw [htext] at hbytes
    -- the worker has less than enough, so without the last item it has too
    have hne : w.items.toList ≠ [] := by simpa using hitems
    have hbefore := (Shipment.utf8ByteSize_text_dropLast_le w.items.toList).trans_lt hbytes
    exact {
      nonempty := hne
      bounded := fun hpos => (hless hpos).le
      before := .inr hbefore
      enough := fun hfull => absurd hfull Bool.false_ne_true
      early := fun _ => ⟨hbytes, hless⟩ }

end Sends

/-! ## Trails -/

/-- What a run has sent so far, in order. -/
inductive Trail (c : BulkConfig) : Run → List Batch → Prop
  | start : Trail c (Run.start c) []
  | quiet {r s : Run} {batches : List Batch} (h : Trail c r batches) (hstep : Step c r s)
      (hsent : s.sent = r.sent) : Trail c s batches
  | send {r s : Run} {batches : List Batch} {b : Batch} (h : Trail c r batches)
      (hsends : Sends c r s b) : Trail c s (batches ++ [b])

namespace Trail

variable {batches : List Batch}

theorem reachable (h : Trail c r batches) : Reachable c r := by
  induction h with
  | start => exact .refl
  | quiet _ hstep _ ih => exact ih.step hstep
  | send _ hsends ih => exact ih.step hsends.step

theorem of_reachable (h : Reachable c r) : ∃ batches, Trail c r batches := by
  induction h with
  | refl => exact ⟨[], .start⟩
  | step _ hstep ih =>
    obtain ⟨batches, htrail⟩ := ih
    rcases hstep.quiet_or_sends with hsent | ⟨b, hsends⟩
    · exact ⟨batches, htrail.quiet hstep hsent⟩
    · exact ⟨batches ++ [b], htrail.send hsends⟩

theorem sent_eq (h : Trail c r batches) : r.sent = batches.map Batch.request := by
  induction h with
  | start => rfl
  | quiet _ _ hsent ih => exact hsent.trans ih
  | send htrail hsends ih => rw [hsends.sent_eq htrail.reachable, ih, List.map_append]; rfl

theorem cut (h : Trail c r batches) : ∀ b ∈ batches, b.Cut c := by
  induction h with
  | start => exact nofun
  | quiet _ _ _ ih => exact ih
  | send htrail hsends ih =>
    exact List.forall_mem_append.mpr
      ⟨ih, List.forall_mem_singleton.mpr (hsends.cut htrail.reachable)⟩

end Trail

/-! ## Calls from one place -/

/-- When a worker takes an item, it sends only if it then holds enough. -/
theorem Rests.receive_full {σ : Type} {server : Session.Server σ} {ix : Indexer}
    (h : Rests c ix r) (hreachable : Reachable c r) {n : Nat} (hn : n < ix.workers.length) (x : σ) :
    ∀ q ∈ (Session.run server (ix.receive n) x).2.1.requests,
      ∃ b : Batch, q = b.request ∧ b.full = true ∧ b.Cut c := by
  rw [Indexer.receive]
  split
  · exact List.forall_mem_nil _
  · rename_i item rest hqueue
    obtain ⟨before, w, after, hworkers, hlength, hhands⟩ := h.exists_split hn
    rw [hworkers, ← hlength, atWorker_append, h.config, Worker.receive]
    simp only [bind_assoc, pure_bind, Session.run_bind, Session.run_pure]
    by_cases hfull : (w.push item).isFull c
    · -- the run sends the same request in one step
      have hsends : Sends c r _ _ := .fill (h.queue.trans hqueue) hhands hfull
      have hrequest : [Worker.request (w.push item).body] = [Batch.request _] :=
        List.append_cancel_left (hsends.sent_eq hreachable)
      obtain ⟨-, hrequests, -, -⟩ :=
        Worker.run_flush server (w.push item) ix.tally x (by simp [Worker.push])
      rw [if_pos hfull, Session.Trace.requests_append, hrequests, hrequest]
      exact List.forall_mem_singleton.mpr ⟨_, rfl, rfl, hsends.cut hreachable⟩
    · rw [if_neg hfull]
      exact List.forall_mem_nil _

end Bulk

end SearchStore
