import SearchStore.Proofs.Bulk.Calls

/-! # Which items a request carries, and in which order

The items of a worker and their text are written apart, and an answer names no
items: what belongs together does so by its place alone. `Shipment.Judged` says
how the items of one request are judged, and `Matched` that in a run each
request is the text of the items that its answer judges.

A single worker keeps the order in which items were added. `InLine` is the
invariant of such runs: the items of all requests, those that the worker holds
and those in the queue are, one after the other, the items that were accepted.
-/

namespace SearchStore

namespace Shipment

theorem text_append (as bs : List BulkItem) : text (as ++ bs) = text as ++ text bs := by
  rw [text, List.map_append, String.join_append]
  rfl

/-- The texts of batches, one after the other, are the text of all their items. -/
theorem join_map_text (batches : List (List BulkItem)) :
    String.join (batches.map text) = text batches.flatten := by
  induction batches with
  | nil => rfl
  | cons items rest ih =>
    rw [List.map_cons, String.join_cons, ih, List.flatten_cons, text_append]

/-! ## Items and results -/

/-- Each item of a request is judged by the result at its own place. -/
structure Judged (s : Shipment) : Prop where
  items : s.settled.map Prod.fst = s.items
  own : ∀ entries, Worker.readAnswer s.answer = .ok entries →
    ∀ (k : Nat) item name result, s.items[k]? = some item → entries[k]? = some [(name, result)] →
      s.settled[k]? = some (item, ItemOutcome.ofResult result)
  missing : ∀ entries, Worker.readAnswer s.answer = .ok entries →
    ∀ (k : Nat) item, s.items[k]? = some item → entries.length ≤ k →
      s.settled[k]? = some (item, .failure (.request "bulk response is missing this item"))
  surplus : ∀ entries, Worker.readAnswer s.answer = .ok entries →
    s.settled = Worker.outcomes s.items (entries.take s.items.length)
  failed : ∀ e, Worker.readAnswer s.answer = .error e →
    s.settled = s.items.map fun item => (item, .failure (.request e.message))

theorem settled_of_read {s : Shipment} {entries : List (List (String × ItemResult))}
    (h : Worker.readAnswer s.answer = .ok entries) :
    s.settled = Worker.outcomes s.items entries := by
  rw [settled, h]

theorem judged (s : Shipment) : s.Judged where
  items := s.map_fst_settled
  own := fun entries h k item name result hitem hentry => by
    rw [settled_of_read h, getElem?_outcomes, hitem, hentry]
    rfl
  missing := fun entries h k item hitem hlength => by
    rw [settled_of_read h, getElem?_outcomes, hitem, List.getElem?_eq_none hlength]
    rfl
  surplus := fun entries h => by
    rw [settled_of_read h]
    apply List.ext_getElem?
    intro k
    rw [getElem?_outcomes, getElem?_outcomes]
    -- beyond the last item there is nothing to judge
    by_cases hk : k < s.items.length
    · rw [List.getElem?_take_of_lt hk]
    · rw [List.getElem?_eq_none (Nat.le_of_not_lt hk)]
      rfl
  failed := fun e h => by
    rw [settled, h]

end Shipment

namespace Bulk

variable {c : BulkConfig} {r s : Run}

/-! ## Requests and their items -/

namespace Hand

/-- The request for whose answer a worker waits, written from its items. -/
def awaited (h : Hand) : List Request :=
  match h.doing with
  | .waiting => [Worker.request (Shipment.text h.worker.items.toList)]
  | _ => []

/-- The outcomes that a worker goes through. -/
def pending (h : Hand) : List (BulkItem × ItemOutcome) :=
  match h.doing with
  | .settling rest => rest
  | _ => []

theorem coe_pending (h : Hand) : (h.pending : Multiset (BulkItem × ItemOutcome)) = h.unsettled := by
  rw [pending, unsettled]
  cases h.doing <;> rfl

theorem Written.coe_awaited {h : Hand} (hwritten : h.Written) :
    (h.awaited : Multiset Request) = h.outstanding := by
  rw [awaited, outstanding, ← hwritten]
  cases h.doing <;> rfl

end Hand

theorem coe_flatMap_eq_total {α : Type} {f : Hand → List α} {g : Hand → Multiset α}
    {hands : List Hand} (h : ∀ x ∈ hands, (f x : Multiset α) = g x) :
    (hands.flatMap f : Multiset α) = total g hands := by
  induction hands with
  | nil => rfl
  | cons x rest ih =>
    obtain ⟨hx, hrest⟩ := List.forall_mem_cons.mp h
    rw [List.flatMap_cons, ← Multiset.coe_add, hx, ih hrest]
    rfl

/-- Requests and items belong together: a worker has the text of its items, each
request has the text of the items that its answer judges, and what the answer
says of them is settled. -/
structure Matched (r : Run) : Prop where
  texts : ∀ h ∈ r.hands, h.worker.body = Shipment.text h.worker.items.toList
  sent : r.sent.Perm (r.answered.map Shipment.request ++ r.hands.flatMap Hand.awaited)
  judged : ∀ s ∈ r.answered, s.Judged
  landed : (r.landed ++ r.hands.flatMap Hand.pending).Perm (r.answered.flatMap Shipment.settled)

theorem Ledger.matched (h : Ledger r) : Matched r where
  texts := h.texts
  sent := by
    rw [← Multiset.coe_eq_coe, h.accounts.sent, ← Multiset.coe_add,
      coe_flatMap_eq_total fun x hx => (h.texts x hx).coe_awaited]
  judged := fun s _ => s.judged
  landed := by
    rw [← Multiset.coe_eq_coe, h.accounts.outcomes, ← Multiset.coe_add,
      coe_flatMap_eq_total fun x _ => x.coe_pending]

/-! ## A single worker -/

/-- The items that a worker holds and has not sent. -/
def Hand.unsent (h : Hand) : List BulkItem :=
  match h.doing with
  | .waiting => []
  | _ => h.worker.items.toList

/-- With nothing left to do no worker holds anything. -/
theorem Run.Drained.unsent_eq_nil (h : r.Drained) : r.hands.flatMap Hand.unsent = [] := by
  rw [List.flatMap_eq_nil_iff]
  intro x hx
  obtain ⟨hidle, hitems⟩ := h.hands x hx
  simp [Hand.unsent, hidle, hitems]

/-- There is nobody beside a single worker. -/
theorem nobody_beside {hands before after : List Hand} {x : Hand} (halone : hands.length = 1)
    (hhands : hands = before ++ x :: after) : before = [] ∧ after = [] := by
  rw [hhands, List.length_append, List.length_cons] at halone
  exact ⟨List.length_eq_zero_iff.mp (by omega), List.length_eq_zero_iff.mp (by omega)⟩

/-- A single worker has sent these batches, and what it did not send yet follows
them in the order in which items were accepted. -/
structure InLine (r : Run) (batches : List (List BulkItem)) : Prop where
  alone : r.hands.length = 1
  sent : r.sent = batches.map fun items => Worker.request (Shipment.text items)
  order : r.accepted = batches.flatten ++ r.hands.flatMap Hand.unsent ++ r.queue

namespace InLine

variable {batches : List (List BulkItem)} {before after : List Hand} {w : Worker} {x : Hand}

theorem start (hworkers : c.workers ≤ 1) : InLine (Run.start c) [] where
  alone := by
    simp only [Run.start, Indexer.start, List.length_map, List.length_replicate]
    omega
  sent := rfl
  order := by simp [Run.start, Indexer.start, Hand.unsent]

theorem hands_eq (h : InLine r batches) (hhands : r.hands = before ++ x :: after) :
    before = [] ∧ after = [] := nobody_beside h.alone hhands

/-- The worker takes the next item, which is the first that it does not hold. -/
theorem take (h : InLine r batches) {item : BulkItem} {rest : List BulkItem}
    (hqueue : r.queue = item :: rest) (hhands : r.hands = before ++ ⟨w, .idle⟩ :: after) :
    InLine { r with queue := rest, hands := before ++ ⟨w.push item, .idle⟩ :: after } batches := by
  obtain ⟨rfl, rfl⟩ := h.hands_eq hhands
  refine ⟨rfl, h.sent, ?_⟩
  simp [h.order, hhands, hqueue, Hand.unsent, Worker.push]

/-- What the worker holds is the next batch. -/
theorem send (h : InLine r batches) (hhands : r.hands = before ++ ⟨w, .idle⟩ :: after)
    (hwritten : w.body = Shipment.text w.items.toList) :
    InLine (r.send before w after) (batches ++ [w.items.toList]) := by
  obtain ⟨rfl, rfl⟩ := h.hands_eq hhands
  refine ⟨rfl, ?_, ?_⟩
  · simp [Run.send, h.sent, hwritten]
  · simp [Run.send, h.order, hhands, Hand.unsent]

/-- A worker that neither takes nor sends keeps its place. -/
theorem congr (h : InLine r batches) {y : Hand} (hhands : r.hands = before ++ x :: after)
    (hhands' : s.hands = before ++ y :: after) (hunsent : y.unsent = x.unsent)
    (hsent : s.sent = r.sent) (haccepted : s.accepted = r.accepted) (hqueue : s.queue = r.queue) :
    InLine s batches where
  alone := by simpa [hhands, hhands'] using h.alone
  sent := hsent.trans h.sent
  order := by simpa [hhands, hhands', hunsent, haccepted, hqueue] using h.order

theorem nothing_more (h : InLine s batches) : ∃ more, InLine s (batches ++ more) :=
  ⟨[], (List.append_nil batches).symm ▸ h⟩

/-- Every step keeps the order, and what it sends comes last. -/
theorem step (h : InLine r batches) (hledger : Ledger r) (hstep : Step c r s) :
    ∃ more, InLine s (batches ++ more) := by
  have written {w : Worker} {before after : List Hand}
      (hhands : r.hands = before ++ ⟨w, .idle⟩ :: after) :
      w.body = Shipment.text w.items.toList := hledger.texts ⟨w, .idle⟩ (by simp [hhands])
  cases hstep with
  | call | giveUp | pass | close | closed => exact nothing_more ⟨h.alone, h.sent, h.order⟩
  | accept => exact nothing_more ⟨h.alone, h.sent, by simp [h.order]⟩
  | hold hqueue hhands _ => exact nothing_more (h.take hqueue hhands)
  | fill hqueue hhands _ =>
    refine ⟨_, (h.take hqueue hhands).send rfl ?_⟩
    simp [Worker.push, Shipment.text_append_single, written hhands]
  | flush hhands _ => exact ⟨_, h.send hhands (written hhands)⟩
  | schedule hhands due => exact nothing_more (h.congr hhands rfl rfl rfl rfl rfl)
  | answer hhands answer => exact nothing_more (h.congr hhands rfl rfl rfl rfl rfl)
  | settle hhands => exact nothing_more (h.congr hhands rfl rfl rfl rfl rfl)
  | settled hhands => exact nothing_more (h.congr hhands rfl rfl rfl rfl rfl)

/-- The order is kept in every run with a single worker. -/
theorem of_reachable (hworkers : c.workers ≤ 1) (h : Reachable c r) :
    ∃ batches, InLine r batches := by
  induction h with
  | refl => exact ⟨[], start hworkers⟩
  | step hreachable hstep ih =>
    obtain ⟨batches, hline⟩ := ih
    obtain ⟨more, hline'⟩ := hline.step (.of_reachable hreachable) hstep
    exact ⟨batches ++ more, hline'⟩

/-- With nothing left to do, all that was accepted was sent. -/
theorem flatten_eq (h : InLine r batches) (hdrained : r.Drained) :
    batches.flatten = r.accepted := by
  rw [h.order, hdrained.unsent_eq_nil, hdrained.queue, List.append_nil, List.append_nil]

end InLine

/-- The text of a request, empty if it has no body. -/
def textOf (q : Request) : String := (q.body.map RequestBody.text).getD ""

/-- A single worker sends items in the order in which they were accepted: those
that were sent come before those that it holds, and these before the queue. -/
structure InOrder (r : Run) : Prop where
  batches : ∃ batches : List (List BulkItem),
    r.sent = batches.map (fun items => Worker.request (Shipment.text items)) ∧
    r.accepted = batches.flatten ++ r.hands.flatMap Hand.unsent ++ r.queue
  texts : String.join (r.sent.map textOf) ++
    Shipment.text (r.hands.flatMap Hand.unsent ++ r.queue) = Shipment.text r.accepted
  drained : r.Drained → String.join (r.sent.map textOf) = Shipment.text r.accepted

namespace InLine

variable {batches : List (List BulkItem)}

theorem join_sent (h : InLine r batches) :
    String.join (r.sent.map textOf) = Shipment.text batches.flatten := by
  rw [h.sent, List.map_map, ← Shipment.join_map_text]
  rfl

theorem inOrder (h : InLine r batches) : InOrder r where
  batches := ⟨batches, h.sent, h.order⟩
  texts := by rw [h.join_sent, ← Shipment.text_append, h.order, List.append_assoc]
  drained := fun hdrained => by rw [h.join_sent, h.flatten_eq hdrained]

end InLine

/-- At every moment of a run requests and items belong together as `Matched`
says, and with a single worker, whatever makes it send, also in the order of
`InOrder`; once the indexer is closed nothing is missing from the requests.
Calls on an indexer from one place are such runs, against any server. -/
theorem requests_matched (c : BulkConfig) :
    (∀ r, Reachable c r → Matched r ∧
      (c.workers ≤ 1 → InOrder r ∧ (r.phase = .closed →
        String.join (r.sent.map textOf) = Shipment.text r.accepted))) ∧
    ∀ (σ : Type) (server : Session.Server σ) (calls : List Call) (x : σ),
      let out := Session.run server (perform calls (Indexer.start c)) x
      ∃ r, Reachable c r ∧ r.indexer c = out.1 ∧ r.sent = out.2.1.requests := by
  refine ⟨?_, ?_⟩
  · intro r hreachable
    have hledger := Ledger.of_reachable hreachable
    refine ⟨hledger.matched, fun hworkers => ?_⟩
    obtain ⟨batches, hline⟩ := InLine.of_reachable hworkers hreachable
    exact ⟨hline.inOrder, fun hclosed => hline.inOrder.drained (hledger.closed hclosed)⟩
  · intro σ server calls x out
    obtain ⟨r, hfollows, hrests⟩ : ∃ r, Follows c (Run.start c) out.2.1 r ∧ Rests c out.1 r :=
      (Rests.start c).perform calls x
    exact ⟨r, hfollows.steps, hrests.indexer_eq, by simpa [Run.start] using hfollows.sent⟩

/-- Three items that one worker sends in two requests, the second because the
indexer is closed. -/
theorem requests_matched_two :
    let c : BulkConfig := { flushItems := 2 }
    let a : BulkItem := .delete "hero" "1"
    let b : BulkItem := .delete "hero" "2"
    let d : BulkItem := .delete "hero" "3"
    ∃ r, Reachable c r ∧ Matched r ∧
      r.sent.map textOf = [Shipment.text [a, b], Shipment.text [d]] ∧
      Shipment.text r.accepted = Shipment.text [a, b, d] := by
  intro c a b d
  obtain ⟨hruns, hcalls⟩ := requests_matched c
  obtain ⟨r, hreachable, hindexer, hsent⟩ := hcalls Unit
    (fun _ (x : Unit) => (.error (.transport "refused"), x))
    [.add a, .add b, .receive 0, .receive 0, .add d, .close] ()
  obtain ⟨hmatched, horder⟩ := hruns r hreachable
  have hphase : r.phase = .closed := (congrArg Indexer.phase hindexer).trans (by decide +kernel)
  have htexts : r.sent.map textOf = [Shipment.text [a, b], Shipment.text [d]] :=
    (congrArg (List.map textOf) hsent).trans (by decide +kernel)
  refine ⟨r, hreachable, hmatched, htexts, ?_⟩
  rw [← (horder (by decide)).2 hphase, htexts]
  simp [Shipment.text, String.append_assoc]

end Bulk

end SearchStore
