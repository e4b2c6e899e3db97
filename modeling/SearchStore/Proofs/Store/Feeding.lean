import SearchStore.Proofs.Bulk.Report
import SearchStore.Proofs.Engine.Sending
import SearchStore.Store.Bulk

/-! # Feeding an indexer

A bulk write hands its items to an indexer of its own, one by one, and closes
it. Only the first worker gets items then, and it sends them in shipments, in
order. `Fed` says so of the indexer after every item, and `exists_shipments` of
the whole: the shipments carry exactly the items, and the result is what the
tally of the shipments reports.
-/

namespace SearchStore

variable {σ : Type} (server : Session.Server σ)

/-! ## One worker after another -/

/-- One worker sends shipments on from some others. Together with what it still holds they are
some items, in order. -/
structure Ships (server : Session.Server σ) (p : Session (Worker × Tally)) (x : σ)
    (shipments : List Shipment) (items : List BulkItem) (more : List Shipment) : Prop where
  exchanges : Session.exchanges server p x = more.map Shipment.exchange
  tally : (Session.run server p x).1.2.Of (shipments ++ more)
  items : more.flatMap Shipment.items ++ (Session.run server p x).1.1.items.toList = items
  nonempty : ∀ s ∈ more, s.items ≠ []
  body : (Session.run server p x).1.1.body =
    Shipment.text (Session.run server p x).1.1.items.toList

namespace Worker

variable {w : Worker} {t : Tally} {shipments : List Shipment}

/-- Sending is one exchange. -/
theorem exchanges_flush (t : Tally) (x : σ) (h : w.items ≠ #[]) :
    Session.exchanges server (w.flush t) x = [(request w.body, (server (request w.body) x).1)] := by
  have hne : w.items.isEmpty = false := by simpa using h
  have hrequests := (run_flush server w t x h).2.1
  rw [← Session.map_fst_exchanges] at hrequests
  rw [flush, hne, if_neg Bool.false_ne_true, Session.exchanges_bind] at hrequests ⊢
  simp only [Session.request, Session.exchanges, Session.run, List.singleton_append,
    List.map_cons, List.cons.injEq, true_and, List.map_eq_nil_iff] at hrequests ⊢
  exact hrequests

/-- Sending ships all that a worker holds. -/
theorem exists_ships_flush (hbody : w.body = Shipment.text w.items.toList) (ht : t.Of shipments)
    (x : σ) : ∃ more, Ships server (w.flush t) x shipments w.items.toList more ∧
      (Session.run server (w.flush t) x).1.1.items = #[] := by
  by_cases hitems : w.items = #[]
  · refine ⟨[], ?_, Bulk.run_flush_items server w t x⟩
    have hrun := run_flush_nil server w t x hitems
    exact {
      exchanges := Session.exchanges_eq_nil (by rw [hrun])
      tally := by rw [hrun]; simpa using ht
      items := by rw [hrun]; rfl
      nonempty := List.forall_mem_nil _
      body := by rw [hrun]; exact hbody }
  · let shipment : Shipment := ⟨w.items.toList, (server (request w.body) x).1⟩
    have hrun := (run_flush server w t x hitems).1
    have hsent : ({ t with stats.requests := t.stats.requests + 1 } : Tally).Of shipments :=
      ⟨ht.counts.congr rfl rfl rfl rfl rfl rfl, ht.firstError⟩
    refine ⟨[shipment], ?_, Bulk.run_flush_items server w t x⟩
    exact {
      exchanges := by
        rw [exchanges_flush server t x hitems, List.map_singleton, Shipment.exchange,
          Shipment.request, ← hbody]
      tally := by
        rw [hrun]
        exact hsent.hear shipment w.body.utf8ByteSize
      items := by
        rw [hrun]
        simp [shipment]
      nonempty := List.forall_mem_singleton.mpr (by simpa [shipment] using hitems)
      body := by
        rw [hrun]
        rfl }

/-- One more item is shipped or held. -/
theorem exists_ships_receive (c : BulkConfig) (item : BulkItem)
    (hbody : w.body = Shipment.text w.items.toList) (ht : t.Of shipments) (x : σ) :
    ∃ more, Ships server (w.receive c item t) x shipments (w.items.toList ++ [item]) more := by
  have hpush : (w.push item).items.toList = w.items.toList ++ [item] := by simp [push]
  have hbody' : (w.push item).body = Shipment.text (w.push item).items.toList := by
    rw [hpush, Shipment.text_append_single, ← hbody]
    rfl
  rw [receive]
  split
  · rw [← hpush]
    obtain ⟨more, hships, -⟩ := exists_ships_flush server hbody' ht x
    exact ⟨more, hships⟩
  · exact ⟨[], rfl, by simpa [Session.run] using ht, by simpa [Session.run] using hpush,
      List.forall_mem_nil _, hbody'⟩

end Worker

/-- Workers that hold nothing send nothing. -/
theorem eachWorker_flush_idle {ws : List Worker} (h : ∀ w ∈ ws, w.items = #[]) (t : Tally) (x : σ) :
    Session.run server (Indexer.eachWorker Worker.flush ws t) x = ((ws, t), {}, x) := by
  induction ws with
  | nil => rfl
  | cons w rest ih =>
    obtain ⟨hw, hrest⟩ := List.forall_mem_cons.mp h
    simp only [Indexer.eachWorker, Session.run_bind, Session.run_pure,
      Worker.run_flush_nil server w t x hw, ih hrest]
    rfl

/-- If only the first worker holds items, it is the only one that sends. -/
theorem eachWorker_flush_first (w : Worker) {rest : List Worker} (h : ∀ v ∈ rest, v.items = #[])
    (t : Tally) (x : σ) :
    (Session.run server (Indexer.eachWorker Worker.flush (w :: rest) t) x).1.2 =
        (Session.run server (w.flush t) x).1.2 ∧
      Session.exchanges server (Indexer.eachWorker Worker.flush (w :: rest) t) x =
        Session.exchanges server (w.flush t) x := by
  have hidle := fun t x => eachWorker_flush_idle server h t x
  constructor
  · simp only [Indexer.eachWorker, Session.run_bind, Session.run_pure, hidle]
  · simp only [Indexer.eachWorker, Session.exchanges_bind]
    have hrest (t : Tally) (x : σ) :
        Session.exchanges server (Indexer.eachWorker Worker.flush rest t) x = [] :=
      Session.exchanges_eq_nil (by rw [hidle])
    rw [hrest]
    exact List.append_nil _

/-! ## Feeding an indexer -/

/-- An indexer whose first worker has got all items: it has sent them in shipments, up to those that
it holds. -/
structure Fed (ix : Indexer) (items : List BulkItem) (shipments : List Shipment) : Prop where
  phase : ix.phase = .accepting
  queue : ix.queue = []
  tally : ix.tally.Of shipments
  nonempty : ∀ s ∈ shipments, s.items ≠ []
  workers : ∃ w rest, ix.workers = w :: rest ∧ (∀ v ∈ rest, v.items = #[]) ∧
    w.body = Shipment.text w.items.toList ∧
    items = shipments.flatMap Shipment.items ++ w.items.toList

namespace Fed

variable {ix : Indexer} {items : List BulkItem} {shipments : List Shipment}

theorem start (c : BulkConfig) : Fed (.start c) [] [] where
  phase := rfl
  queue := rfl
  tally := .nil
  nonempty := List.forall_mem_nil _
  workers := by
    obtain ⟨n, hn⟩ : ∃ n, max c.workers 1 = n + 1 := ⟨max c.workers 1 - 1, by omega⟩
    refine ⟨{ nextTick := Worker.interval c }, List.replicate n { nextTick := Worker.interval c },
      ?_, ?_, rfl, rfl⟩
    · rw [Indexer.start, hn, List.replicate_succ]
    · intro v hv
      rw [(List.mem_replicate.mp hv).2]

/-- One more item is taken by the first worker at once. -/
theorem add (h : Fed ix items shipments) (item : BulkItem) :
    ∃ ix', ix.add item = .ok ix' ∧ ∀ x : σ, ∃ more,
      Session.exchanges server ix'.drain x = more.map Shipment.exchange ∧
      Fed (Session.run server ix'.drain x).1 (items ++ [item]) (shipments ++ more) := by
  obtain ⟨w, rest, hworkers, hrest, hbody, hitems⟩ := h.workers
  refine ⟨_, by rw [Indexer.add, h.phase], fun x => ?_⟩
  have hadded : ({ ix.tally with stats.added := ix.tally.stats.added + 1 } : Tally).Of shipments :=
    ⟨h.tally.counts.congr rfl rfl rfl rfl rfl rfl, h.tally.firstError⟩
  obtain ⟨more, hexchanges, htally, hmore, hnonempty, hbody'⟩ :=
    Worker.exists_ships_receive server ix.config item hbody hadded x
  refine ⟨more, ?_, ?_⟩
  · simp only [Indexer.drain, h.queue, List.nil_append, List.length_singleton, Indexer.drainSome,
      Indexer.receive, hworkers, Indexer.atWorker]
    simp only [Session.exchanges_bind, bind_assoc, pure_bind]
    rw [hexchanges]
    simp [Session.exchanges]
  · simp only [Indexer.drain, h.queue, List.nil_append, List.length_singleton, Indexer.drainSome,
      Indexer.receive, hworkers, Indexer.atWorker, bind_assoc, pure_bind, Session.run_bind,
      Session.run]
    refine ⟨rfl, rfl, htally, List.forall_mem_append.mpr ⟨h.nonempty, hnonempty⟩, _, rest, rfl,
      hrest, hbody', ?_⟩
    rw [hitems, List.flatMap_append, List.append_assoc, List.append_assoc, hmore]

/-- Feeding sends items in shipments and loses none. -/
theorem feed (h : Fed ix items shipments) (rest : List BulkItem) (x : σ) :
    ∃ more, Session.exchanges server (Store.feed rest ix) x = more.map Shipment.exchange ∧
      Fed (Session.run server (Store.feed rest ix) x).1 (items ++ rest) (shipments ++ more) := by
  induction rest generalizing ix items shipments x with
  | nil => exact ⟨[], rfl, by simpa [Store.feed, Session.run] using h⟩
  | cons item rest ih =>
    obtain ⟨ix', hadd, hdrain⟩ := h.add server item
    obtain ⟨more, hexchanges, hfed⟩ := hdrain x
    obtain ⟨later, hexchanges', hfed'⟩ := ih hfed (Session.run server ix'.drain x).2.2
    refine ⟨more ++ later, ?_, ?_⟩
    · simp only [Store.feed, hadd, Session.exchanges_bind, hexchanges, hexchanges', List.map_append]
    · simpa only [Store.feed, hadd, Session.run_bind, List.append_assoc, List.singleton_append]
        using hfed'

/-- Closing sends what is left, and ends with what the tally says then. -/
theorem close (h : Fed ix items shipments) (x : σ) :
    ∃ (more : List Shipment) (t : Tally),
      Session.exchanges server ix.close x = more.map Shipment.exchange ∧
      t.Of (shipments ++ more) ∧ (shipments ++ more).flatMap Shipment.items = items ∧
      (∀ s ∈ shipments ++ more, s.items ≠ []) ∧
      (Session.run server ix.close x).1.1 =
        (match t.firstError with | some e => .error e | none => .ok t.stats) ∧
      (Session.run server ix.close x).1.2.stats = t.stats := by
  obtain ⟨w, rest, hworkers, hrest, hbody, hitems⟩ := h.workers
  obtain ⟨more, ⟨hexchanges, htally, hmore, hnonempty, -⟩, hempty⟩ :=
    Worker.exists_ships_flush server hbody h.tally x
  obtain ⟨hfirst, hfirst'⟩ := eachWorker_flush_first server w hrest ix.tally x
  rw [hempty, List.append_nil] at hmore
  refine ⟨more, _, ?_, htally, ?_, List.forall_mem_append.mpr ⟨h.nonempty, hnonempty⟩, ?_, ?_⟩
  · simp only [Indexer.close, h.phase, h.queue, Indexer.drain, List.length_nil, Indexer.drainSome,
      hworkers, Session.exchanges_bind]
    simp only [Session.run, hfirst', Session.exchanges_pure, hexchanges]
    simp [Session.exchanges]
  · rw [hitems, List.flatMap_append, hmore]
  · cases herror : (Session.run server (w.flush ix.tally) x).1.2.firstError <;>
      simp only [Indexer.close, h.phase, h.queue, Indexer.drain, List.length_nil,
        Indexer.drainSome, hworkers, Session.run_bind, Session.run_pure, Session.run, hfirst,
        herror]
  · rw [← hfirst]
    simp only [Indexer.close, h.phase, h.queue, Indexer.drain, List.length_nil, Indexer.drainSome,
      hworkers, Session.run_bind, Session.run_pure, Session.run, Indexer.stats]

end Fed

namespace Store

/-- What a bulk write ends with, given the indexer that was closed. -/
def ended (out : Except Error BulkStats × Indexer) : Except Error BulkReport :=
  match out.1 with
  | .ok stats => .ok (.ofStats stats)
  | .error e => .error (.bulkFlush out.2.stats.flushed out.2.stats.failed e.message)

theorem runBulk_eq (s : Store) (items : List BulkItem) :
    (s.runBulk items).run =
      (do return ended (← (← feed items (.start s.config.bulk)).close) : Session _) := by
  rw [runBulk, ExceptT.run_bind_lift]
  refine bind_congr fun ix => ?_
  rw [ExceptT.run_bind_lift]
  refine bind_congr fun (result, ix) => ?_
  cases result <;> rfl

/-- Items that are sent with an indexer of their own are sent in shipments, in order and none of
them empty, and the result is what the tally of the shipments reports. -/
theorem exists_shipments (s : Store) (items : List BulkItem) (x : σ) :
    ∃ (shipments : List Shipment) (t : Tally),
      Session.exchanges server (s.runBulk items) x = shipments.map Shipment.exchange ∧
      shipments.flatMap Shipment.items = items ∧ (∀ shipment ∈ shipments, shipment.items ≠ []) ∧
      t.Of shipments ∧ (Session.run server (s.runBulk items) x).1 = t.report := by
  obtain ⟨sent, hsent, hfed⟩ := (Fed.start s.config.bulk).feed server items x
  obtain ⟨more, t, hmore, ht, hitems, hnonempty, hresult, hstats⟩ := hfed.close server
    (Session.run server (feed items (.start s.config.bulk)) x).2.2
  refine ⟨sent ++ more, t, ?_, hitems, hnonempty, ht, ?_⟩
  · change Session.exchanges server (s.runBulk items).run x = _
    rw [runBulk_eq, Session.exchanges_bind, Session.exchanges_bind, hsent, hmore,
      Session.exchanges_pure, List.append_nil, List.map_append]
  · change (Session.run server (s.runBulk items).run x).1 = _
    simp only [runBulk_eq, Session.run_bind, Session.run_pure, ended, hresult, hstats,
      Tally.report]
    cases t.firstError <;> rfl

theorem exists_runBulk (s : Store) (items : List BulkItem) (x : σ) :
    ∃ (shipments : List Shipment) (t : Tally),
      Session.exchanges server (s.runBulk items) x = shipments.map Shipment.exchange ∧
      shipments.flatMap Shipment.items = items ∧ t.Of shipments ∧
      (Session.run server (s.runBulk items) x).1 = t.report := by
  obtain ⟨shipments, t, hexchanges, hitems, -, ht, hresult⟩ := s.exists_shipments server items x
  exact ⟨shipments, t, hexchanges, hitems, ht, hresult⟩

end Store

end SearchStore
