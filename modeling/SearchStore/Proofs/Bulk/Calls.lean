import SearchStore.Proofs.Bulk.Ledger

/-! # Calls on an indexer

An indexer that is called from one place only, against any server, goes through
a run: each request is answered before anything else happens. `Rests` ties an
indexer to a run between two calls, and `Rests.perform` shows that a call takes
the steps that lead to the next.
-/

namespace SearchStore

/-- Whether a hook hears a report. -/
def Report.isOutcome : Report → Bool
  | .outcome _ _ => true
  | .metric _ => false

namespace Session

variable {α β σ : Type} {server : Server σ}

theorem run_bind (s : Session α) (f : α → Session β) (x : σ) :
    run server (s >>= f) x =
      ((run server (f (run server s x).1) (run server s x).2.2).1,
        (run server s x).2.1 ++ (run server (f (run server s x).1) (run server s x).2.2).2.1,
        (run server (f (run server s x).1) (run server s x).2.2).2.2) :=
  run_andThen server s f x

theorem run_pure (a : α) (x : σ) : run server (pure a) x = (a, {}, x) := rfl

/-- What hooks heard of a session. -/
def Trace.heard (t : Trace) : List Report := t.reports.filter Report.isOutcome

theorem Trace.heard_append (t u : Trace) : (t ++ u).heard = t.heard ++ u.heard := by
  simp [heard, Trace.append_def]

theorem Trace.requests_append (t u : Trace) : (t ++ u).requests = t.requests ++ u.requests := rfl

end Session

namespace Worker

variable {σ : Type} (server : Session.Server σ)

/-- What is reported of an outcome. -/
def reports (settled : BulkItem × ItemOutcome) : List Report :=
  .metric (.bulkItem settled.1.action.name (if settled.2.isSuccess then "success" else "failure"))
    :: (settled.1.heard settled.2).toList

theorem run_reportOutcome (item : BulkItem) (o : ItemOutcome) (x : σ) :
    Session.run server (reportOutcome item o) x = ((), { reports := reports (item, o) }, x) := by
  cases o with
  | success r =>
    cases hhook : item.hooks.onSuccess <;>
      simp [reportOutcome, hhook, Session.run_bind, Session.tell, Session.run,
        Session.Trace.append_def, reports, BulkItem.heard, Hooks.want,
        ItemOutcome.isSuccess]
  | failure reason =>
    cases hhook : item.hooks.onFailure <;>
      simp [reportOutcome, hhook, Session.run_bind, Session.tell, Session.run,
        Session.Trace.append_def, reports, BulkItem.heard, Hooks.want,
        ItemOutcome.isSuccess]

/-- Outcomes are reported without any request. -/
theorem run_reportAll (settled : List (BulkItem × ItemOutcome)) (x : σ) :
    Session.run server (reportAll settled) x = ((), { reports := settled.flatMap reports }, x) := by
  induction settled with
  | nil => rfl
  | cons s rest ih =>
    obtain ⟨item, o⟩ := s
    simp [reportAll, Session.run_bind, run_reportOutcome, ih, Session.Trace.append_def]

theorem filter_reports (s : BulkItem × ItemOutcome) :
    (reports s).filter Report.isOutcome = (s.1.heard s.2).toList := by
  rw [reports, List.filter_cons_of_neg (by simp [Report.isOutcome]), BulkItem.heard]
  split
  · rfl
  · rfl

/-- Hooks hear the outcomes that they are set for. -/
theorem filter_flatMap_reports (settled : List (BulkItem × ItemOutcome)) :
    (settled.flatMap reports).filter Report.isOutcome =
      settled.filterMap fun s => s.1.heard s.2 := by
  rw [List.filterMap_eq_flatMap_toList, List.filter_flatMap]
  simp only [filter_reports]

/-- A worker that sends reads the answer, and then settles all outcomes. -/
theorem run_flush (w : Worker) (t : Tally) (x : σ) (h : w.items ≠ #[]) :
    let sent := server (request w.body) x
    let shipment : Shipment := ⟨w.items.toList, sent.1⟩
    let out := Session.run server (w.flush t) x
    out.1 = ({ w with items := #[], body := "" },
        settle ({ t with stats.requests := t.stats.requests + 1 }.hear w.body.utf8ByteSize sent.1)
          shipment.settled) ∧
      out.2.1.requests = [request w.body] ∧
      out.2.1.heard = (shipment.settled.filterMap fun s => s.1.heard s.2) ∧
      out.2.2 = sent.2 := by
  have hne : w.items.isEmpty = false := by simpa using h
  simp only [flush, hne, Session.run_bind, Session.request, Session.run, Bool.false_eq_true,
    if_false]
  generalize server (request w.body) x = sent
  obtain ⟨answer, y⟩ := sent
  dsimp only
  -- an answer that cannot be read fails all items, and is reported in another way
  rcases hanswer : readAnswer answer with e | entries
  · simp only [Session.run_bind, Session.tell, Session.run, Session.run_pure, run_reportAll,
      Tally.hear, Shipment.settled, hanswer, true_and]
    simp [Session.Trace.append_def, Session.Trace.heard, filter_flatMap_reports, Report.isOutcome]
  · simp only [Session.run_bind, Session.tell, Session.run, Session.run_pure, run_reportAll,
      Tally.hear, Shipment.settled, hanswer, true_and]
    simp [Session.Trace.append_def, Session.Trace.heard, filter_flatMap_reports, Report.isOutcome]

theorem run_flush_nil (w : Worker) (t : Tally) (x : σ) (h : w.items = #[]) :
    Session.run server (w.flush t) x = ((w, t), {}, x) := by
  simp [flush, h, Session.run_pure]

end Worker

namespace Bulk

variable {c : BulkConfig} {σ : Type} {server : Session.Server σ}

/-- A run goes on as a session does. -/
structure Follows (c : BulkConfig) (r : Run) (t : Session.Trace) (s : Run) : Prop where
  steps : Steps c r s
  sent : s.sent = r.sent ++ t.requests
  heard : s.heard = r.heard ++ t.heard

namespace Follows

theorem refl (r : Run) : Follows c r {} r := ⟨.refl, by simp, by simp [Session.Trace.heard]⟩

theorem trans {r s u : Run} {t t' : Session.Trace} (h : Follows c r t s) (h' : Follows c s t' u) :
    Follows c r (t ++ t') u where
  steps := h.steps.trans h'.steps
  sent := by rw [h'.sent, h.sent, Session.Trace.requests_append, List.append_assoc]
  heard := by rw [h'.heard, h.heard, Session.Trace.heard_append, List.append_assoc]

end Follows

/-! ## One worker -/

variable {r : Run} {before after : List Hand} {w : Worker}

/-- A worker settles the outcomes that it has, one after the other. -/
theorem steps_settle {l : List (BulkItem × ItemOutcome)}
    (hhands : r.hands = before ++ ⟨w, .settling l⟩ :: after) :
    Steps c r { r with
      hands := before ++ ⟨w, .idle⟩ :: after
      tally := Worker.settle r.tally l
      landed := r.landed ++ l
      heard := r.heard ++ l.filterMap fun s => s.1.heard s.2 } := by
  induction l generalizing r with
  | nil => simpa [Worker.settle] using Steps.refl.step (.settled hhands)
  | cons s rest ih =>
    obtain ⟨item, o⟩ := s
    have hfirst : Steps c r (r.settle before w item o rest after) := .step .refl (.settle hhands)
    have hrest := hfirst.trans (ih rfl)
    -- the hook of the item may hear the outcome or not
    cases hheard : item.heard o <;> simpa [Run.settle, Worker.settle, hheard] using hrest

/-- The answer comes, and the worker settles all outcomes. -/
theorem steps_answer (hhands : r.hands = before ++ ⟨w, .waiting⟩ :: after)
    (answer : Except Error Response) :
    let shipment : Shipment := ⟨w.items.toList, answer⟩
    Steps c r { r with
      hands := before ++ ⟨{ w with items := #[], body := "" }, .idle⟩ :: after
      tally := Worker.settle (r.tally.hear w.body.utf8ByteSize answer) shipment.settled
      answered := r.answered ++ [shipment]
      landed := r.landed ++ shipment.settled
      heard := r.heard ++ shipment.settled.filterMap fun s => s.1.heard s.2 } := by
  intro shipment
  have hfirst : Steps c r (r.hear before w answer after) := .step .refl (.answer hhands answer)
  exact hfirst.trans (steps_settle rfl)

/-- A run goes on as one worker between others does. The queue is what the
worker leaves of it, and nothing else changes. -/
structure Moved (c : BulkConfig) (r : Run) (queue : List BulkItem) (before after : List Hand)
    (out : (Worker × Tally) × Session.Trace × σ) (s : Run) : Prop where
  follows : Follows c r out.2.1 s
  hands : s.hands = before ++ ⟨out.1.1, .idle⟩ :: after
  tally : s.tally = out.1.2
  phase : s.phase = r.phase
  clock : s.clock = r.clock
  callers : s.callers = r.callers
  queue : s.queue = queue

/-- A worker that has sent goes on to the end of `Worker.flush`. -/
theorem exists_moved_of_send {queue : List BulkItem}
    (hstep : Step c r ({ r with queue := queue }.send before w after)) (hitems : w.items ≠ #[])
    (x : σ) :
    ∃ s, Moved c r queue before after (Session.run server (w.flush r.tally) x) s := by
  obtain ⟨hout, hrequests, hheard, -⟩ := Worker.run_flush server w r.tally x hitems
  have hsteps := (Steps.refl.step hstep).trans
    (steps_answer rfl (server (Worker.request w.body) x).1)
  refine ⟨_, ⟨hsteps, ?_, ?_⟩, ?_, ?_, rfl, rfl, rfl, rfl⟩
  · rw [hrequests]
    rfl
  · rw [hheard]
    rfl
  · rw [hout]
  · rw [hout]
    rfl

theorem exists_moved_flush (hhands : r.hands = before ++ ⟨w, .idle⟩ :: after) (x : σ) :
    ∃ s, Moved c r r.queue before after (Session.run server (w.flush r.tally) x) s := by
  by_cases hitems : w.items = #[]
  · rw [Worker.run_flush_nil server w r.tally x hitems]
    exact ⟨r, .refl r, hhands, rfl, rfl, rfl, rfl, rfl⟩
  · exact exists_moved_of_send (.flush hhands hitems) hitems x

theorem exists_moved_receive {item : BulkItem} {rest : List BulkItem}
    (hqueue : r.queue = item :: rest) (hhands : r.hands = before ++ ⟨w, .idle⟩ :: after) (x : σ) :
    ∃ s, Moved c r rest before after (Session.run server (w.receive c item r.tally) x) s := by
  rw [Worker.receive]
  by_cases hfull : (w.push item).isFull c
  · rw [if_pos hfull]
    exact exists_moved_of_send (.fill hqueue hhands hfull) (by simp [Worker.push]) x
  · rw [if_neg hfull]
    have hstep : Step c r _ := .hold hqueue hhands (by simpa using hfull)
    refine ⟨_, ⟨Steps.refl.step hstep, ?_, ?_⟩, rfl, rfl, rfl, rfl, rfl, rfl⟩
    · simp [Session.run]
    · simp [Session.run, Session.Trace.heard]

/-- The time when a worker looks again has no part in what it sends. -/
theorem exists_moved_schedule (hhands : r.hands = before ++ ⟨w, .idle⟩ :: after) (due : Nat)
    (x : σ) :
    ∃ s, Moved c r r.queue before after
      (Session.run server (Worker.flush { w with nextTick := due } r.tally) x) s := by
  have hstep : Step c r _ := .schedule hhands due
  obtain ⟨s, hmoved⟩ := exists_moved_flush (c := c) (w := { w with nextTick := due })
    (r := { r with hands := before ++ ⟨{ w with nextTick := due }, .idle⟩ :: after }) rfl x
  obtain ⟨⟨hsteps, hsent, hheard⟩, hhands', htally, hphase, hclock, hcallers, hqueue⟩ := hmoved
  exact ⟨s, ⟨(Steps.refl.step hstep).trans hsteps, hsent, hheard⟩, hhands', htally, hphase, hclock,
    hcallers, hqueue⟩

theorem exists_moved_tick (now : Nat) (hhands : r.hands = before ++ ⟨w, .idle⟩ :: after) (x : σ) :
    ∃ s, Moved c r r.queue before after (Session.run server (w.tick c now r.tally) x) s := by
  rw [Worker.tick]
  by_cases hdue : w.nextTick ≤ now
  · rw [if_pos hdue]
    exact exists_moved_schedule hhands _ x
  · rw [if_neg hdue]
    exact ⟨r, .refl r, hhands, rfl, rfl, rfl, rfl, rfl⟩

/-! ## All workers -/

/-- A worker between two calls. -/
def resting (w : Worker) : Hand := ⟨w, .idle⟩

/-- A run goes on as all workers do, one after the other. -/
structure MovedAll (c : BulkConfig) (r : Run) (before : List Hand)
    (out : (List Worker × Tally) × Session.Trace × σ) (s : Run) : Prop where
  follows : Follows c r out.2.1 s
  hands : s.hands = before ++ out.1.1.map resting
  tally : s.tally = out.1.2
  phase : s.phase = r.phase
  clock : s.clock = r.clock
  callers : s.callers = r.callers
  queue : s.queue = r.queue

theorem exists_movedAll {f : Worker → Tally → Session (Worker × Tally)}
    (hf : ∀ {r : Run} {before after : List Hand} {w : Worker},
      r.hands = before ++ ⟨w, .idle⟩ :: after → ∀ x : σ,
      ∃ s, Moved c r r.queue before after (Session.run server (f w r.tally) x) s)
    (ws : List Worker) (hhands : r.hands = before ++ ws.map resting) (x : σ) :
    ∃ s, MovedAll c r before (Session.run server (Indexer.eachWorker f ws r.tally) x) s := by
  induction ws generalizing r before x with
  | nil => exact ⟨r, .refl r, hhands, rfl, rfl, rfl, rfl, rfl⟩
  | cons w rest ih =>
    obtain ⟨s, hmoved⟩ := hf hhands x
    -- the first worker is one of those before, when the others take their turn
    have hnext : s.hands = (before ++ [resting (Session.run server (f w r.tally) x).1.1]) ++
        rest.map resting := by
      rw [hmoved.hands, List.append_assoc]
      rfl
    obtain ⟨u, hall⟩ := ih hnext (Session.run server (f w r.tally) x).2.2
    refine ⟨u, ?_⟩
    rw [hmoved.tally] at hall
    simp only [Indexer.eachWorker, Session.run_bind, Session.run_pure]
    exact {
      follows := hmoved.follows.trans (by simpa [Session.Trace.append_def] using hall.follows)
      hands := by simpa [resting] using hall.hands
      tally := hall.tally
      phase := hall.phase.trans hmoved.phase
      clock := hall.clock.trans hmoved.clock
      callers := hall.callers.trans hmoved.callers
      queue := hall.queue.trans hmoved.queue }

/-- What holds of a worker after its step holds of all workers after theirs. -/
theorem forall_eachWorker {P : Worker → Prop} {f : Worker → Tally → Session (Worker × Tally)}
    (hf : ∀ w t (x : σ), P (Session.run server (f w t) x).1.1) (ws : List Worker) (t : Tally)
    (x : σ) :
    ∀ w ∈ (Session.run server (Indexer.eachWorker f ws t) x).1.1, P w := by
  induction ws generalizing t x with
  | nil => exact fun w hw => absurd hw List.not_mem_nil
  | cons w rest ih =>
    simp only [Indexer.eachWorker, Session.run_bind, Session.run_pure, List.forall_mem_cons]
    exact ⟨hf w t x, ih _ _⟩

theorem length_eachWorker (server : Session.Server σ)
    (f : Worker → Tally → Session (Worker × Tally)) (ws : List Worker) (t : Tally) (x : σ) :
    (Session.run server (Indexer.eachWorker f ws t) x).1.1.length = ws.length := by
  induction ws generalizing t x with
  | nil => rfl
  | cons w rest ih =>
    simp only [Indexer.eachWorker, Session.run_bind, Session.run_pure, List.length_cons, ih]

/-- The worker at a place is one between others. -/
theorem atWorker_append (f : Worker → Tally → Session (Worker × Tally)) (as bs : List Worker)
    (w : Worker) (t : Tally) :
    Indexer.atWorker f as.length (as ++ w :: bs) t =
      (do let (w, t) ← f w t; return (as ++ w :: bs, t)) := by
  induction as with
  | nil => rfl
  | cons a as ih =>
    simp only [List.length_cons, List.cons_append, Indexer.atWorker, ih]
    simp only [bind_assoc, pure_bind]

/-! ## Indexers -/

/-- An indexer between two calls, and a run that got there. -/
structure Rests (c : BulkConfig) (ix : Indexer) (r : Run) : Prop where
  config : ix.config = c
  phase : r.phase = ix.phase
  clock : r.clock = ix.clock
  queue : r.queue = ix.queue
  hands : r.hands = ix.workers.map resting
  tally : r.tally = ix.tally
  callers : r.callers = []
  workers : ix.workers ≠ []

/-- A run can go on as a session of an indexer does. -/
def Carries (c : BulkConfig) (server : Session.Server σ) (r : Run) (p : Session Indexer) : Prop :=
  ∀ x, ∃ s, Follows c r (Session.run server p x).2.1 s ∧ Rests c (Session.run server p x).1 s

namespace Carries

theorem pure {ix : Indexer} (h : Rests c ix r) : Carries c server r (pure ix) :=
  fun _ => ⟨r, .refl r, h⟩

theorem bind {p : Session Indexer} {f : Indexer → Session Indexer} (h : Carries c server r p)
    (hf : ∀ x s, Rests c (Session.run server p x).1 s →
      Carries c server s (f (Session.run server p x).1)) : Carries c server r (p >>= f) := by
  intro x
  obtain ⟨s, hfollows, hrests⟩ := h x
  obtain ⟨u, hfollows', hrests'⟩ := hf x s hrests (Session.run server p x).2.2
  rw [Session.run_bind]
  exact ⟨u, hfollows.trans hfollows', hrests'⟩

end Carries

namespace Rests

variable {ix : Indexer}

theorem start (c : BulkConfig) : Rests c (Indexer.start c) (Run.start c) where
  config := rfl
  phase := rfl
  clock := rfl
  queue := rfl
  hands := rfl
  tally := rfl
  callers := rfl
  workers := by simp [Indexer.start]

/-- The worker at a place is one between others, as in a run. -/
theorem exists_split (h : Rests c ix r) {n : Nat} (hn : n < ix.workers.length) :
    ∃ before w after, ix.workers = before ++ w :: after ∧ before.length = n ∧
      r.hands = before.map resting ++ ⟨w, .idle⟩ :: after.map resting := by
  have hworkers : ix.workers = ix.workers.take n ++ ix.workers[n] :: ix.workers.drop (n + 1) := by
    rw [← List.drop_eq_getElem_cons hn, List.take_append_drop]
  refine ⟨_, _, _, hworkers, List.length_take_of_le hn.le, ?_⟩
  rw [h.hands]
  exact (congrArg (List.map resting) hworkers).trans List.map_append

theorem receive (h : Rests c ix r) {n : Nat} (hn : n < ix.workers.length) :
    Carries c server r (ix.receive n) := by
  intro x
  rw [Indexer.receive]
  split
  · exact ⟨r, .refl r, h⟩
  · rename_i item rest hqueue
    obtain ⟨before, w, after, hworkers, hlength, hhands⟩ := h.exists_split hn
    obtain ⟨s, hmoved⟩ : ∃ s, Moved c r rest (before.map resting) (after.map resting)
        (Session.run server (w.receive c item r.tally) x) s :=
      exists_moved_receive (h.queue.trans hqueue) hhands x
    rw [h.tally] at hmoved
    refine ⟨s, ?_⟩
    rw [hworkers, ← hlength, atWorker_append, h.config]
    simp only [bind_assoc, pure_bind, Session.run_bind, Session.run_pure]
    refine ⟨?_, ?_⟩
    · simpa [Session.Trace.append_def] using hmoved.follows
    · exact {
        config := rfl
        phase := hmoved.phase.trans h.phase
        clock := hmoved.clock.trans h.clock
        queue := hmoved.queue
        hands := by simp [hmoved.hands, resting]
        tally := hmoved.tally
        callers := hmoved.callers.trans h.callers
        workers := by simp }

theorem advance (h : Rests c ix r) (ms : Nat) : Carries c server r (ix.advance ms) := by
  intro x
  obtain ⟨s, hmoved⟩ : ∃ s, MovedAll c r [] (Session.run server
      (Indexer.eachWorker (Worker.tick c (ix.clock + ms)) ix.workers r.tally) x) s :=
    exists_movedAll (exists_moved_tick _) ix.workers h.hands x
  have hlength := length_eachWorker server (Worker.tick c (ix.clock + ms)) ix.workers
    r.tally x
  rw [h.tally] at hmoved hlength
  have hpass : Step c s { s with clock := ix.clock + ms } := .pass _
  refine ⟨{ s with clock := ix.clock + ms }, ?_⟩
  simp only [Indexer.advance, h.config, Session.run_bind, Session.run_pure]
  refine ⟨?_, ?_⟩
  · obtain ⟨hsteps, hsent, hheard⟩ := hmoved.follows
    exact ⟨hsteps.step hpass, by simpa [Session.Trace.append_def] using hsent,
      by simpa [Session.Trace.append_def] using hheard⟩
  · exact {
      config := rfl
      phase := hmoved.phase.trans h.phase
      clock := rfl
      queue := hmoved.queue.trans h.queue
      hands := hmoved.hands
      tally := hmoved.tally
      callers := hmoved.callers.trans h.callers
      workers := List.ne_nil_of_length_pos (hlength ▸ List.length_pos_of_ne_nil h.workers) }

theorem drainSome (h : Rests c ix r) (n : Nat) : Carries c server r (Indexer.drainSome n ix) := by
  induction n generalizing ix r with
  | zero => exact .pure h
  | succ n ih =>
    rw [Indexer.drainSome]
    exact (h.receive (List.length_pos_of_ne_nil h.workers)).bind fun x s h' => ih h'

end Rests

theorem run_receive_frame (server : Session.Server σ) (ix : Indexer) (n : Nat) (x : σ) :
    (Session.run server (ix.receive n) x).1.queue = ix.queue.tail ∧
      (Session.run server (ix.receive n) x).1.phase = ix.phase := by
  rw [Indexer.receive]
  split <;> rename_i hqueue
  · exact ⟨by simp [Session.run, hqueue], rfl⟩
  · simp only [Session.run_bind, Session.run_pure, hqueue, List.tail_cons, and_self]

/-- Draining ends with an empty queue. -/
theorem run_drainSome_frame (server : Session.Server σ) (ix : Indexer) (n : Nat) (x : σ) :
    (Session.run server (Indexer.drainSome n ix) x).1.queue = ix.queue.drop n ∧
      (Session.run server (Indexer.drainSome n ix) x).1.phase = ix.phase := by
  induction n generalizing ix x with
  | zero => exact ⟨rfl, rfl⟩
  | succ n ih =>
    obtain ⟨hqueue, hphase⟩ := run_receive_frame server ix 0 x
    rw [Indexer.drainSome, Session.run_bind]
    obtain ⟨hqueue', hphase'⟩ := ih (Session.run server (ix.receive 0) x).1
      (Session.run server (ix.receive 0) x).2.2
    exact ⟨by rw [hqueue', hqueue, List.drop_tail], hphase'.trans hphase⟩

/-- The end of `Indexer.close`, when the queue is drained. -/
def finish (ix : Indexer) : Session Indexer := do
  let (workers, t) ← Indexer.eachWorker Worker.flush ix.workers ix.tally
  return { ix with phase := .closed, workers := workers, tally := { t with firstError := none } }

theorem close_eq {ix : Indexer} (hphase : ix.phase = .accepting) :
    (do return (← ix.close).2) = (do finish (← Indexer.drain { ix with phase := .flushing })) := by
  simp [Indexer.close, hphase, finish]

theorem run_flush_items (server : Session.Server σ) (w : Worker) (t : Tally) (x : σ) :
    (Session.run server (w.flush t) x).1.1.items = #[] := by
  by_cases hitems : w.items = #[]
  · rw [Worker.run_flush_nil server w t x hitems]
    exact hitems
  · rw [(Worker.run_flush server w t x hitems).1]

namespace Rests

variable {ix : Indexer}

/-- With an empty queue, each worker sends what it holds, and nothing is
left. -/
theorem flushAll (h : Rests c ix r) (hqueue : ix.queue = []) (server : Session.Server σ) (x : σ) :
    let out := Session.run server (Indexer.eachWorker Worker.flush ix.workers ix.tally) x
    ∃ s, Follows c r out.2.1 s ∧ Rests c { ix with workers := out.1.1, tally := out.1.2 } s ∧
      s.Drained := by
  intro out
  obtain ⟨s, hmoved⟩ : ∃ s, MovedAll c r [] (Session.run server
      (Indexer.eachWorker Worker.flush ix.workers r.tally) x) s :=
    exists_movedAll exists_moved_flush ix.workers h.hands x
  have hitems := forall_eachWorker (P := fun w => w.items = #[]) (run_flush_items server)
    ix.workers ix.tally x
  have hlength := length_eachWorker server Worker.flush ix.workers ix.tally x
  rw [h.tally] at hmoved
  refine ⟨s, hmoved.follows, ?_, ?_⟩
  · exact {
      config := h.config
      phase := hmoved.phase.trans h.phase
      clock := hmoved.clock.trans h.clock
      queue := hmoved.queue.trans h.queue
      hands := hmoved.hands
      tally := hmoved.tally
      callers := hmoved.callers.trans h.callers
      workers := List.ne_nil_of_length_pos (hlength ▸ List.length_pos_of_ne_nil h.workers) }
  · -- the queue is empty and so is each worker, after it has sent
    refine ⟨hmoved.callers.trans h.callers, (hmoved.queue.trans h.queue).trans hqueue, ?_⟩
    rw [hmoved.hands]
    intro hand hmem
    obtain ⟨w, hw, rfl⟩ := List.mem_map.mp hmem
    exact ⟨rfl, hitems w hw⟩

/-- When all workers have ended, the one who closes goes on. -/
theorem finish (h : Rests c ix r) (hphase : ix.phase = .flushing) (hqueue : ix.queue = []) :
    Carries c server r (finish ix) := by
  intro x
  obtain ⟨s, ⟨hsteps, hsent, hheard⟩, hrests, hdrained⟩ := h.flushAll hqueue server x
  have hclosed : Step c s _ := .closed (hrests.phase.trans hphase) hdrained
  simp only [Bulk.finish, Session.run_bind, Session.run_pure]
  refine ⟨_, ⟨hsteps.step hclosed, ?_, ?_⟩, ?_⟩
  · simpa [Session.Trace.append_def] using hsent
  · simpa [Session.Trace.append_def] using hheard
  · exact { hrests with
      phase := rfl
      tally := by rw [hrests.tally] }

theorem close (h : Rests c ix r) : Carries c server r (do return (← ix.close).2) := by
  by_cases hphase : ix.phase = .accepting
  · rw [close_eq hphase]
    have hbegin : Step c r { r with phase := .flushing } := .close (h.phase.trans hphase)
    have hflushing : Rests c { ix with phase := .flushing } { r with phase := .flushing } :=
      ⟨h.config, rfl, h.clock, h.queue, h.hands, h.tally, h.callers, h.workers⟩
    -- first one worker takes all that is queued, and then each sends what it holds
    have hrest : Carries c server { r with phase := .flushing } _ :=
      (hflushing.drainSome ix.queue.length).bind fun x s hrests => by
        obtain ⟨hqueue, hphase'⟩ := run_drainSome_frame server { ix with phase := .flushing }
          ix.queue.length x
        exact hrests.finish hphase' (by rw [hqueue, List.drop_length])
    intro x
    obtain ⟨s, ⟨hsteps, hsent, hheard⟩, hrests⟩ := hrest x
    exact ⟨s, ⟨(Steps.refl.step hbegin).trans hsteps, hsent, hheard⟩, hrests⟩
  · have hclose : ix.close = .done (.error .bulkClosed, ix) := by
      rw [Indexer.close]
      split
      · exact absurd ‹_› hphase
      · rfl
    rw [hclose]
    exact .pure h

end Rests

/-! ## Any calls -/

/-- What can be asked of an indexer, or be let happen to it: that a worker takes
the next item, and that time passes. -/
inductive Call where
  | add (item : BulkItem)
  | receive (n : Nat)
  | advance (ms : Nat)
  | close

/-- Carries out a call. Only a worker that there is can take an item. -/
def Call.perform : Call → Indexer → Session Indexer
  | .add item, ix =>
    match ix.add item with
    | .ok ix => pure ix
    | .error _ => pure ix
  | .receive n, ix => if n < ix.workers.length then ix.receive n else pure ix
  | .advance ms, ix => ix.advance ms
  | .close, ix => do return (← ix.close).2

/-- Carries out calls one after the other. -/
def perform : List Call → Indexer → Session Indexer
  | [], ix => pure ix
  | call :: rest, ix => do perform rest (← call.perform ix)

namespace Rests

variable {ix : Indexer}

theorem add (h : Rests c ix r) (item : BulkItem) :
    Carries c server r ((Call.add item).perform ix) := by
  rw [Call.perform, Indexer.add]
  split <;> rename_i hadd <;> split at hadd
  · rename_i hphase
    obtain rfl := Except.ok.inj hadd
    have hopen : r.phase ≠ .closed := by
      rw [h.phase, hphase]
      exact nofun
    -- the caller comes and gets in at once, as nobody else waits
    have hcall : Step c r _ := .call item hopen
    have haccept : Step c { r with callers := r.callers ++ [item] } _ := .accept rfl
    refine fun x => ⟨_, ⟨(Steps.refl.step hcall).step haccept, by simp [Session.run_pure], ?_⟩, ?_⟩
    · simp [Session.run_pure, Session.Trace.heard]
    · exact {
        config := h.config
        phase := h.phase
        clock := h.clock
        queue := congrArg (· ++ [item]) h.queue
        hands := h.hands
        tally := by rw [h.tally]; rfl
        callers := by simp [h.callers]
        workers := h.workers }
  · cases hadd
  · cases hadd
  · exact .pure h

theorem perform (h : Rests c ix r) (calls : List Call) :
    Carries c server r (perform calls ix) := by
  induction calls generalizing ix r with
  | nil => exact .pure h
  | cons call rest ih =>
    have hcall : Carries c server r (call.perform ix) := by
      cases call with
      | add item => exact h.add item
      | receive n =>
        rw [Call.perform]
        split
        · exact h.receive ‹_›
        · exact .pure h
      | advance ms => exact h.advance ms
      | close => exact h.close
    exact hcall.bind fun x s hrests => ih hrests

/-- The indexer of the run is the one that rests. -/
theorem indexer_eq (h : Rests c ix r) : r.indexer c = ix := by
  have hworkers : r.hands.map Hand.worker = ix.workers := by
    rw [h.hands, List.map_map]
    exact List.map_id' ix.workers
  rw [Run.indexer, h.phase, h.clock, h.queue, h.tally, hworkers, ← h.config]

end Rests

/-- Whatever callers, workers and the engine do, once an indexer is closed the
books are balanced: `Balanced` says which numbers agree and what became of each
item. Calls on an indexer from one place are such runs, against any server. -/
theorem closed_balanced (c : BulkConfig) :
    (∀ r, Reachable c r → r.phase = .closed → Balanced r) ∧
    ∀ (σ : Type) (server : Session.Server σ) (calls : List Call) (x : σ),
      let out := Session.run server (perform calls (Indexer.start c)) x
      ∃ r, Reachable c r ∧ r.indexer c = out.1 ∧ r.sent = out.2.1.requests ∧
        r.heard = out.2.1.heard := by
  refine ⟨?_, ?_⟩
  · intro r hreachable hclosed
    have hledger := Ledger.of_reachable hreachable
    exact hledger.balanced (hledger.closed hclosed)
  · intro σ server calls x out
    obtain ⟨r, hfollows, hrests⟩ : ∃ r, Follows c (Run.start c) out.2.1 r ∧ Rests c out.1 r :=
      (Rests.start c).perform calls x
    exact ⟨r, hfollows.steps, hrests.indexer_eq, by simpa [Run.start] using hfollows.sent,
      by simpa [Run.start] using hfollows.heard⟩

/-- Two items that are lost, since the engine cannot be reached. -/
theorem closed_balanced_unreachable :
    let out := Session.run (fun _ (x : Unit) => (.error (.transport "refused"), x))
      (perform [.add (.delete "hero" "1"), .add (.delete "hero" "2"), .receive 0, .close]
        (Indexer.start {})) ()
    ∃ r, Reachable {} r ∧ r.indexer {} = out.1 ∧ Balanced r ∧ r.tally.stats.failed = 2 := by
  intro out
  obtain ⟨hclosed, hcalls⟩ := closed_balanced {}
  obtain ⟨r, hreachable, hindexer, -, -⟩ := hcalls Unit
    (fun _ (x : Unit) => (.error (.transport "refused"), x))
    [.add (.delete "hero" "1"), .add (.delete "hero" "2"), .receive 0, .close] ()
  have hphase : r.phase = .closed := congrArg Indexer.phase hindexer
  have hfailed : r.tally.stats.failed = 2 := congrArg (fun ix => ix.tally.stats.failed) hindexer
  exact ⟨r, hreachable, hindexer, hclosed r hreachable hphase, hfailed⟩

end Bulk

end SearchStore
