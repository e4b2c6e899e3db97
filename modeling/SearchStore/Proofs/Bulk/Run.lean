import SearchStore.Proofs.Bulk.Outcome

/-! # Runs of an indexer

The callers of an indexer, its workers and the engine act independently. A
`Run` is a moment of all of them, together with a ledger of what has happened
so far, which nobody in the run reads. `Step` says what may come next: any
caller, any worker and any answer. What the workers do with items and answers
are the definitions of `Worker`.

A worker is idle, or waits for the answer to what it holds, or goes through the
outcomes of its items, one step for each.
-/

namespace SearchStore

/-- The tally when the answer to a text of `size` bytes was read. -/
def Tally.hear (t : Tally) (size : Nat) (answer : Except Error Response) : Tally :=
  match Worker.readAnswer answer with
  | .ok _ => { t with stats.flushedBytes := t.stats.flushedBytes + size }
  | .error e => { t with firstError := t.firstError.or (some e) }

/-- An answer itself changes no counter but that of bytes. -/
theorem Tally.stats_hear (t : Tally) (size : Nat) (answer : Except Error Response) :
    ∃ n, (t.hear size answer).stats = { t.stats with flushedBytes := n } := by
  rw [Tally.hear]
  split
  · exact ⟨_, rfl⟩
  · exact ⟨t.stats.flushedBytes, rfl⟩

namespace Bulk

/-- What a worker is doing. -/
inductive Doing where
  | idle
  | waiting
  | settling (rest : List (BulkItem × ItemOutcome))

/-- A worker with what it is doing. -/
structure Hand where
  worker : Worker
  doing : Doing := .idle

structure Run where
  phase : BulkPhase := .accepting
  clock : Nat := 0
  /-- Items whose callers wait for room in the queue. -/
  callers : List BulkItem := []
  queue : List BulkItem := []
  hands : List Hand
  tally : Tally := {}
  /-- The items that were queued so far. -/
  accepted : List BulkItem := []
  /-- The requests that were sent so far. -/
  sent : List Request := []
  /-- The requests that were answered so far. -/
  answered : List Shipment := []
  /-- The items that got their outcomes so far. -/
  landed : List (BulkItem × ItemOutcome) := []
  /-- What hooks have heard so far. -/
  heard : List Report := []

namespace Run

/-- The indexer of a run. -/
def indexer (c : BulkConfig) (r : Run) : Indexer :=
  { config := c
    phase := r.phase
    clock := r.clock
    queue := r.queue
    workers := r.hands.map Hand.worker
    tally := r.tally }

/-- An indexer that has just started. -/
def start (c : BulkConfig) : Run :=
  { hands := (Indexer.start c).workers.map fun w => { worker := w } }

/-- Whether nothing is left to do. -/
structure Drained (r : Run) : Prop where
  callers : r.callers = []
  queue : r.queue = []
  hands : ∀ h ∈ r.hands, h.doing = .idle ∧ h.worker.items = #[]

/-- A worker between others sends what it holds. -/
def send (r : Run) (before : List Hand) (w : Worker) (after : List Hand) : Run :=
  { r with
    hands := before ++ ⟨w, .waiting⟩ :: after
    tally.stats.requests := r.tally.stats.requests + 1
    sent := r.sent ++ [Worker.request w.body] }

/-- A worker between others reads an answer, and begins with the outcomes. -/
def hear (r : Run) (before : List Hand) (w : Worker) (answer : Except Error Response)
    (after : List Hand) : Run :=
  let shipment : Shipment := ⟨w.items.toList, answer⟩
  { r with
    hands := before ++ ⟨{ w with items := #[], body := "" }, .settling shipment.settled⟩ :: after
    tally := r.tally.hear w.body.utf8ByteSize answer
    answered := r.answered ++ [shipment] }

/-- A worker between others counts an outcome, and calls the hook that is set
for it. -/
def settle (r : Run) (before : List Hand) (w : Worker) (item : BulkItem) (o : ItemOutcome)
    (rest : List (BulkItem × ItemOutcome)) (after : List Hand) : Run :=
  { r with
    hands := before ++ ⟨w, .settling rest⟩ :: after
    tally.stats := r.tally.stats.count item o
    landed := r.landed ++ [(item, o)]
    heard := r.heard ++ (item.heard o).toList }

end Run

/-- What may happen next. -/
inductive Step (c : BulkConfig) : Run → Run → Prop
  /-- Somebody adds an item. A caller that has seen the indexer accept may be
  late, so only a closed indexer is left alone. -/
  | call {r : Run} (item : BulkItem) (hphase : r.phase ≠ .closed) :
      Step c r { r with callers := r.callers ++ [item] }
  /-- A caller does not wait for room any longer. -/
  | giveUp {r : Run} {as bs : List BulkItem} {item : BulkItem}
      (hcallers : r.callers = as ++ item :: bs) : Step c r { r with callers := as ++ bs }
  /-- The item of a caller gets into the queue. -/
  | accept {r : Run} {as bs : List BulkItem} {item : BulkItem}
      (hcallers : r.callers = as ++ item :: bs) :
      Step c r { r with
        callers := as ++ bs
        queue := r.queue ++ [item]
        tally.stats.added := r.tally.stats.added + 1
        accepted := r.accepted ++ [item] }
  /-- An idle worker takes the next item and holds it. -/
  | hold {r : Run} {item : BulkItem} {rest : List BulkItem} {before after : List Hand} {w : Worker}
      (hqueue : r.queue = item :: rest) (hhands : r.hands = before ++ ⟨w, .idle⟩ :: after)
      (hfull : (w.push item).isFull c = false) :
      Step c r { r with queue := rest, hands := before ++ ⟨w.push item, .idle⟩ :: after }
  /-- An idle worker takes the next item, and that is enough to send. -/
  | fill {r : Run} {item : BulkItem} {rest : List BulkItem} {before after : List Hand} {w : Worker}
      (hqueue : r.queue = item :: rest) (hhands : r.hands = before ++ ⟨w, .idle⟩ :: after)
      (hfull : (w.push item).isFull c = true) :
      Step c r ({ r with queue := rest }.send before (w.push item) after)
  /-- An idle worker sends what it holds, because its time has come or because
  the queue has ended. -/
  | flush {r : Run} {before after : List Hand} {w : Worker}
      (hhands : r.hands = before ++ ⟨w, .idle⟩ :: after) (hitems : w.items ≠ #[]) :
      Step c r (r.send before w after)
  /-- An idle worker sets the time when it looks again. -/
  | schedule {r : Run} {before after : List Hand} {w : Worker}
      (hhands : r.hands = before ++ ⟨w, .idle⟩ :: after) (due : Nat) :
      Step c r { r with hands := before ++ ⟨{ w with nextTick := due }, .idle⟩ :: after }
  | pass {r : Run} (now : Nat) : Step c r { r with clock := now }
  /-- The answer to a request arrives, or the news that none will. -/
  | answer {r : Run} {before after : List Hand} {w : Worker}
      (hhands : r.hands = before ++ ⟨w, .waiting⟩ :: after) (answer : Except Error Response) :
      Step c r (r.hear before w answer after)
  /-- A worker goes on to the next outcome. -/
  | settle {r : Run} {before after : List Hand} {w : Worker} {item : BulkItem} {o : ItemOutcome}
      {rest : List (BulkItem × ItemOutcome)}
      (hhands : r.hands = before ++ ⟨w, .settling ((item, o) :: rest)⟩ :: after) :
      Step c r (r.settle before w item o rest after)
  /-- A worker is through with the outcomes. -/
  | settled {r : Run} {before after : List Hand} {w : Worker}
      (hhands : r.hands = before ++ ⟨w, .settling []⟩ :: after) :
      Step c r { r with hands := before ++ ⟨w, .idle⟩ :: after }
  /-- Somebody closes the indexer. -/
  | close {r : Run} (hphase : r.phase = .accepting) : Step c r { r with phase := .flushing }
  /-- All workers have ended, and the one who closes goes on. -/
  | closed {r : Run} (hphase : r.phase = .flushing) (hdrained : r.Drained) :
      Step c r { r with phase := .closed, tally.firstError := none }

/-- What can come of one moment of a run. -/
inductive Steps (c : BulkConfig) (r : Run) : Run → Prop
  | refl : Steps c r r
  | step {s t : Run} (h : Steps c r s) (hstep : Step c s t) : Steps c r t

/-- The moments that can come of the start. -/
def Reachable (c : BulkConfig) (r : Run) : Prop := Steps c (Run.start c) r

theorem Steps.trans {c : BulkConfig} {r s t : Run} (h : Steps c r s) (h' : Steps c s t) :
    Steps c r t := by
  induction h' with
  | refl => exact h
  | step _ hstep ih => exact .step ih hstep

end Bulk

end SearchStore
