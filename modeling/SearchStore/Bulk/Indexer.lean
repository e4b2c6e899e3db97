import SearchStore.Bulk.Worker

/-! # Bulk indexers

An indexer queues items for its workers and closes once everything is sent.
Which worker takes an item, and when, does not follow from the indexer: each
step below can be taken for any worker. `drain` takes the steps of one worker
that is always ready.
-/

namespace SearchStore

/-- Whether an indexer takes items. -/
inductive BulkPhase where
  | accepting
  | flushing
  | closed
deriving DecidableEq, Repr

def BulkPhase.name : BulkPhase → String
  | .accepting => "open"
  | .flushing => "flushing"
  | .closed => "closed"

/-- The result of a bulk write: how many items were accepted, and how many
not. -/
structure BulkReport where
  affected : Nat
  failed : Nat
deriving DecidableEq, Repr

namespace BulkReport

def ofStats (s : BulkStats) : BulkReport := ⟨s.flushed, s.failed⟩

/-- The report, if no item failed. -/
def toResult (r : BulkReport) : Except Error BulkReport :=
  if 0 < r.failed then .error (.partialBulkFailure r.affected r.failed) else .ok r

end BulkReport

/-- An indexer. -/
structure Indexer where
  config : BulkConfig
  phase : BulkPhase := .accepting
  /-- Milliseconds since the start. -/
  clock : Nat := 0
  /-- Items that no worker has taken. -/
  queue : List BulkItem := []
  workers : List Worker
  tally : Tally := {}

namespace Indexer

/-- An indexer that has just started, with at least one worker. -/
def start (c : BulkConfig) : Indexer :=
  { config := c
    workers := List.replicate (max c.workers 1) { nextTick := Worker.interval c } }

def stats (ix : Indexer) : BulkStats := ix.tally.stats

/-- Queues an item. -/
def add (ix : Indexer) (item : BulkItem) : Except Error Indexer :=
  match ix.phase with
  | .accepting =>
    .ok { ix with
      queue := ix.queue ++ [item]
      tally.stats.added := ix.tally.stats.added + 1 }
  | _ => .error .bulkClosed

/-- Lets the worker at a place take a step. -/
def atWorker (f : Worker → Tally → Session (Worker × Tally)) :
    Nat → List Worker → Tally → Session (List Worker × Tally)
  | _, [], t => .done ([], t)
  | 0, w :: rest, t => do
    let (w, t) ← f w t
    return (w :: rest, t)
  | n + 1, w :: rest, t => do
    let (rest, t) ← atWorker f n rest t
    return (w :: rest, t)

/-- Lets all workers take a step, one after the other. -/
def eachWorker (f : Worker → Tally → Session (Worker × Tally)) :
    List Worker → Tally → Session (List Worker × Tally)
  | [], t => .done ([], t)
  | w :: rest, t => do
    let (w, t) ← f w t
    let (rest, t) ← eachWorker f rest t
    return (w :: rest, t)

/-- The worker at a place takes the next item from the queue. -/
def receive (n : Nat) (ix : Indexer) : Session Indexer :=
  match ix.queue with
  | [] => .done ix
  | item :: rest => do
    let (workers, t) ← atWorker (Worker.receive ix.config item) n ix.workers ix.tally
    return { ix with queue := rest, workers := workers, tally := t }

/-- The first worker takes as many items from the queue. -/
def drainSome : Nat → Indexer → Session Indexer
  | 0, ix => .done ix
  | n + 1, ix => do drainSome n (← receive 0 ix)

/-- The first worker takes all items from the queue. -/
def drain (ix : Indexer) : Session Indexer := drainSome ix.queue.length ix

/-- Time passes, and the workers look whether they have to send. -/
def advance (ms : Nat) (ix : Indexer) : Session Indexer := do
  let now := ix.clock + ms
  let (workers, t) ← eachWorker (Worker.tick ix.config now) ix.workers ix.tally
  return { ix with clock := now, workers := workers, tally := t }

/-- Sends everything that is left and takes no more items. The result is why
the first request failed, if one did, and otherwise the counts. -/
def close (ix : Indexer) : Session (Except Error BulkStats × Indexer) :=
  match ix.phase with
  | .accepting => do
    let ix ← drain { ix with phase := .flushing }
    let (workers, t) ← eachWorker Worker.flush ix.workers ix.tally
    let result := match t.firstError with
      | some e => .error e
      | none => .ok t.stats
    return (result, { ix with
      phase := .closed, workers := workers, tally := { t with firstError := none } })
  | _ => .done (.error .bulkClosed, ix)

/-- Closes because of an error, which stays the result. -/
def abort (cause : Error) (ix : Indexer) : Session (Error × Indexer) := do
  let (_, ix) ← close ix
  return (cause, ix)

end Indexer

end SearchStore
