import SearchStore.Config.Basic
import SearchStore.Engine.Session

/-! # Workers of bulk writes

A worker holds items and the text of their lines until it has enough of them,
then sends them as one request. All items of a request get an outcome from its
answer: the first from the first result, and so on. A request that fails lets
all its items fail. Items are never sent twice.
-/

namespace SearchStore

/-- What was counted during a bulk write. -/
structure BulkStats where
  added : Nat := 0
  /-- Items that the engine accepted. -/
  flushed : Nat := 0
  failed : Nat := 0
  indexed : Nat := 0
  created : Nat := 0
  updated : Nat := 0
  deleted : Nat := 0
  requests : Nat := 0
  flushedBytes : Nat := 0
deriving DecidableEq, Repr

namespace BulkStats

/-- One more item of an action is accepted. -/
def countAction (s : BulkStats) : BulkAction → BulkStats
  | .index => { s with indexed := s.indexed + 1 }
  | .update => { s with updated := s.updated + 1 }
  | .delete => { s with deleted := s.deleted + 1 }

/-- One more item has its outcome. -/
def count (s : BulkStats) (item : BulkItem) : ItemOutcome → BulkStats
  | .failure _ => { s with failed := s.failed + 1 }
  | .success r =>
    let s := { s with flushed := s.flushed + 1 }.countAction item.action
    if r.result = some "created" then { s with created := s.created + 1 } else s

end BulkStats

/-- The counts, and why the first request failed that did. -/
structure Tally where
  stats : BulkStats := {}
  firstError : Option Error := none

/-- A worker: the items it holds, the text of their lines, and when it next
looks whether it holds any. -/
structure Worker where
  items : Array BulkItem := #[]
  body : String := ""
  nextTick : Nat := 0

namespace Worker

/-- The worker with one more item. -/
def push (w : Worker) (item : BulkItem) : Worker :=
  { w with items := w.items.push item, body := w.body ++ item.encode }

/-- Whether the worker holds enough to send. -/
def isFull (c : BulkConfig) (w : Worker) : Bool :=
  c.flushBytes ≤ w.body.utf8ByteSize || (0 < c.flushItems && c.flushItems ≤ w.items.size)

/-- The outcomes of items by the entries of an answer, in order. -/
def outcomes : List BulkItem → List (List (String × ItemResult)) → List (BulkItem × ItemOutcome)
  | [], _ => []
  | item :: rest, entries =>
    (item, .ofReported entries.head?) :: outcomes rest entries.tail

/-- Reports the outcome of an item: counts it, and tells it to the hook that
is set for it. -/
def reportOutcome (item : BulkItem) (o : ItemOutcome) : Session Unit := do
  match o with
  | .success _ =>
    Session.tell (.metric (.bulkItem item.action.name "success"))
    if item.hooks.onSuccess then Session.tell (.outcome item.id o)
  | .failure _ =>
    Session.tell (.metric (.bulkItem item.action.name "failure"))
    if item.hooks.onFailure then Session.tell (.outcome item.id o)

/-- Reports outcomes in order. -/
def reportAll : List (BulkItem × ItemOutcome) → Session Unit
  | [] => .done ()
  | (item, o) :: rest => do
    reportOutcome item o
    reportAll rest

/-- The tally after some outcomes. -/
def settle (t : Tally) (settled : List (BulkItem × ItemOutcome)) : Tally :=
  { t with stats := settled.foldl (fun s (item, o) => s.count item o) t.stats }

/-- The request for a text of lines. -/
def request (body : String) : Request :=
  ({ method := .post, path := "/_bulk", operation := "bulk" } : Request).withLines body

/-- The entries of the answer to a request. -/
def readAnswer (answer : Except Error Response) :
    Except Error (List (List (String × ItemResult))) := do
  let response ← (← answer).checked
  return (← response.read BulkAnswer.decode?).items

/-- Sends what the worker holds, if anything. -/
def flush (w : Worker) (t : Tally) : Session (Worker × Tally) := do
  if w.items.isEmpty then return (w, t)
  else
    let answer ← Session.request (request w.body)
    let t := { t with stats.requests := t.stats.requests + 1 }
    let size := w.body.utf8ByteSize
    let items := w.items.toList
    let (settled, t) ← match readAnswer answer with
      | .ok entries =>
        pure (outcomes items entries,
          { t with stats.flushedBytes := t.stats.flushedBytes + size })
      | .error e => do
        Session.tell (.metric (.requestError "bulk" e.label))
        pure (items.map fun item => (item, ItemOutcome.failure (.request e.message)),
          { t with firstError := t.firstError.or (some e) })
    reportAll settled
    Session.tell (.metric (.bulkFlush w.items.size size))
    return ({ w with items := #[], body := "" }, settle t settled)

/-- Takes an item, and sends if that is enough. -/
def receive (c : BulkConfig) (item : BulkItem) (w : Worker) (t : Tally) :
    Session (Worker × Tally) :=
  let w := w.push item
  if w.isFull c then w.flush t else .done (w, t)

/-- The time between two looks, at least one millisecond. -/
def interval (c : BulkConfig) : Nat := max c.flushIntervalMs 1

/-- When the worker looks again after a look that was due at `due` and took
place at `now`. Looks follow each other at the interval from one due time to
the next; after a delay of more than five milliseconds the interval starts
anew. -/
def tickAfter (c : BulkConfig) (due now : Nat) : Nat :=
  if due + 5 < now then now + interval c
  else due + ((now - due) / interval c + 1) * interval c

/-- Looks whether a time has come, and if so sends what the worker holds. -/
def tick (c : BulkConfig) (now : Nat) (w : Worker) (t : Tally) : Session (Worker × Tally) :=
  if w.nextTick ≤ now then { w with nextTick := tickAfter c w.nextTick now }.flush t
  else .done (w, t)

end Worker

end SearchStore
