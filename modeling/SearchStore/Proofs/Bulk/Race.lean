import SearchStore.Proofs.Bulk.Calls

/-! # Calls that race

For a caller that is alone `Indexer.add` and `Indexer.close` are one step each.
With several callers at once each call is a sequence of steps, and other calls
and the workers come in between. A `Scene` is a moment of all calls and of the
run that they act on, and `Act` says what may come next.

A queue has ended for the workers once it is empty and nobody can send to it any
more: the indexer has let go of its sender, and no call holds a clone of it. A
worker that stops waiting for an item loses none.

What workers, the engine and the clock do are the steps of `Run`. The counter of
added items and the phase that callers see are beside the run: a call counts its
item only after it is queued, and the run is closed only when the call that
closes is over.
-/

namespace SearchStore.Bulk

/-! ## Calls -/

/-- How far a call of `add` has come. -/
inductive Adding where
  | called
  /-- It has seen that the indexer accepts. -/
  | cleared
  /-- It holds a clone of the sender. -/
  | cloned
  /-- The text of its item is written. -/
  | encoded
  /-- Its item is in the queue. -/
  | queued
  /-- Its item is counted. -/
  | counted
  /-- It was given up while it waited for room. -/
  | left
  | returned (result : Except Error Unit)

namespace Adding

/-- Whether the call holds a clone of the sender. -/
def holds : Adding → Bool
  | .cloned | .encoded | .queued | .counted => true
  | _ => false

/-- Whether the call waits to count its item. -/
def isQueued : Adding → Bool
  | .queued => true
  | _ => false

/-- Whether the item of the call is accepted. -/
def isIn : Adding → Bool
  | .queued | .counted | .returned (.ok _) => true
  | _ => false

/-- Whether the call has returned without an error. -/
def isDone : Adding → Bool
  | .returned (.ok _) => true
  | _ => false

end Adding

/-- A call of `add`. -/
structure Adder where
  item : BulkItem
  stage : Adding := .called

/-- How far a call of `close` has come. -/
inductive Closing where
  | called
  /-- The indexer accepts no longer. -/
  | begun
  /-- The sender is gone, and the call waits for the workers. -/
  | waiting
  /-- The indexer is closed. -/
  | marked
  /-- It was not the first. -/
  | refused
  /-- It has returned, with the counts or with why the first request failed. -/
  | reported (snapshot : BulkStats) (firstError : Option Error)

namespace Closing

/-- Whether the call is the one that closes. -/
def proceeds : Closing → Bool
  | .called | .refused => false
  | _ => true

/-- What the call has returned. -/
def result? : Closing → Option (Except Error BulkStats)
  | .refused => some (.error .bulkClosed)
  | .reported _ (some e) => some (.error e)
  | .reported snapshot none => some (.ok snapshot)
  | _ => none

end Closing

/-! ## Scenes -/

structure Scene where
  /-- The queue and the workers, and what they have sent and counted. -/
  run : Run
  phase : BulkPhase := .accepting
  /-- Whether the indexer still has its sender. -/
  sender : Bool := true
  added : Nat := 0
  adders : List Adder := []
  closers : List Closing := []
  /-- The places of the workers that have ended. -/
  ended : List Nat := []

namespace Scene

def start (c : BulkConfig) : Scene := { run := Run.start c }

/-- The counters, as callers see them. -/
def stats (s : Scene) : BulkStats := { s.run.tally.stats with added := s.added }

/-- The indexer of a scene. -/
def indexer (c : BulkConfig) (s : Scene) : Indexer :=
  { s.run.indexer c with phase := s.phase, tally := { s.run.tally with stats := s.stats } }

/-- Nobody can send to the queue any more. -/
def HungUp (s : Scene) : Prop := s.sender = false ∧ ∀ a ∈ s.adders, a.stage.holds = false

def AllEnded (s : Scene) : Prop := ∀ i < s.run.hands.length, i ∈ s.ended

instance (s : Scene) : Decidable s.HungUp := inferInstanceAs (Decidable (_ ∧ _))

instance (s : Scene) : Decidable s.AllEnded :=
  inferInstanceAs (Decidable (∀ i < s.run.hands.length, i ∈ s.ended))

end Scene

/-- An item gets into the queue. -/
def Run.accept (r : Run) (item : BulkItem) : Run :=
  { r with
    queue := r.queue ++ [item]
    tally.stats.added := r.tally.stats.added + 1
    accepted := r.accepted ++ [item] }

/-! ## Steps -/

/-- The steps that change only how far a call of `add` has come. -/
inductive Adding.Next (s : Scene) : Adding → Adding → Prop
  | check (hphase : s.phase = .accepting) : Next s .called .cleared
  | refuse (hphase : s.phase ≠ .accepting) : Next s .called (.returned (.error .bulkClosed))
  | clone (hsender : s.sender = true) : Next s .cleared .cloned
  /-- The sender is gone since the check. -/
  | miss (hsender : s.sender = false) : Next s .cleared (.returned (.error .bulkClosed))
  | encode : Next s .cloned .encoded
  /-- There is nobody to receive the item. -/
  | bounce (hended : s.AllEnded) : Next s .encoded (.returned (.error .bulkClosed))
  | giveUp : Next s .encoded .left
  | finish : Next s .counted (.returned (.ok ()))

/-- A step of a run that no caller takes. -/
structure Works (c : BulkConfig) (r s : Run) : Prop where
  step : Step c r s
  phase : s.phase = r.phase
  callers : s.callers = r.callers
  accepted : s.accepted = r.accepted

/-- What may come next. -/
inductive Act (c : BulkConfig) : Scene → Scene → Prop
  | add {s : Scene} (item : BulkItem) : Act c s { s with adders := s.adders ++ [⟨item, .called⟩] }
  | move {s : Scene} {as bs : List Adder} {item : BulkItem} {x y : Adding}
      (hadders : s.adders = as ++ ⟨item, x⟩ :: bs) (hnext : x.Next s y) :
      Act c s { s with adders := as ++ ⟨item, y⟩ :: bs }
  /-- There is room in the queue. -/
  | enqueue {s : Scene} {as bs : List Adder} {item : BulkItem}
      (hadders : s.adders = as ++ ⟨item, .encoded⟩ :: bs)
      (hroom : s.run.queue.length < max c.queueCapacity 1) (hended : ¬ s.AllEnded) :
      Act c s { s with adders := as ++ ⟨item, .queued⟩ :: bs, run := s.run.accept item }
  | count {s : Scene} {as bs : List Adder} {item : BulkItem}
      (hadders : s.adders = as ++ ⟨item, .queued⟩ :: bs) :
      Act c s { s with adders := as ++ ⟨item, .counted⟩ :: bs, added := s.added + 1 }
  | close {s : Scene} : Act c s { s with closers := s.closers ++ [.called] }
  | reject {s : Scene} {as bs : List Closing} (hclosers : s.closers = as ++ .called :: bs)
      (hphase : s.phase ≠ .accepting) : Act c s { s with closers := as ++ .refused :: bs }
  | begin {s : Scene} {as bs : List Closing} (hclosers : s.closers = as ++ .called :: bs)
      (hphase : s.phase = .accepting) :
      Act c s { s with
        closers := as ++ .begun :: bs
        phase := .flushing
        run := { s.run with phase := .flushing } }
  | hangUp {s : Scene} {as bs : List Closing} (hclosers : s.closers = as ++ .begun :: bs) :
      Act c s { s with closers := as ++ .waiting :: bs, sender := false }
  | mark {s : Scene} {as bs : List Closing} (hclosers : s.closers = as ++ .waiting :: bs)
      (hended : s.AllEnded) : Act c s { s with closers := as ++ .marked :: bs, phase := .closed }
  | report {s : Scene} {as bs : List Closing} (hclosers : s.closers = as ++ .marked :: bs) :
      Act c s { s with
        closers := as ++ .reported s.stats s.run.tally.firstError :: bs
        run := { s.run with phase := .closed, tally.firstError := none } }
  /-- A worker that has not ended, the engine or the clock goes on. -/
  | work {s : Scene} {r : Run} (hworks : Works c s.run r)
      (hended : ∀ i ∈ s.ended, r.hands[i]? = s.run.hands[i]?) : Act c s { s with run := r }
  /-- A worker that holds nothing any more sees that the queue has ended. -/
  | exit {s : Scene} {i : Nat} {w : Worker} (hhand : s.run.hands[i]? = some ⟨w, .idle⟩)
      (hitems : w.items = #[]) (hqueue : s.run.queue = []) (hhungUp : s.HungUp) :
      Act c s { s with ended := i :: s.ended }

/-- What can come of one scene. -/
inductive Acts (c : BulkConfig) (s : Scene) : Scene → Prop
  | refl : Acts c s s
  | act {t u : Scene} (h : Acts c s t) (hact : Act c t u) : Acts c s u

theorem Acts.trans {c : BulkConfig} {s t u : Scene} (h : Acts c s t) (h' : Acts c t u) :
    Acts c s u := by
  induction h' with
  | refl => exact h
  | act _ hact ih => exact .act ih hact

end SearchStore.Bulk
