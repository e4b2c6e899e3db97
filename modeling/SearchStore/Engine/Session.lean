import SearchStore.Bulk.Item
import SearchStore.Engine.Transport
import SearchStore.Metrics

/-! # Sessions

What a store does is a sequence of steps: it sends a request and goes on with
the answer, it waits, it reports. A `Session` is such a sequence as a value.
`Session.run` carries it out against a server, which may be any function from
requests to answers with a state of its own.
-/

namespace SearchStore

/-- Something a session reports on its way. -/
inductive Report where
  | metric (m : Metric)
  /-- The outcome of an item whose hook is set. -/
  | outcome (id : String) (o : ItemOutcome)

/-- A sequence of steps that ends with a result. -/
inductive Session (α : Type) where
  | done (result : α)
  | send (request : Request) (next : Except Error Response → Session α)
  | wait (d : Nat) (next : Session α)
  | report (r : Report) (next : Session α)

namespace Session

/-- One session after another. -/
def andThen {α β : Type} : Session α → (α → Session β) → Session β
  | .done a, f => f a
  | .send r next, f => .send r fun answer => andThen (next answer) f
  | .wait d next, f => .wait d (andThen next f)
  | .report r next, f => .report r (andThen next f)

instance : Monad Session where
  pure := .done
  bind := andThen

/-- Sends a request and gives the answer. -/
def request (r : Request) : Session (Except Error Response) := .send r .done

/-- Waits for a number of milliseconds. -/
def pause (ms : Nat) : Session Unit := .wait ms (.done ())

def tell (r : Report) : Session Unit := .report r (.done ())

/-- What a session did: the requests and the reports in order, and the time
it waited. -/
structure Trace where
  requests : List Request := []
  reports : List Report := []
  waited : Nat := 0

/-- A server answers requests and may remember them. -/
abbrev Server (σ : Type) := Request → σ → Except Error Response × σ

/-- Carries out a session: its result, what it did, and the server's state
after it. -/
def run {α σ : Type} (server : Server σ) : Session α → σ → α × Trace × σ
  | .done a, s => (a, {}, s)
  | .send r next, s =>
    let (answer, s) := server r s
    let (a, t, s) := run server (next answer) s
    (a, { t with requests := r :: t.requests }, s)
  | .wait d next, s =>
    let (a, t, s) := run server next s
    (a, { t with waited := d + t.waited }, s)
  | .report r next, s =>
    let (a, t, s) := run server next s
    (a, { t with reports := r :: t.reports }, s)

/-! ## Laws

One session after another is associative, and what both do is what the first
does followed by what the second does. -/

variable {α β γ σ : Type}

theorem andThen_done (s : Session α) : s.andThen .done = s := by
  induction s with
  | done a => rfl
  | send r next ih =>
    simp only [andThen]
    congr 1
    funext answer
    exact ih answer
  | wait d next ih => simp only [andThen, ih]
  | report r next ih => simp only [andThen, ih]

theorem andThen_assoc (s : Session α) (f : α → Session β) (g : β → Session γ) :
    (s.andThen f).andThen g = s.andThen fun a => (f a).andThen g := by
  induction s with
  | done a => rfl
  | send r next ih =>
    simp only [andThen]
    congr 1
    funext answer
    exact ih answer
  | wait d next ih => simp only [andThen, ih]
  | report r next ih => simp only [andThen, ih]

instance : LawfulMonad Session :=
  LawfulMonad.mk' Session andThen_done (fun _ _ => rfl) andThen_assoc

instance : Append Trace :=
  ⟨fun t u => ⟨t.requests ++ u.requests, t.reports ++ u.reports, t.waited + u.waited⟩⟩

theorem Trace.append_def (t u : Trace) :
    t ++ u = ⟨t.requests ++ u.requests, t.reports ++ u.reports, t.waited + u.waited⟩ := rfl

/-- The second session starts with the result of the first, and with the state
in which the first leaves the server. -/
theorem run_andThen (server : Server σ) (s : Session α) (f : α → Session β) (x : σ) :
    run server (s.andThen f) x =
      ((run server (f (run server s x).1) (run server s x).2.2).1,
        (run server s x).2.1 ++ (run server (f (run server s x).1) (run server s x).2.2).2.1,
        (run server (f (run server s x).1) (run server s x).2.2).2.2) := by
  induction s generalizing x with
  | done a => simp [andThen, run, Trace.append_def]
  | send r next ih => simp [andThen, run, Trace.append_def, ih]
  | wait d next ih => simp [andThen, run, Trace.append_def, ih, Nat.add_assoc]
  | report r next ih => simp [andThen, run, Trace.append_def, ih]

end Session

/-- A session that can fail. -/
abbrev Action := ExceptT Error Session

namespace Action

/-- Sends a request whose answer has to arrive. -/
def send (r : Request) : Action Response := ExceptT.mk (Session.request r)

/-- Sends a request whose answer has to arrive and be a success. -/
def sendChecked (r : Request) : Action Response := do
  let response ← send r
  response.checked

/-- Something a session reports. -/
def tell (r : Report) : Action Unit := ExceptT.lift (Session.tell r)

end Action

end SearchStore
