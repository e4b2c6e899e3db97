import SearchStore.Store.Basic

/-! # What a session may send

`Session.Sends` says that all requests of a session have a property, whatever
is answered to them. It follows the steps of a session, so what two sessions
send one after the other is known from each. `forall_requests_run` brings it
to a session that is carried out, and `Session.exchanges` says what the server
answered in it. The lemmas on actions one after the other say what is left of them
when the first one succeeds or fails; `Action.ask` is an action of one request.
-/

namespace SearchStore

namespace Session

variable {α β σ : Type} {P : Request → Prop}

/-- Each request that a session may send has a property. -/
def Sends (P : Request → Prop) : Session α → Prop
  | .done _ => True
  | .send r next => P r ∧ ∀ answer, (next answer).Sends P
  | .wait _ next => next.Sends P
  | .report _ next => next.Sends P

namespace Sends

theorem bind {s : Session α} {f : α → Session β} (h : s.Sends P) (hf : ∀ a, (f a).Sends P) :
    (s >>= f).Sends P := by
  change (s.andThen f).Sends P
  induction s with
  | done a => exact hf a
  | send r next ih => exact ⟨h.1, fun answer => ih answer (h.2 answer)⟩
  | wait d next ih => exact ih h
  | report r next ih => exact ih h

/-- What a session sends when it is carried out. -/
theorem forall_requests_run {s : Session α} (h : s.Sends P) (server : Server σ) (x : σ) :
    ∀ r ∈ (run server s x).2.1.requests, P r := by
  induction s generalizing x with
  | done a => simp [run]
  | send r next ih =>
    simp only [run, List.forall_mem_cons]
    exact ⟨h.1, ih _ (h.2 _) _⟩
  | wait d next ih => exact ih h x
  | report r next ih => exact ih h x

end Sends

/-! ## What is answered -/

section Exchanges

variable {server : Server σ}

/-- What a session sends, each request with the answer to it. -/
def exchanges (server : Server σ) : Session α → σ → List (Request × Except Error Response)
  | .done _, _ => []
  | .send r next, x => (r, (server r x).1) :: exchanges server (next (server r x).1) (server r x).2
  | .wait _ next, x => exchanges server next x
  | .report _ next, x => exchanges server next x

theorem map_fst_exchanges (s : Session α) (x : σ) :
    (exchanges server s x).map Prod.fst = (run server s x).2.1.requests := by
  induction s generalizing x with
  | done a => rfl
  | send r next ih => simp only [exchanges, run, List.map_cons, ih]
  | wait d next ih => exact ih x
  | report r next ih => exact ih x

theorem exchanges_bind (s : Session α) (f : α → Session β) (x : σ) :
    exchanges server (s >>= f) x = exchanges server s x ++
      exchanges server (f (run server s x).1) (run server s x).2.2 := by
  change exchanges server (s.andThen f) x = _
  induction s generalizing x with
  | done a => rfl
  | send r next ih => simp only [andThen, exchanges, run, List.cons_append, ih]
  | wait d next ih => exact ih x
  | report r next ih => exact ih x

theorem exchanges_pure (a : α) (x : σ) : exchanges server (pure a) x = [] := rfl

/-- A session without requests has no exchanges. -/
theorem exchanges_eq_nil {s : Session α} {x : σ} (h : (run server s x).2.1.requests = []) :
    exchanges server s x = [] := by
  rw [← map_fst_exchanges] at h
  exact List.map_eq_nil_iff.mp h

end Exchanges

end Session

namespace Action

variable {α β : Type} {P : Request → Prop}

/-- What follows an action is carried out if there is no error. -/
theorem bind_eq (a : Action α) (f : α → Action β) :
    (a >>= f : Action β) = (a.run >>= ExceptT.bindCont f : Session (Except Error β)) := rfl

/-- A value or an error is there without any request. -/
theorem sends_of_except (result : Except Error α) :
    Session.Sends P (liftM result : Action α) := trivial

theorem sends_bind {a : Action α} {f : α → Action β} (h : Session.Sends P a)
    (hf : ∀ v, Session.Sends P (f v)) : Session.Sends P (a >>= f : Action β) := by
  rw [bind_eq]
  refine h.bind fun result => ?_
  cases result with
  | error e => trivial
  | ok v => exact hf v

theorem sends_sendChecked {r : Request} (h : P r) : Session.Sends P (sendChecked r) :=
  sends_bind ⟨h, fun _ => trivial⟩ fun response => sends_of_except response.checked

end Action

/-! ## Actions one after the other -/

namespace Action

variable {α β σ : Type} {server : Session.Server σ} {a : Action α} {v : α} {x y : σ}

theorem run_bind (a : Action α) (f : α → Action β) (x : σ) :
    Session.run server (a >>= f : Action β) x =
      match Session.run server a x with
      | (.ok v, t, y) =>
        ((Session.run server (f v) y).1, t ++ (Session.run server (f v) y).2.1,
          (Session.run server (f v) y).2.2)
      | (.error e, t, y) => (.error e, t, y) := by
  have hrun := Session.run_andThen server a (ExceptT.bindCont f) x
  rcases hfirst : Session.run server a x with ⟨e | v, t, y⟩
  · rw [hfirst] at hrun
    refine hrun.trans ?_
    simp [ExceptT.bindCont, pure, Session.run, Session.Trace.append_def]
  · rw [hfirst] at hrun
    exact hrun

/-- An action that follows a successful one. -/
theorem run_bind_ok {t : Session.Trace} (h : Session.run server a x = (.ok v, t, y))
    (f : α → Action β) :
    Session.run server (a >>= f : Action β) x =
      ((Session.run server (f v) y).1, t ++ (Session.run server (f v) y).2.1,
        (Session.run server (f v) y).2.2) := by
  rw [run_bind, h]

/-- A failed action is not followed by another one. -/
theorem run_bind_error {e : Error} (h : (Session.run server a x).1 = .error e)
    (f : α → Action β) :
    Session.run server (a >>= f : Action β) x =
      (.error e, (Session.run server a x).2.1, (Session.run server a x).2.2) := by
  rw [run_bind, show Session.run server a x = (.error e, _, _) from Prod.ext h rfl]

/-- Only a successful action is followed by another one. -/
theorem exists_of_run_bind {f : α → Action β} {b : β}
    (h : (Session.run server (a >>= f : Action β) x).1 = .ok b) :
    ∃ v, (Session.run server a x).1 = .ok v ∧
      (Session.run server (f v) (Session.run server a x).2.2).1 = .ok b := by
  rw [run_bind] at h
  rcases hfirst : Session.run server a x with ⟨e | v, t, y⟩
  · rw [hfirst] at h
    exact absurd h nofun
  · rw [hfirst] at h
    exact ⟨v, rfl, h⟩

/-- What follows a successful action is sent after it. -/
theorem requests_bind (a : Action α) (f : α → Action β) (x : σ) :
    (Session.run server (a >>= f : Action β) x).2.1.requests =
      (Session.run server a x).2.1.requests ++
        match Session.run server a x with
        | (.ok v, _, y) => (Session.run server (f v) y).2.1.requests
        | (.error _, _, _) => [] := by
  rw [run_bind]
  rcases Session.run server a x with ⟨e | v, t, y⟩
  · exact (List.append_nil t.requests).symm
  · rfl

theorem requests_of_except (result : Except Error α) (x : σ) :
    (Session.run server (liftM result : Action α) x).2.1.requests = [] := rfl

/-- What follows a successful action is exchanged after it. -/
theorem exchanges_bind_ok (h : (Session.run server a x).1 = .ok v) (f : α → Action β) :
    Session.exchanges server (a >>= f : Action β) x =
      Session.exchanges server a x ++
        Session.exchanges server (f v) (Session.run server a x).2.2 := by
  rw [bind_eq, Session.exchanges_bind, ExceptT.run, h]
  rfl

/-- Nothing is exchanged after a failed action. -/
theorem exchanges_bind_error {e : Error} (h : (Session.run server a x).1 = .error e)
    (f : α → Action β) :
    Session.exchanges server (a >>= f : Action β) x = Session.exchanges server a x := by
  rw [bind_eq, Session.exchanges_bind, ExceptT.run, h]
  exact List.append_nil _

end Action

/-! ## One request -/

namespace Action

variable {α β : Type}

/-- Sends one request, and makes a result of what is answered. -/
def ask (r : Request) (result : Except Error Response → Except Error α) : Action α :=
  ExceptT.mk (.send r fun answer => .done (result answer))

/-- What follows a request goes on with its result, or ends with its error. -/
theorem ask_bind (r : Request) (result : Except Error Response → Except Error α)
    (f : α → Action β) :
    (ask r result >>= f : Action β) = ExceptT.mk (.send r fun answer =>
      match result answer with
      | .error e => .done (.error e)
      | .ok a => (f a).run) := by
  show Session.send _ _ = Session.send _ _
  congr 1
  funext answer
  show Session.andThen (.done (result answer)) _ = _
  rcases result answer with e | a
  · rfl
  · rfl

/-- A result can be made in two steps. -/
theorem ask_bind_except (r : Request) (result : Except Error Response → Except Error α)
    (f : α → Except Error β) :
    (ask r result >>= fun a => liftM (f a) : Action β) =
      ask r fun answer => result answer >>= f := by
  rw [ask_bind, ask]
  congr 2
  funext answer
  rcases result answer with e | a
  · rfl
  · rfl

theorem sendChecked_eq (r : Request) :
    sendChecked r = ask r fun answer => answer >>= Response.checked :=
  ask_bind_except r id Response.checked

theorem requests_sendChecked {σ : Type} (server : Session.Server σ) (r : Request) (x : σ) :
    (Session.run server (sendChecked r) x).2.1.requests = [r] := by
  rw [sendChecked_eq]
  rfl

theorem run_sendChecked {σ : Type} {server : Session.Server σ} {x y : σ} {r : Request}
    {response : Response} (hanswer : server r x = (.ok response, y))
    (hsuccess : response.isSuccess) :
    Session.run server (sendChecked r) x = (.ok response, { requests := [r] }, y) := by
  have hchecked : (.ok response >>= Response.checked : Except Error Response) = .ok response := by
    show response.checked = _
    rw [Response.checked, if_pos hsuccess]
  rw [sendChecked_eq, ask]
  simp only [ExceptT.mk, Session.run, hanswer, hchecked]

end Action

namespace Store

variable {ε : Type} {P : Request → Prop}

/-- The request that asks for hits. -/
def hitsRequest (pattern : String) (r : SearchRequest) : Request :=
  searchRequest pattern "_search" "search" [("typed_keys", "true")] r.toJson

/-- A search is one request. -/
theorem search_eq (pattern : String) (r : SearchRequest) :
    search pattern r = Action.ask (hitsRequest pattern r) fun answer =>
      answer >>= Response.checked >>= Response.read SearchAnswer.decode? := by
  rw [search, Action.sendChecked_eq, Action.ask_bind_except]
  rfl

/-- The lookup of a document is a search over the pattern. -/
theorem sends_findHit {pattern id : String}
    (h : P (searchRequest pattern "_search" "search" [("typed_keys", "true")]
      (idsRequest [id]).toJson)) : Session.Sends P (findHit pattern id) := by
  have hsearch : Session.Sends P (search pattern (idsRequest [id])) :=
    Action.sends_bind (Action.sends_sendChecked h) fun response =>
      Action.sends_of_except (response.read SearchAnswer.decode?)
  have hhits : Session.Sends P (hitsById pattern [id]) :=
    Action.sends_bind hsearch fun _ => trivial
  refine Action.sends_bind hhits fun hits => ?_
  rcases hits with _ | ⟨hit, hits⟩
  · trivial
  · trivial

/-- A document is written under its own id. -/
theorem sends_putDocument (schema : Schema ε) (index : String) (e : ε) :
    Session.Sends (fun r => r.path = pathOf [index, "_doc", schema.id e])
      (putDocument schema index e) := by
  refine Action.sends_bind (Action.sends_of_except (schema.encode e)) fun body => ?_
  exact Action.sends_bind (Action.sends_sendChecked rfl) fun _ => trivial

/-- What is deleted is the document with the id, in some index. -/
theorem sends_delete (schema : Schema ε) (id key : String) :
    Session.Sends (fun r => r.method = .delete → ∃ index, r.path = pathOf [index, "_doc", id])
      (delete schema id key) := by
  refine Action.sends_bind (sends_findHit nofun) fun hit => ?_
  exact Action.sends_bind (Action.sends_sendChecked fun _ => ⟨hit.index, rfl⟩) fun _ => trivial

end Store

end SearchStore
