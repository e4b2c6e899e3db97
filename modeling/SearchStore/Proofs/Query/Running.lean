import SearchStore.Proofs.Engine.Sending
import SearchStore.Query.Builder

/-! # What a query sends

A session of a query builder can fail, and it remembers the text of its last request.
`QueryAction.steps` is the session underneath, and the lemmas on it say what is left of two
sessions one after the other. To count is one request (`requests_count`), and to find is a count
and then a request for a page (`requests_find`).
-/

namespace SearchStore

namespace QueryAction

variable {α β σ : Type}

/-- The steps of a session of a query builder, given the text of the last request. -/
def steps (a : QueryAction α) (last : Option String) : Session (Except Error α × Option String) :=
  a.run.run last

variable {server : Session.Server σ} {a : QueryAction α} {v : α} {last last' : Option String}
  {t : Session.Trace} {x y : σ}

theorem run_remember (text : String) (last : Option String) (x : σ) :
    Session.run server ((remember text).steps last) x = ((.ok (), some text), {}, x) := rfl

theorem steps_bind (a : QueryAction α) (f : α → QueryAction β) (last : Option String) :
    (a >>= f).steps last = (do
      match ← a.steps last with
      | (.ok v, last) => (f v).steps last
      | (.error e, last) => return (.error e, last)) := by
  show Session.andThen _ _ = Session.andThen _ _
  congr 1
  funext ⟨result, last⟩
  cases result <;> rfl

/-- What follows a successful session. -/
theorem run_steps_bind_ok (h : Session.run server (a.steps last) x = ((.ok v, last'), t, y))
    (f : α → QueryAction β) :
    Session.run server ((a >>= f).steps last) x =
      ((Session.run server ((f v).steps last') y).1,
        t ++ (Session.run server ((f v).steps last') y).2.1,
        (Session.run server ((f v).steps last') y).2.2) := by
  rw [steps_bind]
  exact (Session.run_andThen server _ _ x).trans (by rw [h])

theorem run_steps_bind_error {e : Error}
    (h : Session.run server (a.steps last) x = ((.error e, last'), t, y)) (f : α → QueryAction β) :
    Session.run server ((a >>= f).steps last) x = ((.error e, last'), t, y) := by
  rw [steps_bind]
  refine (Session.run_andThen server _ _ x).trans ?_
  rw [h]
  simp [pure, Session.run, Session.Trace.append_def]

/-- To change the result takes no requests. -/
theorem requests_map (f : α → β) (a : QueryAction α) (last : Option String) (x : σ) :
    (Session.run server ((f <$> a).steps last) x).2.1.requests =
      (Session.run server (a.steps last) x).2.1.requests := by
  rw [← bind_pure_comp]
  rcases hrun : Session.run server (a.steps last) x with ⟨⟨e | v, last'⟩, t, y⟩
  · rw [run_steps_bind_error hrun]
  · rw [run_steps_bind_ok hrun]
    exact List.append_nil t.requests

theorem run_ofAction (a : Action α) (last : Option String) (x : σ) :
    Session.run server ((ofAction a).steps last) x =
      (((Session.run server a x).1, last), (Session.run server a x).2.1,
        (Session.run server a x).2.2) := by
  refine (Session.run_andThen server a.run _ x).trans ?_
  simp only [pure, Session.run, Session.Trace.append_def, List.append_nil, Nat.add_zero]
  rfl

end QueryAction

namespace Store

/-- The request that counts what a query matches. -/
def countRequest (pattern : String) (q : Query) : Request :=
  searchRequest pattern "_count" "count" [] ({ query := some q } : CountRequest).toJson

/-- A count is one request. -/
theorem count_eq (pattern : String) (q : Query) :
    count pattern { query := some q } = Action.ask (countRequest pattern q) fun answer =>
      answer >>= Response.checked >>= fun response =>
        (response.read CountAnswer.decode?).map CountAnswer.count := by
  have hread : count pattern { query := some q } = (Action.sendChecked (countRequest pattern q) >>=
      fun response => liftM ((response.read CountAnswer.decode?).map CountAnswer.count) :
        Action Nat) := by
    refine bind_congr fun response => ?_
    cases response.read CountAnswer.decode? <;> rfl
  rw [hread, Action.sendChecked_eq, Action.ask_bind_except]

end Store

namespace QueryBuilder

variable {ε σ : Type} {server : Session.Server σ}

theorem run_forM_tell (ms : List Metric) (last : Option String) (x : σ) :
    Session.run server
      ((ms.forM fun m => QueryAction.ofAction (Action.tell (.metric m))).steps last) x =
        ((.ok (), last), { reports := ms.map .metric }, x) := by
  induction ms with
  | nil => rfl
  | cons m rest ih =>
    have hfirst : Session.run server
        ((QueryAction.ofAction (Action.tell (.metric m))).steps last) x =
          ((.ok (), last), { reports := [.metric m] }, x) := rfl
    rw [List.forM, QueryAction.run_steps_bind_ok hfirst, ih]
    simp [Session.Trace.append_def]

/-- The filters that are left out are reported before anything else. -/
theorem run_reportDropped (config : StoreConfig) (b : QueryBuilder ε) (last : Option String)
    (x : σ) :
    Session.run server ((b.reportDropped config).steps last) x =
      ((.ok (), last), { reports := (b.selection config).metrics.map .metric }, x) :=
  run_forM_tell _ last x

/-- A count sends one request. -/
theorem requests_count (s : Store) (schema : Schema ε) (b : QueryBuilder ε)
    (last : Option String) (x : σ) :
    (Session.run server ((b.count s schema).steps last) x).2.1.requests =
      [Store.countRequest (b.pattern schema) (b.selection s.config).toQuery] := by
  have hcount : b.count s schema = (b.reportDropped s.config >>= fun _ =>
      QueryAction.remember
        ({ query := some (b.selection s.config).toQuery } : CountRequest).text >>= fun _ =>
      QueryAction.ofAction (Store.count (b.pattern schema)
        { query := some (b.selection s.config).toQuery }) : QueryAction Nat) := by
    simp [count, query]
  rw [hcount, QueryAction.run_steps_bind_ok (run_reportDropped s.config b _ _),
    QueryAction.run_steps_bind_ok (QueryAction.run_remember _ _ _), QueryAction.run_ofAction,
    Store.count_eq]
  rfl

/-- To find the hits of a page sends the count, and unless that fails a request for the page. -/
theorem requests_find (s : Store) (schema : Schema ε) (b : QueryBuilder ε)
    (last : Option String) (x : σ) :
    (Session.run server ((b.find s schema).steps last) x).2.1.requests =
      Store.countRequest (b.pattern schema) (b.selection s.config).toQuery ::
        match (Session.run server ((b.count s schema).steps last) x).1.1 with
        | .ok _ => [Store.hitsRequest (b.pattern schema) (b.compile s.config)]
        | .error _ => [] := by
  have hfind : b.find s schema = (b.count s schema >>= fun total =>
      b.reportDropped s.config >>= fun _ =>
      QueryAction.remember (b.compile s.config).text >>= fun _ =>
      (fun answer => (b.decodeHits schema answer.hits.hits, total)) <$>
        QueryAction.ofAction (Store.search (b.pattern schema) (b.compile s.config)) :
          QueryAction (List ε × Nat)) := by
    simp [find, compiled]
  have hcount : (Session.run server ((b.count s schema).steps last) x).2.1.requests =
      [Store.countRequest (b.pattern schema) (b.selection s.config).toQuery] :=
    requests_count s schema b last x
  rw [hfind]
  rcases hrun : Session.run server ((b.count s schema).steps last) x with ⟨⟨e | total, last'⟩, t, y⟩
  · rw [hrun] at hcount
    rw [QueryAction.run_steps_bind_error hrun]
    exact hcount
  · rw [hrun] at hcount
    have hsearch (last : Option String) (y : σ) : (Session.run server ((QueryAction.ofAction
        (Store.search (b.pattern schema) (b.compile s.config))).steps last) y).2.1.requests =
          [Store.hitsRequest (b.pattern schema) (b.compile s.config)] := by
      rw [QueryAction.run_ofAction, Store.search_eq]
      rfl
    rw [QueryAction.run_steps_bind_ok hrun, QueryAction.run_steps_bind_ok (run_reportDropped s.config b _ _),
      QueryAction.run_steps_bind_ok (QueryAction.run_remember _ _ _)]
    simp only [Session.Trace.append_def, List.nil_append, QueryAction.requests_map, hsearch,
      show t.requests = _ from hcount, List.singleton_append]

end QueryBuilder

end SearchStore
