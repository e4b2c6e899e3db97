import SearchStore.Proofs.Store.Lookup

/-! # Writes of single documents

A call that writes one document looks a document up, and then sends one request more or none at
all (`Write.perform_eq`). `Write.Refuses` lists why there is none, `Write.Orders` which one there
is otherwise, and `Write.perform_spec` says that a call does just that, whatever the server answers:
everything that can go wrong before the document is written goes wrong before the engine is asked to
write it.
-/

namespace SearchStore

/-! ## Actions of two requests -/

namespace Action

variable {α σ : Type}

/-- An action goes on with another value than its error, for some errors. -/
theorem ifNotFound_ask (default : α) (r : Request)
    (result : Except Error Response → Except Error α) :
    Store.ifNotFound default (ask r result) = ask r fun answer =>
      match result answer with
      | .error e => if e.isNotFound then .ok default else .error e
      | .ok a => .ok a := by
  show Session.send _ _ = Session.send _ _
  congr 1
  funext answer
  show Session.andThen (.done (result answer)) _ = .done _
  rcases hresult : result answer with e | a
  · by_cases hmissing : e.isNotFound
    · simp only [Session.andThen, hresult, if_pos hmissing]
      rfl
    · simp only [Session.andThen, hresult, if_neg hmissing]
      rfl
  · simp only [Session.andThen, hresult]
    rfl

end Action

namespace Store

variable {ε σ : Type} {schema : Schema ε}

/-- The request that deletes a document. -/
def deleteRequest (index id : String) : Request :=
  { method := .delete, path := pathOf [index, "_doc", id], operation := "delete" }

/-- The request that writes an entity into an index. -/
def entityRequest (schema : Schema ε) (index : String) (e : ε) : Except Error Request := do
  return putRequest index (schema.id e) (← schema.encode e)

/-- A request whose answer is only looked at for success. -/
theorem sendChecked_discard (r : Request) :
    (Action.sendChecked r >>= fun _ => pure () : Action Unit) = Action.ask r accepted := by
  have hsent := Action.ask_bind_except r (fun answer => answer >>= Response.checked) fun _ => .ok ()
  rw [← Action.sendChecked_eq] at hsent
  simp only [bind_assoc] at hsent
  exact hsent

theorem putDocument_eq_ask (schema : Schema ε) (index : String) (e : ε) :
    putDocument schema index e =
      (liftM (entityRequest schema index e) >>= fun r => Action.ask r accepted : Action Unit) := by
  rcases hencode : schema.encode e with error | body
  · rw [putDocument, entityRequest, hencode]
    rfl
  · rw [putDocument_eq schema index e hencode, entityRequest, hencode]
    rfl

/-- The request that writes a document with members of it set. -/
def changedRequest (schema : Schema ε) (fields : List (String × Json)) (hit : Hit) :
    Except Error Request := do
  let (target, doc) ← schema.changed fields hit.source
  return putRequest hit.index target doc

theorem setFields_eq_ask (schema : Schema ε) (id : String) (fields : List (String × Json))
    (key : String) :
    setFields schema id fields key =
      (Action.ask (lookupRequest (schema.pattern key) [id]) (fun answer =>
        firstHit (schema.pattern key) id answer >>= changedRequest schema fields) >>= fun r =>
          Action.ask r accepted : Action Unit) := by
  rw [setFields_eq, Action.ask_bind]
  show Session.send _ _ = Session.send _ _
  congr 1
  funext answer
  rcases firstHit (schema.pattern key) id answer with error | hit
  · rfl
  · simp only [changedRequest, bind, Except.bind]
    rcases schema.changed fields hit.source with error | ⟨target, doc⟩
    · rfl
    · rfl

/-! ## Answers to lookups -/

/-- The answer to a lookup shows a document, before all others. -/
def Shows (answer : Except Error Response) (hit : Hit) : Prop :=
  ∃ response found rest, answer = .ok response ∧ response.isSuccess = true ∧
    (bodyDraft? response.body).bind SearchAnswer.decode? = some found ∧
      found.hits.hits = hit :: rest

/-- Why the answer to a lookup shows no document. -/
inductive Fails (pattern id : String) : Except Error Response → Error → Prop
  | transport (error : Error) : Fails pattern id (.error error) error
  | status {response : Response} (h : response.isSuccess = false) :
      Fails pattern id (.ok response) (.ofEngine response.status response.body)
  | unreadable {response : Response} (h : response.isSuccess = true)
      (hread : (bodyDraft? response.body).bind SearchAnswer.decode? = none) :
      Fails pattern id (.ok response) .json
  | empty {response : Response} {found : SearchAnswer} (h : response.isSuccess = true)
      (hread : (bodyDraft? response.body).bind SearchAnswer.decode? = some found)
      (hnone : found.hits.hits = []) :
      Fails pattern id (.ok response) (.notFound (id ++ " in " ++ pattern))

theorem fails_or_shows (pattern id : String) (answer : Except Error Response) :
    (∃ error, Fails pattern id answer error) ∨ ∃ hit, Shows answer hit := by
  rcases answer with error | response
  · exact .inl ⟨error, .transport error⟩
  by_cases hsuccess : response.isSuccess
  · rcases hread : (bodyDraft? response.body).bind SearchAnswer.decode? with _ | found
    · exact .inl ⟨_, .unreadable hsuccess hread⟩
    · rcases hhits : found.hits.hits with _ | ⟨hit, rest⟩
      · exact .inl ⟨_, .empty hsuccess hread hhits⟩
      · exact .inr ⟨hit, response, found, rest, rfl, hsuccess, hread, hhits⟩
  · exact .inl ⟨_, .status (by simpa using hsuccess)⟩

theorem shows_iff {answer : Except Error Response} {hit : Hit} :
    Shows answer hit ↔ ∃ rest, shownHits answer = .ok (hit :: rest) := by
  have hread (response : Response) (found : SearchAnswer) :
      response.read SearchAnswer.decode? = .ok found ↔
        (bodyDraft? response.body).bind SearchAnswer.decode? = some found := by
    rw [Response.read]
    rcases (bodyDraft? response.body).bind SearchAnswer.decode? with _ | found' <;> simp
  simp only [Shows, shownHits_eq_ok_iff, hread]
  constructor
  · rintro ⟨response, found, rest, h⟩
    exact ⟨rest, response, found, h⟩
  · rintro ⟨rest, response, found, h⟩
    exact ⟨response, found, rest, h⟩

theorem Shows.firstHit {answer : Except Error Response} {hit : Hit} (h : Shows answer hit)
    {pattern id : String} : firstHit pattern id answer = .ok hit :=
  firstHit_eq_ok_iff.mpr (shows_iff.mp h)

theorem Fails.firstHit {answer : Except Error Response} {pattern id : String} {error : Error}
    (h : Fails pattern id answer error) : firstHit pattern id answer = .error error := by
  cases h with
  | transport => rfl
  | status h => simp [Store.firstHit, shownHits, Response.checked, h, bind, Except.bind]
  | unreadable h hread =>
    simp [Store.firstHit, shownHits, Response.checked, Response.read, h, hread, bind, Except.bind]
  | empty h hread hnone =>
    simp [Store.firstHit, shownHits, Response.checked, Response.read, h, hread, hnone, bind,
      Except.bind, pure, Except.pure, throw, throwThe, MonadExceptOf.throw]

end Store

/-! ## Documents that do not get their members set -/

namespace Schema

variable {ε : Type} {schema : Schema ε} {fields : List (String × Json)} {source : Json}
  {error : Error}

/-- Why nothing becomes of a document whose members are to be set. -/
inductive Unchangeable (schema : Schema ε) (fields : List (String × Json)) (source : Json) :
    Error → Prop
  /-- The document cannot be read. -/
  | unread (h : schema.decode? source = none) : Unchangeable schema fields source .json
  /-- The entity that is read cannot be written. -/
  | unwritten {e : ε} (hread : schema.decode? source = some e) (h : schema.encode? e = none) :
      Unchangeable schema fields source .json
  /-- The entity that is read is not written as an object. -/
  | memberless {e : ε} {j : Json} (hread : schema.decode? source = some e)
      (h : schema.encode? e = some j) (hobj : ∀ members, j ≠ .obj members) :
      Unchangeable schema fields source (.conversion "_source" j.render)
  /-- The members that are set leave no entity. -/
  | unmerged {e : ε} {members : List (String × Json)} (hread : schema.decode? source = some e)
      (hwritten : schema.encode? e = some (.obj members))
      (h : schema.decode? (.obj (overwrite members fields)) = none) :
      Unchangeable schema fields source .json
  /-- The changed entity cannot be written. -/
  | lost {e e' : ε} {members : List (String × Json)} (hread : schema.decode? source = some e)
      (hwritten : schema.encode? e = some (.obj members))
      (hmerged : schema.decode? (.obj (overwrite members fields)) = some e')
      (h : schema.encode? e' = none) : Unchangeable schema fields source .json

theorem Unchangeable.changed_eq (h : schema.Unchangeable fields source error) :
    schema.changed fields source = .error error := by
  cases h with
  | unread h => simp [changed, decode, h, bind, Except.bind]
  | unwritten hread h => simp [changed, decode, merge, encode, hread, h, bind, Except.bind]
  | @memberless e j hread h hobj =>
    have hmerge : schema.merge e fields = .error (.conversion "_source" j.render) := by
      cases j with
      | obj members => exact absurd rfl (hobj members)
      | null | bool | int | real | str | arr => simp [merge, encode, h, bind, Except.bind]
    simp [changed, decode, hread, hmerge, bind, Except.bind]
  | unmerged hread hwritten h =>
    simp [changed, decode, merge, encode, hread, hwritten, h, bind, Except.bind]
  | lost hread hwritten hmerged h =>
    simp [changed, decode, merge, encode, hread, hwritten, hmerged, h, bind, Except.bind]

/-- Something becomes of every other document. -/
theorem unchangeable_or_changed (schema : Schema ε) (fields : List (String × Json))
    (source : Json) : (∃ error, schema.Unchangeable fields source error) ∨
      ∃ target doc, schema.changed fields source = .ok (target, doc) := by
  rcases hread : schema.decode? source with _ | e
  · exact .inl ⟨_, .unread hread⟩
  rcases hwritten : schema.encode? e with _ | j
  · exact .inl ⟨_, .unwritten hread hwritten⟩
  by_cases hobj : ∀ members, j ≠ .obj members
  · exact .inl ⟨_, .memberless hread hwritten hobj⟩
  obtain ⟨members, rfl⟩ : ∃ members, j = .obj members := by simpa using hobj
  rcases hmerged : schema.decode? (.obj (overwrite members fields)) with _ | e'
  · exact .inl ⟨_, .unmerged hread hwritten hmerged⟩
  rcases hdoc : schema.encode? e' with _ | doc
  · exact .inl ⟨_, .lost hread hwritten hmerged hdoc⟩
  · refine .inr ⟨schema.id e', doc, ?_⟩
    simp [changed, decode, merge, encode, hread, hwritten, hmerged, hdoc, bind, Except.bind, pure,
      Except.pure]

end Schema

/-! ## Calls -/

/-- A call that writes one document. -/
inductive Write (ε : Type)
  | update (e : ε)
  | upsert (e : ε)
  | delete (id key : String)
  | setField (id field : String) (value : Json) (key : String)
  | setFields (id : String) (fields : List (String × Json)) (key : String)

namespace Write

variable {ε σ : Type}

def perform (s : Store) (schema : Schema ε) : Write ε → Action Unit
  | .update e => Store.update schema e
  | .upsert e => s.upsert schema e
  | .delete id key => Store.delete schema id key
  | .setField id field value key => Store.setField schema id field value key
  | .setFields id fields key => Store.setFields schema id fields key

/-- The id of the document that is looked up. -/
def id (schema : Schema ε) : Write ε → String
  | .update e | .upsert e => schema.id e
  | .delete id _ | .setField id _ _ _ | .setFields id _ _ => id

/-- The indices in which the document is looked up. -/
def pattern (schema : Schema ε) : Write ε → String
  | .update e | .upsert e => schema.pattern (schema.key e)
  | .delete _ key | .setField _ _ _ key | .setFields _ _ key => schema.pattern key

/-- The entity that is written as it is given. -/
def entity? : Write ε → Option ε
  | .update e | .upsert e => some e
  | _ => none

/-- The members that are set in the document that is found. -/
def fields? : Write ε → Option (List (String × Json))
  | .setField _ field value _ => some [(field, value)]
  | .setFields _ fields _ => some fields
  | _ => none

/-- The lookup. -/
def lookup (schema : Schema ε) (w : Write ε) : Request :=
  Store.lookupRequest (w.pattern schema) [w.id schema]

/-- Whether the call writes a document that is not there yet. -/
def creates : Write ε → Bool
  | .upsert _ => true
  | _ => false

/-- What is sent after the lookup, by the answer to it. -/
def plan (s : Store) (schema : Schema ε) (answer : Except Error Response) (w : Write ε) :
    Except Error Request :=
  let found := Store.firstHit (w.pattern schema) (w.id schema) answer
  match w with
  | .update e => found >>= fun hit => Store.entityRequest schema hit.index e
  | .upsert e =>
    (match found with
      | .ok hit => .ok hit.index
      | .error error =>
        if error.isNotFound then .ok (schema.index (schema.key e) s.today) else .error error) >>=
      fun index => Store.entityRequest schema index e
  | .delete id _ => found >>= fun hit => .ok (Store.deleteRequest hit.index id)
  | .setField _ field value _ => found >>= Store.changedRequest schema [(field, value)]
  | .setFields _ fields _ => found >>= Store.changedRequest schema fields

/-- A call is a lookup, and a request if the answer calls for one. -/
theorem perform_eq (s : Store) (schema : Schema ε) (w : Write ε) :
    w.perform s schema =
      (Action.ask (w.lookup schema) (fun answer => w.plan s schema answer) >>= fun r =>
        Action.ask r Store.accepted : Action Unit) := by
  cases w with
  | update e =>
    show Store.update schema e = _
    rw [Store.update, Store.indexOf, Store.findHit_eq, bind_assoc]
    simp only [pure_bind, Store.putDocument_eq_ask]
    rw [← bind_assoc, Action.ask_bind_except]
    rfl
  | upsert e =>
    show s.upsert schema e = _
    have hindex : Store.indexOf schema e = Action.ask ((Write.upsert e).lookup schema)
        fun answer => Store.firstHit (schema.pattern (schema.key e)) (schema.id e) answer >>=
          fun hit => .ok hit.index := by
      rw [Store.indexOf, Store.findHit_eq]
      exact Action.ask_bind_except _ _ _
    rw [Store.upsert, hindex, Action.ifNotFound_ask]
    simp only [Store.putDocument_eq_ask]
    rw [← bind_assoc, Action.ask_bind_except]
    congr 2
    funext answer
    simp only [plan, pattern, id]
    rcases Store.firstHit (schema.pattern (schema.key e)) (schema.id e) answer with error | hit
    · rfl
    · rfl
  | delete id key =>
    show Store.delete schema id key = _
    have hplan := Action.ask_bind_except ((Write.delete id key).lookup schema)
      (Store.firstHit (schema.pattern key) id) fun hit => .ok (Store.deleteRequest hit.index id)
    rw [Store.delete, Store.findHit_eq]
    simp only [plan, pattern, Write.id]
    rw [← hplan, bind_assoc]
    exact bind_congr fun hit => Store.sendChecked_discard _
  | setField id field value key => exact Store.setFields_eq_ask schema id [(field, value)] key
  | setFields id fields key => exact Store.setFields_eq_ask schema id fields key

/-! ## What a call does -/

section Outcome

variable (s : Store) (schema : Schema ε) (answer : Except Error Response)

/-- The index that a call writes into: that of the first document that is found, and for a document
that is not there yet the index of the day. -/
inductive Aims : Write ε → String → Prop
  | found {w : Write ε} {hit : Hit} (h : Store.Shows answer hit) : Aims w hit.index
  | fresh {e : ε} {error : Error}
      (h : Store.Fails (schema.pattern (schema.key e)) (schema.id e) answer error)
      (hmissing : error.isNotFound = true) :
      Aims (.upsert e) (schema.index (schema.key e) s.today)

/-- Why a call sends nothing after its lookup. -/
inductive Refuses : Write ε → Error → Prop
  /-- The lookup fails, or finds nothing where something has to be. -/
  | lookup {w : Write ε} {error : Error}
      (h : Store.Fails (w.pattern schema) (w.id schema) answer error)
      (hneeded : w.creates = true → error.isNotFound = false) : Refuses w error
  /-- The entity cannot be written. -/
  | entity {w : Write ε} {e : ε} {index : String} (hentity : w.entity? = some e)
      (haims : Aims s schema answer w index) (h : schema.encode? e = none) : Refuses w .json
  /-- The document that is found does not get its members set. -/
  | document {w : Write ε} {fields : List (String × Json)} {hit : Hit} {error : Error}
      (hfields : w.fields? = some fields) (hshows : Store.Shows answer hit)
      (h : schema.Unchangeable fields hit.source error) : Refuses w error

/-- What a call sends after its lookup. -/
inductive Orders : Write ε → Request → Prop
  | entity {w : Write ε} {e : ε} {index : String} {body : Json} (hentity : w.entity? = some e)
      (haims : Aims s schema answer w index) (h : schema.encode? e = some body) :
      Orders w (Store.putRequest index (schema.id e) body)
  | delete {id key : String} {hit : Hit} (hshows : Store.Shows answer hit) :
      Orders (.delete id key) (Store.deleteRequest hit.index id)
  | document {w : Write ε} {fields : List (String × Json)} {hit : Hit} {target : String}
      {doc : Json} (hfields : w.fields? = some fields) (hshows : Store.Shows answer hit)
      (h : schema.changed fields hit.source = .ok (target, doc)) :
      Orders w (Store.putRequest hit.index target doc)

end Outcome

section Plan

variable {s : Store} {schema : Schema ε} {answer : Except Error Response} {w : Write ε}
  {error : Error} {r : Request} {hit : Hit} {fields : List (String × Json)} {e : ε}
  {index : String}

theorem plan_of_entity (hentity : w.entity? = some e) (haims : Aims s schema answer w index) :
    w.plan s schema answer = Store.entityRequest schema index e := by
  cases haims with
  | found hshows =>
    cases w with
    | update e' | upsert e' =>
      obtain rfl := Option.some.inj hentity
      simp only [plan, hshows.firstHit]
      rfl
    | delete | setField | setFields => exact nomatch hentity
  | fresh hfails hmissing =>
    obtain rfl := Option.some.inj hentity
    have hfirst := hfails.firstHit
    simp only [plan, pattern, Write.id, hfirst, hmissing]
    rfl

theorem plan_of_fields (hfields : w.fields? = some fields) (hshows : Store.Shows answer hit) :
    w.plan s schema answer = Store.changedRequest schema fields hit := by
  cases w with
  | setField | setFields =>
    obtain rfl := Option.some.inj hfields
    simp only [plan, hshows.firstHit]
    rfl
  | update | upsert | delete => exact nomatch hfields

theorem Refuses.plan_eq (h : Refuses s schema answer w error) :
    w.plan s schema answer = .error error := by
  cases h with
  | lookup hfails hneeded =>
    cases w with
    | upsert e =>
      have hexists := hneeded rfl
      simp only [plan, hfails.firstHit, hexists]
      rfl
    | update | delete | setField | setFields =>
      simp only [plan, hfails.firstHit]
      rfl
  | entity hentity haims h =>
    rw [plan_of_entity hentity haims, Store.entityRequest, Schema.encode, h]
    rfl
  | document hfields hshows h =>
    rw [plan_of_fields hfields hshows, Store.changedRequest, h.changed_eq]
    rfl

theorem Orders.plan_eq (h : Orders s schema answer w r) : w.plan s schema answer = .ok r := by
  cases h with
  | entity hentity haims h =>
    rw [plan_of_entity hentity haims, Store.entityRequest, Schema.encode, h]
    rfl
  | delete hshows =>
    simp only [plan, hshows.firstHit]
    rfl
  | document hfields hshows h =>
    rw [plan_of_fields hfields hshows, Store.changedRequest, h]
    rfl

/-- There is always one or the other. -/
theorem refuses_or_orders (s : Store) (schema : Schema ε) (answer : Except Error Response)
    (w : Write ε) :
    (∃ error, Refuses s schema answer w error) ∨ ∃ r, Orders s schema answer w r := by
  have hentity {e : ε} {index : String} (hentity : w.entity? = some e)
      (haims : Aims s schema answer w index) :
      (∃ error, Refuses s schema answer w error) ∨ ∃ r, Orders s schema answer w r := by
    rcases h : schema.encode? e with _ | body
    · exact .inl ⟨_, .entity hentity haims h⟩
    · exact .inr ⟨_, .entity hentity haims h⟩
  have hdocument {fields : List (String × Json)} {hit : Hit} (hfields : w.fields? = some fields)
      (hshows : Store.Shows answer hit) :
      (∃ error, Refuses s schema answer w error) ∨ ∃ r, Orders s schema answer w r := by
    rcases schema.unchangeable_or_changed fields hit.source with ⟨error, h⟩ | ⟨target, doc, h⟩
    · exact .inl ⟨_, .document hfields hshows h⟩
    · exact .inr ⟨_, .document hfields hshows h⟩
  rcases Store.fails_or_shows (w.pattern schema) (w.id schema) answer with
    ⟨error, hfails⟩ | ⟨hit, hshows⟩
  · cases w with
    | upsert e =>
      rcases hmissing : error.isNotFound with _ | _
      · exact .inl ⟨_, .lookup hfails fun _ => hmissing⟩
      · exact hentity rfl (.fresh hfails hmissing)
    | update | delete | setField | setFields => exact .inl ⟨_, .lookup hfails nofun⟩
  · cases w with
    | update | upsert => exact hentity rfl (.found hshows)
    | delete => exact .inr ⟨_, .delete hshows⟩
    | setField | setFields => exact hdocument rfl hshows

/-- What is sent after the lookup puts or deletes a document in the index that is aimed at. -/
theorem Orders.shape (h : Orders s schema answer w r) :
    (r.method = .put ∨ r.method = .delete) ∧
      ∃ index id, Aims s schema answer w index ∧ r.path = pathOf [index, "_doc", id] := by
  cases h with
  | entity hentity haims h => exact ⟨.inl rfl, _, _, haims, rfl⟩
  | delete hshows => exact ⟨.inr rfl, _, _, .found hshows, rfl⟩
  | document hfields hshows h => exact ⟨.inl rfl, _, _, .found hshows, rfl⟩

section Run

variable {server : Session.Server σ} {x : σ}

/-- A refusal ends the call, and nothing is sent after the lookup. -/
theorem Refuses.run_eq (h : Refuses s schema (server (w.lookup schema) x).1 w error) :
    Session.exchanges server (w.perform s schema) x =
        [(w.lookup schema, (server (w.lookup schema) x).1)] ∧
      (Session.run server (w.perform s schema) x).1 = .error error ∧
      (Session.run server (w.perform s schema) x).2.2 = (server (w.lookup schema) x).2 := by
  simp only [perform_eq, Action.ask_bind, ExceptT.mk, Session.exchanges, Session.run, h.plan_eq]
  exact ⟨trivial, trivial, trivial⟩

/-- An order is sent right after the lookup, and the answer to it decides. -/
theorem Orders.run_eq (h : Orders s schema (server (w.lookup schema) x).1 w r) :
    let answer := server r (server (w.lookup schema) x).2
    Session.exchanges server (w.perform s schema) x =
        [(w.lookup schema, (server (w.lookup schema) x).1), (r, answer.1)] ∧
      (Session.run server (w.perform s schema) x).1 = Store.accepted answer.1 ∧
      (Session.run server (w.perform s schema) x).2.2 = answer.2 := by
  simp only [perform_eq, Action.ask_bind, ExceptT.mk, Session.exchanges, Session.run, h.plan_eq]
  exact ⟨rfl, rfl, rfl⟩

end Run

end Plan

/-- Every call that writes one document begins with one search, whose answer either calls for an
error or for one request. With an error nothing more is sent, so that the engine is as the search
has left it. Otherwise the request is the last one: it puts or deletes a document in the index in
which the search has found the first one, or, for an upsert of a document that is not there, in the
index of the day. -/
theorem perform_spec (s : Store) (schema : Schema ε) (w : Write ε) (server : Session.Server σ)
    (x : σ) :
    let lookup := w.lookup schema
    let answer := (server lookup x).1
    let result := Session.run server (w.perform s schema) x
    let sent := Session.exchanges server (w.perform s schema) x
    lookup.method = .post ∧ lookup.path = pathOf [w.pattern schema, "_search"] ∧
    ((∃ error, Refuses s schema answer w error) ∨ ∃ r, Orders s schema answer w r) ∧
    (∀ error, Refuses s schema answer w error →
      sent = [(lookup, answer)] ∧ result.1 = .error error ∧ result.2.2 = (server lookup x).2) ∧
    (∀ r, Orders s schema answer w r →
      (∃ written, sent = [(lookup, answer), (r, written)] ∧ result.1 = Store.accepted written) ∧
      (r.method = .put ∨ r.method = .delete) ∧
      ∃ index id, Aims s schema answer w index ∧ r.path = pathOf [index, "_doc", id]) := by
  intro lookup answer result sent
  refine ⟨rfl, rfl, refuses_or_orders s schema answer w, fun _ h => h.run_eq, fun r h => ?_⟩
  obtain ⟨hsent, hresult, -⟩ := h.run_eq
  exact ⟨⟨_, hsent, hresult⟩, h.shape⟩

end Write

end SearchStore
