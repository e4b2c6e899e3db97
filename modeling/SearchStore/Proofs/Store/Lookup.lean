import SearchStore.Proofs.Engine.Sending
import SearchStore.Proofs.Json.Record
import SearchStore.Proofs.Store.Location

/-! # Lookups and rewritings as requests

A lookup of documents by id is one request, and what is found is a function of
the answer (`hitsById_eq`, `findHit_eq`). To set fields of a document takes two:
a lookup, and a request that writes the changed document in the place where the
lookup has found it. `setFields_eq` says so once and for all: what is written is
`Schema.changed`, and what goes wrong before ends the action.
-/

namespace SearchStore

/-! ## What is found -/

namespace Store

/-- The documents that the answer to a search shows. -/
def shownHits (answer : Except Error Response) : Except Error (List Hit) := do
  let response ← (← answer).checked
  return (← response.read SearchAnswer.decode?).hits.hits

/-- The first document that the answer to a lookup shows. -/
def firstHit (pattern id : String) (answer : Except Error Response) : Except Error Hit := do
  match ← shownHits answer with
  | hit :: _ => return hit
  | [] => throw (.notFound (id ++ " in " ++ pattern))

theorem hitsById_eq (pattern : String) {ids : List String} (h : ids ≠ []) :
    hitsById pattern ids = Action.ask (lookupRequest pattern ids) shownHits := by
  have hids : ids.isEmpty = false := by simpa using h
  have hshown := Action.ask_bind_except (lookupRequest pattern ids)
    (fun answer => answer >>= Response.checked >>= Response.read SearchAnswer.decode?)
    fun answer => .ok answer.hits.hits
  have hsearch := search_eq pattern (idsRequest ids)
  simp only [bind_assoc] at hshown hsearch
  rw [hitsById, hids, if_neg Bool.false_ne_true, hsearch]
  exact hshown

theorem findHit_eq (pattern id : String) :
    findHit pattern id = Action.ask (lookupRequest pattern [id]) (firstHit pattern id) := by
  rw [findHit, hitsById_eq pattern (List.cons_ne_nil id []), Action.ask_bind, Action.ask]
  congr 2
  funext answer
  unfold firstHit
  rcases shownHits answer with e | _ | ⟨hit, rest⟩
  · rfl
  · rfl
  · rfl

theorem firstHit_eq_ok_iff {pattern id : String} {answer : Except Error Response} {hit : Hit} :
    firstHit pattern id answer = .ok hit ↔ ∃ rest, shownHits answer = .ok (hit :: rest) := by
  unfold firstHit
  rcases shownHits answer with e | _ | ⟨first, rest⟩
  · simp [bind, Except.bind]
  · simp [bind, Except.bind, throw, throwThe, MonadExceptOf.throw]
  · simp [bind, Except.bind, pure, Except.pure]

theorem firstHit_of_shown (pattern id : String) {answer : Except Error Response} {hit : Hit}
    {rest : List Hit} (h : shownHits answer = .ok (hit :: rest)) :
    firstHit pattern id answer = .ok hit :=
  firstHit_eq_ok_iff.mpr ⟨rest, h⟩

/-- Only an answer that is a success and can be read shows documents. -/
theorem shownHits_eq_ok_iff {answer : Except Error Response} {hits : List Hit} :
    shownHits answer = .ok hits ↔ ∃ response found, answer = .ok response ∧
      response.isSuccess = true ∧ response.read SearchAnswer.decode? = .ok found ∧
      found.hits.hits = hits := by
  rcases answer with e | response
  · simp [shownHits, bind, Except.bind]
  · by_cases hsuccess : response.isSuccess
    · rcases hread : response.read SearchAnswer.decode? with e | found
      · simp [shownHits, Response.checked, hsuccess, hread, bind, Except.bind]
      · simp [shownHits, Response.checked, hsuccess, hread, bind, Except.bind, pure, Except.pure]
    · simp [shownHits, Response.checked, hsuccess, bind, Except.bind]

end Store

/-! ## What is found is in canonical form -/

theorem Hit.exists_canonical {d : Json.Draft} {hit : Hit} (h : decode? d = some hit) :
    ∃ j : Json, hit.source = j.canonical := by
  simp only [decode?, Option.bind_eq_bind, Option.bind_eq_some_iff, Option.pure_def,
    Option.some.injEq] at h
  obtain ⟨-, -, -, -, -, -, j, -, rfl⟩ := h
  exact ⟨j, rfl⟩

theorem SearchAnswer.exists_hit {d : Json.Draft} {answer : SearchAnswer}
    (h : decode? d = some answer) {hit : Hit} (hmem : hit ∈ answer.hits.hits) :
    ∃ d, Hit.decode? d = some hit := by
  simp only [decode?, Option.bind_eq_bind, Option.bind_eq_some_iff, Option.pure_def,
    Option.some.injEq] at h
  obtain ⟨_, _, _, _, _, _, hits, hhits, _, _, rfl⟩ := h
  rcases Json.of_withDefault hhits with rfl | ⟨part, hpart⟩
  · exact absurd hmem List.not_mem_nil
  · simp only [Hits.decode?, Option.bind_eq_bind, Option.bind_eq_some_iff, Option.pure_def,
      Option.some.injEq] at hpart
    obtain ⟨_, _, _, _, items, hitems, rfl⟩ := hpart
    rcases Json.of_withDefault hitems with rfl | ⟨array, harray⟩
    · exact absurd hmem List.not_mem_nil
    · obtain ⟨drafts, -, hdrafts⟩ := Option.bind_eq_some_iff.mp harray
      obtain ⟨item, -, hitem⟩ := Json.of_mapM hdrafts hit hmem
      exact ⟨item, hitem⟩

/-! ## Documents of strings -/

/-- The members of an object of strings. -/
def Json.strings? (j : Json) : Option (List (String × String)) := do
  (← j.asMembers?).mapM fun m => (m.2.asString?).map (m.1, ·)

/-- An object of strings. -/
def Json.ofStringMembers (members : List (String × String)) : Json :=
  .obj (members.map fun m => (m.1, .str m.2))

theorem Json.eq_of_strings? {j : Json} {members : List (String × String)}
    (h : j.strings? = some members) : j = ofStringMembers members := by
  obtain ⟨ms, hms, hread⟩ := Option.bind_eq_some_iff.mp h
  obtain rfl : j = .obj ms := by
    cases j <;> simp_all [asMembers?]
  refine congrArg Json.obj (eq_map_of_mapM (fun m text htext => ?_) hread)
  obtain ⟨s, hs, rfl⟩ := Option.map_eq_some_iff.mp htext
  obtain ⟨name, value⟩ := m
  obtain rfl : value = .str s := by
    cases value <;> simp_all [asString?]
  rfl

/-- A document of strings in the place where it is found. -/
structure StringHit where
  index : String
  id : String
  members : List (String × String)
deriving DecidableEq

def StringHit.toHit (hit : StringHit) : Hit := ⟨hit.index, hit.id, .ofStringMembers hit.members⟩

def Hit.strings? (hit : Hit) : Option StringHit :=
  hit.source.strings?.map (⟨hit.index, hit.id, ·⟩)

theorem Hit.eq_of_strings? {hit : Hit} {h : StringHit} (hread : hit.strings? = some h) :
    hit = h.toHit := by
  obtain ⟨members, hmembers, rfl⟩ := Option.map_eq_some_iff.mp hread
  obtain ⟨index, id, source⟩ := hit
  rw [StringHit.toHit, ← Json.eq_of_strings? hmembers]

/-- An answer shows the documents of strings that are read from its text. -/
theorem Store.shownHits_ofList {cs : List Char} {hits : List StringHit}
    (hread : ((Json.Draft.ofSymbols? (cs.map some)).bind SearchAnswer.decode?).bind
      (fun answer => answer.hits.hits.mapM Hit.strings?) = some hits) :
    shownHits (.ok ⟨200, Text.Utf8.encode (String.ofList cs)⟩) =
      .ok (hits.map StringHit.toHit) := by
  obtain ⟨answer, hanswer, hhits⟩ := Option.bind_eq_some_iff.mp hread
  rw [← String.toList_ofList (l := cs)] at hanswer
  have hshown := shownHits_eq_ok_iff.mpr
    ⟨_, answer, rfl, rfl, Response.read_encode hanswer 200, rfl⟩
  rw [hshown, Json.eq_map_of_mapM (fun _ _ => Hit.eq_of_strings?) hhits]

namespace StringHit

/-- The characters of an answer that shows documents of strings. -/
def chars (hits : List StringHit) : List Char :=
  Json.chars (SearchAnswer.encode { hits := { hits := hits.map toHit } })

/-- The answer that shows documents of strings. -/
def answer (hits : List StringHit) : Response :=
  ⟨200, Text.Utf8.encode (String.ofList (chars hits))⟩

/-- Whether the documents of strings are what is read from the answer that shows them. -/
def Legible (hits : List StringHit) : Prop :=
  ((chars hits).all fun c => c.toNat < 0x80) = true ∧
    ((Json.Draft.ofSymbols? ((chars hits).map some)).bind SearchAnswer.decode?).bind
      (fun answer => answer.hits.hits.mapM Hit.strings?) = some hits

instance (hits : List StringHit) : Decidable (Legible hits) := inferInstanceAs (Decidable (_ ∧ _))

theorem Legible.shownHits {hits : List StringHit} (h : Legible hits) :
    Store.shownHits (.ok (answer hits)) = .ok (hits.map toHit) :=
  Store.shownHits_ofList h.2

end StringHit

namespace Store

/-- The members of a document that is found are in order. -/
theorem inOrder_of_shownHits {answer : Except Error Response} {hits : List Hit}
    (h : shownHits answer = .ok hits) {hit : Hit} (hmem : hit ∈ hits)
    {members : List (String × Json)} (hsource : hit.source = .obj members) :
    Json.InOrder members := by
  obtain ⟨response, found, -, -, hread, rfl⟩ := shownHits_eq_ok_iff.mp h
  obtain ⟨d, hd⟩ : ∃ d, SearchAnswer.decode? d = some found := by
    unfold Response.read at hread
    split at hread
    · next found' hbody =>
      obtain rfl := Except.ok.inj hread
      obtain ⟨d, -, hd⟩ := Option.bind_eq_some_iff.mp hbody
      exact ⟨d, hd⟩
    · cases hread
  obtain ⟨item, hitem⟩ := SearchAnswer.exists_hit hd hmem
  obtain ⟨j, hj⟩ := Hit.exists_canonical hitem
  exact Json.inOrder_of_canonical (hj.symm.trans hsource)

end Store

/-! ## What is written -/

/-- What is made of a document when members of it are set: the id of the changed entity, and the
document that it is written as. -/
def Schema.changed {ε : Type} (schema : Schema ε) (fields : List (String × Json)) (source : Json) :
    Except Error (String × Json) := do
  let e ← schema.decode source
  let changed ← schema.merge e fields
  return (schema.id changed, ← schema.encode changed)

namespace Store

variable {ε : Type}

/-- The request that writes a document. -/
def putRequest (index id : String) (body : Json) : Request :=
  { method := .put
    path := pathOf [index, "_doc", id]
    operation := "index"
    body := some (.json body) }

/-- Whether a document that was sent is written. -/
def accepted (answer : Except Error Response) : Except Error Unit := do
  let _ ← (← answer).checked
  return ()

theorem accepted_eq_ok_iff {answer : Except Error Response} :
    accepted answer = .ok () ↔ ∃ response, answer = .ok response ∧ response.isSuccess = true := by
  rcases answer with e | response
  · simp [accepted, bind, Except.bind]
  · by_cases hsuccess : response.isSuccess
    · simp [accepted, Response.checked, hsuccess, bind, Except.bind, pure, Except.pure]
    · simp [accepted, Response.checked, hsuccess, bind, Except.bind]

theorem putDocument_eq (schema : Schema ε) (index : String) (e : ε) {body : Json}
    (h : schema.encode e = .ok body) :
    putDocument schema index e = Action.ask (putRequest index (schema.id e) body) accepted := by
  have hsent := Action.ask_bind_except (putRequest index (schema.id e) body)
    (fun answer => answer >>= Response.checked) fun _ => .ok ()
  rw [← Action.sendChecked_eq] at hsent
  simp only [bind_assoc] at hsent
  rw [putDocument, h]
  exact hsent

/-- To set fields of a document is a lookup, and if all goes well a request that writes what
becomes of the document into the index in which it is found. -/
theorem setFields_eq (schema : Schema ε) (id : String) (fields : List (String × Json))
    (key : String) :
    setFields schema id fields key =
      Session.send (lookupRequest (schema.pattern key) [id]) fun answer =>
        match firstHit (schema.pattern key) id answer with
        | .error e => .done (.error e)
        | .ok hit =>
          match schema.changed fields hit.source with
          | .error e => .done (.error e)
          | .ok (target, body) =>
            .send (putRequest hit.index target body) fun answer => .done (accepted answer) := by
  rw [setFields, findHit_eq, Action.ask_bind]
  show Session.send _ _ = Session.send _ _
  congr 1
  funext answer
  rcases firstHit (schema.pattern key) id answer with e | hit
  · rfl
  · dsimp only [Schema.changed]
    -- the three steps between the two requests, each of which can end the action
    rcases schema.decode hit.source with error | e
    · rfl
    · show ExceptT.run (liftM (schema.merge e fields) >>= putDocument schema hit.index :
        Action Unit) = match (schema.merge e fields >>= fun changed => do
          return (schema.id changed, ← schema.encode changed)) with
        | .error e => .done (.error e)
        | .ok (target, body) =>
          .send (putRequest hit.index target body) fun answer => .done (accepted answer)
      rcases schema.merge e fields with error | changed
      · rfl
      · show ExceptT.run (putDocument schema hit.index changed) = _
        rcases hencode : schema.encode changed with error | body
        · rw [putDocument, hencode]
          simp only [bind, Except.bind, hencode]
          rfl
        · rw [putDocument_eq schema hit.index changed hencode]
          simp only [bind, Except.bind, hencode]
          rfl

/-- What becomes of the document that is found is put. -/
theorem setFields_of_changed {schema : Schema ε} {server : Session.Server σ} {x : σ}
    {id key : String} {fields : List (String × Json)} {hit : Hit} {target : String} {doc : Json}
    (hhit : firstHit (schema.pattern key) id
      (server (lookupRequest (schema.pattern key) [id]) x).1 = .ok hit)
    (hchanged : schema.changed fields hit.source = .ok (target, doc)) :
    let found := server (lookupRequest (schema.pattern key) [id]) x
    let answer := server (putRequest hit.index target doc) found.2
    Session.exchanges server (setFields schema id fields key) x =
        [(lookupRequest (schema.pattern key) [id], found.1),
          (putRequest hit.index target doc, answer.1)] ∧
      Session.run server (setFields schema id fields key) x =
        (accepted answer.1, { requests := [lookupRequest (schema.pattern key) [id],
          putRequest hit.index target doc] }, answer.2) := by
  rw [setFields_eq]
  simp only [Session.exchanges, Session.run, hhit, hchanged]
  exact ⟨trivial, trivial⟩

end Store

end SearchStore
