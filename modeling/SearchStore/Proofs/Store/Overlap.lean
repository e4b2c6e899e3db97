import SearchStore.Proofs.Engine.Interleaving
import SearchStore.Proofs.Store.Documents
import SearchStore.Proofs.Store.Rewriting

/-! # Two calls that set fields of one document

A call that sets fields looks the document up, and then puts what becomes of it.
Nothing tells the engine which document the call has seen, so that a document that
was put in the meantime is overwritten.

The calls are first seen as stages: asking for the document, holding what becomes
of it, and through. `replay` says what they do to the document if they take their
steps in some order, and `replay_of_interleaved` that sessions beside each other
do no more. `setFields_interleaved` says which orders there are for two calls, and
what is stored at the end of each.
-/

namespace SearchStore

open Session (Interleaved)

namespace Store

variable {ε σ ι : Type} [DecidableEq ι]

/-! ## Stages -/

/-- How far a call has come. -/
inductive Stage
  | asking
  | holding (doc : Json)
  | through

/-- The next stage of a call, and the document after its step. -/
def Stage.next (make : Json → Option Json) (stored : Json) : Stage → Option (Stage × Json)
  | .asking => (make stored).map fun doc => (.holding doc, stored)
  | .holding doc => some (.through, doc)
  | .through => none

/-- The stages of calls, and the document, after the steps that are taken in some order. -/
def replay (make : ι → Json → Option Json) :
    (ι → Stage) → Json → List ι → Option ((ι → Stage) × Json)
  | stages, stored, [] => some (stages, stored)
  | stages, stored, i :: order => do
    let (stage, stored) ← (stages i).next (make i) stored
    replay make (Function.update stages i stage) stored order

/-- Calls that are not all through, and come to their ends, take a step. -/
theorem exists_step {make : ι → Json → Option Json} {stages : ι → Stage} {i : ι} {v doc : Json}
    {order : List ι} (hi : stages i ≠ .through)
    (h : replay make stages v order = some (fun _ => .through, doc)) :
    ∃ j rest stage v', order = j :: rest ∧ (stages j).next (make j) v = some (stage, v') ∧
      replay make (Function.update stages j stage) v' rest = some (fun _ => .through, doc) := by
  cases order with
  | nil => exact absurd (congrFun (congrArg Prod.fst (Option.some.inj h)) i) hi
  | cons j rest =>
    obtain ⟨⟨stage, v'⟩, hnext, hrest⟩ := Option.bind_eq_some_iff.mp h
    exact ⟨j, rest, stage, v', rfl, hnext, hrest⟩

/-! ## Two calls -/

section Two

variable {make : Bool → Json → Option Json} {stages : Bool → Stage} {v doc : Json} {q : Bool}
  {order : List Bool}

/-- With both calls through there is nothing left to do. -/
theorem replay_through (hstages : ∀ i, stages i = .through)
    (h : replay make stages v order = some (fun _ => .through, doc)) : order = [] ∧ doc = v := by
  cases order with
  | nil => exact ⟨rfl, (congrArg Prod.snd (Option.some.inj h)).symm⟩
  | cons i rest =>
    obtain ⟨_, hnext, -⟩ := Option.bind_eq_some_iff.mp h
    rw [hstages i] at hnext
    exact absurd hnext nofun

/-- With one call through, what the other one holds is put. -/
theorem replay_holding (held : Json) (hq : stages q = .through)
    (hother : stages (!q) = .holding held)
    (h : replay make stages v order = some (fun _ => .through, doc)) :
    order = [!q] ∧ doc = held := by
  obtain ⟨i, rest, stage, v', rfl, hnext, hrest⟩ := exists_step (i := !q) (by simp [hother]) h
  rcases Bool.eq_or_eq_not i q with rfl | rfl
  · rw [hq] at hnext
    exact absurd hnext nofun
  · rw [hother] at hnext
    obtain ⟨rfl, rfl⟩ := Prod.mk.inj (Option.some.inj hnext)
    have hthrough : ∀ i, Function.update stages (!q) .through i = .through := by
      intro i
      rcases Bool.eq_or_eq_not i q with rfl | rfl
      · rw [Function.update_of_ne (by simp), hq]
      · rw [Function.update_self]
    obtain ⟨rfl, rfl⟩ := replay_through hthrough hrest
    exact ⟨rfl, rfl⟩

/-- With one call through, the other one makes something of the document, and puts it. -/
theorem replay_asking (hq : stages q = .through) (hother : stages (!q) = .asking)
    (h : replay make stages v order = some (fun _ => .through, doc)) :
    order = [!q, !q] ∧ make (!q) v = some doc := by
  obtain ⟨i, rest, stage, v', rfl, hnext, hrest⟩ := exists_step (i := !q) (by simp [hother]) h
  rcases Bool.eq_or_eq_not i q with rfl | rfl
  · rw [hq] at hnext
    exact absurd hnext nofun
  · rw [hother] at hnext
    obtain ⟨made, hmade, hstage⟩ := Option.map_eq_some_iff.mp hnext
    obtain ⟨rfl, rfl⟩ := Prod.mk.inj hstage
    obtain ⟨rfl, rfl⟩ := replay_holding (q := q) made
      (by rw [Function.update_of_ne (by simp), hq]) (Function.update_self ..) hrest
    exact ⟨rfl, hmade⟩

/-- With both calls holding something, what the one holds that is not first is put last. -/
theorem replay_both_holding (held : Bool → Json) (hstages : ∀ i, stages i = .holding (held i))
    (h : replay make stages v order = some (fun _ => .through, doc)) :
    ∃ q, order = [q, !q] ∧ doc = held (!q) := by
  obtain ⟨q, rest, stage, v', rfl, hnext, hrest⟩ := exists_step (i := true) (by simp [hstages]) h
  rw [hstages] at hnext
  obtain ⟨rfl, rfl⟩ := Prod.mk.inj (Option.some.inj hnext)
  obtain ⟨rfl, rfl⟩ := replay_holding (q := q) (held (!q)) (Function.update_self ..)
    (by rw [Function.update_of_ne (by simp), hstages]) hrest
  exact ⟨q, rfl, rfl⟩

/-- Two calls that come to their ends either follow each other, or both make something of the
document before any of them puts it. -/
theorem replay_two
    (h : replay make (fun _ => .asking) v order = some (fun _ => .through, doc)) :
    ∃ p, (order = [p, p, !p, !p] ∧ ∃ first, make p v = some first ∧ make (!p) first = some doc) ∨
      ∃ q, order = [p, !p, q, !q] ∧ make (!q) v = some doc := by
  obtain ⟨p, rest, stage, v', rfl, hnext, h⟩ := exists_step (i := true) (by simp) h
  obtain ⟨first, hfirst, hstage⟩ := Option.map_eq_some_iff.mp hnext
  obtain ⟨rfl, rfl⟩ := Prod.mk.inj hstage
  obtain ⟨i, rest, stage, v', rfl, hnext', h⟩ := exists_step (i := p) (by simp) h
  refine ⟨p, ?_⟩
  rcases Bool.eq_or_eq_not i p with rfl | rfl
  · -- the first call goes on, and is through before the other one begins
    rw [Function.update_self] at hnext'
    obtain ⟨rfl, rfl⟩ := Prod.mk.inj (Option.some.inj hnext')
    obtain ⟨rfl, hdoc⟩ := replay_asking (q := i) (Function.update_self ..)
      (by rw [Function.update_of_ne (by simp), Function.update_of_ne (by simp)]) h
    exact .inl ⟨rfl, first, hfirst, hdoc⟩
  · -- both calls have made something of the same document
    rw [Function.update_of_ne (by simp)] at hnext'
    obtain ⟨second, hsecond, hstage⟩ := Option.map_eq_some_iff.mp hnext'
    obtain ⟨rfl, rfl⟩ := Prod.mk.inj hstage
    have hheld : ∀ i, make i v = some (if i = p then first else second) := by
      intro i
      rcases Bool.eq_or_eq_not i p with rfl | rfl
      · simpa using hfirst
      · simpa using hsecond
    obtain ⟨q, rfl, rfl⟩ := replay_both_holding (fun i => if i = p then first else second)
      (fun i => by
        rcases Bool.eq_or_eq_not i p with rfl | rfl
        · simp
        · simp) h
    exact .inr ⟨q, rfl, hheld (!q)⟩

end Two

/-! ## Calls as sessions -/

/-- The rest of a call at a stage. -/
def Stage.session (call : Session (Except Error Unit)) (index id : String) :
    Stage → Session (Except Error Unit)
  | .asking => call
  | .holding doc => .send (putRequest index id doc) fun answer => .done (accepted answer)
  | .through => .done (.ok ())

end Store

namespace Schema

variable {ε : Type} {schema : Schema ε} {fields : List (String × Json)} {id target : String}
  {v doc : Json}

/-- Whether setting fields leaves the ids of entities as they are. -/
def LeavesId (schema : Schema ε) (fields : List (String × Json)) : Prop :=
  ∀ e e', schema.merge e fields = .ok e' → schema.id e' = schema.id e

/-- Whether a document is read as an entity with an id, if it can be read. -/
def OwnId (schema : Schema ε) (id : String) (v : Json) : Prop :=
  ∀ e, schema.decode? v = some e → schema.id e = id

/-- Whether the documents of entities have their ids. -/
def WritesIds (schema : Schema ε) : Prop :=
  ∀ e j, schema.encode? e = some j → schema.OwnId (schema.id e) j

/-- What becomes of a document, if anything does. -/
def rewritten (schema : Schema ε) (fields : List (String × Json)) (v : Json) : Option Json :=
  (schema.changed fields v).toOption.map Prod.snd

/-- What is read back has its id. -/
theorem ReadsBack.writesIds (hback : schema.ReadsBack) : schema.WritesIds := by
  intro e j hencode e' hdecode
  obtain rfl : e = e' := Option.some.inj ((hback e j hencode).symm.trans hdecode)
  rfl

theorem OwnId.changed (hids : schema.WritesIds) (hfields : schema.LeavesId fields)
    (hv : schema.OwnId id v) (h : schema.changed fields v = .ok (target, doc)) :
    target = id ∧ schema.OwnId id doc := by
  obtain ⟨e, e', hdecode, hmerge, rfl, hencode⟩ := changed_eq_ok_iff.mp h
  have hid : schema.id e' = id := (hfields e e' hmerge).trans (hv e hdecode)
  exact ⟨hid, hid ▸ hids e' doc hencode⟩

theorem rewritten_eq_some_iff (hids : schema.WritesIds) (hfields : schema.LeavesId fields)
    (hv : schema.OwnId id v) :
    schema.rewritten fields v = some doc ↔ schema.changed fields v = .ok (id, doc) := by
  rw [rewritten]
  rcases hchanged : schema.changed fields v with error | ⟨target, doc'⟩
  · simp [Except.toOption]
  · obtain ⟨rfl, -⟩ := hv.changed hids hfields hchanged
    simp [Except.toOption]

end Schema

namespace Store

section Calls

variable {schema : Schema ε} {fields : ι → List (String × Json)} {server : Session.Server σ}
  {docs : σ → List Hit} {index id key : String} {i : ι} {stage : Stage} {x : σ} {v : Json}

/-- The rests of calls at their stages. -/
def atStages (schema : Schema ε) (fields : ι → List (String × Json)) (index id key : String)
    (stages : ι → Stage) (i : ι) : Session (Except Error Unit) :=
  (stages i).session (setFields schema id (fields i) key) index id

theorem atStages_update [DecidableEq ι] (stages : ι → Stage) (i : ι) (stage : Stage) :
    atStages schema fields index id key (Function.update stages i stage) =
      Function.update (atStages schema fields index id key stages) i
        (stage.session (setFields schema id (fields i) key) index id) := by
  funext j
  rcases eq_or_ne j i with rfl | hne
  · rw [atStages, Function.update_self, Function.update_self]
  · rw [atStages, Function.update_of_ne hne, Function.update_of_ne hne, atStages]

/-- A call is through, or its next step is a request. -/
theorem Stage.through_or_sends {s : Session (Except Error Unit)}
    (h : s = stage.session (setFields schema id (fields i) key) index id) :
    s = .done (.ok ()) ∧ stage = .through ∨ ∃ r next, s = .send r next := by
  cases stage with
  | asking => exact .inr ⟨_, _, h.trans (setFields_eq schema id (fields i) key)⟩
  | holding doc => exact .inr ⟨_, _, h⟩
  | through => exact .inl ⟨h, rfl⟩

section Step

variable (hids : schema.WritesIds) (hfields : ∀ i, schema.LeavesId (fields i))
  (htruthful : Truthful server docs (schema.pattern key) [id]) (hputs : Puts server docs index id)

include hids hfields htruthful hputs

/-- With one request a call fails, or it comes to its next stage and does to the stored document
what the stage does. -/
theorem Stage.next_of_send {r : Request}
    {next : Except Error Response → Session (Except Error Unit)}
    (hsend : stage.session (setFields schema id (fields i) key) index id = .send r next)
    (hstored : matching (docs x) (schema.pattern key) [id] = [⟨index, id, v⟩])
    (hv : schema.OwnId id v) (hheld : ∀ doc, stage = .holding doc → schema.OwnId id doc) :
    (∃ e, next (server r x).1 = .done (.error e)) ∨
      ∃ stage' v', stage.next (schema.rewritten (fields i)) v = some (stage', v') ∧
        next (server r x).1 = stage'.session (setFields schema id (fields i) key) index id ∧
        matching (docs (server r x).2) (schema.pattern key) [id] = [⟨index, id, v'⟩] ∧
        schema.OwnId id v' ∧ ∀ doc, stage' = .holding doc → schema.OwnId id doc := by
  cases stage with
  | asking =>
    rw [session, setFields_eq] at hsend
    obtain ⟨rfl, rfl⟩ := Session.send.inj hsend
    rcases hhit : firstHit (schema.pattern key) id
      (server (lookupRequest (schema.pattern key) [id]) x).1 with e | hit
    · exact .inl ⟨e, by simp only [hhit]⟩
    · -- the lookup can only find the stored document
      obtain rfl := htruthful.eq_of_firstHit hstored hhit
      rcases hchanged : schema.changed (fields i) v with e | ⟨target, doc⟩
      · exact .inl ⟨e, by simp only [hhit, hchanged]⟩
      · obtain ⟨htarget, hdoc⟩ := hv.changed hids (hfields i) hchanged
        subst htarget
        refine .inr ⟨.holding doc, v, ?_, ?_, ?_, hv, ?_⟩
        · rw [next, (Schema.rewritten_eq_some_iff hids (hfields i) hv).mpr hchanged]
          rfl
        · simp only [hhit, hchanged]
          rfl
        · rw [htruthful.keeps, hstored]
        · rintro doc' ⟨⟩
          exact hdoc
  | holding doc =>
    obtain ⟨rfl, rfl⟩ := Session.send.inj hsend
    rcases haccepted : accepted (server (putRequest index id doc) x).1 with e | _
    · exact .inl ⟨e, congrArg Session.done haccepted⟩
    · refine .inr ⟨.through, doc, rfl, congrArg Session.done haccepted, ?_, hheld doc rfl, nofun⟩
      rw [hputs x doc haccepted]
      exact matching_put_single hstored
  | through => exact absurd hsend nofun

variable [DecidableEq ι]

/-- Calls that go on beside each other and succeed do to the stored document what their stages do
to it, step by step in the same order. -/
theorem replay_of_interleaved {s s' : ι → Session (Except Error Unit)} {y : σ} {order : List ι}
    (h : Interleaved server s x order s' y) (hok : ∀ i, s' i = .done (.ok ()))
    (stages : ι → Stage) (hs : s = atStages schema fields index id key stages)
    (hstored : matching (docs x) (schema.pattern key) [id] = [⟨index, id, v⟩])
    (hv : schema.OwnId id v) (hheld : ∀ i doc, stages i = .holding doc → schema.OwnId id doc) :
    ∃ doc, replay (fun i => schema.rewritten (fields i)) stages v order =
        some (fun _ => .through, doc) ∧
      matching (docs y) (schema.pattern key) [id] = [⟨index, id, doc⟩] := by
  induction h generalizing stages v with
  | stop s x =>
    have hthrough : stages = fun _ => .through := by
      funext i
      obtain ⟨-, hthrough⟩ | ⟨r, next, hsend⟩ := Stage.through_or_sends (congrFun hs i)
      · exact hthrough
      · exact absurd ((hok i).symm.trans hsend) nofun
    exact ⟨v, by rw [hthrough, replay], hstored⟩
  | @send s s' x y order i r next hturn hrest ih =>
    obtain ⟨e, hfailed⟩ | ⟨stage, v', hnext, hsession, hstored', hv', hheld'⟩ :=
      Stage.next_of_send hids hfields htruthful hputs ((congrFun hs i).symm.trans hturn) hstored
        hv (hheld i)
    · -- a call that fails does not succeed later
      have hend := hrest.done (i := i) (by rw [Function.update_self, hfailed])
      exact absurd ((hok i).symm.trans hend) nofun
    · have hholding (j : ι) (doc : Json) (hj : Function.update stages i stage j = .holding doc) :
          schema.OwnId id doc := by
        rcases eq_or_ne j i with rfl | hne
        · rw [Function.update_self] at hj
          exact hheld' doc hj
        · rw [Function.update_of_ne hne] at hj
          exact hheld j doc hj
      obtain ⟨doc, hreplay, hdoc⟩ :=
        ih hok _ (by rw [hsession, hs, atStages_update]) hstored' hv' hholding
      refine ⟨doc, ?_, hdoc⟩
      rw [replay, hnext]
      exact hreplay
  | wait hturn =>
    obtain ⟨hdone, -⟩ | ⟨r, next, hsend⟩ := Stage.through_or_sends (congrFun hs _)
    · exact absurd (hturn.symm.trans hdone) nofun
    · exact absurd (hturn.symm.trans hsend) nofun
  | report hturn =>
    obtain ⟨hdone, -⟩ | ⟨r, next, hsend⟩ := Stage.through_or_sends (congrFun hs _)
    · exact absurd (hturn.symm.trans hdone) nofun
    · exact absurd (hturn.symm.trans hsend) nofun

end Step

end Calls

end Store

/-! ## What is stored at the end -/

namespace Store

/-- Two calls set different fields of one document, with an engine that shows what it stores and
stores what it accepts. If both succeed, there are two kinds of orders. If one call follows the
other, they do what they do when they are carried out one after the other. What is stored at the end
is what the second makes of what the first has made of the document: it has the values of both, if
the type writes back what it writes for the document, overwritten with them. If both look the
document up before one of them puts it, what is stored is what the call that puts it last makes of
the document of the beginning. Nothing of the other call is left: its members are those that the
type writes for the document of the beginning, if it writes them back with the last call's. -/
theorem setFields_interleaved {schema : Schema ε} {fields : Bool → List (String × Json)}
    {server : Session.Server σ} {docs : σ → List Hit} {index id key : String} {v : Json} {e : ε}
    {s : Bool → Session (Except Error Unit)} {x y : σ} {order : List Bool}
    (hids : schema.WritesIds) (hfields : ∀ p, schema.LeavesId (fields p))
    (hdisjoint : ∀ p, ∀ name ∈ (fields p).map Prod.fst, name ∉ (fields !p).map Prod.fst)
    (htruthful : Truthful server docs (schema.pattern key) [id]) (hputs : Puts server docs index id)
    (hstored : matching (docs x) (schema.pattern key) [id] = [⟨index, id, v⟩])
    (hdecode : schema.decode? v = some e) (hid : schema.id e = id)
    (h : Interleaved server (fun p => setFields schema id (fields p) key) x order s y)
    (hok : ∀ p, s p = .done (.ok ())) :
    ∃ written doc, schema.encode? e = some (.obj written) ∧
      matching (docs y) (schema.pattern key) [id] = [⟨index, id, doc⟩] ∧ ∃ p,
      (order = [p, p, !p, !p] ∧
        (∃ t u z, Session.run server (setFields schema id (fields p) key) x = (.ok (), t, z) ∧
          Session.run server (setFields schema id (fields !p) key) z = (.ok (), u, y)) ∧
        (∃ first, schema.changed (fields p) v = .ok (id, first) ∧
          schema.changed (fields !p) first = .ok (id, doc)) ∧
        let first := Schema.overwrite written (fields p)
        let second := Schema.overwrite first (fields !p)
        (schema.Settled (.obj first) → schema.Settled (.obj second) →
          ∀ q, ∀ name ∈ (fields q).map Prod.fst,
            doc.get? name = Json.lookup name (fields q).reverse)) ∨
      ∃ q, order = [p, !p, q, !q] ∧ schema.changed (fields !q) v = .ok (id, doc) ∧
        (schema.Settled (.obj (Schema.overwrite written (fields !q))) →
          ∀ name ∈ (fields q).map Prod.fst, doc.get? name = Json.lookup name written) := by
  have hv : schema.OwnId id v := by
    intro e' hdecode'
    obtain rfl : e' = e := Option.some.inj (hdecode'.symm.trans hdecode)
    exact hid
  obtain ⟨doc, hreplay, hdoc⟩ := replay_of_interleaved hids hfields htruthful hputs h hok
    (fun _ => .asking) rfl hstored hv nofun
  obtain ⟨p, ⟨rfl, first, hfirst, hsecond⟩ | ⟨q, rfl, hlast⟩⟩ := replay_two hreplay
  · -- one call after the other: the second begins with what the first has put
    rw [Schema.rewritten_eq_some_iff hids (hfields p) hv] at hfirst
    have hown := (hv.changed hids (hfields p) hfirst).2
    rw [Schema.rewritten_eq_some_iff hids (hfields !p) hown] at hsecond
    obtain ⟨written, hwritten⟩ := Schema.exists_written hfirst hdecode
    obtain ⟨t, u, z, hrun, -, hrun', -⟩ :=
      (Session.Interleaved.in_turn_iff (n := 2) (m := 2) (Bool.not_ne_self p)).mp
        ⟨s, hok p, hok !p, h⟩
    refine ⟨written, doc, hwritten, hdoc, p, .inl ⟨rfl, ⟨t, u, z, hrun, hrun'⟩,
      ⟨first, hfirst, hsecond⟩, ?_⟩⟩
    intro first' second' hsettled hsettled' q name hname
    obtain rfl : first = .obj first' :=
      Schema.eq_overwrite_of_settled hfirst hdecode hwritten hsettled
    -- the second call reads the document as the entity that it was written for
    obtain ⟨e', hdecode', hwritten'⟩ := hsettled
    obtain rfl : doc = .obj second' :=
      Schema.eq_overwrite_of_settled hsecond hdecode' hwritten' hsettled'
    rw [Json.get?]
    rcases Bool.eq_or_eq_not q p with rfl | rfl
    · -- what the first call has set is not touched by the second
      rw [Schema.lookup_overwrite_of_not_mem _ (hdisjoint q name hname),
        Schema.lookup_overwrite_of_mem _ hname]
    · rw [Schema.lookup_overwrite_of_mem _ hname]
  · -- both have seen the document of the beginning, and what was put first is gone
    rw [Schema.rewritten_eq_some_iff hids (hfields !q) hv] at hlast
    obtain ⟨written, hwritten⟩ := Schema.exists_written hlast hdecode
    refine ⟨written, doc, hwritten, hdoc, p, .inr ⟨q, rfl, hlast, ?_⟩⟩
    intro hsettled name hname
    obtain rfl := Schema.eq_overwrite_of_settled hlast hdecode hwritten hsettled
    rw [Json.get?, Schema.lookup_overwrite_of_not_mem _ (hdisjoint q name hname)]

/-! ### Two calls for one portrait -/

/-- Where the portrait of an engine with one portrait is found. -/
def galleryDocs (p : Portrait) : List Hit := [⟨"hero-a-v1", "1", .ofStringMembers p.members⟩]

/-- The answer of the engine with one portrait. -/
def galleryShown (p : Portrait) : List StringHit := [⟨"hero-a-v1", "1", p.members⟩]

/-- The portrait that is written as a document. -/
def portraitOf? (body : Json) : Option Portrait :=
  (portraits.decode? body).filter fun p => body.strings? = some p.members

theorem portraitOf?_eq_some_iff {body : Json} {p : Portrait} :
    portraitOf? body = some p ↔ body = .ofStringMembers p.members := by
  constructor
  · intro h
    obtain ⟨-, hmembers⟩ := Option.filter_eq_some_iff.mp h
    exact Json.eq_of_strings? (of_decide_eq_true hmembers)
  · rintro rfl
    have hread : portraits.decode? (.ofStringMembers p.members) = some p :=
      portraits_readsBack p _ rfl
    rw [portraitOf?, hread]
    exact Option.filter_eq_some_iff.mpr ⟨rfl, decide_eq_true rfl⟩

/-- An engine with one portrait, in whose place portraits are put. -/
def gallery : Session.Server Portrait := fun r p =>
  if r.method = .put then
    match r.jsonBody?.bind portraitOf? with
    | some q => (.ok ⟨200, []⟩, q)
    | none => (.ok ⟨500, []⟩, p)
  else
    (.ok (if StringHit.Legible (galleryShown p) then StringHit.answer (galleryShown p)
      else ⟨500, []⟩), p)

theorem gallery_lookup (p : Portrait) (pattern : String) (ids : List String) :
    gallery (lookupRequest pattern ids) p =
      (.ok (if StringHit.Legible (galleryShown p) then StringHit.answer (galleryShown p)
        else ⟨500, []⟩), p) :=
  if_neg nofun

theorem gallery_put (p : Portrait) (index id : String) (body : Json) :
    gallery (putRequest index id body) p =
      match portraitOf? body with
      | some q => (.ok ⟨200, []⟩, q)
      | none => (.ok ⟨500, []⟩, p) :=
  if_pos rfl

theorem matching_gallery (p : Portrait) :
    matching (galleryDocs p) (portraits.pattern "a") ["1"] = galleryDocs p := by
  have hindex : Wildcard.isMatch "hero-a-v1" (portraits.pattern "a") := by decide +kernel
  simp [matching, galleryDocs, hindex]

theorem truthful_gallery : Truthful gallery galleryDocs (portraits.pattern "a") ["1"] := by
  constructor
  · intro p page hpage
    rw [gallery_lookup] at hpage
    rw [matching_gallery]
    split_ifs at hpage with hlegible
    · rw [hlegible.shownHits] at hpage
      exact ⟨galleryDocs p, .rfl, (Except.ok.inj hpage).symm⟩
    · obtain ⟨response, -, hresponse, hsuccess, -⟩ := shownHits_eq_ok_iff.mp hpage
      obtain rfl := Except.ok.inj hresponse
      exact absurd hsuccess (by decide)
  · intro p
    rw [gallery_lookup]

theorem puts_gallery : Puts gallery galleryDocs "hero-a-v1" "1" := by
  intro p body haccepted
  rcases hread : portraitOf? body with _ | q
  · rw [gallery_put, hread] at haccepted
    obtain ⟨response, hresponse, hsuccess⟩ := accepted_eq_ok_iff.mp haccepted
    obtain rfl := Except.ok.inj hresponse
    exact absurd hsuccess (by decide)
  · rw [gallery_put, hread, portraitOf?_eq_some_iff.mp hread]
    simp [put, galleryDocs, Hit.place]

/-- The fields that two calls set: one of them the color, the other one the name. -/
def colorOrName : Bool → List (String × Json)
  | true => [("color", .str "blue")]
  | false => [("name", .str "Bob")]

/-- What a call makes of a portrait. -/
def painted : Bool → Portrait → Portrait
  | true, p => { p with color := "blue" }
  | false, p => { p with name := "Bob" }

theorem overwrite_colorOrName (i : Bool) (p : Portrait) :
    Schema.overwrite (p.members.map fun m => (m.1, .str m.2)) (colorOrName i) =
      (painted i p).members.map fun m => (m.1, .str m.2) := by
  cases i with
  | true =>
    rw [Portrait.members, colorOrName, Schema.overwrite_cons]
    simp only [List.map_cons, List.map_nil]
    rw [Json.insertMember_cons_of_gt (by decide), Json.insertMember_cons_self]
    rfl
  | false =>
    rw [Portrait.members, colorOrName, Schema.overwrite_cons]
    simp only [List.map_cons, List.map_nil]
    rw [Json.insertMember_cons_of_gt (by decide), Json.insertMember_cons_of_gt (by decide),
      Json.insertMember_cons_of_gt (by decide), Json.insertMember_cons_self]
    rfl

theorem merge_colorOrName (i : Bool) (p : Portrait) :
    portraits.merge p (colorOrName i) = .ok (painted i p) := by
  refine Schema.merge_eq_ok_iff.mpr ⟨_, rfl, ?_⟩
  rw [overwrite_colorOrName]
  exact portraits_readsBack (painted i p) _ rfl

theorem leavesId_colorOrName (i : Bool) : portraits.LeavesId (colorOrName i) := by
  intro p p' h
  obtain rfl := Except.ok.inj ((merge_colorOrName i p).symm.trans h)
  cases i <;> rfl

theorem changed_colorOrName (i : Bool) (p : Portrait) :
    portraits.changed (colorOrName i) (.ofStringMembers p.members) =
      .ok (p.id, .ofStringMembers (painted i p).members) :=
  Schema.changed_eq_ok_iff.mpr ⟨p, painted i p, portraits_readsBack p _ rfl, merge_colorOrName i p,
    leavesId_colorOrName i p _ (merge_colorOrName i p), rfl⟩

theorem disjoint_colorOrName (i : Bool) :
    ∀ name ∈ (colorOrName i).map Prod.fst, name ∉ (colorOrName !i).map Prod.fst := by
  cases i <;> simp [colorOrName]

/-- Two calls for the portrait, at stages. -/
abbrev painters (stages : Bool → Stage) : Bool → Session (Except Error Unit) :=
  atStages portraits colorOrName "hero-a-v1" "1" "a" stages

section Painters

variable {stages : Bool → Stage} {i : Bool} {p q y : Portrait} {order : List Bool}
  {s : Bool → Session (Except Error Unit)}

/-- A call that asks for a portrait that is shown holds what becomes of it. -/
theorem interleaved_asking (hstage : stages i = .asking)
    (hlegible : StringHit.Legible (galleryShown p)) (hid : p.id = "1")
    (hrest : Interleaved gallery
      (painters (Function.update stages i (.holding (.ofStringMembers (painted i p).members))))
      p order s y) :
    Interleaved gallery (painters stages) p (i :: order) s y := by
  have hhit := firstHit_of_shown (portraits.pattern "a") "1" hlegible.shownHits
  have hturn : painters stages i = setFields portraits "1" (colorOrName i) "a" := by
    rw [painters, atStages, hstage, Stage.session]
  refine .send (hturn.trans (setFields_eq portraits "1" (colorOrName i) "a")) ?_
  rw [painters, atStages_update] at hrest
  rw [gallery_lookup, if_pos hlegible]
  simp only [hhit, StringHit.toHit, changed_colorOrName, hid]
  exact hrest

/-- A call puts the portrait that it holds. -/
theorem interleaved_holding (hstage : stages i = .holding (.ofStringMembers q.members))
    (hrest : Interleaved gallery (painters (Function.update stages i .through)) q order s y) :
    Interleaved gallery (painters stages) p (i :: order) s y := by
  have hturn : painters stages i =
      .send (putRequest "hero-a-v1" "1" (.ofStringMembers q.members))
        fun answer => .done (accepted answer) := by
    rw [painters, atStages, hstage, Stage.session]
  refine .send hturn ?_
  rw [painters, atStages_update] at hrest
  rw [gallery_put, portraitOf?_eq_some_iff.mpr rfl]
  exact hrest

end Painters

/-- The stages of two calls that are through. -/
theorem painters_through {stages : Bool → Stage} (h : ∀ i, stages i = .through) (i : Bool) :
    painters stages i = .done (.ok ()) := by
  rw [painters, atStages, h, Stage.session]

/-- A call for the portrait, carried out alone. -/
theorem run_gallery (i : Bool) {p : Portrait} (hlegible : StringHit.Legible (galleryShown p)) :
    ∃ t, Session.run gallery (setFields portraits "1" (colorOrName i) "a") p =
      (.ok (), t, painted i p) ∧ t.requests.length = 2 := by
  have hhit : firstHit (portraits.pattern "a") "1"
      (gallery (lookupRequest (portraits.pattern "a") ["1"]) p).1 =
        .ok ⟨"hero-a-v1", "1", .ofStringMembers p.members⟩ := by
    rw [gallery_lookup, if_pos hlegible]
    exact firstHit_of_shown _ _ hlegible.shownHits
  obtain ⟨-, hrun⟩ := setFields_of_changed hhit (changed_colorOrName i p)
  rw [hrun, gallery_lookup, gallery_put, portraitOf?_eq_some_iff.mpr rfl]
  exact ⟨_, rfl, rfl⟩

/-- Calls that follow each other set the color and the name. -/
theorem setFields_interleaved_ada :
    ∃ (s : Bool → Session (Except Error Unit)) (y : Portrait),
      Interleaved gallery (fun i => setFields portraits "1" (colorOrName i) "a") Portrait.ada
          [true, true, false, false] s y ∧ (∀ i, s i = .done (.ok ())) ∧
        ∃ doc, galleryDocs y = [⟨"hero-a-v1", "1", doc⟩] ∧
          doc.get? "color" = some (.str "blue") ∧ doc.get? "name" = some (.str "Bob") := by
  have hlegible : StringHit.Legible (galleryShown (painted true Portrait.ada)) := by decide +kernel
  obtain ⟨t, hfirst, ht⟩ := run_gallery true legible_ada
  obtain ⟨u, hsecond, hu⟩ := run_gallery false hlegible
  obtain ⟨s, htrue, hfalse, hrun⟩ := (Session.Interleaved.in_turn_iff
    (s := fun i => setFields portraits "1" (colorOrName i) "a") Bool.false_ne_true).mpr
      ⟨t, u, painted true Portrait.ada, hfirst, ht, hsecond, hu⟩
  have hok : ∀ i, s i = .done (.ok ()) := Bool.forall_bool.mpr ⟨hfalse, htrue⟩
  refine ⟨s, _, hrun, hok, ?_⟩
  obtain ⟨written, doc, hwritten, hdoc, p, ⟨horder, -, -, hvalues⟩ | ⟨q, horder, -⟩⟩ :=
    setFields_interleaved portraits_readsBack.writesIds leavesId_colorOrName disjoint_colorOrName
      truthful_gallery puts_gallery (matching_gallery Portrait.ada)
      (portraits_readsBack Portrait.ada _ rfl) rfl hrun hok
  · obtain rfl : true = p := (List.cons.inj horder).1
    obtain rfl := Json.obj.inj (Option.some.inj hwritten)
    simp only [overwrite_colorOrName] at hvalues
    have hvalue := hvalues (settled_portrait _) (settled_portrait _)
    rw [matching_gallery] at hdoc
    exact ⟨doc, hdoc, hvalue true "color" (by simp [colorOrName]),
      hvalue false "name" (by simp [colorOrName])⟩
  · cases p <;> simp at horder

/-- If both calls look the portrait up before the color is put, the call that puts the name last
puts it with the color of the beginning: both calls succeed, and the color that was set is lost. -/
theorem setFields_loses_color :
    Truthful gallery galleryDocs (portraits.pattern "a") ["1"] ∧
      Puts gallery galleryDocs "hero-a-v1" "1" ∧
      matching (galleryDocs Portrait.ada) (portraits.pattern "a") ["1"] = galleryDocs Portrait.ada ∧
      portraits.ReadsBack ∧ (∀ i, portraits.LeavesId (colorOrName i)) ∧
      (∀ i, ∀ name ∈ (colorOrName i).map Prod.fst, name ∉ (colorOrName !i).map Prod.fst) ∧
      ∃ (s : Bool → Session (Except Error Unit)) (y : Portrait),
        Interleaved gallery (fun i => setFields portraits "1" (colorOrName i) "a") Portrait.ada
            [true, false, true, false] s y ∧ (∀ i, s i = .done (.ok ())) ∧
          ∀ d ∈ galleryDocs y, d.source.get? "color" ≠ some (.str "blue") := by
  refine ⟨truthful_gallery, puts_gallery, matching_gallery Portrait.ada, portraits_readsBack,
    leavesId_colorOrName, disjoint_colorOrName, ?_⟩
  have hrun : Interleaved gallery (painters fun _ => .asking) Portrait.ada
      [true, false, true, false] _ (painted false Portrait.ada) :=
    interleaved_asking rfl legible_ada rfl <| interleaved_asking rfl legible_ada rfl <|
      interleaved_holding (q := painted true Portrait.ada) rfl <|
        interleaved_holding (q := painted false Portrait.ada) rfl <| .stop _ _
  refine ⟨_, _, hrun, painters_through fun i => by cases i <;> rfl, ?_⟩
  intro d hd
  obtain rfl := List.mem_singleton.mp hd
  intro hcolor
  have hred : some (Json.str "red") = some (Json.str "blue") := hcolor
  simp at hred

end Store

end SearchStore
