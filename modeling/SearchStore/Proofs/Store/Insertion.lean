import SearchStore.Proofs.Bulk.Framing
import SearchStore.Proofs.Bulk.Turns
import SearchStore.Proofs.Store.Accounts
import SearchStore.Proofs.Store.Completeness
import SearchStore.Proofs.Url.Lossless

/-! # Insertions one by one and all together

A document can be written by a request of its own, whose path says where, or as
two lines of a bulk text. To an engine that accepts both and keeps documents by
index and id it makes no difference: `bulkInsert_refines` shows that the documents
are the same, however a single worker cuts the items into requests.

The engine is any server. What it is sent is read as the engine reads it: the
segments of a path are decoded, and bodies and bulk texts are read as JSON.
-/

namespace SearchStore

variable {ε σ α : Type}

/-! ## Exchanges -/

namespace Session

/-- A server that is in one state gives these answers, and is in another one after them. -/
def Serves (server : Server σ) : σ → List (Request × Except Error Response) → σ → Prop
  | x, [], y => y = x
  | x, e :: rest, y => (server e.1 x).1 = e.2 ∧ Serves server (server e.1 x).2 rest y

theorem serves_run (server : Server σ) (s : Session α) (x : σ) :
    Serves server x (exchanges server s x) (run server s x).2.2 := by
  induction s generalizing x with
  | done a => rfl
  | send r next ih => exact ⟨rfl, ih _ _⟩
  | wait d next ih => exact ih x
  | report r next ih => exact ih x

end Session

/-! ## Engines -/

namespace Store

/-- A request asks for a document to be put in its place. -/
structure PutsOne (r : Request) (d : Hit) : Prop where
  method : r.method = .put
  path : pathSegments r.path = [d.index, "_doc", d.id].map Text.Utf8.encode
  body : Json.read? (Bulk.textOf r) = some d.source

/-- A request asks for documents to be put in their places, one after the other. -/
structure PutsAll (r : Request) (ds : List Hit) : Prop where
  method : r.method = .post
  path : r.path = "/_bulk"
  lines : BulkItem.ofText? (Bulk.textOf r) =
    some (ds.map fun d => (.index, d.index, d.id, some d.source))

/-- An answer accepts each of so many items. -/
def AcceptsEach (n : Nat) (answer : Except Error Response) : Prop :=
  ∃ entries, Worker.readAnswer answer = .ok entries ∧ entries.length = n ∧
    ∀ entry ∈ entries, ∃ name result, entry = [(name, result)] ∧ result.error = none ∧
      result.status ≤ 201

/-- An engine that accepts some documents, each alone and as many at a time as follow each other,
and puts them in their places in the order in which they come. -/
structure Stores (server : Session.Server σ) (docs : σ → List Hit) (ds : List Hit) : Prop where
  one : ∀ r d x, d ∈ ds → PutsOne r d →
    accepted (server r x).1 = .ok () ∧ docs (server r x).2 = put (docs x) d
  all : ∀ r batch x, batch ≠ [] → batch <:+: ds → PutsAll r batch →
    AcceptsEach batch.length (server r x).1 ∧ docs (server r x).2 = batch.foldl put (docs x)

/-- The item that puts a document in its place. -/
def putItem (d : Hit) : BulkItem := .put d.index d.id d.source

/-- What is stored of entities that are inserted. -/
def stored (s : Store) (schema : Schema ε) (entities : List ε) : List Hit :=
  (documents schema entities).map fun (e, doc) => s.placed schema e doc

/-- Inserts entities one after the other. -/
def insertEach (s : Store) (schema : Schema ε) (entities : List ε) : Action Unit :=
  entities.forM (s.insert schema)

/-- Entities that can be written. -/
def Writable (schema : Schema ε) (entities : List ε) : Prop :=
  ∀ e ∈ entities, ∃ doc, schema.encode? e = some doc ∧ doc.IsFinite

section Stored

variable {s : Store} {schema : Schema ε} {e : ε} {rest entities : List ε} {doc : Json}

theorem stored_cons (h : schema.encode? e = some doc) :
    s.stored schema (e :: rest) = s.placed schema e doc :: s.stored schema rest := by
  simp [stored, documents, h]

theorem length_stored (h : Writable schema entities) :
    (s.stored schema entities).length = entities.length := by
  rw [stored, List.length_map, BulkWrite.length_documents, List.countP_eq_length]
  intro e he
  obtain ⟨doc, hdoc, -⟩ := h e he
  simp [hdoc]

theorem isFinite_of_mem_stored (h : Writable schema entities) {d : Hit}
    (hd : d ∈ s.stored schema entities) : d.source.IsFinite := by
  obtain ⟨⟨e, doc⟩, hmem, rfl⟩ := List.mem_map.mp hd
  obtain ⟨e', he', hsome⟩ := List.mem_filterMap.mp hmem
  obtain ⟨doc', hdoc', heq⟩ := Option.map_eq_some_iff.mp hsome
  obtain ⟨rfl, rfl⟩ := Prod.mk.inj heq
  obtain ⟨doc, hdoc, hfinite⟩ := h e' he'
  obtain rfl : doc = doc' := Option.some.inj (hdoc.symm.trans hdoc')
  exact hfinite

/-- A bulk insertion sends an item for each document that is stored. -/
theorem bulkInsert_eq (s : Store) (schema : Schema ε) (entities : List ε) :
    s.bulkInsert schema entities = s.runBulk ((s.stored schema entities).map putItem) := by
  rw [bulkInsert, stored, List.map_map]
  rfl

end Stored

/-! ## One by one -/

theorem putsOne_putRequest {d : Hit} (h : d.source.IsFinite) :
    PutsOne (putRequest d.index d.id d.source) d where
  method := rfl
  path := pathSegments_pathOf (by simp)
  body := Json.read?_render h

/-- Insertions put the documents in their places, one after the other. -/
theorem run_inserts {server : Session.Server σ} {docs : σ → List Hit} {ds : List Hit}
    (hserver : Stores server docs ds) (s : Store) {schema : Schema ε} {entities : List ε}
    (hwritable : Writable schema entities) (hds : ∀ d ∈ s.stored schema entities, d ∈ ds) (x : σ) :
    (Session.run server (s.insertEach schema entities) x).1 = .ok () ∧
      docs (Session.run server (s.insertEach schema entities) x).2.2 =
        (s.stored schema entities).foldl put (docs x) := by
  induction entities generalizing x with
  | nil => exact ⟨rfl, rfl⟩
  | cons e rest ih =>
    obtain ⟨⟨doc, hdoc, hfinite⟩, hrest⟩ := List.forall_mem_cons.mp hwritable
    rw [stored_cons hdoc, List.forall_mem_cons] at hds
    let r := putRequest (s.placed schema e doc).index (s.placed schema e doc).id doc
    obtain ⟨haccepted, hput⟩ := hserver.one r _ x hds.1 (putsOne_putRequest hfinite)
    have hrun : Session.run server (s.insert schema e) x =
        (.ok (), { requests := [r] }, (server r x).2) := by
      rw [insert_eq s hdoc, Action.ask]
      exact Prod.ext haccepted rfl
    obtain ⟨hok, hdocs⟩ := ih hrest hds.2 _
    have hcons : s.insertEach schema (e :: rest) =
        (s.insert schema e >>= fun _ => s.insertEach schema rest : Action Unit) := rfl
    rw [hcons, Action.run_bind_ok hrun, stored_cons hdoc, List.foldl_cons, ← hput]
    exact ⟨hok, hdocs⟩

/-! ## All together -/

theorem made_putItem {d : Hit} (h : d.source.IsFinite) : (putItem d).Made :=
  .put d.index d.id h {}

theorem putsAll_request {ds : List Hit} (h : ∀ d ∈ ds, d.source.IsFinite) :
    PutsAll (Worker.request (Shipment.text (ds.map putItem))) ds where
  method := rfl
  path := rfl
  lines := by
    have hmade : ∀ item ∈ ds.map putItem, item.Made := by
      intro item hitem
      obtain ⟨d, hd, rfl⟩ := List.mem_map.mp hitem
      exact made_putItem (h d hd)
    refine (Shipment.ofText?_text hmade).trans ?_
    rw [List.map_map]
    rfl

/-- Items whose results are all good succeed. -/
theorem isSuccess_of_mem_outcomes {items : List BulkItem}
    {entries : List (List (String × ItemResult))} (hlength : entries.length = items.length)
    (h : ∀ entry ∈ entries, ∃ name result, entry = [(name, result)] ∧ result.error = none ∧
      result.status ≤ 201) :
    ∀ p ∈ Worker.outcomes items entries, p.2.isSuccess := by
  induction items generalizing entries with
  | nil => exact nofun
  | cons item rest ih =>
    obtain ⟨entry, others, rfl⟩ := List.exists_cons_of_length_eq_add_one hlength
    obtain ⟨⟨name, result, rfl, herror, hstatus⟩, hothers⟩ := List.forall_mem_cons.mp h
    refine List.forall_mem_cons.mpr ⟨?_, ih (Nat.succ.inj hlength) hothers⟩
    have hsuccess : ItemOutcome.ofResult result = .success result :=
      ItemOutcome.ofResult_eq_success.mpr ⟨rfl, herror, hstatus⟩
    simp [ItemOutcome.ofReported, hsuccess, ItemOutcome.isSuccess]

/-- A shipment whose items all succeed. -/
structure Lands (shipment : Shipment) : Prop where
  answered : shipment.Answered
  success : ∀ p ∈ shipment.settled, p.2.isSuccess

theorem lands_of_acceptsEach {shipment : Shipment}
    (h : AcceptsEach shipment.items.length shipment.answer) : Lands shipment := by
  obtain ⟨entries, hread, hlength, hgood⟩ := h
  constructor
  · rw [← Shipment.failure?_eq_none_iff, Shipment.failure?, hread]
  · rw [Shipment.settled_of_read hread]
    exact isSuccess_of_mem_outcomes hlength hgood

/-- However the documents are cut into shipments, all of them land, in order. -/
theorem Stores.of_serves {server : Session.Server σ} {docs : σ → List Hit} {ds : List Hit}
    (hserver : Stores server docs ds) (hfinite : ∀ d ∈ ds, d.source.IsFinite)
    {shipments : List Shipment} (hnonempty : ∀ shipment ∈ shipments, shipment.items ≠ [])
    {batch : List Hit} (hbatch : batch <:+: ds)
    (hitems : shipments.flatMap Shipment.items = batch.map putItem) {x y : σ}
    (hserves : Session.Serves server x (shipments.map Shipment.exchange) y) :
    docs y = batch.foldl put (docs x) ∧ ∀ shipment ∈ shipments, Lands shipment := by
  induction shipments generalizing batch x with
  | nil =>
    obtain rfl : y = x := hserves
    obtain rfl : batch = [] := List.map_eq_nil_iff.mp hitems.symm
    exact ⟨rfl, nofun⟩
  | cons shipment rest ih =>
    -- the first shipment takes the front of the batch, the others what is left of it
    obtain ⟨hfirst, hrest⟩ := List.forall_mem_cons.mp hnonempty
    obtain ⟨sent, later, rfl, hsent, hlater⟩ := List.map_eq_append_iff.mp hitems.symm
    obtain ⟨hanswer, hserves⟩ := hserves
    have hpart : sent <:+: ds := (List.prefix_append sent later).isInfix.trans hbatch
    have hpart' : later <:+: ds := (List.suffix_append sent later).isInfix.trans hbatch
    have hputs : PutsAll shipment.request sent := by
      rw [Shipment.request, ← hsent]
      exact putsAll_request fun d hd => hfinite d (hpart.subset hd)
    have hne : sent ≠ [] := by
      rintro rfl
      exact hfirst hsent.symm
    obtain ⟨haccepts, hdocs⟩ := hserver.all _ _ x hne hpart hputs
    have hanswer : (server shipment.request x).1 = shipment.answer := hanswer
    obtain ⟨hdocs', hlands⟩ := ih hrest hpart' hlater.symm hserves
    refine ⟨?_, List.forall_mem_cons.mpr ⟨lands_of_acceptsEach ?_, hlands⟩⟩
    · rw [hdocs', List.foldl_append]
      exact congrArg (List.foldl put · later) hdocs
    · rwa [← hsent, List.length_map, ← hanswer]

/-- If all shipments land, all items are affected. -/
theorem eq_ok_of_lands {n : Nat} {shipments : List Shipment} {result : Except Error BulkReport}
    (h : Accounted n shipments result) (hlands : ∀ shipment ∈ shipments, Lands shipment) :
    result = .ok ⟨n, 0⟩ := by
  have hfailed : Shipment.failed shipments = 0 := by
    rw [Shipment.failed, List.countP_eq_zero]
    intro p hp
    obtain ⟨shipment, hshipment, hp⟩ := List.mem_flatMap.mp hp
    simp [(hlands shipment hshipment).success p hp]
  have haffected : Shipment.affected shipments = n := by
    have htotal := h.total
    omega
  rw [h.answered fun shipment hshipment => (hlands shipment hshipment).answered, hfailed,
    haffected]

/-- To an engine that accepts them, entities that are inserted in one bulk write
leave the documents that they leave one by one, and the report counts all of them
as affected. So does every other run with a single worker, whenever it sends. -/
theorem bulkInsert_refines (s : Store) (schema : Schema ε) (entities : List ε)
    (server : Session.Server σ) (docs : σ → List Hit) (x : σ)
    (hwritable : Writable schema entities)
    (hserver : Stores server docs (s.stored schema entities)) :
    let alone := Session.run server (s.insertEach schema entities) x
    let together := Session.run server (s.bulkInsert schema entities) x
    alone.1 = .ok () ∧ together.1 = .ok ⟨entities.length, 0⟩ ∧
      docs together.2.2 = docs alone.2.2 ∧
      ∀ r y, s.config.bulk.workers ≤ 1 → Bulk.Reachable s.config.bulk r →
        r.accepted = (s.stored schema entities).map putItem → r.Drained → r.phase ≠ .closed →
        Session.Serves server x (r.answered.map Shipment.exchange) y →
        r.tally.report = .ok ⟨entities.length, 0⟩ ∧ docs y = docs alone.2.2 := by
  intro alone together
  obtain ⟨hok, hdocs⟩ : alone.1 = .ok () ∧ docs alone.2.2 = _ :=
    run_inserts hserver s hwritable (fun _ hd => hd) x
  have hfinite : ∀ d ∈ s.stored schema entities, d.source.IsFinite :=
    fun d hd => isFinite_of_mem_stored hwritable hd
  have hlength : ((s.stored schema entities).map putItem).length = entities.length := by
    rw [List.length_map, length_stored hwritable]
  -- the indexer of the store cuts the items in one way
  obtain ⟨shipments, t, hexchanges, hitems, hnonempty, ht, hresult⟩ :=
    s.exists_shipments server ((s.stored schema entities).map putItem) x
  have hserves := Session.serves_run server (s.bulkInsert schema entities) x
  rw [bulkInsert_eq, hexchanges] at hserves
  obtain ⟨hdocs', hlands⟩ := hserver.of_serves hfinite hnonempty (List.infix_refl _) hitems hserves
  have haccounted := ht.accounted ((congrArg List.length hitems).trans hlength)
  refine ⟨hok, ?_, ?_, fun r y hworkers hreachable haccepted hdrained hphase hserves => ?_⟩
  · exact (congrArg (fun a => (Session.run server a x).1)
      (s.bulkInsert_eq schema entities)).trans (hresult.trans (eq_ok_of_lands haccounted hlands))
  · rw [hdocs, ← hdocs', ← bulkInsert_eq]
  · -- another run may cut them elsewhere, but a single worker keeps their order
    have hturn := Bulk.InTurn.of_reachable hworkers hreachable
    have hitems := (hturn.flatMap_items_eq hdrained).trans haccepted
    obtain ⟨hdocs', hlands⟩ :=
      hserver.of_serves hfinite hturn.nonempty (List.infix_refl _) hitems hserves
    obtain ⟨-, haccounted⟩ := hreachable.accounted hphase hdrained
    rw [haccepted, hlength] at haccounted
    exact ⟨eq_ok_of_lands haccounted hlands, hdocs'.trans hdocs.symm⟩

/-! ### An engine with one place -/

/-- The answer that so many items are accepted. -/
def acceptance (n : Nat) : String :=
  "\x7b\"items\":[" ++ String.intercalate "," (List.replicate n "\x7b\"index\":\x7b\x7d\x7d")
    ++ "]\x7d"

/-- The documents after a change that stores one. -/
def afterChange (docs : List Hit) : BulkItem.Change → List Hit
  | (.index, index, id, some body) => put docs ⟨index, id, body⟩
  | _ => docs

/-- An engine that takes documents in one place only. -/
def nook (index id : String) : Session.Server (List Hit) := fun r docs =>
  match r.method, Json.read? (Bulk.textOf r), BulkItem.ofText? (Bulk.textOf r) with
  | .put, some body, _ =>
    if pathSegments r.path = [index, "_doc", id].map Text.Utf8.encode then
      (.ok ⟨200, []⟩, put docs ⟨index, id, body⟩)
    else (.error (.transport "refused"), docs)
  | .post, _, some changes =>
    (.ok ⟨200, Text.Utf8.encode (acceptance changes.length)⟩, changes.foldl afterChange docs)
  | _, _, _ => (.error (.transport "refused"), docs)

theorem acceptsEach_acceptance {n : Nat} (hpos : 0 < n) (hn : n ≤ 2) :
    AcceptsEach n (.ok ⟨200, Text.Utf8.encode (acceptance n)⟩) := by
  have hread : Worker.readAnswer (.ok ⟨200, Text.Utf8.encode (acceptance n)⟩) =
      .ok (List.replicate n [("index", {})]) := by
    obtain rfl | rfl : n = 1 ∨ n = 2 := by omega
    · cbv
    · cbv
  refine ⟨_, hread, List.length_replicate, fun entry hentry => ?_⟩
  obtain ⟨-, rfl⟩ := List.mem_replicate.mp hentry
  exact ⟨_, _, rfl, rfl, by decide⟩

theorem stores_nook {index id : String} {ds : List Hit}
    (hplace : ∀ d ∈ ds, d.index = index ∧ d.id = id) (hlength : ds.length ≤ 2) :
    Stores (nook index id) (fun docs => docs) ds where
  one := fun r d x hd h => by
    obtain ⟨rfl, rfl⟩ := hplace d hd
    simp only [nook, h.method, h.body, h.path, if_true, and_true]
    rfl
  all := fun r batch x hne hpart h => by
    have hpos : 0 < batch.length := List.length_pos_iff.mpr hne
    simp only [nook, h.method, h.lines, List.length_map, List.foldl_map]
    exact ⟨acceptsEach_acceptance hpos (hpart.length_le.trans hlength), rfl⟩

/-- Two portraits of one hero, whose id has characters that a path cannot have. -/
theorem bulkInsert_refines_portraits :
    let entities : List Portrait := [⟨"a", "red", "1/?", "Ada"⟩, ⟨"a", "blue", "1/?", "Ada"⟩]
    let server := nook (portraits.index "a" keeper.today) "1/?"
    (Session.run server (keeper.bulkInsert portraits entities) []).1 = .ok ⟨2, 0⟩ ∧
      (Session.run server (keeper.bulkInsert portraits entities) []).2.2 =
        (Session.run server (keeper.insertEach portraits entities) []).2.2 := by
  intro entities server
  have hmembers (p : Portrait) : (Json.ofStringMembers p.members).IsFinite := by
    refine .obj fun m hm => ?_
    obtain ⟨member, -, rfl⟩ := List.mem_map.mp hm
    exact .str member.2
  obtain ⟨-, hreport, hdocs, -⟩ := bulkInsert_refines keeper portraits entities server
    (fun docs => docs) [] (fun p _ => ⟨_, rfl, hmembers p⟩)
    (stores_nook (by simp [stored, documents, entities, portraits, placed]) (by decide))
  exact ⟨hreport, hdocs⟩

end Store

end SearchStore
