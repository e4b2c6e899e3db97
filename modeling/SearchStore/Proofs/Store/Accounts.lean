import SearchStore.Proofs.Store.Feeding
import SearchStore.Proofs.Store.Location

/-! # The accounts of bulk writes

A `BulkWrite` is any of the five bulk writes of a store. All have one shape: they
look up where documents are stored, and then send one item for each input that
can be written. So what is shown of sending holds of all: `perform_accounted`
says that every input is accounted for, and that nothing is written when a
lookup fails.
-/

namespace SearchStore

variable {σ : Type} {server : Session.Server σ}

namespace Store

/-! ## Bulk writes of every kind -/

/-- A bulk write that a store is asked for. -/
inductive BulkWrite (ε : Type) where
  | insert (entities : List ε)
  | update (entities : List ε)
  | upsert (entities : List ε)
  | delete (ids : List String) (key : String)
  | setFields (field : String) (values : List (String × Json)) (key : String)

namespace BulkWrite

variable {ε : Type} (s : Store) (schema : Schema ε)

/-- Carries out a bulk write. -/
def perform : BulkWrite ε → Action BulkReport
  | insert entities => s.bulkInsert schema entities
  | update entities => s.bulkUpdate schema entities
  | upsert entities => s.bulkUpsert schema entities
  | delete ids key => bulkDelete s schema ids key
  | setFields field values key => s.bulkSetFields schema field values key

/-- What is looked up before anything is written. -/
def lookup : BulkWrite ε → Action Locations
  | insert _ => pure []
  | update entities => locateEntities schema entities
  | upsert entities => locateEntities schema entities
  | delete ids key => locate (schema.pattern key) ids
  | setFields _ values key => locate (schema.pattern key) (values.map Prod.fst)

/-- How many of the inputs can be written as JSON. -/
def size : BulkWrite ε → Nat
  | insert entities => entities.countP fun e => (schema.encode? e).isSome
  | update entities => entities.countP fun e => (schema.encode? e).isSome
  | upsert entities => entities.countP fun e => (schema.encode? e).isSome
  | delete ids _ => ids.length
  | setFields _ values _ => values.length

/-- The items that are sent, given where documents are stored. -/
def items (located : Locations) : BulkWrite ε → List BulkItem
  | insert entities => (documents schema entities).map fun (e, doc) =>
    .put (schema.index (schema.key e) s.today) (schema.id e) doc
  | update entities => (documents schema entities).map fun (e, doc) =>
    .merge (s.indexAmong schema located (schema.id e) (schema.key e)) (schema.id e) doc
  | upsert entities => (documents schema entities).map fun (e, doc) =>
    .upsert (s.indexAmong schema located (schema.id e) (schema.key e)) (schema.id e) doc
  | delete ids key => ids.map fun id => .delete (s.indexAmong schema located id key) id
  | setFields field values key => values.map fun (id, value) =>
    .merge (s.indexAmong schema located id key) id (.obj [(field, value)])

/-- A bulk write looks up, and then sends its items. -/
theorem perform_eq (w : BulkWrite ε) :
    w.perform s schema = (do s.runBulk (w.items s schema (← w.lookup schema))) := by
  cases w <;> rfl

theorem length_documents (entities : List ε) :
    (documents schema entities).length = entities.countP fun e => (schema.encode? e).isSome := by
  rw [documents, List.length_filterMap_eq_countP]
  simp

/-- There is one item for each input that can be written. -/
theorem length_items (located : Locations) (w : BulkWrite ε) :
    (w.items s schema located).length = w.size schema := by
  cases w <;> simp [items, size, length_documents]

end BulkWrite

/-! ## The lookups -/

/-- A search goes to another path than bulk writes do. -/
theorem path_searchRequest_ne (pattern operation : String) (parameters : List (String × String))
    (body : Json) :
    (searchRequest pattern "_search" operation parameters body).path ≠ "/_bulk" := by
  intro h
  have hlast : (pathOf [pattern, "_search"]).toList.getLast? = some 'h' := by
    have hend : (segment "_search").toList = "_searc".toList ++ ['h'] := by decide +kernel
    simp [pathOf, hend, List.getLast?_cons, List.getLast?_append]
  rw [show pathOf [pattern, "_search"] = "/_bulk" from h] at hlast
  exact absurd hlast (by decide)

theorem sends_hitsByChunks {P : Request → Prop} {pattern : String}
    (h : ∀ ids, P (lookupRequest pattern ids)) (pieces : List (List String)) :
    Session.Sends P (hitsByChunks pattern pieces) := by
  induction pieces with
  | nil => trivial
  | cons ids rest ih =>
    have hsearch : Session.Sends P (search pattern (idsRequest ids)) :=
      Action.sends_bind (Action.sends_sendChecked (h ids)) fun response =>
        Action.sends_of_except (response.read SearchAnswer.decode?)
    have hhits : Session.Sends P (hitsById pattern ids) := by
      rw [hitsById]
      split
      · trivial
      · exact Action.sends_bind hsearch fun _ => trivial
    exact Action.sends_bind hhits fun hits => Action.sends_bind ih fun _ => trivial

theorem sends_locateKeys {ε : Type} {P : Request → Prop} (schema : Schema ε)
    (h : ∀ pattern ids, P (lookupRequest pattern ids)) (groups : List (String × List String))
    (located : Locations) : Session.Sends P (locateKeys schema groups located) := by
  induction groups generalizing located with
  | nil => trivial
  | cons group rest ih =>
    exact Action.sends_bind (sends_hitsByChunks (h _) _) fun hits => ih _

/-- A lookup does nothing but search. -/
theorem BulkWrite.sends_lookup {ε : Type} (schema : Schema ε) (w : BulkWrite ε) :
    Session.Sends (fun r => r.path ≠ "/_bulk") (w.lookup schema) := by
  have h (pattern : String) (ids : List String) : (lookupRequest pattern ids).path ≠ "/_bulk" :=
    path_searchRequest_ne pattern "search" [("typed_keys", "true")] (idsRequest ids).toJson
  cases w with
  | insert entities => trivial
  | update entities => exact sends_locateKeys schema h _ _
  | upsert entities => exact sends_locateKeys schema h _ _
  | delete ids key => exact Action.sends_bind (sends_hitsByChunks (h _) _) fun _ => trivial
  | setFields field values key =>
    exact Action.sends_bind (sends_hitsByChunks (h _) _) fun _ => trivial

/-! ## Accounts -/

variable {ε : Type}

/-- If the lookup of a bulk write fails, the write fails with its error and sends no bulk request.
Otherwise the items, one for each input that can be written, are sent in shipments after the
lookup, and the result accounts for them. The result of any other run of the workers that is
given the same items does so too. -/
theorem perform_accounted (s : Store) (schema : Schema ε) (w : BulkWrite ε)
    (server : Session.Server σ) (x : σ) :
    (∀ e, (Session.run server (w.lookup schema) x).1 = .error e →
      (Session.run server (w.perform s schema) x).1 = .error e ∧
      ∀ r ∈ (Session.run server (w.perform s schema) x).2.1.requests, r.path ≠ "/_bulk") ∧
    ∀ located, (Session.run server (w.lookup schema) x).1 = .ok located →
      (∃ shipments,
        Session.exchanges server (w.perform s schema) x =
          Session.exchanges server (w.lookup schema) x ++ shipments.map Shipment.exchange ∧
        shipments.flatMap Shipment.items = w.items s schema located ∧
        Accounted (w.size schema) shipments (Session.run server (w.perform s schema) x).1) ∧
      ∀ r, Bulk.Reachable s.config.bulk r → r.accepted = w.items s schema located →
        r.Drained → r.phase ≠ .closed →
        (r.answered.flatMap Shipment.items).Perm (w.items s schema located) ∧
          Accounted (w.size schema) r.answered r.tally.report := by
  refine ⟨?_, fun located hlocated => ⟨?_, ?_⟩⟩
  · intro e he
    rw [w.perform_eq, Action.run_bind_error he]
    exact ⟨rfl, (w.sends_lookup schema).forall_requests_run server x⟩
  · obtain ⟨shipments, t, hexchanges, hitems, ht, hresult⟩ :=
      s.exists_runBulk server (w.items s schema located)
        (Session.run server (w.lookup schema) x).2.2
    have hlookup : Session.run server (w.lookup schema) x = (.ok located, _, _) :=
      Prod.ext hlocated rfl
    have hrun := Action.run_bind_ok hlookup fun located => s.runBulk (w.items s schema located)
    refine ⟨shipments, ?_, hitems, ?_⟩
    · rw [w.perform_eq, Action.exchanges_bind_ok hlocated, hexchanges]
    · rw [w.perform_eq, hrun, hresult]
      exact ht.accounted ((congrArg List.length hitems).trans (w.length_items s schema located))
  · intro r hreachable haccepted hdrained hphase
    have haccounted := hreachable.accounted hphase hdrained
    rwa [haccepted, w.length_items] at haccounted

/-- With an engine that cannot be reached, an insertion reports both documents as failed, and an
update ends with its lookup. -/
theorem perform_accounted_refused :
    let s : Store := { today := ⟨2024, 3, 15⟩ }
    let server : Session.Server Unit := fun _ x => (.error (.transport "refused"), x)
    let entities := [("1", "a"), ("2", "b")]
    (∃ shipments, Accounted 2 shipments
        (Session.run server ((BulkWrite.insert entities).perform s heroes) ()).1) ∧
      (Session.run server ((BulkWrite.insert entities).perform s heroes) ()).1 =
        .error (.bulkFlush 0 2 "Transport error: refused") ∧
      (Session.run server ((BulkWrite.update entities).perform s heroes) ()).1 =
        .error (.transport "refused") := by
  intro s server entities
  obtain ⟨shipments, -, -, haccounted⟩ :=
    ((perform_accounted s heroes (.insert entities) server ()).2 [] rfl).1
  refine ⟨⟨shipments, haccounted⟩, by decide +kernel, ?_⟩
  exact ((perform_accounted s heroes (.update entities) server ()).1
    (.transport "refused") (by decide +kernel)).1

end Store

end SearchStore
