import Mathlib.Data.List.Basic
import SearchStore.Bulk.Indexer

/-! # Outcomes of items

What becomes of the items of one request, and what the counters say of it.
`settled_success_iff` reads the outcome of an item off its own place in the
answer. `Counts` says what each counter stands for, and `Counts.count` that one
more outcome keeps it so.
-/

namespace SearchStore

namespace ItemOutcome

def isSuccess : ItemOutcome → Bool
  | .success _ => true
  | .failure _ => false

/-- Whether the engine says that it has created the document. -/
def isCreated : ItemOutcome → Bool
  | .success r => r.result = some "created"
  | .failure _ => false

theorem ofResult_eq_success {r s : ItemResult} :
    ofResult r = .success s ↔ r = s ∧ s.error = none ∧ s.status ≤ 201 := by
  by_cases h : r.error.isNone && r.status ≤ 201
  · have hparts : r.error = none ∧ r.status ≤ 201 := by simpa using h
    rw [ofResult, if_pos h]
    constructor
    · rintro heq
      obtain rfl := ItemOutcome.success.inj heq
      exact ⟨rfl, hparts⟩
    · rintro ⟨rfl, -⟩
      rfl
  · rw [ofResult, if_neg h]
    constructor
    · rintro heq
      cases heq
    · rintro ⟨rfl, herror, hstatus⟩
      exact absurd (by simp [herror, hstatus]) h

end ItemOutcome

/-- Whether the hook that fits an outcome is set. -/
def Hooks.want (h : Hooks) : ItemOutcome → Bool
  | .success _ => h.onSuccess
  | .failure _ => h.onFailure

/-- What the hook of an item hears of its outcome. -/
def BulkItem.heard (item : BulkItem) (o : ItemOutcome) : Option Report :=
  if item.hooks.want o then some (.outcome item.id o) else none

/-! ## The items of one request -/

/-- A request that was answered, with its items. -/
structure Shipment where
  items : List BulkItem
  answer : Except Error Response

namespace Shipment

/-- The text of some items. -/
def text (items : List BulkItem) : String := String.join (items.map BulkItem.encode)

theorem text_append_single (items : List BulkItem) (item : BulkItem) :
    text (items ++ [item]) = text items ++ item.encode := by
  simp [text]

def request (s : Shipment) : Request := Worker.request (text s.items)

/-- The items with their outcomes. -/
def settled (s : Shipment) : List (BulkItem × ItemOutcome) :=
  match Worker.readAnswer s.answer with
  | .ok entries => Worker.outcomes s.items entries
  | .error e => s.items.map fun item => (item, .failure (.request e.message))

/-- The result that an answer has for the item at a place. -/
def result? (s : Shipment) (k : Nat) : Option ItemResult :=
  match Worker.readAnswer s.answer with
  | .ok entries => ((entries[k]?).bind List.head?).map Prod.snd
  | .error _ => none

theorem getElem?_outcomes (items : List BulkItem) (entries : List (List (String × ItemResult)))
    (k : Nat) : (Worker.outcomes items entries)[k]? =
      items[k]?.map fun item => (item, .ofReported entries[k]?) := by
  induction items generalizing entries k with
  | nil => simp [Worker.outcomes]
  | cons item rest ih =>
    cases k with
    | zero => simp [Worker.outcomes, List.head?_eq_getElem?]
    | succ k => simp [Worker.outcomes, ih]

/-- Each item has one outcome. -/
theorem map_fst_settled (s : Shipment) : s.settled.map Prod.fst = s.items := by
  rw [settled]
  split
  · apply List.ext_getElem?
    intro k
    rw [List.getElem?_map, getElem?_outcomes, Option.map_map]
    exact Option.map_id'
  · rw [List.map_map]
    exact List.map_id' s.items

/-- An item succeeds if and only if its own result is there, without an error
and with a status of at most 201. -/
theorem settled_success_iff {s : Shipment} {k : Nat} {item : BulkItem} {o : ItemOutcome}
    (h : s.settled[k]? = some (item, o)) (r : ItemResult) :
    o = .success r ↔ s.result? k = some r ∧ r.error = none ∧ r.status ≤ 201 := by
  rw [settled] at h
  rw [result?]
  split at h
  · -- the answer was read, and the item looks at its own place
    rename_i entries _
    rw [getElem?_outcomes] at h
    obtain ⟨item', -, hpair⟩ := Option.map_eq_some_iff.mp h
    obtain ⟨-, rfl⟩ := Prod.mk.inj hpair
    rcases hentry : (entries[k]?).bind List.head? with _ | ⟨name, result⟩
    · simp [ItemOutcome.ofReported, hentry]
    · simp [ItemOutcome.ofReported, hentry, ItemOutcome.ofResult_eq_success]
  · -- the request failed as a whole, and every item with it
    rw [List.getElem?_map] at h
    obtain ⟨item', -, hpair⟩ := Option.map_eq_some_iff.mp h
    obtain ⟨-, rfl⟩ := Prod.mk.inj hpair
    simp

end Shipment

/-! ## The counters -/

namespace BulkStats

@[simp] theorem count_added (s : BulkStats) (item : BulkItem) (o : ItemOutcome) :
    (s.count item o).added = s.added := by
  cases o with
  | failure => rfl
  | success r =>
    simp only [count]
    split <;> cases item.action <;> rfl

@[simp] theorem count_requests (s : BulkStats) (item : BulkItem) (o : ItemOutcome) :
    (s.count item o).requests = s.requests := by
  cases o with
  | failure => rfl
  | success r =>
    simp only [count]
    split <;> cases item.action <;> rfl

/-- The counters of outcomes are those of some outcomes. -/
structure Counts (s : BulkStats) (landed : List (BulkItem × ItemOutcome)) : Prop where
  flushed : s.flushed = landed.countP fun x => x.2.isSuccess
  failed : s.failed = landed.countP fun x => !x.2.isSuccess
  indexed : s.indexed = landed.countP fun x => x.2.isSuccess && x.1.action = .index
  updated : s.updated = landed.countP fun x => x.2.isSuccess && x.1.action = .update
  deleted : s.deleted = landed.countP fun x => x.2.isSuccess && x.1.action = .delete
  created : s.created = landed.countP fun x => x.2.isCreated

namespace Counts

variable {s : BulkStats} {landed : List (BulkItem × ItemOutcome)}

/-- The other counters do not matter. -/
theorem congr {s' : BulkStats} (h : Counts s landed) (h₁ : s'.flushed = s.flushed)
    (h₂ : s'.failed = s.failed) (h₃ : s'.indexed = s.indexed) (h₄ : s'.updated = s.updated)
    (h₅ : s'.deleted = s.deleted) (h₆ : s'.created = s.created) : Counts s' landed :=
  ⟨h₁.trans h.flushed, h₂.trans h.failed, h₃.trans h.indexed, h₄.trans h.updated,
    h₅.trans h.deleted, h₆.trans h.created⟩

theorem nil : Counts {} [] := ⟨rfl, rfl, rfl, rfl, rfl, rfl⟩

/-- One more outcome is counted as what it is. -/
theorem count (h : Counts s landed) (item : BulkItem) (o : ItemOutcome) :
    Counts (s.count item o) (landed ++ [(item, o)]) := by
  obtain ⟨h₁, h₂, h₃, h₄, h₅, h₆⟩ := h
  cases o with
  | failure reason =>
    constructor <;>
      simp [BulkStats.count, ItemOutcome.isSuccess, ItemOutcome.isCreated, h₁, h₂, h₃, h₄, h₅, h₆]
  | success r =>
    -- what is counted depends on the word of the engine and on the action
    by_cases hr : r.result = some "created" <;> cases ha : item.action <;> constructor <;>
      simp [BulkStats.count, countAction, ItemOutcome.isSuccess, ItemOutcome.isCreated, ha, hr, h₁,
        h₂, h₃, h₄, h₅, h₆]

theorem settled (h : Counts s landed) : s.flushed + s.failed = landed.length := by
  rw [h.flushed, h.failed, List.length_eq_countP_add_countP fun x => x.2.isSuccess]
  simp

/-- An item that is accepted is counted under its action. -/
theorem byAction (h : Counts s landed) : s.flushed = s.indexed + s.updated + s.deleted := by
  rw [h.flushed, h.indexed, h.updated, h.deleted]
  clear h
  induction landed with
  | nil => rfl
  | cons x rest ih =>
    simp only [List.countP_cons, ih]
    cases x.2.isSuccess <;> cases x.1.action <;> simp <;> omega

theorem created_le (h : Counts s landed) : s.created ≤ s.flushed := by
  rw [h.created, h.flushed]
  apply List.countP_mono_left
  rintro ⟨item, o⟩ -
  cases o <;> simp [ItemOutcome.isCreated, ItemOutcome.isSuccess]

end Counts

end BulkStats

end SearchStore
