import Mathlib.Data.List.Nodup
import SearchStore.Proofs.Query.Running

/-! # What the calls on a query come to

A query is configured by calls in any order and number. `Call` is one of them, and
`performAll` carries out a history of them. Each call concerns one part of the query only:
filters and the fields of the order are collected in the order of the calls, and of ranges,
limits, pages and keys the last one counts. So the request is a function of a few lists that
are read off the history, and calls on different parts can trade places (`compile_history`).
-/

namespace SearchStore

namespace QueryBuilder

variable {ε : Type}

/-! ## Orders -/

/-- How an order is spelled: a field alone or with `+` is for upwards, and with `-` for
downwards. A field alone does not end as one of the others. -/
inductive Spells : String → String → SortOrder → Prop
  | plain {field : String} (hne : field ≠ "") (hplus : field.toList.getLast? ≠ some '+')
      (hminus : field.toList.getLast? ≠ some '-') : Spells field field .asc
  | up {field : String} (hne : field ≠ "") : Spells (field ++ "+") field .asc
  | down {field : String} (hne : field ≠ "") : Spells (field ++ "-") field .desc

/-- A field with a direction. A field needs a name. -/
def named? (field : List Char) (direction : SortOrder) : Option (String × SortOrder) :=
  if field = [] then none else some (String.ofList field, direction)

/-- The field and the direction that an order spells. -/
def spelled? (order : String) : Option (String × SortOrder) :=
  if order.toList.getLast? = some '-' then named? order.toList.dropLast .desc
  else if order.toList.getLast? = some '+' then named? order.toList.dropLast .asc
  else named? order.toList .asc

theorem named?_eq_some_iff {cs : List Char} {d d' : SortOrder} {field : String} :
    named? cs d = some (field, d') ↔ field ≠ "" ∧ cs = field.toList ∧ d = d' := by
  rw [named?]
  split
  · rename_i h
    simp only [reduceCtorEq, false_iff, not_and]
    intro hne hfield
    exact absurd (String.toList_eq_nil_iff.mp (hfield ▸ h)) hne
  · rename_i h
    constructor
    · rintro ⟨⟩
      exact ⟨by simpa using h, by simp, rfl⟩
    · rintro ⟨-, rfl, rfl⟩
      rw [String.ofList_toList]

/-- What a text is whose last character is taken off. -/
theorem eq_append_of_getLast? {s field : String} {c : Char} (hlast : s.toList.getLast? = some c)
    (hfield : s.toList.dropLast = field.toList) : s = field ++ String.ofList [c] := by
  have hne : s.toList ≠ [] := by
    rintro hnil
    simp [hnil] at hlast
  have hc : s.toList.getLast hne = c := by
    rw [List.getLast?_eq_some_getLast hne] at hlast
    exact Option.some.inj hlast
  rw [← String.toList_inj, String.toList_append, String.toList_ofList, ← hfield, ← hc,
    List.dropLast_concat_getLast]

theorem spelled?_eq_some_iff {order field : String} {d : SortOrder} :
    spelled? order = some (field, d) ↔ Spells order field d := by
  constructor
  · intro h
    rw [spelled?] at h
    split at h
    · rename_i hlast
      obtain ⟨hne, hfield, rfl⟩ := named?_eq_some_iff.mp h
      rw [eq_append_of_getLast? hlast hfield]
      exact .down hne
    · rename_i hminus
      split at h
      · rename_i hlast
        obtain ⟨hne, hfield, rfl⟩ := named?_eq_some_iff.mp h
        rw [eq_append_of_getLast? hlast hfield]
        exact .up hne
      · rename_i hplus
        obtain ⟨hne, hfield, rfl⟩ := named?_eq_some_iff.mp h
        obtain rfl : order = field := String.toList_inj.mp hfield
        exact .plain hne hplus hminus
  · rintro (⟨hne, hplus, hminus⟩ | hne | hne)
    · rw [spelled?, if_neg hminus, if_neg hplus]
      exact named?_eq_some_iff.mpr ⟨hne, rfl, rfl⟩
    · simp [spelled?, named?_eq_some_iff, hne]
    · simp [spelled?, named?_eq_some_iff, hne]

theorem dropLast?_eq (last : Char) (cs : List Char) :
    dropLast? last cs = if cs.getLast? = some last then some cs.dropLast else none := by
  rcases List.eq_nil_or_concat cs with rfl | ⟨init, c, rfl⟩
  · rfl
  · simp [dropLast?]

/-- An order adds the field that it spells to those of its direction. -/
theorem sort_eq (b : QueryBuilder ε) (order : String) :
    b.sort order = match spelled? order with
      | none => b
      | some (field, .asc) => { b with ascending := b.ascending ++ [field] }
      | some (field, .desc) => { b with descending := b.descending ++ [field] } := by
  rw [sort, spelled?]
  simp only [dropLast?_eq]
  by_cases hminus : order.toList.getLast? = some '-'
  · simp only [if_pos hminus]
    cases hfield : order.toList.dropLast <;> simp [named?]
  · simp only [if_neg hminus]
    by_cases hplus : order.toList.getLast? = some '+'
    · simp only [if_pos hplus, Option.getD_some]
      cases hfield : order.toList.dropLast <;> simp [named?]
    · simp only [if_neg hplus, Option.getD_none]
      cases hfield : order.toList <;> simp [named?]

/-! ## Calls -/

/-- A call that configures a query. -/
inductive Call (ε : Type) where
  | filter (f : Filter)
  | matchAll (filters : List Filter)
  | matchAny (filters : List Filter)
  | range (r : RangeFilter)
  | sort (order : String)
  | limit (n : Nat)
  | page (n : Nat)
  | key (k : String)
  | apply (callback : ε → Option ε)

/-- The part of a query that a call concerns. -/
inductive Part where
  | all
  | any
  | range
  | order
  | limit
  | page
  | key
  | callbacks
deriving DecidableEq

namespace Call

def perform : Call ε → QueryBuilder ε → QueryBuilder ε
  | filter f, b => b.filter f
  | matchAll filters, b => b.matchAll filters
  | matchAny filters, b => b.matchAny filters
  | range r, b => b.withRange r
  | sort order, b => b.sort order
  | limit n, b => b.withLimit n
  | page n, b => b.withPage n
  | key k, b => b.withKey k
  | apply callback, b => b.apply callback

/-- A single filter is required as several are, so it concerns the same part. -/
def part : Call ε → Part
  | filter _ | matchAll _ => .all
  | matchAny _ => .any
  | range _ => .range
  | sort _ => .order
  | limit _ => .limit
  | page _ => .page
  | key _ => .key
  | apply _ => .callbacks

/-- Whether a call is about filters of which none is active. -/
def IsIdle : Call ε → Prop
  | filter f => f.active = false
  | matchAll filters | matchAny filters => ∀ f ∈ filters, f.active = false
  | _ => False

/-! What a call has to say on each part. -/

/-- Filters that must hold. -/
def required : Call ε → List Filter
  | filter f => [f].filter Filter.active
  | matchAll filters => filters.filter Filter.active
  | _ => []

/-- Filters of which one must hold. -/
def alternatives : Call ε → List Filter
  | matchAny filters => filters.filter Filter.active
  | _ => []

def range? : Call ε → Option RangeFilter
  | range r => some r
  | _ => none

/-- The field that a call orders by in a direction. -/
def ordered? (direction : SortOrder) : Call ε → Option String
  | sort order =>
    match spelled? order with
    | some (field, d) => if d = direction then some field else none
    | none => none
  | _ => none

def limit? : Call ε → Option Nat
  | limit n => some n
  | _ => none

def page? : Call ε → Option Nat
  | page n => some n
  | _ => none

def key? : Call ε → Option String
  | key k => some k
  | _ => none

def callback? : Call ε → Option (ε → Option ε)
  | apply callback => some callback
  | _ => none

/-- What a call does to each part. -/
theorem perform_eq (c : Call ε) (b : QueryBuilder ε) :
    c.perform b =
      { all := b.all ++ c.required
        any := b.any ++ c.alternatives
        ascending := b.ascending ++ (c.ordered? .asc).toList
        descending := b.descending ++ (c.ordered? .desc).toList
        callbacks := b.callbacks ++ c.callback?.toList
        range := c.range?.or b.range
        page := c.page?.getD b.page
        limit := c.limit?.getD b.limit
        key := c.key?.getD b.key } := by
  cases c with
  | sort order =>
    simp only [perform, sort_eq, required, alternatives, range?, limit?, page?, key?, callback?,
      ordered?]
    rcases spelled? order with _ | ⟨field, _ | _⟩ <;> simp
  | _ =>
    simp [perform, required, alternatives, range?, limit?, page?, key?, callback?, ordered?,
      QueryBuilder.filter, QueryBuilder.matchAll, QueryBuilder.matchAny, withRange, withLimit,
      withPage, withKey, QueryBuilder.apply]

/-- Calls on different parts can trade places. -/
theorem perform_comm {c d : Call ε} (h : c.part ≠ d.part) (b : QueryBuilder ε) :
    d.perform (c.perform b) = c.perform (d.perform b) := by
  -- each call has something to say on its own part only
  cases c <;> cases d <;>
    simp [part, perform_eq, required, alternatives, range?, limit?, page?, key?, callback?,
      ordered?] at h ⊢

theorem perform_of_isIdle {c : Call ε} (h : c.IsIdle) (b : QueryBuilder ε) : c.perform b = b := by
  have hnone {filters : List Filter} (h : ∀ f ∈ filters, f.active = false) :
      filters.filter Filter.active = [] :=
    List.filter_eq_nil_iff.mpr fun f hf => by simp [h f hf]
  cases c with
  | filter f =>
    have hf : f.active = false := h
    simp [perform, QueryBuilder.filter, QueryBuilder.matchAll, hf]
  | matchAll filters => simp [perform, QueryBuilder.matchAll, hnone h]
  | matchAny filters => simp [perform, QueryBuilder.matchAny, hnone h]
  | _ => exact absurd h id

end Call

/-! ## Histories -/

/-- The query after some calls, one after the other. -/
def performAll (b : QueryBuilder ε) (calls : List (Call ε)) : QueryBuilder ε :=
  calls.foldl (fun b c => c.perform b) b

/-- The last thing that calls say on a part of which the last one counts. -/
def last? {α : Type} (value : Call ε → Option α) (calls : List (Call ε)) : Option α :=
  (calls.filterMap value).getLast?

theorem last?_cons {α : Type} (value : Call ε → Option α) (c : Call ε) (calls : List (Call ε)) :
    last? value (c :: calls) = (last? value calls).or (value c) := by
  rw [last?, last?, List.filterMap_cons]
  rcases value c with _ | a
  · exact (Option.or_none).symm
  · rw [List.getLast?_cons]
    cases (calls.filterMap value).getLast? <;> rfl

theorem filterMap_cons_toList {α β : Type} (f : α → Option β) (a : α) (as : List α) :
    (a :: as).filterMap f = (f a).toList ++ as.filterMap f := by
  rw [List.filterMap_cons]
  cases f a <;> rfl

/-- What a history comes to: its filters, fields and callbacks are added in order, and of the
rest the last call counts. -/
theorem performAll_eq (b : QueryBuilder ε) (calls : List (Call ε)) :
    b.performAll calls =
      { all := b.all ++ calls.flatMap Call.required
        any := b.any ++ calls.flatMap Call.alternatives
        ascending := b.ascending ++ calls.filterMap (Call.ordered? .asc)
        descending := b.descending ++ calls.filterMap (Call.ordered? .desc)
        callbacks := b.callbacks ++ calls.filterMap Call.callback?
        range := (last? Call.range? calls).or b.range
        page := (last? Call.page? calls).getD b.page
        limit := (last? Call.limit? calls).getD b.limit
        key := (last? Call.key? calls).getD b.key } := by
  induction calls generalizing b with
  | nil => simp [performAll, last?]
  | cons c calls ih =>
    rw [performAll, List.foldl_cons, ← performAll, ih, c.perform_eq]
    simp only [List.flatMap_cons, filterMap_cons_toList, last?_cons, List.append_assoc,
      Option.or_assoc, ← Option.getD_or]

theorem performAll_append (b : QueryBuilder ε) (calls more : List (Call ε)) :
    b.performAll (calls ++ more) = (b.performAll calls).performAll more :=
  List.foldl_append

/-- A query with the calls of a history. -/
def ofCalls (config : StoreConfig) (calls : List (Call ε)) : QueryBuilder ε :=
  (start config).performAll calls

/-- A part of a history that comes to the same as another one can be put in its place. -/
theorem ofCalls_congr {before calls calls' : List (Call ε)}
    (h : ∀ b : QueryBuilder ε, b.performAll calls = b.performAll calls')
    (config : StoreConfig) (after : List (Call ε)) :
    ofCalls config (before ++ calls ++ after) = ofCalls config (before ++ calls' ++ after) := by
  simp only [ofCalls, performAll_append, h]

/-! ## The request of a history -/

/-- The size of the pages: the last limit, or else the one of the configuration. -/
def pageSize (config : StoreConfig) (calls : List (Call ε)) : Nat :=
  (last? Call.limit? calls).getD config.defaultLimit

/-- What the filters of a history select. -/
def selected (config : StoreConfig) (calls : List (Call ε)) : Selection :=
  .ofFilters config.likePolarity (calls.flatMap Call.required) (calls.flatMap Call.alternatives)
    (last? Call.range? calls)

/-- The request that a history asks for. -/
def normalForm (config : StoreConfig) (calls : List (Call ε)) : SearchRequest :=
  { query := some (selected config calls).toQuery
    sort := (calls.filterMap (Call.ordered? .asc)).map (fun field => [(field, .asc)]) ++
      (calls.filterMap (Call.ordered? .desc)).map fun field => [(field, .desc)]
    start := some
      (min ((last? Call.page? calls).getD 0 * pageSize config calls) (UInt64.size - 1))
    size := some (pageSize config calls) }

theorem selection_ofCalls (config : StoreConfig) (calls : List (Call ε)) :
    (ofCalls config calls).selection config = selected config calls := by
  simp [ofCalls, performAll_eq, start, selection, selected]

theorem compile_ofCalls (config : StoreConfig) (calls : List (Call ε)) :
    (ofCalls config calls).compile config = normalForm config calls := by
  rw [compile, selection_ofCalls, ofCalls, performAll_eq]
  simp [start, sortClauses, offset, normalForm, pageSize]

/-! ## Histories and their requests -/

/-- The places that a request asks for, among all hits in order. -/
def places (r : SearchRequest) : List Nat := List.range' (r.start.getD 0) (r.size.getD 0)

/-- A page that is in reach begins where its number and the size of the pages say. -/
theorem places_page (config : StoreConfig) (calls : List (Call ε)) {p : Nat}
    (h : p * pageSize config calls ≤ UInt64.size - 1) :
    places ((ofCalls config (calls ++ [.page p])).compile config) =
      List.range' (p * pageSize config calls) (pageSize config calls) := by
  have hsize : pageSize config (calls ++ [.page p]) = pageSize config calls := by
    simp [pageSize, last?, Call.limit?]
  have hpage : last? Call.page? (calls ++ [.page p]) = some p := by
    simp [last?, Call.page?]
  rw [compile_ofCalls, normalForm, places, hsize, hpage]
  simp only [Option.getD_some, Nat.min_eq_left h]

/-- The request of a history is its normal form: the query of the filters that are required and of
those of which one is, in order, and of the last range; the fields upwards before those downwards;
and the last page, in pages of the last limit. So neighbours that concern different parts can trade
places, filters can be given at once or one after the other, and calls without active filters can
be left out. To count and to find is to ask for the same query, and a page begins where the one
before it ends. -/
theorem compile_history (s : Store) :
    let compiled (calls : List (Call ε)) := (ofCalls s.config calls).compile s.config
    (∀ calls, compiled calls = normalForm s.config calls) ∧
    (∀ order field d, spelled? order = some (field, d) ↔ Spells order field d) ∧
    (∀ before c d after, c.part ≠ d.part →
      compiled (before ++ [c, d] ++ after) = compiled (before ++ [d, c] ++ after)) ∧
    (∀ before fs gs after,
      compiled (before ++ [.matchAll (fs ++ gs)] ++ after) =
        compiled (before ++ [.matchAll fs, .matchAll gs] ++ after) ∧
      compiled (before ++ [.matchAny (fs ++ gs)] ++ after) =
        compiled (before ++ [.matchAny fs, .matchAny gs] ++ after)) ∧
    (∀ before c after, c.IsIdle → compiled (before ++ [c] ++ after) = compiled (before ++ after)) ∧
    (∀ (schema : Schema ε) (σ : Type) (server : Session.Server σ) calls last x, ∃ q,
      (compiled calls).query = some q ∧
      let b : QueryBuilder ε := ofCalls s.config calls
      (Session.run server ((b.count s schema).steps last) x).2.1.requests =
        [Store.countRequest (b.pattern schema) q] ∧
      (Session.run server ((b.find s schema).steps last) x).2.1.requests =
        Store.countRequest (b.pattern schema) q ::
          match (Session.run server ((b.count s schema).steps last) x).1.1 with
          | .ok _ => [Store.hitsRequest (b.pattern schema) (compiled calls)]
          | .error _ => []) ∧
    (∀ calls p, p * pageSize s.config calls + pageSize s.config calls ≤ UInt64.size - 1 →
      places (compiled (calls ++ [.page p])) ++ places (compiled (calls ++ [.page (p + 1)])) =
          List.range' (p * pageSize s.config calls) (2 * pageSize s.config calls) ∧
        (places (compiled (calls ++ [.page p]))).Disjoint
          (places (compiled (calls ++ [.page (p + 1)])))) := by
  intro compiled
  -- a request depends on a piece of the history only through what the piece does to a query
  have congr {before calls calls' after : List (Call ε)}
      (h : ∀ b : QueryBuilder ε, b.performAll calls = b.performAll calls') :
      compiled (before ++ calls ++ after) = compiled (before ++ calls' ++ after) :=
    congrArg (compile s.config) (ofCalls_congr h s.config after)
  refine ⟨compile_ofCalls s.config, fun _ _ _ => spelled?_eq_some_iff, ?_, ?_, ?_, ?_, ?_⟩
  · intro before c d after hparts
    exact congr fun b => Call.perform_comm hparts b
  · intro before fs gs after
    constructor
    · refine congr fun b => ?_
      simp [performAll, Call.perform, matchAll]
    · refine congr fun b => ?_
      simp [performAll, Call.perform, matchAny]
  · intro before c after hidle
    have hsame : compiled (before ++ [c] ++ after) = compiled (before ++ [] ++ after) :=
      congr fun b => Call.perform_of_isIdle hidle b
    rwa [List.append_nil] at hsame
  · intro schema σ server calls last x
    exact ⟨_, rfl, requests_count s schema _ last x, requests_find s schema _ last x⟩
  · intro calls p hfits
    have hnext : (p + 1) * pageSize s.config calls =
        p * pageSize s.config calls + pageSize s.config calls := Nat.succ_mul ..
    have hfirst := places_page s.config calls (Nat.le_of_add_right_le hfits)
    have hsecond := places_page s.config calls (hnext ▸ hfits)
    have hplaces : places (compiled (calls ++ [.page p])) ++
        places (compiled (calls ++ [.page (p + 1)])) =
          List.range' (p * pageSize s.config calls) (2 * pageSize s.config calls) := by
      rw [hfirst, hsecond, hnext, Nat.two_mul]
      exact List.range'_append_1
    refine ⟨hplaces, ?_⟩
    -- places in a row are all different
    have hnodup := hplaces ▸ List.nodup_range'
    exact List.disjoint_of_nodup_append hnodup

/-- A limit and an order trade places, a filter that is not active is left out, and the third and
the fourth page ask for twenty places. -/
theorem compile_history_page :
    let s : Store := { today := ⟨2024, 3, 15⟩ }
    let calls : List (Call Unit) := [.sort "num-", .limit 10, .sort "+", .sort "name+"]
    let swapped : List (Call Unit) := [.limit 10, .sort "num-", .sort "+", .sort "name+"]
    let idle : Call Unit := .filter { Filter.eq "color" (.str "red") with active := false }
    (ofCalls s.config calls).compile s.config = (ofCalls s.config swapped).compile s.config ∧
      (ofCalls s.config (calls ++ [idle])).compile s.config =
        (ofCalls s.config calls).compile s.config ∧
      ((ofCalls s.config calls).compile s.config).sort = [[("name", .asc)], [("num", .desc)]] ∧
      places ((ofCalls s.config (calls ++ [.page 2])).compile s.config) ++
        places ((ofCalls s.config (calls ++ [.page 3])).compile s.config) =
          List.range' 20 20 := by
  intro s calls swapped idle
  obtain ⟨hform, -, hswap, -, hidle, -, hpages⟩ := compile_history (ε := Unit) s
  refine ⟨?_, ?_, ?_, ?_⟩
  · exact hswap [] (.sort "num-") (.limit 10) [.sort "+", .sort "name+"] (by decide)
  · exact hidle calls idle [] rfl
  · exact (congrArg SearchRequest.sort (hform calls)).trans (by decide)
  · exact (hpages calls 2 (by decide)).1

end QueryBuilder

end SearchStore
