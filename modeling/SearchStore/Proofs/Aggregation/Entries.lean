import SearchStore.Proofs.Aggregation.Reading
import SearchStore.Proofs.Json.Record
import SearchStore.Proofs.Query.Layout

/-! # Entries of an answer

The members of an object that are answers, apart from how they are read. An
entry has a kind, a name and a body; entries of some kinds have objects inside
that are answers in turn, and through those further entries are reached.

`Entry.ReadAs` says once how an entry is read: by its kind, from its body and
from what is read in its objects. What is read and what fails follows from it
in `Entry.of_read` and `Entry.of_read_error`.
-/

namespace SearchStore

/-! ## Lists that are read item by item -/

section Traversal

variable {α β ε : Type} {f : α → Except ε β} {as : List α}

theorem except_map_eq_ok_iff {g : α → β} {x : Except ε α} {b : β} :
    x.map g = .ok b ↔ ∃ a, x = .ok a ∧ g a = b := by
  cases x <;> simp [Except.map]

theorem except_map_eq_error_iff {g : α → β} {x : Except ε α} {e : ε} :
    x.map g = .error e ↔ x = .error e := by
  cases x <;> simp [Except.map]

theorem mapM_eq_ok_iff {bs : List β} :
    as.mapM f = .ok bs ↔ List.Forall₂ (fun a b => f a = .ok b) as bs := by
  induction as generalizing bs with
  | nil => cases bs <;> simp [pure, Except.pure]
  | cons a as ih =>
    rw [List.mapM_cons]
    constructor
    · intro h
      cases ha : f a with
      | error e => simp [ha, bind, Except.bind] at h
      | ok b =>
        cases has : as.mapM f with
        | error e => simp [ha, has, bind, Except.bind] at h
        | ok rest =>
          obtain rfl : b :: rest = bs := by
            simpa [ha, has, bind, Except.bind, pure, Except.pure] using h
          exact .cons ha (ih.mp has)
    · rintro (_ | ⟨ha, hrest⟩)
      simp [ha, ih.mpr hrest, bind, Except.bind, pure, Except.pure]

/-- The error is that of some item. -/
theorem exists_of_mapM_error {e : ε} (h : as.mapM f = .error e) : ∃ a ∈ as, f a = .error e := by
  induction as with
  | nil => simp [pure, Except.pure] at h
  | cons a as ih =>
    rw [List.mapM_cons] at h
    cases ha : f a with
    | error e' =>
      obtain rfl : e' = e := by simpa [ha, bind, Except.bind] using h
      exact ⟨a, List.mem_cons_self .., ha⟩
    | ok b =>
      cases has : as.mapM f with
      | error e' =>
        obtain rfl : e' = e := by simpa [ha, has, bind, Except.bind] using h
        obtain ⟨x, hx, hfx⟩ := ih has
        exact ⟨x, List.mem_cons_of_mem _ hx, hfx⟩
      | ok rest => simp [ha, has, bind, Except.bind, pure, Except.pure] at h

theorem exists_of_forall₂ {R : α → β → Prop} {bs : List β} (h : List.Forall₂ R as bs) {a : α}
    (ha : a ∈ as) : ∃ b, R a b := by
  induction h with
  | nil => cases ha
  | cons hab _ ih =>
    rcases List.mem_cons.mp ha with rfl | ha
    · exact ⟨_, hab⟩
    · exact ih ha

end Traversal

namespace Json

/-- Every whole number inside is one that a text can say. -/
inductive InRange : Json → Prop
  | intro {j : Json}
      (hint : ∀ n : Int, j = .int n → Int64.minValue.toInt ≤ n ∧ n < UInt64.size)
      (h : ∀ v ∈ j.values, v.InRange) : j.InRange

theorem InRange.of_mem_values {j v : Json} (h : j.InRange) (hv : v ∈ j.values) : v.InRange := by
  obtain ⟨-, hvalues⟩ := h
  exact hvalues v hv

theorem mem_values_of_lookup {name : String} {ms : List (String × Json)} {v : Json}
    (h : lookup name ms = some v) : v ∈ (obj ms).values := by
  obtain ⟨m, hm, rfl⟩ := Option.map_eq_some_iff.mp h
  exact List.mem_map_of_mem (List.mem_of_find?_eq_some hm)

theorem mem_values_of_get? {name : String} {j v : Json} (h : j.get? name = some v) :
    v ∈ j.values := by
  cases j with
  | obj ms => exact mem_values_of_lookup h
  | null | bool | int | real | str | arr => simp [get?] at h

end Json

namespace Aggregate

/-! ## Entries -/

/-- A kind and a name, and what stands under them. -/
structure Entry where
  kind : String
  name : String
  body : Json

namespace Entry

/-- The key of an entry. -/
def key (e : Entry) : String := e.kind ++ "#" ++ e.name

/-- The kinds of buckets. -/
def bucketKinds : List String :=
  ["sterms", "lterms", "dterms", "date_histogram", "auto_date_histogram"]

/-- All kinds. -/
def kinds : List String :=
  ["cardinality", "avg", "min", "max", "sum", "umterms", "nested"] ++ bucketKinds

/-- The items of the buckets of a body. -/
def items (body : Json) : List Json :=
  match body.get? "buckets" with
  | some (.arr items) => items
  | _ => []

/-- The objects right inside an entry in which there are answers again: the
body for nested documents, and each bucket. -/
def objects (e : Entry) : List (List (String × Json)) :=
  if e.kind = "nested" then e.body.asMembers?.toList
  else if e.kind ∈ bucketKinds then (items e.body).filterMap Json.asMembers?
  else []

/-- A key of a bucket is of the type that belongs to the kind. -/
structure KeyFits (kind : String) (key : Json) : Prop where
  string : kind = "sterms" → ∃ s, key = .str s
  integer : kind ∈ ["lterms", "date_histogram", "auto_date_histogram"] →
    ∃ n, key = .int n ∧ IsInt64 n
  number : kind = "dterms" → (∃ n, key = .int n) ∨ ∃ x, key = .real x

/-- An item is a bucket of the kind. -/
def IsBucket (kind : String) (item : Json) : Prop :=
  ∃ bucket key, item = .obj bucket ∧ Json.lookup "key" bucket = some key ∧ KeyFits kind key

/-- The body has no buckets, or an array of them. -/
def HasBuckets (kind : String) (body : Json) : Prop :=
  ∀ j, body.get? "buckets" = some j → ∃ items, j = .arr items ∧ ∀ item ∈ items, IsBucket kind item

/-- The body of an entry has the shape that its kind asks for. -/
structure Formed (e : Entry) : Prop where
  nested : e.kind = "nested" → ∃ ms, e.body = .obj ms
  buckets : e.kind ∈ bucketKinds → HasBuckets e.kind e.body

end Entry

/-- An entry stands among the members of an object. The kind ends at the first
`#` of the key. -/
def IsEntry (ms : List (String × Json)) (e : Entry) : Prop :=
  '#' ∉ e.kind.toList ∧ (e.key, e.body) ∈ ms

/-- An entry is among the members of an object or of the objects inside an
entry that is reached. -/
inductive Reached (ms : List (String × Json)) : Entry → Prop
  | here {e : Entry} (h : IsEntry ms e) : Reached ms e
  | inside {e e' : Entry} {o : List (String × Json)} (h : Reached ms e) (ho : o ∈ e.objects)
      (he : IsEntry o e') : Reached ms e'

/-- Of the entries of one name the one with the last key counts. -/
def Wins (ms : List (String × Json)) (e : Entry) : Prop :=
  IsEntry ms e ∧ ∀ e', IsEntry ms e' → e'.name = e.name → e'.key ≤ e.key

/-- What was read in the objects inside. -/
def inners : Aggregate → List Aggregates
  | .stringTerms bs => bs.map Bucket.inner
  | .longTerms bs | .dateHistogram bs _ | .autoDateHistogram bs _ => bs.map Bucket.inner
  | .doubleTerms bs => bs.map Bucket.inner
  | .nested _ inner => [inner]
  | .metric _ _ | .unmappedTerms => []

/-- There is one aggregate for each name of an entry and no other, in the order
of the names, and each is the one of the entry that counts. -/
structure ReadAt (ms : List (String × Json)) (aggs : Aggregates) : Prop where
  inOrder : Json.InOrder aggs
  names : ∀ name, name ∈ aggs.map Prod.fst ↔ ∃ e, IsEntry ms e ∧ e.name = name
  winner : ∀ name a, (name, a) ∈ aggs → ∃ e, Wins ms e ∧ e.name = name ∧ a.kind = e.kind ∧
    a.inners.length = e.objects.length

/-- An object of an answer, at any depth, with the aggregates that it is read as. -/
inductive Level (ms : List (String × Json)) (aggs : Aggregates) :
    List (String × Json) → Aggregates → Prop
  | top : Level ms aggs ms aggs
  | inside {ms' o : List (String × Json)} {aggs' inner : Aggregates} {e : Entry} {a : Aggregate}
      (h : Level ms aggs ms' aggs') (he : Wins ms' e) (ha : (e.name, a) ∈ aggs')
      (ho : (o, inner) ∈ e.objects.zip a.inners) : Level ms aggs o inner

/-! ## The entries of an object, in order -/

/-- A member as an entry, if it is one. -/
def entryOf? (m : String × Json) : Option Entry :=
  (Text.cutAt? '#' m.1.toList).map fun (kind, name) =>
    ⟨String.ofList kind, String.ofList name, m.2⟩

theorem entryOf?_eq_some_iff {m : String × Json} {e : Entry} :
    entryOf? m = some e ↔ '#' ∉ e.kind.toList ∧ m = (e.key, e.body) := by
  obtain ⟨key, body⟩ := m
  constructor
  · intro h
    obtain ⟨⟨kind, name⟩, hcut, rfl⟩ := Option.map_eq_some_iff.mp h
    obtain ⟨hkind, hkey⟩ := Text.eq_of_cutAt? hcut
    refine ⟨by simpa using hkind, Prod.ext (String.toList_inj.mp ?_) rfl⟩
    simpa [Entry.key] using hkey
  · rintro ⟨hkind, heq⟩
    obtain ⟨rfl, rfl⟩ := Prod.mk.inj heq
    have hkey : e.key.toList = e.kind.toList ++ '#' :: e.name.toList := by simp [Entry.key]
    rw [entryOf?, hkey, Text.cutAt?_append hkind]
    simp

theorem mem_entries_iff {ms : List (String × Json)} {e : Entry} :
    e ∈ ms.filterMap entryOf? ↔ IsEntry ms e := by
  simp only [List.mem_filterMap, entryOf?_eq_some_iff, IsEntry]
  constructor
  · rintro ⟨m, hm, hkind, rfl⟩
    exact ⟨hkind, hm⟩
  · rintro ⟨hkind, hm⟩
    exact ⟨_, hm, hkind, rfl⟩

/-- How an entry is read. -/
def Entry.read (e : Entry) : Except Error Aggregate := ofBody e.kind e.name e.body

theorem typedMembers_eq_mapM (ms : List (String × Json)) :
    typedMembers ms = (ms.filterMap entryOf?).mapM fun e => e.read.map (e.name, ·) := by
  induction ms with
  | nil => rfl
  | cons m rest ih =>
    obtain ⟨key, body⟩ := m
    rw [typedMembers, List.filterMap_cons, entryOf?]
    rcases Text.cutAt? '#' key.toList with _ | ⟨kind, name⟩
    · exact ih
    · simp only [Option.map_some, List.mapM_cons, Entry.read, ih]
      cases ofBody (String.ofList kind) (String.ofList name) body <;> rfl

/-- Members are read if each of their entries is. -/
theorem of_ofMembers {ms : List (String × Json)} {aggs : Aggregates}
    (h : ofMembers ms = .ok aggs) :
    ∃ pairs : List (Entry × Aggregate), pairs.map Prod.fst = ms.filterMap entryOf? ∧
      (∀ p ∈ pairs, p.1.read = .ok p.2) ∧
      aggs = Json.sortMembers (pairs.map fun p => (p.1.name, p.2)) := by
  rw [ofMembers, typedMembers_eq_mapM] at h
  obtain ⟨named, hnamed, rfl⟩ := except_map_eq_ok_iff.mp h
  have hall := mapM_eq_ok_iff.mp hnamed
  suffices hpairs : ∃ pairs : List (Entry × Aggregate), pairs.map Prod.fst = ms.filterMap entryOf? ∧
      (∀ p ∈ pairs, p.1.read = .ok p.2) ∧ named = pairs.map fun p => (p.1.name, p.2) by
    obtain ⟨pairs, hfst, hread, rfl⟩ := hpairs
    exact ⟨pairs, hfst, hread, rfl⟩
  clear hnamed h
  generalize ms.filterMap entryOf? = es at hall ⊢
  induction hall with
  | nil => exact ⟨[], rfl, List.forall_mem_nil _, rfl⟩
  | @cons e m es named he _ ih =>
    obtain ⟨pairs, rfl, hread, rfl⟩ := ih
    obtain ⟨a, ha, rfl⟩ := except_map_eq_ok_iff.mp he
    exact ⟨(e, a) :: pairs, rfl, List.forall_mem_cons.mpr ⟨ha, hread⟩, rfl⟩

/-- The error of the members is that of one of their entries. -/
theorem exists_of_ofMembers_error {ms : List (String × Json)} {err : Error}
    (h : ofMembers ms = .error err) : ∃ e, IsEntry ms e ∧ e.read = .error err := by
  rw [ofMembers, typedMembers_eq_mapM] at h
  obtain ⟨e, he, herr⟩ := exists_of_mapM_error (except_map_eq_error_iff.mp h)
  exact ⟨e, mem_entries_iff.mp he, except_map_eq_error_iff.mp herr⟩

/-! ## How an entry is read -/

/-- The body of an object and of anything else in one equation. -/
theorem ofBody_eq (kind name : String) (body : Json) :
    ofBody kind name body =
      assemble kind name body (insideItem body) ((Entry.items body).map insideItem) := by
  have hitems (items : List Json) : insideItems items = items.map insideItem := by
    induction items with
    | nil => rfl
    | cons j rest ih => rw [insideItems, ih, List.map_cons]
  have hinside (ms : List (String × Json)) :
      insideMembers ms = (Entry.items (.obj ms)).map insideItem := by
    rw [Entry.items, Json.get?]
    induction ms with
    | nil => rfl
    | cons m rest ih =>
      obtain ⟨name, j⟩ := m
      rw [insideMembers]
      by_cases hname : name = "buckets"
      · rw [if_pos hname]
        cases j <;> simp [Json.lookup, hname, insideBuckets, hitems]
      · rw [if_neg hname, ih]
        simp [Json.lookup, hname]
  cases body with
  | obj ms => rw [ofBody, hinside, insideItem]
  | null | bool | int | real | str | arr => rfl

/-- The keys that a reader takes are those of the kind. -/
structure ReadsKeys {κ : Type} (kind : String) (readKey : Json → Except String κ) : Prop where
  fits : ∀ {j k}, j.InRange → readKey j = .ok k → Entry.KeyFits kind j
  ok : ∀ {j}, Entry.KeyFits kind j → ∃ k, readKey j = .ok k

theorem readsKeys_string : ReadsKeys "sterms" stringKey where
  fits {j k} _ h := by
    refine ⟨fun _ => ?_, fun hkind => absurd hkind (by decide), nofun⟩
    cases j <;> simp only [stringKey, reduceCtorEq] at h
    exact ⟨_, rfl⟩
  ok {j} h := by
    obtain ⟨s, rfl⟩ := h.string rfl
    exact ⟨s, rfl⟩

theorem readsKeys_int {kind : String}
    (hkind : kind ∈ ["lterms", "date_histogram", "auto_date_histogram"]) :
    ReadsKeys kind intKey where
  fits {j k} hrange h := by
    refine ⟨?_, fun _ => ?_, ?_⟩
    · rintro rfl
      exact absurd hkind (by decide)
    · cases j <;> simp only [intKey, reduceCtorEq] at h
      split_ifs at h with hmax
      obtain ⟨hint, -⟩ := hrange
      exact ⟨_, rfl, (hint _ rfl).1, hmax⟩
    · rintro rfl
      exact absurd hkind (by decide)
  ok {j} h := by
    obtain ⟨n, rfl, hn⟩ := h.integer hkind
    exact ⟨n, if_pos hn.2⟩

theorem readsKeys_double : ReadsKeys "dterms" doubleKey where
  fits {j k} _ h := by
    refine ⟨nofun, fun hkind => absurd hkind (by decide), fun _ => ?_⟩
    cases j <;> simp only [doubleKey, Json.asDouble?, reduceCtorEq] at h
    · exact .inl ⟨_, rfl⟩
    · exact .inr ⟨_, rfl⟩
  ok {j} h := by
    rcases h.number rfl with ⟨n, rfl⟩ | ⟨x, rfl⟩
    · exact ⟨_, rfl⟩
    · exact ⟨_, rfl⟩

namespace Entry

/-- How an entry is read, by its kind. -/
inductive ReadAs (e : Entry) : Prop
  | leaf (a : Aggregate) (hkind : e.kind ∈ kinds) (hnested : e.kind ≠ "nested")
      (hbuckets : e.kind ∉ bucketKinds) (ha : a.kind = e.kind) (hinners : a.inners = [])
      (hread : e.read = .ok a)
  | nested (hkind : e.kind = "nested")
      (hread : e.read = match e.body with
        | .obj ms => (ofMembers ms).map (Aggregate.nested (docCount ms))
        | _ => .error (.invalidAggregate e.name "expected an object"))
  | buckets {κ : Type} (readKey : Json → Except String κ)
      (wrap : List (Bucket κ Aggregate) → Aggregate) (hkind : e.kind ∈ bucketKinds)
      (hkeys : ReadsKeys e.kind readKey)
      (hwrap : ∀ bs, (wrap bs).kind = e.kind ∧ (wrap bs).inners = bs.map Bucket.inner)
      (hread : e.read =
        (Aggregate.buckets readKey e.name e.body ((items e.body).map insideItem)).map wrap)
  | unknown (hkind : e.kind ∉ kinds) (hread : e.read = .error (.unsupportedAggregation e.kind))

theorem readAs (e : Entry) : e.ReadAs := by
  obtain ⟨kind, name, body⟩ := e
  have hread := ofBody_eq kind name body
  unfold assemble at hread
  split at hread
  case h_1 | h_2 | h_3 | h_4 | h_5 | h_9 =>
    exact .leaf _ (by simp [kinds]) (by simp) (by simp [bucketKinds]) rfl rfl hread
  case h_6 => exact .buckets _ _ (by simp [bucketKinds]) readsKeys_string (fun _ => ⟨rfl, rfl⟩) hread
  case h_8 => exact .buckets _ _ (by simp [bucketKinds]) readsKeys_double (fun _ => ⟨rfl, rfl⟩) hread
  case h_7 | h_10 | h_11 =>
    exact .buckets _ _ (by simp [bucketKinds]) (readsKeys_int (by simp)) (fun _ => ⟨rfl, rfl⟩) hread
  case h_12 =>
    refine .nested rfl (hread.trans ?_)
    cases body with
    | obj ms => rw [insideItem_obj]
    | null | bool | int | real | str | arr => rfl
  case h_13 => exact .unknown (by simp_all [kinds, bucketKinds]) hread

end Entry

end Aggregate

end SearchStore
