import SearchStore.Proofs.Aggregation.Table
import SearchStore.Proofs.Json.Members

/-! # Reading conforming answers

Each part of an answer that conforms is read without an error, and as what it
says: members by their keys, metrics, buckets, and the wrapper for nested
documents. Buckets are read by one lemma, `exists_buckets`, for all types of
keys and for whatever is inside.
-/

namespace SearchStore

/-! ## Members -/

namespace AnswerKind

theorem hash_not_mem_name (kind : AnswerKind) : '#' ∉ kind.name.toList := by
  cases kind
  case metric k => cases k <;> decide
  all_goals decide

theorem toList_typed (kind : AnswerKind) (name : String) :
    (kind.typed name).toList = kind.name.toList ++ '#' :: name.toList := by
  simp [typed]

theorem cutAt?_typed (kind : AnswerKind) (name : String) :
    Text.cutAt? '#' (kind.typed name).toList = some (kind.name.toList, name.toList) := by
  rw [toList_typed, Text.cutAt?_append kind.hash_not_mem_name]

end AnswerKind

/-- One aggregation is answered by one member. -/
theorem answerEach_single {name : String} {a : Aggregation} {typed : List (String × Json)} :
    AnswerEach [(name, a)] typed ↔
      ∃ kind ms, typed = [(AnswerKind.typed kind name, .obj ms)] ∧ a.Conforms kind ms := by
  simp only [AnswerEach]
  constructor
  · rintro ⟨kind, ms, before, after, rfl, ha, hrest⟩
    obtain ⟨rfl, rfl⟩ := List.append_eq_nil_iff.mp hrest
    exact ⟨kind, ms, rfl, ha⟩
  · rintro ⟨kind, ms, rfl, ha⟩
    exact ⟨kind, ms, [], [], rfl, ha, rfl⟩

namespace Aggregate

/-- Members without `#` are passed over. -/
theorem typedMembers_filter (ms : List (String × Json)) :
    typedMembers (ms.filter isTyped) = typedMembers ms := by
  induction ms with
  | nil => rfl
  | cons m rest ih =>
    obtain ⟨key, body⟩ := m
    by_cases htyped : isTyped (key, body)
    · rw [List.filter_cons_of_pos htyped, typedMembers, typedMembers, ih]
    · have hhash : '#' ∉ key.toList := by simpa [isTyped] using htyped
      rw [List.filter_cons_of_neg htyped, ih, typedMembers, Text.cutAt?_eq_none hhash]

/-- One answer among members is read under its name. -/
theorem ofMembers_single {kind : AnswerKind} {name : String} {body : Json} {a : Aggregate}
    {members : List (String × Json)}
    (hmembers : members.filter isTyped = [(kind.typed name, body)])
    (ha : ofBody kind.name name body = .ok a) : ofMembers members = .ok [(name, a)] := by
  rw [ofMembers, ← typedMembers_filter, hmembers, typedMembers, kind.cutAt?_typed]
  simp [ha, typedMembers, Except.map, Json.sortMembers, Json.insertMember]

theorem ofMembers_none {members : List (String × Json)} (hmembers : members.filter isTyped = []) :
    ofMembers members = .ok [] := by
  rw [ofMembers, ← typedMembers_filter, hmembers]
  rfl

theorem insideItem_obj (members : List (String × Json)) :
    insideItem (.obj members) = ofMembers members := by
  rw [insideItem, ofMembers]

/-! ## Metrics -/

theorem ofBody_metric (k : MetricKind) (name : String) (ms : List (String × Json)) :
    ofBody k.name name (.obj ms) = .ok (.metric k (metricValue (.obj ms))) := by
  cases k <;> simp [ofBody, assemble, MetricKind.name]

theorem ofBody_nested (name : String) {ms : List (String × Json)} {aggs : Aggregates}
    (h : ofMembers ms = .ok aggs) :
    ofBody AnswerKind.nested.name name (.obj ms) = .ok (.nested (docCount ms) aggs) := by
  rw [ofMembers] at h
  simp only [ofBody, assemble, AnswerKind.name, h]
  rfl

/-- A number is read as it is, and `null` as zero. -/
theorem metricValue_eq {ms : List (String × Json)} {v : Json} {x : Double}
    (hvalue : Json.lookup "value" ms = some v) (htells : Tells v x) :
    (metricValue (.obj ms)).getD .zero = x := by
  cases htells <;> simp [metricValue, Json.get?, hvalue, Json.asDouble?]

theorem docCount_eq {ms : List (String × Json)} {n : Int}
    (hcount : Json.lookup "doc_count" ms = some (.int n)) (hn : IsInt64 n) : docCount ms = n := by
  simp [docCount, hcount, Json.asInt64?, hn.2]

/-! ## Buckets -/

theorem insideMembers_of_lookup {ms : List (String × Json)} {j : Json}
    (h : Json.lookup "buckets" ms = some j) : insideMembers ms = insideBuckets j := by
  induction ms with
  | nil => simp [Json.lookup] at h
  | cons m rest ih =>
    obtain ⟨k, v⟩ := m
    rw [insideMembers]
    by_cases hk : k = "buckets"
    · have hv : v = j := by simpa [Json.lookup, hk] using h
      rw [if_pos hk, hv]
    · rw [if_neg hk]
      apply ih
      simpa [Json.lookup, hk] using h

/-- The buckets of a conforming body are read in order, each with its key and
with what its inside is read as. -/
theorem exists_buckets {κ γ α : Type} {readKey : Json → Except String κ} {key? : Json → Option γ}
    {key : κ → γ} {inside : List (String × Json) → Prop} (tells : List (String × Json) → α → Prop)
    (reads : Int → Aggregates → α → Prop) (name : String) {ms : List (String × Json)}
    (hread : ∀ j g, key? j = some g → ∃ k, readKey j = .ok k ∧ key k = g)
    (hinside : ∀ bucket, (bucket.map Prod.fst).Nodup → HasCount bucket → inside bucket →
      ∃ inner x, ofMembers bucket = .ok inner ∧ reads (docCount bucket) inner x ∧ tells bucket x)
    (h : Buckets key? inside ms) :
    ∃ bs rows, buckets readKey name (.obj ms) (insideMembers ms) = .ok bs ∧
      Rows key? tells ms rows ∧ (rows.map Prod.fst).Nodup ∧
      List.Forall₂ (fun b row => key b.key = row.1 ∧ reads b.docCount b.inner row.2) bs rows := by
  obtain ⟨items, keys, hitems, hkeys, hall⟩ := h
  have hlist : ∃ (bs : List (Bucket κ Aggregate)) (rows : List (γ × α)),
      bucketList readKey name items (insideItems items) = .ok bs ∧
      List.Forall₂ (fun item row => ∃ bucket, item = .obj bucket ∧
        (Json.lookup "key" bucket).bind key? = some row.1 ∧ tells bucket row.2) items rows ∧
      rows.map Prod.fst = keys ∧
      List.Forall₂ (fun b row => key b.key = row.1 ∧ reads b.docCount b.inner row.2) bs rows := by
    clear hitems hkeys
    -- bucket by bucket, with the rows that say what was read beside it
    induction hall with
    | nil => exact ⟨[], [], rfl, .nil, rfl, .nil⟩
    | @cons item g items keys hitem _ ih =>
      obtain ⟨bucket, rfl, hnames, hkey, hcount, hin⟩ := hitem
      obtain ⟨bs, rows, hbs, hrows, hfst, hboth⟩ := ih
      obtain ⟨inner, x, hinner, hreads, htells⟩ := hinside bucket hnames hcount hin
      obtain ⟨j, hj, hg⟩ := Option.bind_eq_some_iff.mp hkey
      obtain ⟨k, hk, rfl⟩ := hread j g hg
      refine ⟨⟨k, stringMember "key_as_string" (.obj bucket), docCount bucket, inner⟩ :: bs,
        (key k, x) :: rows, ?_, .cons ⟨bucket, rfl, hkey, htells⟩ hrows, ?_,
        .cons ⟨rfl, hreads⟩ hboth⟩
      · rw [insideItems, insideItem_obj, hinner, bucketList]
        simp [Aggregate.bucket, hj, hk, hbs, Except.map]
      · rw [List.map_cons, hfst]
  obtain ⟨bs, rows, hbs, hrows, rfl, hboth⟩ := hlist
  refine ⟨bs, rows, ?_, ⟨items, hitems, hrows⟩, hkeys, hboth⟩
  rw [buckets, insideMembers_of_lookup hitems]
  simpa [Json.get?, hitems, insideBuckets] using hbs

/-! ## Points -/

/-- What is asked for inside buckets: the metric of a function, if it has
one. -/
def inMetric (field : String) (f : AggregationFunction) : List (String × Aggregation) :=
  ((AggregationPlan.metric? field f).map fun m => (f.name, m)).toList

theorem withMetric_leaf (slots : AggregationSlots) (field : String) (f : AggregationFunction) :
    AggregationPlan.withMetric (.leaf slots) field f = .mk slots (inMetric field f) := by
  cases f <;> rfl

/-- The metric of a function is answered by the kind of its name. -/
theorem conforms_metric {field : String} {f : AggregationFunction} {m : Aggregation}
    {kind : AnswerKind} {ms : List (String × Json)}
    (hm : AggregationPlan.metric? field f = some m) (h : m.Conforms kind ms) :
    ∃ k v x, kind = .metric k ∧ k.name = f.name ∧ Json.lookup "value" ms = some v ∧ Tells v x := by
  cases f <;> simp only [AggregationPlan.metric?, Option.some.injEq, reduceCtorEq] at hm <;>
    subst hm <;> obtain ⟨hkind, -, hvalue⟩ := h
  case sum | avg | min | max =>
    obtain rfl := List.mem_singleton.mp hkind
    obtain ⟨v, x, hv, htells⟩ := hvalue
    exact ⟨_, v, x, rfl, rfl, hv, htells⟩

/-- A bucket that conforms is read as the point that it says. -/
theorem exists_point {field : String} {f : AggregationFunction} {bucket : List (String × Json)}
    (hnames : (bucket.map Prod.fst).Nodup) (hcount : HasCount bucket)
    (hinside : AnswerEach (inMetric field f) (bucket.filter isTyped)) :
    ∃ inner p, ofMembers bucket = .ok inner ∧ dataPoint (docCount bucket) inner = p ∧
      PointOf f bucket p := by
  obtain ⟨n, hn, hint⟩ := hcount
  rcases hm : AggregationPlan.metric? field f with _ | m
  · -- only to count documents no metric is asked for
    have hf : f = .count := by
      cases f <;> simp [AggregationPlan.metric?] at hm ⊢
    have hnone : bucket.filter isTyped = [] := by
      simpa [inMetric, hm, AnswerEach] using hinside
    refine ⟨[], ⟨n, .ofInt n⟩, ofMembers_none hnone, ?_, hn, ?_⟩
    · rw [docCount_eq hn hint]
      rfl
    · rw [if_pos hf]
  · have hf : f ≠ .count := by
      rintro rfl
      simp [AggregationPlan.metric?] at hm
    obtain ⟨kind, ms, htyped, hconforms⟩ :=
      answerEach_single.mp (show AnswerEach [(f.name, m)] _ by simpa [inMetric, hm] using hinside)
    obtain ⟨k, v, x, rfl, hk, hv, htells⟩ := conforms_metric hm hconforms
    have hmem : ((AnswerKind.metric k).typed f.name, .obj ms) ∈ bucket :=
      List.mem_of_mem_filter (htyped ▸ List.mem_singleton.mpr rfl)
    refine ⟨_, ⟨n, x⟩, ofMembers_single htyped (ofBody_metric k f.name ms), ?_, hn, ?_⟩
    · rw [docCount_eq hn hint, dataPoint]
      simp [metric?, metricValue_eq hv htells]
    · rw [if_neg hf]
      have htypedName : (AnswerKind.metric k).typed f.name = f.name ++ "#" ++ f.name := by
        rw [← hk]
        rfl
      exact ⟨ms, v, htypedName ▸ Json.lookup_of_mem hnames hmem, hv, htells⟩

end Aggregate

end SearchStore
