import SearchStore.Proofs.Aggregation.Keys
import SearchStore.Proofs.Aggregation.Reading
import SearchStore.Proofs.Aggregation.Wrappers

/-! # The decoder agrees with the planner

A plan and the decoder of its answer share nothing but names. What is shown
here is that they fit: an answer that conforms to the plan is read without an
error, stands under the name of the plan, and is decoded to just what it says,
for each of the four shapes of plans. `exists_groups` and `exists_times` are
about the two kinds of buckets, and `decodes_of_body` about the wrapper for
nested documents.
-/

namespace SearchStore.Aggregate

/-! ## Keys -/

theorem stringKey_eq {j : Json} {g : GroupKey} (h : AnswerKind.strings.groupKey? j = some g) :
    ∃ k, stringKey j = .ok k ∧ GroupKey.str k = g := by
  cases j <;> simp only [AnswerKind.groupKey?, Option.some.injEq, reduceCtorEq] at h
  exact ⟨_, rfl, h⟩

theorem intKey_eq {n : Int} (h : IsInt64 n) : intKey (.int n) = .ok n := by
  rw [intKey, if_pos h.2]

theorem millis_eq {j : Json} {t : Timestamp} (h : millis? j = some t) :
    ∃ k, intKey j = .ok k ∧ id k = t := by
  cases j <;> simp only [millis?, reduceCtorEq] at h
  case int n =>
    split at h
    · rename_i hbounds
      exact ⟨n, intKey_eq hbounds, Option.some.inj h⟩
    · cases h

theorem longs_groupKey? (j : Json) :
    AnswerKind.longs.groupKey? j = (millis? j).map .int := by
  cases j <;> simp only [AnswerKind.groupKey?, millis?, Option.map_none]
  case int n => split <;> rfl

theorem longKey_eq {j : Json} {g : GroupKey} (h : AnswerKind.longs.groupKey? j = some g) :
    ∃ k, intKey j = .ok k ∧ GroupKey.int k = g := by
  rw [longs_groupKey?] at h
  obtain ⟨t, ht, rfl⟩ := Option.map_eq_some_iff.mp h
  obtain ⟨k, hk, rfl⟩ := millis_eq ht
  exact ⟨k, hk, rfl⟩

theorem doubleKey_eq {j : Json} {g : GroupKey} (h : AnswerKind.doubles.groupKey? j = some g) :
    ∃ k, doubleKey j = .ok k ∧ GroupKey.double k = g := by
  obtain ⟨x, hx, rfl⟩ := Option.map_eq_some_iff.mp h
  exact ⟨x, by rw [doubleKey, hx], rfl⟩

/-! ## Groups -/

/-- The groups of points with distinct keys are just those. -/
theorem groupsOf_perm {κ : Type} {key : κ → GroupKey} {bs : List (Bucket κ Aggregate)}
    {rows : List (GroupKey × DataPoint)} (hkeys : (rows.map Prod.fst).Nodup)
    (h : List.Forall₂ (IsPoint key) bs rows) :
    (groupsOf key bs).groups.Perm rows ∧
      (groupsOf key bs).total = sumOf (rows.map fun row => row.2.value) := by
  have htable := tabulate_start GroupKey.compare id DataPoint.value hkeys
  rw [← groupsOf_eq h] at htable
  simpa [stored] using htable

/-- Buckets with the metric of a function inside are read, and their groups are
those that the body says, if keys are read as the kind reads them. -/
theorem exists_groupsOf {κ : Type} {readKey : Json → Except String κ} {key : κ → GroupKey}
    {kind : AnswerKind} {field : String} {f : AggregationFunction} {ms : List (String × Json)}
    (name : String)
    (hread : ∀ j g, kind.groupKey? j = some g → ∃ k, readKey j = .ok k ∧ key k = g)
    (h : Buckets kind.groupKey?
      (fun bucket => AnswerEach (inMetric field f) (bucket.filter isTyped)) ms) :
    ∃ bs, buckets readKey name (.obj ms) (insideMembers ms) = .ok bs ∧
      GroupsIn f kind ms (groupsOf key bs) := by
  obtain ⟨bs, rows, hbs, hrows, hkeys, hboth⟩ :=
    exists_buckets (PointOf f) (fun n inner p => dataPoint n inner = p) name hread
      (fun _ => exists_point) h
  obtain ⟨hperm, htotal⟩ := groupsOf_perm hkeys hboth
  exact ⟨bs, hbs, rows, hrows, hperm, htotal⟩

/-- Terms with the metric of a function inside are decoded to their groups. -/
theorem exists_groups {slots : AggregationSlots} {field : String} {f : AggregationFunction}
    {kind : AnswerKind} {ms : List (String × Json)}
    (hslots : slots.kinds = [.strings, .longs, .doubles, .unmapped])
    (h : (Aggregation.mk slots (inMetric field f)).Conforms kind ms) (name : String) :
    ∃ a g, ofBody kind.name name (.obj ms) = .ok a ∧ a.grouped = .ok g ∧ GroupsIn f kind ms g := by
  obtain ⟨hkind, -, hbody⟩ := h
  rw [hslots] at hkind
  simp only [List.mem_cons, List.not_mem_nil, or_false] at hkind
  rcases hkind with rfl | rfl | rfl | rfl
  · obtain ⟨bs, hbs, hgroups⟩ := exists_groupsOf name (fun _ _ => stringKey_eq) hbody
    refine ⟨.stringTerms bs, _, ?_, rfl, hgroups⟩
    simp [ofBody, assemble, AnswerKind.name, hbs, Except.map]
  · obtain ⟨bs, hbs, hgroups⟩ := exists_groupsOf name (fun _ _ => longKey_eq) hbody
    refine ⟨.longTerms bs, _, ?_, rfl, hgroups⟩
    simp [ofBody, assemble, AnswerKind.name, hbs, Except.map]
  · obtain ⟨bs, hbs, hgroups⟩ := exists_groupsOf name (fun _ _ => doubleKey_eq) hbody
    refine ⟨.doubleTerms bs, _, ?_, rfl, hgroups⟩
    simp [ofBody, assemble, AnswerKind.name, hbs, Except.map]
  · -- no index has the field, so there are no buckets
    refine ⟨.unmappedTerms, {}, ?_, rfl, [], ⟨[], hbody, .nil⟩, .refl _, rfl⟩
    simp [ofBody, assemble, AnswerKind.name]

/-- A bucket of time with groups inside is read as the groups that it says. -/
theorem exists_grouped {slots : AggregationSlots} {field : String} {f : AggregationFunction}
    (hslots : slots.kinds = [.strings, .longs, .doubles, .unmapped])
    {bucket : List (String × Json)} (hnames : (bucket.map Prod.fst).Nodup)
    (hinside : AnswerEach [(f.name, .mk slots (inMetric field f))] (bucket.filter isTyped)) :
    ∃ inner groups, ofMembers bucket = .ok inner ∧
      (∃ a, Json.lookup f.name inner = some a ∧ a.grouped = .ok groups) ∧
      GroupsOf f bucket groups := by
  obtain ⟨kind, ms, htyped, hconforms⟩ := answerEach_single.mp hinside
  obtain ⟨a, g, hbody, hgrouped, hgroups⟩ := exists_groups hslots hconforms f.name
  have hmem : (kind.typed f.name, .obj ms) ∈ bucket :=
    List.mem_of_mem_filter (htyped ▸ List.mem_singleton.mpr rfl)
  exact ⟨_, g, ofMembers_single htyped hbody, ⟨a, by simp [Json.lookup], hgrouped⟩, kind, ms,
    Json.lookup_of_mem hnames hmem, hgroups⟩

/-! ## Buckets of time -/

/-- Buckets of time are read in order, whatever is inside them. -/
theorem exists_times {α : Type} {slots : AggregationSlots} {inner : List (String × Aggregation)}
    {kind : AnswerKind} {ms : List (String × Json)} (tells : List (String × Json) → α → Prop)
    (reads : Int → Aggregates → α → Prop)
    (hslots : slots.kinds = [.dates] ∨ slots.kinds = [.autoDates])
    (hinside : ∀ bucket, (bucket.map Prod.fst).Nodup → HasCount bucket →
      AnswerEach inner (bucket.filter isTyped) →
      ∃ inner x, ofMembers bucket = .ok inner ∧ reads (docCount bucket) inner x ∧ tells bucket x)
    (h : (Aggregation.mk slots inner).Conforms kind ms) (name : String) :
    ∃ a bs rows, ofBody kind.name name (.obj ms) = .ok a ∧ a.timeBuckets = .ok bs ∧
      Rows millis? tells ms rows ∧ (rows.map Prod.fst).Nodup ∧
      List.Forall₂ (fun b row => id b.key = row.1 ∧ reads b.docCount b.inner row.2) bs rows := by
  obtain ⟨hkind, -, hbody⟩ := h
  have hdates : kind = .dates ∨ kind = .autoDates := by
    rcases hslots with hslots | hslots <;> rw [hslots, List.mem_singleton] at hkind
    · exact Or.inl hkind
    · exact Or.inr hkind
  have htimes :
      Buckets millis? (fun bucket => AnswerEach inner (bucket.filter isTyped)) ms := by
    rcases hdates with rfl | rfl <;> exact hbody
  obtain ⟨bs, rows, hbs, hrows, hkeys, hboth⟩ :=
    exists_buckets tells reads name (fun _ _ => millis_eq) hinside htimes
  rcases hdates with rfl | rfl
  · refine ⟨.dateHistogram bs (stringMember "interval" (.obj ms)), bs, rows, ?_, rfl, hrows, hkeys,
      hboth⟩
    simp [ofBody, assemble, AnswerKind.name, hbs, Except.map]
  · refine ⟨.autoDateHistogram bs (stringMember "interval" (.obj ms)), bs, rows, ?_, rfl, hrows,
      hkeys, hboth⟩
    simp [ofBody, assemble, AnswerKind.name, hbs, Except.map]

/-- The time buckets of a plan are of one of two kinds. -/
theorem timeBuckets_eq_leaf (limit : Nat) (time : String) (interval : Duration) :
    ∃ slots : AggregationSlots, AggregationPlan.timeBuckets limit time interval = .leaf slots ∧
      (slots.kinds = [.dates] ∨ slots.kinds = [.autoDates]) := by
  rw [AggregationPlan.timeBuckets]
  split
  · exact ⟨_, rfl, Or.inr rfl⟩
  · exact ⟨_, rfl, Or.inl rfl⟩

/-! ## The wrapper for nested documents -/

theorem conforms_nested {path name : String} {a : Aggregation} {kind : AnswerKind}
    {ms : List (String × Json)}
    (h : ((Aggregation.nested path).withInner name a).Conforms kind ms) :
    kind = .nested ∧ (ms.map Prod.fst).Nodup ∧ AnswerEach [(name, a)] (ms.filter isTyped) := by
  obtain ⟨hkind, hnames, hbody⟩ := h
  obtain rfl := List.mem_singleton.mp hkind
  exact ⟨rfl, hnames, hbody.2⟩

/-- The answer to a plan is read without an error, has an aggregate under the
name of the plan, and this is decoded to what is wanted. -/
def Decodes {ρ : Type} (p : AggregationPlan) (decode : Aggregate → Except Error ρ)
    (members : List (String × Json)) (Wanted : ρ → Prop) : Prop :=
  ∃ aggs a result, ofMembers members = .ok aggs ∧ Json.lookup p.name aggs = some a ∧
    decode a = .ok result ∧ Wanted result

/-- A plan is decoded to what the body of its answer is decoded to, if the
decoder looks through wrappers. -/
theorem decodes_of_body {ρ : Type} {decode : Aggregate → Except Error ρ}
    {W : AnswerKind → List (String × Json) → ρ → Prop} {field name : String} {a : Aggregation}
    {members : List (String × Json)}
    (hdecode : ∀ {a b : Aggregate}, a.unwrap = b.unwrap → decode a = decode b)
    (hbody : ∀ kind ms, a.Conforms kind ms → ∀ name, ∃ b result,
      ofBody kind.name name (.obj ms) = .ok b ∧ decode b = .ok result ∧ W kind ms result)
    (h : AggregationPlan.Conforms ⟨name, AggregationPlan.inNested field a⟩ members) :
    Decodes ⟨name, AggregationPlan.inNested field a⟩ decode members fun result =>
      ∃ kind ms, BodyOf field name members kind ms ∧ W kind ms result := by
  obtain ⟨hnames, hanswer⟩ := h
  obtain ⟨kind, ms, htyped, hconforms⟩ := answerEach_single.mp hanswer
  have hmem : (kind.typed name, .obj ms) ∈ members :=
    List.mem_of_mem_filter (htyped ▸ List.mem_singleton.mpr rfl)
  rcases hpath : nestedPath? field with _ | path
  · -- the body stands among the members themselves
    simp only [AggregationPlan.inNested, hpath] at hconforms
    obtain ⟨b, result, hb, hresult, hW⟩ := hbody kind ms hconforms name
    refine ⟨_, b, result, ofMembers_single htyped hb, by simp [Json.lookup], hresult, kind, ms, ?_,
      hW⟩
    simpa only [BodyOf, hpath] using Json.lookup_of_mem hnames hmem
  · -- the body stands in a wrapper, under a name of its own
    simp only [AggregationPlan.inNested, hpath] at hconforms
    obtain ⟨rfl, hwrapper, hinner⟩ := conforms_nested hconforms
    obtain ⟨kind, inner, hinnerTyped, hinnerConforms⟩ := answerEach_single.mp hinner
    have hinnerMem : (kind.typed AggregationPlan.nestedName, .obj inner) ∈ ms :=
      List.mem_of_mem_filter (hinnerTyped ▸ List.mem_singleton.mpr rfl)
    obtain ⟨b, result, hb, hresult, hW⟩ :=
      hbody kind inner hinnerConforms AggregationPlan.nestedName
    have hwrapped : ofBody AnswerKind.nested.name name (.obj ms) =
        .ok (.nested (docCount ms) [(AggregationPlan.nestedName, b)]) :=
      ofBody_nested name (ofMembers_single hinnerTyped hb)
    refine ⟨_, .nested (docCount ms) [(AggregationPlan.nestedName, b)], result,
      ofMembers_single htyped hwrapped, by simp [Json.lookup], ?_, kind, inner, ?_, hW⟩
    · rw [hdecode (Wraps.only _ _ b).unwrap_eq, hresult]
    · simp only [BodyOf, hpath]
      exact ⟨ms, Json.lookup_of_mem hnames hmem, Json.lookup_of_mem hwrapper hinnerMem⟩

/-! ## One value -/

/-- The aggregation for one value is answered by a metric. -/
theorem conforms_scalar {field : String} {f : AggregationFunction} {kind : AnswerKind}
    {ms : List (String × Json)}
    (h : ((AggregationPlan.metric? field f).getD
      (.cardinality field (some AggregationPlan.exactCardinality))).Conforms kind ms) :
    ∃ k v x, kind = .metric k ∧ Json.lookup "value" ms = some v ∧ Tells v x := by
  rcases hm : AggregationPlan.metric? field f with _ | m
  · rw [hm] at h
    obtain ⟨hkind, -, hvalue⟩ := h
    obtain rfl := List.mem_singleton.mp hkind
    obtain ⟨v, x, hv, htells⟩ := hvalue
    exact ⟨_, v, x, rfl, hv, htells⟩
  · rw [hm] at h
    obtain ⟨k, v, x, hkind, -, hv, htells⟩ := conforms_metric hm h
    exact ⟨k, v, x, hkind, hv, htells⟩

theorem decodes_scalar {field : String} {f : AggregationFunction} {members : List (String × Json)}
    (h : (AggregationPlan.scalar field f).Conforms members) :
    Decodes (.scalar field f) scalar members (ValueOf field members) := by
  refine decodes_of_body scalar_congr ?_ h
  intro kind ms hconforms name
  obtain ⟨k, v, x, rfl, hv, htells⟩ := conforms_scalar hconforms
  refine ⟨_, x, ofBody_metric k name ms, ?_, v, hv, htells⟩
  rw [← metricValue_eq hv htells]
  rfl

/-! ## Values by group -/

/-- Terms with the metric of a function inside are answered by one of four
kinds, as the type of the field decides. -/
theorem withMetric_terms (limit : Nat) (group field : String) (f : AggregationFunction) :
    ∃ slots : AggregationSlots,
      AggregationPlan.withMetric (.terms group limit) field f = .mk slots (inMetric field f) ∧
        slots.kinds = [.strings, .longs, .doubles, .unmapped] :=
  ⟨_, withMetric_leaf .., rfl⟩

theorem decodes_grouped {limit : Nat} {group field : String} {f : AggregationFunction}
    {members : List (String × Json)}
    (h : (AggregationPlan.grouped limit group field f).Conforms members) :
    Decodes (.grouped limit group field f) grouped members (GroupedOf f members) := by
  obtain ⟨hnames, hanswer⟩ := h
  obtain ⟨kind, ms, htyped, hconforms⟩ := answerEach_single.mp hanswer
  have hmem : (kind.typed AggregationPlan.scalarName, .obj ms) ∈ members :=
    List.mem_of_mem_filter (htyped ▸ List.mem_singleton.mpr rfl)
  obtain ⟨slots, hterms, hslots⟩ := withMetric_terms limit group field f
  rw [AggregationPlan.grouped, hterms] at hconforms
  obtain ⟨a, g, ha, hgrouped, hgroups⟩ :=
    exists_groups hslots hconforms AggregationPlan.scalarName
  exact ⟨_, a, g, ofMembers_single htyped ha, by simp [Json.lookup, AggregationPlan.grouped],
    hgrouped, kind, ms, Json.lookup_of_mem hnames hmem, hgroups⟩

/-! ## Values and groups by time -/

theorem decodes_histogram {limit : Nat} {field time : String} {f : AggregationFunction}
    {interval : Duration} {members : List (String × Json)}
    (h : (AggregationPlan.histogram limit field f time interval).Conforms members) :
    Decodes (.histogram limit field f time interval) histogram members
      (SeriesOf f time members) := by
  refine decodes_of_body histogram_congr ?_ h
  intro kind ms hconforms name
  obtain ⟨slots, htime, hslots⟩ := timeBuckets_eq_leaf limit time interval
  rw [htime, withMetric_leaf] at hconforms
  obtain ⟨b, bs, rows, hb, hbuckets, hrows, hkeys, hboth⟩ :=
    exists_times (PointOf f) (fun n inner p => dataPoint n inner = p) hslots
      (fun _ => exists_point) hconforms name
  obtain ⟨s, hs, htable⟩ := histogram_eq hbuckets hboth
  obtain ⟨hperm, htotal⟩ := tabulate_start Ord.compare id DataPoint.value hkeys
  rw [← htable] at hperm htotal
  exact ⟨b, s, hb, hs, rows, hrows, by simpa [stored] using hperm, htotal⟩

theorem decodes_histogram2d {limit : Nat} {field dimension time : String}
    {f : AggregationFunction} {interval : Duration} {members : List (String × Json)}
    (h : (AggregationPlan.histogram2d limit field f dimension time interval).Conforms members) :
    Decodes (.histogram2d limit field f dimension time interval) (fun a => a.histogram2d f.name)
      members (GroupedSeriesOf f time members) := by
  refine decodes_of_body (fun hunwrap => histogram2d_congr hunwrap f.name) ?_ h
  intro kind ms hconforms name
  obtain ⟨slots, htime, hslots⟩ := timeBuckets_eq_leaf limit time interval
  obtain ⟨groupSlots, hterms, hgroupSlots⟩ := withMetric_terms limit dimension field f
  rw [htime, hterms] at hconforms
  obtain ⟨b, bs, decoded, hb, hbuckets, hrows, hkeys, hboth⟩ :=
    exists_times (GroupsOf f)
      (fun _ inner g => ∃ a, Json.lookup f.name inner = some a ∧ a.grouped = .ok g) hslots
      (fun _ hnames _ hinside => exists_grouped hgroupSlots hnames hinside) hconforms name
  obtain ⟨s, hs, htable⟩ := histogram2d_eq hbuckets hboth
  obtain ⟨hperm, htotal⟩ := tabulate_start Ord.compare Groups.groups Groups.total hkeys
  rw [← htable] at hperm htotal
  exact ⟨b, s, hb, hs, decoded, hrows, hperm, htotal⟩

/-! ## All plans -/

/-- Whatever is planned, no answer that conforms is rejected or lost, and each
is decoded to just what it says: one value, one entry for each bucket under its
key, and the sum of the values in the order of the buckets. -/
theorem decodes_of_conforms (limit : Nat) (field group time : String) (f : AggregationFunction)
    (interval : Duration) (members : List (String × Json)) :
    ((AggregationPlan.scalar field f).Conforms members →
      Decodes (.scalar field f) scalar members (ValueOf field members)) ∧
    ((AggregationPlan.grouped limit group field f).Conforms members →
      Decodes (.grouped limit group field f) grouped members (GroupedOf f members)) ∧
    ((AggregationPlan.histogram limit field f time interval).Conforms members →
      Decodes (.histogram limit field f time interval) histogram members
        (SeriesOf f time members)) ∧
    ((AggregationPlan.histogram2d limit field f group time interval).Conforms members →
      Decodes (.histogram2d limit field f group time interval) (fun a => a.histogram2d f.name)
        members (GroupedSeriesOf f time members)) :=
  ⟨decodes_scalar, decodes_grouped, decodes_histogram, decodes_histogram2d⟩

/-- Terms with two teams, and the sums of their powers. -/
def teams : List (String × Json) := [("buckets", .arr [
  .obj [("doc_count", .int 3), ("key", .str "x"), ("sum#sum", .obj [("value", .real .zero)])],
  .obj [("doc_count", .int 1), ("key", .str "a"), ("sum#sum", .obj [("value", .null)])]])]

/-- The teams of one hour, among nested documents. -/
def teamsByHour : List (String × Json) :=
  [("nested#0", .obj [("doc_count", .int 4), ("date_histogram#nested", .obj [("buckets", .arr [
    .obj [("doc_count", .int 4), ("key", .int 0), ("sterms#sum", .obj teams)]])])])]

theorem conforms_teams :
    (AggregationPlan.withMetric (.terms "team" 10) "power" .sum).Conforms .strings teams := by
  refine ⟨by decide, by decide, _, [.str "x", .str "a"], rfl, by decide,
    .cons ⟨_, rfl, by decide, rfl, ⟨3, rfl, by decide⟩, ?_⟩
      (.cons ⟨_, rfl, by decide, rfl, ⟨1, rfl, by decide⟩, ?_⟩ .nil)⟩
  · exact answerEach_single.mpr ⟨.metric .sum, _, rfl, by decide, by decide, _, _, rfl, .real _⟩
  · exact answerEach_single.mpr ⟨.metric .sum, _, rfl, by decide, by decide, _, _, rfl, .null⟩

theorem conforms_teamsByHour :
    (AggregationPlan.histogram2d 10 "power" .sum "team" "seen.at" ⟨3600, 0⟩).Conforms
      teamsByHour := by
  refine ⟨by decide, answerEach_single.mpr ⟨.nested, _, rfl, by decide, by decide,
    ⟨4, rfl, by decide⟩, answerEach_single.mpr ⟨.dates, _, rfl, by decide, by decide, _, [0], rfl,
      by decide, .cons ⟨_, rfl, by decide, rfl, ⟨4, rfl, by decide⟩, ?_⟩ .nil⟩⟩⟩
  exact answerEach_single.mpr ⟨.strings, teams, rfl, conforms_teams⟩

theorem decodes_teams :
    Decodes (.scalar "power" .avg) scalar [("avg#aggs", .obj [("value", .null)])]
      (ValueOf "power" [("avg#aggs", .obj [("value", .null)])]) ∧
    Decodes (.grouped 10 "team" "power" .sum) grouped [("sterms#aggs", .obj teams)]
      (GroupedOf .sum [("sterms#aggs", .obj teams)]) ∧
    Decodes (.histogram 10 "power" .count "seen" ⟨0, 0⟩) histogram
      [("auto_date_histogram#0", .obj [("buckets", .arr [])])]
      (SeriesOf .count "seen" [("auto_date_histogram#0", .obj [("buckets", .arr [])])]) ∧
    Decodes (.histogram2d 10 "power" .sum "team" "seen.at" ⟨3600, 0⟩)
      (fun a => a.histogram2d AggregationFunction.sum.name) teamsByHour
      (GroupedSeriesOf .sum "seen.at" teamsByHour) := by
  refine ⟨(decodes_of_conforms 10 "power" "team" "seen" .avg ⟨0, 0⟩ _).1 ?_,
    (decodes_of_conforms 10 "power" "team" "seen" .sum ⟨0, 0⟩ _).2.1 ?_,
    (decodes_of_conforms 10 "power" "team" "seen" .count ⟨0, 0⟩ _).2.2.1 ?_,
    (decodes_of_conforms 10 "power" "team" "seen.at" .sum ⟨3600, 0⟩ _).2.2.2
      conforms_teamsByHour⟩
  · exact ⟨by decide, answerEach_single.mpr
      ⟨.metric .avg, _, rfl, by decide, by decide, _, _, rfl, .null⟩⟩
  · exact ⟨by decide, answerEach_single.mpr ⟨.strings, teams, rfl, conforms_teams⟩⟩
  · exact ⟨by decide, answerEach_single.mpr
      ⟨.autoDates, _, rfl, by decide, by decide, [], [], rfl, by decide, .nil⟩⟩

end SearchStore.Aggregate
