import SearchStore.Aggregation.Wire
import SearchStore.Proofs.Json.Record

/-! # Aggregations are read back

An aggregation whose numbers are in range and whose inner aggregations stand in
the order of their names is read back from what is written for it
(`Aggregation.Valid.decode?_encode`), and only such aggregations are read
(`Aggregation.valid_of_decode?`). Each kind of aggregation is a record of its
own, and the whole is a record of the kinds and of what is inside.
-/

namespace SearchStore

open Json

/-! ## The kinds of aggregations -/

namespace Cardinality

/-- The numbers of an aggregation are in range. -/
def Fits (c : Cardinality) : Prop := ∀ n ∈ c.precisionThreshold, n < UInt32.size

def fields (c : Cardinality) : List (String × Option Json) :=
  [("field", some (.str c.field)), ("precision_threshold", c.precisionThreshold.map ofNat)]

theorem encode_eq (c : Cardinality) : c.encode = .obj (present c.fields) := by
  simp [encode, present, fields, optionalMember, fieldMember]

theorem decode?_encode {c : Cardinality} (h : c.Fits) : decode? c.encode.canonical = some c := by
  obtain ⟨ms, hms, hholds⟩ := exists_canonical_present c.fields (by simp [fields])
  have hfield : required "field" asString? ms = some c.field :=
    hholds.required (.str c.field) (by simp [fields]) rfl
  have hprecision : optional "precision_threshold" (asBelow? UInt32.size) ms =
      some c.precisionThreshold :=
    hholds.optional ofNat (by simp [fields]) fun n hn => asBelow?_back (h n hn)
  simp [decode?, encode_eq, hms, asRecord?, hfield, hprecision]

theorem fits_of_decode? {c : Cardinality} {j : Json} (h : decode? j = some c) : c.Fits := by
  obtain ⟨ms, -, h⟩ := Option.bind_eq_some_iff.mp h
  obtain ⟨field, -, h⟩ := Option.bind_eq_some_iff.mp h
  obtain ⟨precision, hprecision, h⟩ := Option.bind_eq_some_iff.mp h
  obtain rfl := Option.some.inj h
  intro n hn
  obtain ⟨m, -, -, hread⟩ := of_optionalAmong hprecision hn
  exact lt_of_asBelow? hread

end Cardinality

namespace TermsBuckets

/-- The numbers of an aggregation are in range. -/
def Fits (t : TermsBuckets) : Prop := ∀ n ∈ t.size, n < UInt64.size

def fields (t : TermsBuckets) : List (String × Option Json) :=
  [("field", some (.str t.field)), ("size", t.size.map ofNat)]

theorem encode_eq (t : TermsBuckets) : t.encode = .obj (present t.fields) := by
  simp [encode, present, fields, optionalMember, fieldMember]

theorem decode?_encode {t : TermsBuckets} (h : t.Fits) : decode? t.encode.canonical = some t := by
  obtain ⟨ms, hms, hholds⟩ := exists_canonical_present t.fields (by simp [fields])
  have hfield : required "field" asString? ms = some t.field :=
    hholds.required (.str t.field) (by simp [fields]) rfl
  have hsize : optional "size" asCount? ms = some t.size :=
    hholds.optional ofNat (by simp [fields]) fun n hn => asBelow?_back (h n hn)
  simp [decode?, encode_eq, hms, asRecord?, hfield, hsize]

theorem fits_of_decode? {t : TermsBuckets} {j : Json} (h : decode? j = some t) : t.Fits := by
  obtain ⟨ms, -, h⟩ := Option.bind_eq_some_iff.mp h
  obtain ⟨field, -, h⟩ := Option.bind_eq_some_iff.mp h
  obtain ⟨size, hsize, h⟩ := Option.bind_eq_some_iff.mp h
  obtain rfl := Option.some.inj h
  intro n hn
  obtain ⟨m, -, -, hread⟩ := of_optionalAmong hsize hn
  exact lt_of_asBelow? hread

end TermsBuckets

namespace DateBuckets

/-- The numbers of an aggregation are in range. -/
def Fits (d : DateBuckets) : Prop := ∀ n ∈ d.minDocCount, n < UInt64.size

def fields (d : DateBuckets) : List (String × Option Json) :=
  [("field", some (.str d.field)), ("fixed_interval", d.fixedInterval.map .str),
    ("calendar_interval", d.calendarInterval.map .str),
    ("min_doc_count", d.minDocCount.map ofNat)]

theorem encode_eq (d : DateBuckets) : d.encode = .obj (present d.fields) := by
  simp [encode, present, fields, optionalMember, fieldMember]

theorem decode?_encode {d : DateBuckets} (h : d.Fits) : decode? d.encode.canonical = some d := by
  obtain ⟨ms, hms, hholds⟩ := exists_canonical_present d.fields (by simp [fields])
  have hfield : required "field" asString? ms = some d.field :=
    hholds.required (.str d.field) (by simp [fields]) rfl
  have hfixed : optional "fixed_interval" asString? ms = some d.fixedInterval :=
    hholds.optional .str (by simp [fields]) fun s _ => asString?_back s
  have hcalendar : optional "calendar_interval" asString? ms = some d.calendarInterval :=
    hholds.optional .str (by simp [fields]) fun s _ => asString?_back s
  have hcount : optional "min_doc_count" asCount? ms = some d.minDocCount :=
    hholds.optional ofNat (by simp [fields]) fun n hn => asBelow?_back (h n hn)
  simp [decode?, encode_eq, hms, asRecord?, hfield, hfixed, hcalendar, hcount]

theorem fits_of_decode? {d : DateBuckets} {j : Json} (h : decode? j = some d) : d.Fits := by
  obtain ⟨ms, -, h⟩ := Option.bind_eq_some_iff.mp h
  obtain ⟨field, -, h⟩ := Option.bind_eq_some_iff.mp h
  obtain ⟨fixed, -, h⟩ := Option.bind_eq_some_iff.mp h
  obtain ⟨calendar, -, h⟩ := Option.bind_eq_some_iff.mp h
  obtain ⟨count, hcount, h⟩ := Option.bind_eq_some_iff.mp h
  obtain rfl := Option.some.inj h
  intro n hn
  obtain ⟨m, -, -, hread⟩ := of_optionalAmong hcount hn
  exact lt_of_asBelow? hread

end DateBuckets

namespace AutoDateBuckets

/-- The numbers of an aggregation are in range. -/
def Fits (d : AutoDateBuckets) : Prop := d.buckets < UInt64.size

def fields (d : AutoDateBuckets) : List (String × Option Json) :=
  [("field", some (.str d.field)), ("buckets", some (ofNat d.buckets))]

theorem encode_eq (d : AutoDateBuckets) : d.encode = .obj (present d.fields) := by
  simp [encode, present, fields, optionalMember, fieldMember]

theorem decode?_encode {d : AutoDateBuckets} (h : d.Fits) :
    decode? d.encode.canonical = some d := by
  obtain ⟨ms, hms, hholds⟩ := exists_canonical_present d.fields (by simp [fields])
  have hfield : required "field" asString? ms = some d.field :=
    hholds.required (.str d.field) (by simp [fields]) rfl
  have hbuckets : required "buckets" asCount? ms = some d.buckets :=
    hholds.required (ofNat d.buckets) (by simp [fields]) (asBelow?_back h).1
  simp [decode?, encode_eq, hms, asRecord?, hfield, hbuckets]

theorem fits_of_decode? {d : AutoDateBuckets} {j : Json} (h : decode? j = some d) : d.Fits := by
  obtain ⟨ms, -, h⟩ := Option.bind_eq_some_iff.mp h
  obtain ⟨field, -, h⟩ := Option.bind_eq_some_iff.mp h
  obtain ⟨buckets, hbuckets, h⟩ := Option.bind_eq_some_iff.mp h
  obtain rfl := Option.some.inj h
  obtain ⟨m, -, hread⟩ := of_required hbuckets
  exact lt_of_asBelow? hread

end AutoDateBuckets

namespace AggregationSlots

theorem named?_named (name value : String) :
    named? name (named name value).canonical = some value ∧
      (named name value).canonical ≠ .null := by
  refine ⟨?_, nofun⟩
  have hcanonical : (named name value).canonical = named name value := rfl
  rw [hcanonical]
  simp [named?, named, asRecord?, required, member?, asString?]

/-- The numbers in all slots are in range. -/
structure Fits (s : AggregationSlots) : Prop where
  cardinality : ∀ c ∈ s.cardinality, c.Fits
  terms : ∀ t ∈ s.terms, t.Fits
  dateHistogram : ∀ d ∈ s.dateHistogram, d.Fits
  autoDateHistogram : ∀ d ∈ s.autoDateHistogram, d.Fits

def fields (s : AggregationSlots) : List (String × Option Json) :=
  [("avg", s.avg.map (named "field")), ("sum", s.sum.map (named "field")),
    ("min", s.min.map (named "field")), ("max", s.max.map (named "field")),
    ("cardinality", s.cardinality.map Cardinality.encode),
    ("terms", s.terms.map TermsBuckets.encode),
    ("date_histogram", s.dateHistogram.map DateBuckets.encode),
    ("auto_date_histogram", s.autoDateHistogram.map AutoDateBuckets.encode),
    ("nested", s.nested.map (named "path"))]

theorem encode_eq (s : AggregationSlots) : s.encode = present s.fields := by
  simp [encode, present, fields]

/-- The slots are read back from members that hold them, whatever else these hold. -/
theorem decode?_eq {s : AggregationSlots} (h : s.Fits) {ms : List (String × Json)}
    {others : List (String × Option Json)} (hholds : Holds ms (s.fields ++ others)) :
    decode? ms = some s := by
  have havg : optional "avg" (named? "field") ms = some s.avg :=
    hholds.optional (named "field") (by simp [fields]) fun x _ => named?_named "field" x
  have hsum : optional "sum" (named? "field") ms = some s.sum :=
    hholds.optional (named "field") (by simp [fields]) fun x _ => named?_named "field" x
  have hmin : optional "min" (named? "field") ms = some s.min :=
    hholds.optional (named "field") (by simp [fields]) fun x _ => named?_named "field" x
  have hmax : optional "max" (named? "field") ms = some s.max :=
    hholds.optional (named "field") (by simp [fields]) fun x _ => named?_named "field" x
  have hcardinality : optional "cardinality" Cardinality.decode? ms = some s.cardinality :=
    hholds.optional Cardinality.encode (by simp [fields]) fun c hc =>
      ⟨Cardinality.decode?_encode (h.cardinality c hc), nofun⟩
  have hterms : optional "terms" TermsBuckets.decode? ms = some s.terms :=
    hholds.optional TermsBuckets.encode (by simp [fields]) fun t ht =>
      ⟨TermsBuckets.decode?_encode (h.terms t ht), nofun⟩
  have hdates : optional "date_histogram" DateBuckets.decode? ms = some s.dateHistogram :=
    hholds.optional DateBuckets.encode (by simp [fields]) fun d hd =>
      ⟨DateBuckets.decode?_encode (h.dateHistogram d hd), nofun⟩
  have hauto : optional "auto_date_histogram" AutoDateBuckets.decode? ms =
      some s.autoDateHistogram :=
    hholds.optional AutoDateBuckets.encode (by simp [fields]) fun d hd =>
      ⟨AutoDateBuckets.decode?_encode (h.autoDateHistogram d hd), nofun⟩
  have hnested : optional "nested" (named? "path") ms = some s.nested :=
    hholds.optional (named "path") (by simp [fields]) fun x _ => named?_named "path" x
  simp [decode?, havg, hsum, hmin, hmax, hcardinality, hterms, hdates, hauto, hnested]

/-- Slots that are read have their numbers in range. -/
theorem fits_of_decode? {s : AggregationSlots} {ms : List (String × Json)}
    (h : decode? ms = some s) : s.Fits := by
  obtain ⟨avg, -, h⟩ := Option.bind_eq_some_iff.mp h
  obtain ⟨sum, -, h⟩ := Option.bind_eq_some_iff.mp h
  obtain ⟨min, -, h⟩ := Option.bind_eq_some_iff.mp h
  obtain ⟨max, -, h⟩ := Option.bind_eq_some_iff.mp h
  obtain ⟨cardinality, hcardinality, h⟩ := Option.bind_eq_some_iff.mp h
  obtain ⟨terms, hterms, h⟩ := Option.bind_eq_some_iff.mp h
  obtain ⟨dates, hdates, h⟩ := Option.bind_eq_some_iff.mp h
  obtain ⟨auto, hauto, h⟩ := Option.bind_eq_some_iff.mp h
  obtain ⟨nested, -, h⟩ := Option.bind_eq_some_iff.mp h
  obtain rfl := Option.some.inj h
  refine ⟨fun c hc => ?_, fun t ht => ?_, fun d hd => ?_, fun d hd => ?_⟩
  · obtain ⟨m, -, -, hread⟩ := of_optionalAmong hcardinality hc
    exact Cardinality.fits_of_decode? hread
  · obtain ⟨m, -, -, hread⟩ := of_optionalAmong hterms ht
    exact TermsBuckets.fits_of_decode? hread
  · obtain ⟨m, -, -, hread⟩ := of_optionalAmong hdates hd
    exact DateBuckets.fits_of_decode? hread
  · obtain ⟨m, -, -, hread⟩ := of_optionalAmong hauto hd
    exact AutoDateBuckets.fits_of_decode? hread

end AggregationSlots

namespace Aggregation

/-- An aggregation as a request can hold it: its numbers are in range, and the aggregations inside
have names in order and are such aggregations too. -/
inductive Valid : Aggregation → Prop
  | mk {slots : AggregationSlots} {inner : List (String × Aggregation)} (hslots : slots.Fits)
      (horder : InOrder inner) (hinner : ∀ e ∈ inner, e.2.Valid) : Valid (.mk slots inner)

/-! ## Inner aggregations -/

theorem encodeMembers_eq (inner : List (String × Aggregation)) :
    encodeMembers inner = inner.map fun (name, a) => (name, a.encode) := by
  induction inner with
  | nil => rfl
  | cons e rest ih =>
    obtain ⟨name, a⟩ := e
    rw [encodeMembers, ih, List.map_cons]

theorem decodeMembers?_eq (ms : List (String × Json)) :
    decodeMembers? ms = ms.mapM fun (name, j) => (decode? j).map (name, ·) := by
  induction ms with
  | nil => rfl
  | cons m rest ih =>
    obtain ⟨name, j⟩ := m
    rw [decodeMembers?, List.mapM_cons, ← ih]
    cases hj : decode? j <;> cases decodeMembers? rest <;> simp [hj]

theorem decodeMap?_eq (j : Json) : decodeMap? j = asMap? decode? j := by
  cases j <;> try rfl
  case obj ms =>
    rw [decodeMap?, decodeMembers?_eq, Option.map_eq_bind]
    rfl

/-- The inner aggregations stand under one of two names. -/
theorem inner?_eq (ms : List (String × Json)) :
    inner? ms = found? ["aggregations", "aggs"] decodeMap? ms := by
  induction ms with
  | nil => rfl
  | cons m rest ih =>
    obtain ⟨name, j⟩ := m
    rw [inner?, ih, found?_cons]
    rcases found? ["aggregations", "aggs"] decodeMap? rest with _ | found
    · simp
    · simp [addInner?]

/-- An array is read as the members of the names in order. -/
theorem inner?_of_innerItem? {names : List String} {items : List Json}
    {inner : Option (List (String × Aggregation))} (h : innerItem? names items = some inner) :
    inner? (names.zip items) = some inner := by
  refine zip_eq_of_items (fun name j found => addInner? found name (decodeMap? j))
    (fun _ => by rw [innerItem?, inner?]) (fun _ _ => rfl) ?_ ?_ h
  · intro name names j items
    rw [innerItem?]
    cases innerItem? names items <;> rfl
  · intro name j ms
    rw [inner?]
    cases inner? ms <;> rfl

/-! ## The way there and back -/

def fields : Aggregation → List (String × Option Json)
  | .mk slots inner => slots.fields ++
    [("aggregations", if inner.isEmpty then none else some (.obj (encodeMembers inner)))]

theorem encode_eq (a : Aggregation) : a.encode = .obj (present a.fields) := by
  obtain ⟨slots, inner⟩ := a
  rw [encode, fields, AggregationSlots.encode_eq]
  cases inner <;> simp [present, encodeMembers, innerMember, optionalMember]

theorem nodup_fields (a : Aggregation) : (a.fields.map Prod.fst).Nodup := by
  obtain ⟨slots, inner⟩ := a
  simp [fields, AggregationSlots.fields]

/-- Named aggregations that are read back are so from their object. -/
theorem decodeMap?_encodeMembers {inner : List (String × Aggregation)} (horder : InOrder inner)
    (hback : ∀ e ∈ inner, decode? e.2.encode.canonical = some e.2) :
    decodeMap? (Json.obj (encodeMembers inner)).canonical = some inner := by
  rw [decodeMap?_eq, encodeMembers_eq]
  exact asMap?_eq horder encode hback

/-- An aggregation is read back from its canonical form. -/
theorem Valid.decode?_encode {a : Aggregation} (h : a.Valid) :
    decode? a.encode.canonical = some a := by
  induction h with
  | @mk slots inner hslots horder _ ih =>
    obtain ⟨ms, hms, hholds⟩ := exists_canonical_present _ (nodup_fields (.mk slots inner))
    have hinner : inner? ms = some (if inner.isEmpty then none else some inner) := by
      have hmember := hholds.findAmong ["aggregations", "aggs"] "aggregations" _
        (List.mem_append_right _ (List.mem_singleton_self _)) (by simp)
        (by simp [fields, AggregationSlots.fields])
      have hback := decodeMap?_encodeMembers horder ih
      rw [inner?_eq]
      cases inner with
      | nil => simp [found?, withDefaultAmong, hmember]
      | cons e rest =>
        simp [found?, withDefaultAmong, hmember, hback]
    rw [encode_eq, hms, decode?, AggregationSlots.decode?_eq hslots hholds, hinner]
    cases inner <;> rfl

theorem sizeOf_lt_of_mem {slots : AggregationSlots} {inner : List (String × Aggregation)}
    {e : String × Aggregation} (h : e ∈ inner) : sizeOf e.2 < sizeOf (mk slots inner) := by
  have hlt := List.sizeOf_lt_of_mem h
  obtain ⟨name, a⟩ := e
  simp only [mk.sizeOf_spec, Prod.mk.sizeOf_spec] at *
  omega

/-- What holds of an aggregation if it holds of those inside it holds of all. -/
theorem induct {P : Aggregation → Prop}
    (step : ∀ slots inner, (∀ e ∈ inner, P e.2) → P (.mk slots inner)) : ∀ a, P a
  | .mk slots inner => step slots inner fun e _ => induct step e.2
termination_by a => sizeOf a
decreasing_by exact sizeOf_lt_of_mem ‹_›

/-- What an aggregation is read from: members that hold its slots, and members that hold what is
inside. -/
theorem exists_members {slots : AggregationSlots} {inner : List (String × Aggregation)} {j : Json}
    (h : decode? j = some (mk slots inner)) :
    ∃ ms ns found, AggregationSlots.decode? ms = some slots ∧ inner? ns = some found ∧
      found.getD [] = inner := by
  cases j with
  | null | bool | int | real | str => simp [decode?] at h
  | arr items =>
    rw [decode?] at h
    split at h
    · rename_i slots' found hslots hfound
      obtain ⟨rfl, rfl⟩ : slots' = slots ∧ found.getD [] = inner := by simpa using h
      exact ⟨_, _, found, hslots, inner?_of_innerItem? hfound, rfl⟩
    · cases h
  | obj ms =>
    rw [decode?] at h
    split at h
    · rename_i slots' found hslots hfound
      obtain ⟨rfl, rfl⟩ : slots' = slots ∧ found.getD [] = inner := by simpa using h
      exact ⟨ms, ms, found, hslots, hfound, rfl⟩
    · cases h

/-- An aggregation that is read is valid. -/
theorem valid_of_decode? {a : Aggregation} {j : Json} (h : decode? j = some a) : a.Valid := by
  induction a using induct generalizing j with
  | step slots inner ih =>
    obtain ⟨ms, ns, found, hslots, hfound, hinner⟩ := exists_members h
    cases found with
    | none =>
      obtain rfl : [] = inner := hinner
      exact .mk (AggregationSlots.fits_of_decode? hslots) .nil nofun
    | some entries =>
      obtain rfl : entries = inner := hinner
      rw [inner?_eq] at hfound
      obtain ⟨m, -, hmap⟩ := of_found? hfound
      rw [decodeMap?_eq] at hmap
      obtain ⟨horder, hentries⟩ := of_asMap? hmap
      refine .mk (AggregationSlots.fits_of_decode? hslots) horder fun e he => ?_
      obtain ⟨v, -, hv⟩ := hentries e he
      exact ih e he hv

end Aggregation

end SearchStore
