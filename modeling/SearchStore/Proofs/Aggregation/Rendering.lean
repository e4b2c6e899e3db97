import Mathlib.Data.List.Perm.Basic
import SearchStore.Proofs.Aggregation.Reading
import SearchStore.Proofs.Json.Members

/-! # Reading typed aggregates back

The engine writes an aggregate under its kind and name, with its number, its
buckets or its documents inside, and everything else in an answer is data of
its own. `Aggregate.Shows` says what JSON values it may write for an aggregate:
members stand in any order, a metric without a value has `null` or nothing, and
a whole double may be written as an integer.

Each tree of aggregates can be written, and whatever is written for it is read
as that tree: `ofMembers_shows`.
-/

namespace SearchStore

/-- The data of a bucket are in range: its key is, it counts its documents in 64 bits, and what is
inside has names in order. -/
structure Bucket.Fits {κ : Type} (key : κ → Prop) (b : Bucket κ Aggregate) : Prop where
  key : key b.key
  docCount : IsInt64 b.docCount
  inner : Json.InOrder b.inner

namespace Aggregate

/-! ## Trees of aggregates -/

/-- The aggregates inside buckets. -/
def inBuckets {κ : Type} (bs : List (Bucket κ Aggregate)) : List Aggregate :=
  bs.flatMap fun b => b.inner.map Prod.snd

/-- The aggregates right inside an aggregate. -/
def parts : Aggregate → List Aggregate
  | stringTerms bs => inBuckets bs
  | longTerms bs | dateHistogram bs _ | autoDateHistogram bs _ => inBuckets bs
  | doubleTerms bs => inBuckets bs
  | nested _ inner => inner.map Prod.snd
  | metric _ _ | unmappedTerms => []

/-- The data of an aggregate itself are in range. -/
def Fits : Aggregate → Prop
  | metric _ value => ∀ x ∈ value, x.isFinite
  | stringTerms bs => ∀ b ∈ bs, b.Fits fun _ => True
  | longTerms bs | dateHistogram bs _ | autoDateHistogram bs _ => ∀ b ∈ bs, b.Fits IsInt64
  | doubleTerms bs => ∀ b ∈ bs, b.Fits fun x => x.isFinite
  | unmappedTerms => True
  | nested n inner => IsInt64 n ∧ Json.InOrder inner

/-- The data of an aggregate and of all aggregates inside it are in range. -/
inductive Valid : Aggregate → Prop
  | intro {a : Aggregate} (hfits : a.Fits) (hparts : ∀ p ∈ a.parts, p.Valid) : Valid a

/-! ## What is written -/

/-- A value is written in one way. -/
def Exactly {κ : Type} (write : κ → Json) (j : Json) (k : κ) : Prop := j = write k

/-- A number that is a double, written with or without a fraction. -/
inductive Number : Json → Double → Prop
  | real (x : Double) : Number (.real x) x
  | int (n : Int) : Number (.int n) (.ofInt n)

/-- The value of a metric. -/
inductive Value : Option Json → Option Double → Prop
  | number {j : Json} {x : Double} (h : Number j x) : Value (some j) (some x)
  | null : Value (some .null) none
  | absent : Value none none

section Layout

variable (R : Json → Aggregate → Prop)

/-- The members are the aggregates, each under its kind and name, in any order. -/
inductive ShowsEach : List (String × Json) → Aggregates → Prop
  | nil : ShowsEach [] []
  | cons {name : String} {a : Aggregate} {body : Json} {before after : List (String × Json)}
      {rest : Aggregates} (hbody : R body a) (hrest : ShowsEach (before ++ after) rest) :
      ShowsEach (before ++ (a.kind ++ "#" ++ name, body) :: after) ((name, a) :: rest)

variable {κ : Type} (key : Json → κ → Prop)

variable {R} in
theorem ShowsEach.head {ms : List (String × Json)} {aggs : Aggregates} (h : ShowsEach R ms aggs)
    (name : String) {a : Aggregate} {body : Json} (hbody : R body a) :
    ShowsEach R ((a.kind ++ "#" ++ name, body) :: ms) ((name, a) :: aggs) :=
  @ShowsEach.cons R name a body [] ms aggs hbody h

/-- An object is a bucket. -/
inductive ShowsBucket : Json → Bucket κ Aggregate → Prop
  | intro {b : Bucket κ Aggregate} {k : Json} {ms : List (String × Json)}
      (hkey : Json.lookup "key" ms = some k) (hk : key k b.key)
      (htext : Json.lookup "key_as_string" ms = b.keyText.map .str)
      (hcount : Json.lookup "doc_count" ms = some (.int b.docCount))
      (hinner : ShowsEach R (ms.filter isTyped) b.inner) : ShowsBucket (.obj ms) b

/-- An object has some buckets. -/
inductive ShowsBuckets : Json → List (Bucket κ Aggregate) → Prop
  | intro {ms : List (String × Json)} {items : List Json} {bs : List (Bucket κ Aggregate)}
      (hitems : Json.lookup "buckets" ms = some (.arr items))
      (hall : List.Forall₂ (ShowsBucket R key) items bs) : ShowsBuckets (.obj ms) bs

end Layout

/-- The interval of a histogram. -/
inductive Interval : Json → Option String → Prop
  | intro {ms : List (String × Json)} {interval : Option String}
      (h : Json.lookup "interval" ms = interval.map .str) : Interval (.obj ms) interval

/-- A JSON value is the body of an aggregate. -/
inductive Shows : Json → Aggregate → Prop
  | metric {ms : List (String × Json)} {kind : MetricKind} {value : Option Double}
      (h : Value (Json.lookup "value" ms) value) : Shows (.obj ms) (.metric kind value)
  | stringTerms {j : Json} {bs : List (Bucket String Aggregate)}
      (h : ShowsBuckets Shows (Exactly .str) j bs) : Shows j (.stringTerms bs)
  | longTerms {j : Json} {bs : List (Bucket Int Aggregate)}
      (h : ShowsBuckets Shows (Exactly .int) j bs) : Shows j (.longTerms bs)
  | doubleTerms {j : Json} {bs : List (Bucket Double Aggregate)}
      (h : ShowsBuckets Shows Number j bs) : Shows j (.doubleTerms bs)
  | unmappedTerms {ms : List (String × Json)} (h : Json.lookup "buckets" ms = some (.arr [])) :
      Shows (.obj ms) .unmappedTerms
  | dateHistogram {j : Json} {bs : List (Bucket Int Aggregate)} {interval : Option String}
      (h : ShowsBuckets Shows (Exactly .int) j bs) (hinterval : Interval j interval) :
      Shows j (.dateHistogram bs interval)
  | autoDateHistogram {j : Json} {bs : List (Bucket Int Aggregate)} {interval : Option String}
      (h : ShowsBuckets Shows (Exactly .int) j bs) (hinterval : Interval j interval) :
      Shows j (.autoDateHistogram bs interval)
  | nested {ms : List (String × Json)} {n : Int} {inner : Aggregates}
      (hcount : Json.lookup "doc_count" ms = some (.int n))
      (h : ShowsEach Shows (ms.filter isTyped) inner) : Shows (.obj ms) (.nested n inner)

/-! ## Reading members -/

theorem exists_kind (a : Aggregate) : ∃ kind : AnswerKind, a.kind = kind.name := by
  cases a with
  | metric kind value => exact ⟨.metric kind, rfl⟩
  | stringTerms => exact ⟨.strings, rfl⟩
  | longTerms => exact ⟨.longs, rfl⟩
  | doubleTerms => exact ⟨.doubles, rfl⟩
  | unmappedTerms => exact ⟨.unmapped, rfl⟩
  | dateHistogram => exact ⟨.dates, rfl⟩
  | autoDateHistogram => exact ⟨.autoDates, rfl⟩
  | nested => exact ⟨.nested, rfl⟩

/-- A kind has no `#`, so a name is everything after the first one. -/
theorem cutAt?_kind (a : Aggregate) (name : String) :
    Text.cutAt? '#' (a.kind ++ "#" ++ name).toList = some (a.kind.toList, name.toList) := by
  obtain ⟨kind, hkind⟩ := a.exists_kind
  rw [hkind]
  exact kind.cutAt?_typed name

/-- A member is read as an aggregate with its name. -/
def ReadAs (m : String × Json) (entry : String × Aggregate) : Prop :=
  m.1 = entry.2.kind ++ "#" ++ entry.1 ∧ ofBody entry.2.kind entry.1 m.2 = .ok entry.2

theorem typedMembers_eq {ms : List (String × Json)} {entries : Aggregates}
    (h : List.Forall₂ ReadAs ms entries) : typedMembers ms = .ok entries := by
  induction h with
  | nil => rfl
  | @cons m entry ms entries hm _ ih =>
    obtain ⟨key, body⟩ := m
    obtain ⟨name, a⟩ := entry
    obtain ⟨hkey, hbody⟩ := hm
    obtain rfl : key = a.kind ++ "#" ++ name := hkey
    have hbody : ofBody a.kind name body = .ok a := hbody
    simp only [typedMembers, cutAt?_kind, String.ofList_toList, hbody, ih, Except.map]

section Layout

variable {R : Json → Aggregate → Prop}

/-- The members that show some aggregates are read as them, in the order of the members. -/
theorem ShowsEach.exists_perm {ms : List (String × Json)} {aggs : Aggregates}
    (h : ShowsEach R ms aggs)
    (hread : ∀ e ∈ aggs, ∀ body, R body e.2 → ofBody e.2.kind e.1 body = .ok e.2) :
    ∃ entries, List.Forall₂ ReadAs ms entries ∧ entries.Perm aggs := by
  have hordered : ∃ ordered, ms.Perm ordered ∧ List.Forall₂ ReadAs ordered aggs := by
    induction h with
    | nil => exact ⟨[], .refl _, .nil⟩
    | @cons name a body before after rest hbody _ ih =>
      obtain ⟨ordered, hperm, hall⟩ := ih fun e he => hread e (List.mem_cons_of_mem _ he)
      have hfirst := hread (name, a) (List.mem_cons_self ..) body hbody
      exact ⟨_ :: ordered, List.perm_middle.trans (hperm.cons _), .cons ⟨rfl, hfirst⟩ hall⟩
  obtain ⟨ordered, hperm, hall⟩ := hordered
  exact List.perm_comp_forall₂ hperm hall

/-- An object that shows aggregates with names in order is read as them. -/
theorem ShowsEach.ofMembers_eq {ms : List (String × Json)} {aggs : Aggregates}
    (h : ShowsEach R (ms.filter isTyped) aggs) (horder : Json.InOrder aggs)
    (hread : ∀ e ∈ aggs, ∀ body, R body e.2 → ofBody e.2.kind e.1 body = .ok e.2) :
    ofMembers ms = .ok aggs := by
  obtain ⟨entries, hall, hperm⟩ := h.exists_perm hread
  rw [ofMembers, ← typedMembers_filter, typedMembers_eq hall, Except.map,
    Json.sortMembers_eq horder hperm]

/-! ## Reading bodies -/

theorem stringMember_eq {ms : List (String × Json)} {name : String} {text : Option String}
    (h : Json.lookup name ms = text.map .str) : stringMember name (.obj ms) = text := by
  rw [stringMember, Json.get?, h]
  cases text <;> rfl

theorem Interval.stringMember_eq {j : Json} {interval : Option String} (h : Interval j interval) :
    stringMember "interval" j = interval := by
  obtain ⟨h⟩ := h
  exact Aggregate.stringMember_eq h

theorem Number.asDouble?_eq {j : Json} {x : Double} (h : Number j x) : j.asDouble? = some x := by
  cases h <;> rfl

theorem Value.metricValue_eq {ms : List (String × Json)} {value : Option Double}
    (h : Value (Json.lookup "value" ms) value) : metricValue (.obj ms) = value := by
  rw [metricValue, Json.get?]
  generalize Json.lookup "value" ms = j at h
  cases h with
  | number hx => exact hx.asDouble?_eq
  | null => rfl
  | absent => rfl

variable {κ : Type} {key : Json → κ → Prop} {fits : κ → Prop}
  {readKey : Json → Except String κ}

/-- Buckets are read as what they show, if keys are and what is inside is. -/
theorem ShowsBuckets.exists_eq {j : Json} {bs : List (Bucket κ Aggregate)}
    (h : ShowsBuckets R key j bs) (hfits : ∀ b ∈ bs, b.Fits fits)
    (hkey : ∀ j k, fits k → key j k → readKey j = .ok k)
    (hread : ∀ a ∈ inBuckets bs, ∀ name body, R body a → ofBody a.kind name body = .ok a)
    (name : String) :
    ∃ ms, j = .obj ms ∧ buckets readKey name (.obj ms) (insideMembers ms) = .ok bs := by
  obtain @⟨ms, items, _, hitems, hall⟩ := h
  refine ⟨ms, rfl, ?_⟩
  rw [buckets, insideMembers_of_lookup hitems, Json.get?, hitems, insideBuckets]
  clear hitems
  induction hall with
  | nil => rfl
  | @cons item b items bs hitem _ ih =>
    obtain @⟨_, k, bucket, hk, hkeyed, htext, hcount, hinner⟩ := hitem
    obtain ⟨hb, hbs⟩ := List.forall_mem_cons.mp hfits
    have hparts : ∀ e ∈ b.inner, e.2 ∈ inBuckets (b :: bs) := fun e he =>
      List.mem_flatMap.mpr ⟨b, List.mem_cons_self .., List.mem_map_of_mem he⟩
    have hinside : ofMembers bucket = .ok b.inner :=
      hinner.ofMembers_eq hb.inner fun e he => hread _ (hparts e he) _
    have hrest := ih hbs fun a ha => hread a (List.mem_append_right _ ha)
    simp only at hrest
    have hbucket : Aggregate.bucket readKey name (.obj bucket) (.ok b.inner) = .ok b := by
      simp only [Aggregate.bucket, hk, hkey _ _ hb.key hkeyed, Except.map,
        docCount_eq hcount hb.docCount, stringMember_eq htext]
    simp only [insideItems, insideItem_obj, hinside, bucketList, hbucket, hrest, Except.map]

end Layout

/-- Whatever is written for an aggregate is read as it. -/
theorem Valid.ofBody_eq {a : Aggregate} (h : a.Valid) :
    ∀ (name : String) (j : Json), Shows j a → ofBody a.kind name j = .ok a := by
  induction h with
  | @intro a hfits _ ih =>
    intro name j hshows
    have hstring (j : Json) (k : String) (_ : True) (hj : Exactly .str j k) :
        stringKey j = .ok k := by
      rw [hj, stringKey]
    have hint (j : Json) (k : Int) (hk : IsInt64 k) (hj : Exactly .int j k) : intKey j = .ok k := by
      rw [hj, intKey, if_pos hk.2]
    have hdouble (j : Json) (k : Double) (_ : k.isFinite) (hj : Number j k) :
        doubleKey j = .ok k := by
      rw [doubleKey, hj.asDouble?_eq]
    cases hshows with
    | metric hvalue =>
      rw [← hvalue.metricValue_eq]
      exact ofBody_metric _ _ _
    | stringTerms hbuckets =>
      obtain ⟨ms, rfl, hbs⟩ := hbuckets.exists_eq hfits hstring ih name
      simp [ofBody, assemble, kind, hbs, Except.map]
    | longTerms hbuckets =>
      obtain ⟨ms, rfl, hbs⟩ := hbuckets.exists_eq hfits hint ih name
      simp [ofBody, assemble, kind, hbs, Except.map]
    | doubleTerms hbuckets =>
      obtain ⟨ms, rfl, hbs⟩ := hbuckets.exists_eq hfits hdouble ih name
      simp [ofBody, assemble, kind, hbs, Except.map]
    | unmappedTerms => simp [ofBody, assemble, kind]
    | dateHistogram hbuckets hinterval =>
      obtain ⟨ms, rfl, hbs⟩ := hbuckets.exists_eq hfits hint ih name
      simp [ofBody, assemble, kind, hbs, Except.map, hinterval.stringMember_eq]
    | autoDateHistogram hbuckets hinterval =>
      obtain ⟨ms, rfl, hbs⟩ := hbuckets.exists_eq hfits hint ih name
      simp [ofBody, assemble, kind, hbs, Except.map, hinterval.stringMember_eq]
    | @nested ms n inner hcount hinner =>
      obtain ⟨hn, horder⟩ := hfits
      have hinside : ofMembers ms = .ok inner :=
        hinner.ofMembers_eq horder fun e he => ih _ (List.mem_map_of_mem he) _
      rw [ofMembers] at hinside
      simp only [ofBody, assemble, kind, hinside]
      rw [Except.map, docCount_eq hcount hn]

/-! ## Every tree can be written -/

theorem isTyped_key (a : Aggregate) (name : String) (body : Json) :
    isTyped (a.kind ++ "#" ++ name, body) := by
  simp [isTyped]

/-- Plain members are looked up as if the typed ones were not there. -/
theorem lookup_append_typed {plain typed : List (String × Json)} {name : String}
    (htyped : ∀ m ∈ typed, isTyped m) (hname : '#' ∉ name.toList) :
    Json.lookup name (plain ++ typed) = Json.lookup name plain := by
  have hnone : Json.lookup name typed = none := by
    refine Json.lookup_eq_none_iff.mpr fun hmem => ?_
    obtain ⟨m, hm, rfl⟩ := List.mem_map.mp hmem
    have hhash : '#' ∈ m.1.toList := by simpa [isTyped] using htyped m hm
    exact hname hhash
  rw [Json.lookup_append, hnone, Option.or_none]

theorem filter_append_typed {plain typed : List (String × Json)}
    (hplain : ∀ m ∈ plain, ¬ isTyped m) (htyped : ∀ m ∈ typed, isTyped m) :
    (plain ++ typed).filter isTyped = typed := by
  rw [List.filter_append, List.filter_eq_nil_iff.mpr hplain, List.nil_append,
    List.filter_eq_self.mpr htyped]

section Layout

variable {R : Json → Aggregate → Prop}

theorem exists_showsEach {aggs : Aggregates} (h : ∀ e ∈ aggs, ∃ body, R body e.2) :
    ∃ typed, ShowsEach R typed aggs ∧ ∀ m ∈ typed, isTyped m := by
  induction aggs with
  | nil => exact ⟨[], .nil, nofun⟩
  | cons e rest ih =>
    obtain ⟨name, a⟩ := e
    obtain ⟨⟨body, hbody⟩, hrest⟩ := List.forall_mem_cons.mp h
    obtain ⟨typed, hshows, htyped⟩ := ih hrest
    exact ⟨_ :: typed, hshows.head name hbody,
      List.forall_mem_cons.mpr ⟨isTyped_key a name body, htyped⟩⟩

variable {κ : Type} {key : Json → κ → Prop}

/-- Buckets can be written, with an interval beside them. -/
theorem exists_showsBuckets {bs : List (Bucket κ Aggregate)}
    (hkey : ∀ b ∈ bs, ∃ j, key j b.key) (h : ∀ a ∈ inBuckets bs, ∃ body, R body a)
    (interval : Option String) : ∃ j, ShowsBuckets R key j bs ∧ Interval j interval := by
  have hitems : ∃ items, List.Forall₂ (ShowsBucket R key) items bs := by
    induction bs with
    | nil => exact ⟨[], .nil⟩
    | cons b rest ih =>
      obtain ⟨⟨k, hk⟩, hkeys⟩ := List.forall_mem_cons.mp hkey
      obtain ⟨items, hitems⟩ := ih hkeys fun a ha => h a (List.mem_append_right _ ha)
      obtain ⟨typed, hshows, htyped⟩ :
          ∃ typed, ShowsEach R typed b.inner ∧ ∀ m ∈ typed, isTyped m :=
        exists_showsEach fun e he => h _ (List.mem_append_left _ (List.mem_map_of_mem he))
      let plain := [("key", k), ("doc_count", .int b.docCount)] ++
        Json.optionalMember "key_as_string" (b.keyText.map .str)
      have hplain : ∀ m ∈ plain, ¬ isTyped m := by
        rcases htext : b.keyText <;> simp [plain, htext, Json.optionalMember, isTyped]
      refine ⟨.obj (plain ++ typed) :: items, .cons (.intro (k := k) ?_ hk ?_ ?_ ?_) hitems⟩
      · rw [lookup_append_typed htyped (by decide)]
        rfl
      · rw [lookup_append_typed htyped (by decide)]
        rcases htext : b.keyText <;> simp [plain, htext, Json.optionalMember, Json.lookup]
      · rw [lookup_append_typed htyped (by decide)]
        rfl
      · rwa [filter_append_typed hplain htyped]
  obtain ⟨items, hall⟩ := hitems
  refine ⟨.obj (("buckets", .arr items) :: Json.optionalMember "interval" (interval.map .str)),
    .intro rfl hall, .intro ?_⟩
  cases interval <;> rfl

end Layout

/-- Every aggregate in range can be written. -/
theorem Valid.exists_shows {a : Aggregate} (h : a.Valid) : ∃ j, Shows j a := by
  induction h with
  | @intro a hfits _ ih =>
    have hstring (bs : List (Bucket String Aggregate)) : ∀ b ∈ bs, ∃ j, Exactly Json.str j b.key :=
      fun b _ => ⟨_, rfl⟩
    have hint (bs : List (Bucket Int Aggregate)) : ∀ b ∈ bs, ∃ j, Exactly Json.int j b.key :=
      fun b _ => ⟨_, rfl⟩
    have hdouble (bs : List (Bucket Double Aggregate)) : ∀ b ∈ bs, ∃ j, Number j b.key :=
      fun b _ => ⟨_, .real b.key⟩
    cases a with
    | metric kind value =>
      cases value with
      | none => exact ⟨.obj [], .metric .absent⟩
      | some x => exact ⟨.obj [("value", .real x)], .metric (.number (.real x))⟩
    | stringTerms bs =>
      obtain ⟨j, hbuckets, -⟩ := exists_showsBuckets (hstring bs) ih none
      exact ⟨j, .stringTerms hbuckets⟩
    | longTerms bs =>
      obtain ⟨j, hbuckets, -⟩ := exists_showsBuckets (hint bs) ih none
      exact ⟨j, .longTerms hbuckets⟩
    | doubleTerms bs =>
      obtain ⟨j, hbuckets, -⟩ := exists_showsBuckets (hdouble bs) ih none
      exact ⟨j, .doubleTerms hbuckets⟩
    | unmappedTerms => exact ⟨.obj [("buckets", .arr [])], .unmappedTerms rfl⟩
    | dateHistogram bs interval =>
      obtain ⟨j, hbuckets, hinterval⟩ := exists_showsBuckets (hint bs) ih interval
      exact ⟨j, .dateHistogram hbuckets hinterval⟩
    | autoDateHistogram bs interval =>
      obtain ⟨j, hbuckets, hinterval⟩ := exists_showsBuckets (hint bs) ih interval
      exact ⟨j, .autoDateHistogram hbuckets hinterval⟩
    | nested n inner =>
      obtain ⟨typed, hshows, htyped⟩ := exists_showsEach fun e he =>
        ih e.2 (List.mem_map_of_mem he)
      have hplain : ∀ m ∈ [("doc_count", Json.int n)], ¬ isTyped m := by simp [isTyped]
      refine ⟨.obj ([("doc_count", .int n)] ++ typed), .nested ?_ ?_⟩
      · rw [lookup_append_typed htyped (by decide)]
        rfl
      · rwa [filter_append_typed hplain htyped]

/-! ## The way there and back -/

/-- A tree of aggregates with names in order can be written as typed members, and whatever members
show it are read as that tree. -/
theorem ofMembers_shows {aggs : Aggregates} (horder : Json.InOrder aggs)
    (hvalid : ∀ e ∈ aggs, e.2.Valid) :
    (∃ ms : List (String × Json), ShowsEach Shows (ms.filter isTyped) aggs) ∧
      ∀ ms : List (String × Json),
        ShowsEach Shows (ms.filter isTyped) aggs → ofMembers ms = .ok aggs := by
  constructor
  · obtain ⟨typed, hshows, htyped⟩ := exists_showsEach fun e he => (hvalid e he).exists_shows
    exact ⟨typed, by rwa [List.filter_eq_self.mpr htyped]⟩
  · intro ms hshows
    exact hshows.ofMembers_eq horder fun e he body => (hvalid e he).ofBody_eq e.1 body

/-- Two aggregates, one of them with `#` in its name and another aggregate in its bucket, are read
back from members in another order. -/
theorem ofMembers_shows_inside :
    let average : Aggregate := .metric .avg none
    let terms : Aggregate := .stringTerms [⟨"x", none, 3, [("m", average)]⟩]
    let within : Aggregate := .nested 2 []
    let bucket : List (String × Json) :=
      [("doc_count", .int 3), ("avg#m", .obj [("value", .null)]), ("key", .str "x")]
    ofMembers [("nested#n", .obj [("doc_count", .int 2)]), ("took", .int 1),
        ("sterms#a#b", .obj [("buckets", .arr [.obj bucket])])] =
      .ok [("a#b", terms), ("n", within)] := by
  intro average terms within bucket
  have haverage : average.Valid := .intro nofun nofun
  have hterms : terms.Valid := by
    refine .intro (fun b hb => ?_) fun p hp => ?_
    · obtain rfl := List.mem_singleton.mp hb
      exact ⟨trivial, by decide, List.pairwise_singleton _ _⟩
    · obtain rfl : p = average := by simpa [terms, parts, inBuckets] using hp
      exact haverage
  have hwithin : within.Valid := .intro ⟨by decide, .nil⟩ nofun
  have hnumber : Shows (.obj [("value", .null)]) average := .metric .null
  have haverages : ShowsEach Shows [("avg#m", .obj [("value", .null)])] [("m", average)] :=
    ShowsEach.nil.head "m" hnumber
  have hbucket : ShowsBucket Shows (Exactly .str) (.obj bucket)
      ⟨"x", none, 3, [("m", average)]⟩ :=
    .intro rfl rfl rfl rfl haverages
  have hbuckets : Shows (.obj [("buckets", .arr [.obj bucket])]) terms :=
    .stringTerms (.intro rfl (.cons hbucket .nil))
  have hdocuments : Shows (.obj [("doc_count", .int 2)]) within := .nested rfl .nil
  have hvalid : ∀ e ∈ [("a#b", terms), ("n", within)], e.2.Valid := by
    simp [hterms, hwithin]
  have hrest : ShowsEach Shows [("nested#n", .obj [("doc_count", .int 2)])] [("n", within)] :=
    ShowsEach.nil.head "n" hdocuments
  have htyped : ShowsEach Shows [("nested#n", .obj [("doc_count", .int 2)]),
      ("sterms#a#b", .obj [("buckets", .arr [.obj bucket])])] [("a#b", terms), ("n", within)] :=
    @ShowsEach.cons Shows "a#b" terms _ [_] [] _ hbuckets hrest
  exact (ofMembers_shows (by decide) hvalid).2 _ (by simpa [isTyped] using htyped)

end Aggregate

end SearchStore
