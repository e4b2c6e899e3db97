import SearchStore.Proofs.Aggregation.Entries

/-! # Closed reading

Reading an answer passes over no entry: it succeeds only if every entry that is
reached is of a known kind and in the shape of its kind, and then there is at
each level exactly one aggregate for each name. The step is `Entry.of_read` and
`Entry.of_read_error`, that say of one entry what is read or fails in it and
what in the objects inside; `ofMembers_closed` carries them through all levels.
-/

namespace SearchStore

namespace Aggregate

/-! ## One entry -/

theorem of_bucket {κ : Type} {kind : String} {readKey : Json → Except String κ}
    (hkeys : ReadsKeys kind readKey) {name : String} {j : Json} (hrange : j.InRange)
    {inner : Except Error Aggregates} {b : Bucket κ Aggregate}
    (h : bucket readKey name j inner = .ok b) :
    Entry.IsBucket kind j ∧ inner = .ok b.inner := by
  cases j with
  | obj members =>
    rw [bucket] at h
    cases hkey : Json.lookup "key" members with
    | none => simp [hkey] at h
    | some key =>
      cases hread : readKey key with
      | error reason => simp [hkey, hread] at h
      | ok k =>
        simp only [hkey, hread] at h
        obtain ⟨inside, rfl, rfl⟩ := except_map_eq_ok_iff.mp h
        have hfits := hkeys.fits (hrange.of_mem_values (Json.mem_values_of_lookup hkey)) hread
        exact ⟨⟨members, key, rfl, hkey, hfits⟩, rfl⟩
  | null | bool | int | real | str | arr => simp [bucket] at h

/-- A bucket fails because it is none, or inside. -/
theorem of_bucket_error {κ : Type} {kind : String} {readKey : Json → Except String κ}
    (hkeys : ReadsKeys kind readKey) {name : String} {j : Json} {inner : Except Error Aggregates}
    {err : Error} (h : bucket readKey name j inner = .error err) :
    (¬ Entry.IsBucket kind j ∧ ∃ reason, err = .invalidAggregate name reason) ∨
      (∃ members, j = .obj members) ∧ inner = .error err := by
  cases j with
  | obj members =>
    rw [bucket] at h
    cases hkey : Json.lookup "key" members with
    | none =>
      refine .inl ⟨?_, _, by simpa [hkey] using h.symm⟩
      rintro ⟨_, key, ⟨⟩, hsome, -⟩
      rw [hkey] at hsome
      cases hsome
    | some key =>
      cases hread : readKey key with
      | error reason =>
        refine .inl ⟨?_, reason, by simpa [hkey, hread] using h.symm⟩
        rintro ⟨_, _, ⟨⟩, hsome, hfits⟩
        obtain rfl : key = _ := Option.some.inj (hkey.symm.trans hsome)
        obtain ⟨k, hk⟩ := hkeys.ok hfits
        rw [hread] at hk
        cases hk
      | ok k =>
        simp only [hkey, hread] at h
        exact .inr ⟨⟨members, rfl⟩, except_map_eq_error_iff.mp h⟩
  | null | bool | int | real | str | arr =>
    refine .inl ⟨?_, _, by simpa [bucket] using h.symm⟩
    rintro ⟨_, _, ⟨⟩, -⟩

theorem bucketList_eq_mapM {κ : Type} (readKey : Json → Except String κ) (name : String)
    (items : List Json) :
    bucketList readKey name items (items.map insideItem) =
      items.mapM fun j => bucket readKey name j (insideItem j) := by
  induction items with
  | nil => rfl
  | cons j rest ih =>
    rw [List.map_cons, bucketList, ih, List.mapM_cons]
    rcases bucket readKey name j (insideItem j) with err | b
    · rfl
    · rcases rest.mapM fun j => bucket readKey name j (insideItem j) with err | bs <;> rfl

section Buckets

variable {κ : Type} {kind name : String} {readKey : Json → Except String κ} {body : Json}

/-- Buckets that are read are such, and so are the objects inside them. -/
theorem of_buckets (hkeys : ReadsKeys kind readKey) (hrange : body.InRange)
    {bs : List (Bucket κ Aggregate)}
    (h : buckets readKey name body ((Entry.items body).map insideItem) = .ok bs) :
    Entry.HasBuckets kind body ∧
      List.Forall₂ (fun o b => ofMembers o = .ok b.inner)
        ((Entry.items body).filterMap Json.asMembers?) bs := by
  simp only [buckets, Entry.HasBuckets, Entry.items] at h ⊢
  split at h
  · next hnone =>
    obtain rfl : [] = bs := Except.ok.inj h
    simp [hnone]
  · next items hitems =>
    simp only [hitems, Option.some.injEq, forall_eq', Json.arr.injEq, exists_eq_left'] at h ⊢
    have hitem : ∀ item ∈ items, item.InRange := fun item hitem =>
      (hrange.of_mem_values (Json.mem_values_of_get? hitems)).of_mem_values hitem
    rw [bucketList_eq_mapM, mapM_eq_ok_iff] at h
    -- the body is of all items, so it says nothing of those that are left
    clear hitems
    induction h with
    | nil => exact ⟨List.forall_mem_nil _, .nil⟩
    | @cons item b items bs hread _ ih =>
      obtain ⟨hhead, htail⟩ := List.forall_mem_cons.mp hitem
      obtain ⟨hbuckets, hinside⟩ := ih htail
      obtain ⟨hbucket, hinner⟩ := of_bucket hkeys hhead hread
      refine ⟨List.forall_mem_cons.mpr ⟨hbucket, hbuckets⟩, ?_⟩
      obtain ⟨members, -, rfl, -⟩ := hbucket
      exact .cons (insideItem_obj members ▸ hinner) hinside
  · cases h

/-- Buckets fail because they are none, or inside one of them. -/
theorem of_buckets_error (hkeys : ReadsKeys kind readKey) {err : Error}
    (h : buckets readKey name body ((Entry.items body).map insideItem) = .error err) :
    (¬ Entry.HasBuckets kind body ∧ ∃ reason, err = .invalidAggregate name reason) ∨
      ∃ o ∈ (Entry.items body).filterMap Json.asMembers?, ofMembers o = .error err := by
  simp only [buckets, Entry.HasBuckets, Entry.items] at h ⊢
  split at h
  · cases h
  · next items hitems =>
    simp only [hitems, Option.some.injEq, forall_eq', Json.arr.injEq, exists_eq_left'] at h ⊢
    rw [bucketList_eq_mapM] at h
    obtain ⟨item, hitem, herr⟩ := exists_of_mapM_error h
    rcases of_bucket_error hkeys herr with ⟨hnot, hreason⟩ | ⟨⟨members, rfl⟩, hinner⟩
    · exact .inl ⟨fun hall => hnot (hall item hitem), hreason⟩
    · rw [insideItem_obj] at hinner
      exact .inr ⟨members, List.mem_filterMap.mpr ⟨_, hitem, rfl⟩, hinner⟩
  · next j hother hj =>
    refine .inl ⟨fun hall => ?_, _, (Except.error.inj h).symm⟩
    obtain ⟨items, rfl, -⟩ := hall j hj
    exact hother items rfl

end Buckets

namespace Entry

variable {e : Entry}

/-- What it is about an entry that cannot be read, and how that is said. -/
inductive Fault (e : Entry) : Error → Prop
  | unknown (h : e.kind ∉ kinds) : Fault e (.unsupportedAggregation e.kind)
  | malformed (hkind : e.kind ∈ kinds) (h : ¬ e.Formed) (reason : String) :
      Fault e (.invalidAggregate e.name reason)

theorem nested_not_mem_bucketKinds : "nested" ∉ bucketKinds := by decide

theorem mem_kinds_of_mem_bucketKinds {kind : String} (h : kind ∈ bucketKinds) : kind ∈ kinds :=
  List.mem_append_right _ h

/-- An entry that is read is of a known kind and in its shape, and so are the objects inside. -/
theorem of_read {a : Aggregate} (hrange : e.body.InRange) (h : e.read = .ok a) :
    e.kind ∈ kinds ∧ e.Formed ∧ a.kind = e.kind ∧
      List.Forall₂ (fun o inner => ofMembers o = .ok inner) e.objects a.inners := by
  cases e.readAs with
  | leaf a' hkind hnested hbuckets ha hinners hread =>
    obtain rfl : a' = a := Except.ok.inj (hread.symm.trans h)
    refine ⟨hkind, ⟨fun hn => absurd hn hnested, fun hb => absurd hb hbuckets⟩, ha, ?_⟩
    rw [hinners, objects, if_neg hnested, if_neg hbuckets]
    exact .nil
  | nested hkind hread =>
    rw [h] at hread
    cases hbody : e.body with
    | obj ms =>
      rw [hbody] at hread
      obtain ⟨inner, hinner, rfl⟩ := except_map_eq_ok_iff.mp hread.symm
      refine ⟨by simp [hkind, kinds], ⟨fun _ => ⟨ms, hbody⟩, ?_⟩, hkind.symm, ?_⟩
      · rw [hkind]
        exact fun hb => absurd hb nested_not_mem_bucketKinds
      · rw [objects, if_pos hkind, hbody]
        exact .cons hinner .nil
    | null | bool | int | real | str | arr => simp [hbody] at hread
  | buckets readKey wrap hkind hkeys hwrap hread =>
    have hnested : e.kind ≠ "nested" := by
      intro hn
      exact nested_not_mem_bucketKinds (hn ▸ hkind)
    -- the keys that the buckets have depend on the kind; what is inside them does not
    obtain ⟨bs, hbs, rfl⟩ := except_map_eq_ok_iff.mp (hread.symm.trans h)
    obtain ⟨hbuckets, hinside⟩ := of_buckets hkeys hrange hbs
    refine ⟨mem_kinds_of_mem_bucketKinds hkind, ⟨fun hn => absurd hn hnested, fun _ => hbuckets⟩,
      (hwrap bs).1, ?_⟩
    rw [objects, if_neg hnested, if_pos hkind, (hwrap bs).2]
    exact List.forall₂_map_right_iff.mpr hinside
  | unknown _ hread => cases hread.symm.trans h

/-- An entry fails in itself or in an object inside. -/
theorem of_read_error {err : Error} (h : e.read = .error err) :
    e.Fault err ∨ ∃ o ∈ e.objects, ofMembers o = .error err := by
  cases e.readAs with
  | leaf _ _ _ _ _ _ hread => cases hread.symm.trans h
  | nested hkind hread =>
    rw [h] at hread
    cases hbody : e.body with
    | obj ms =>
      rw [hbody] at hread
      refine .inr ⟨ms, ?_, except_map_eq_error_iff.mp hread.symm⟩
      simp [objects, hkind, hbody, Json.asMembers?]
    | null | bool | int | real | str | arr =>
      obtain rfl := Except.error.inj (hbody ▸ hread)
      refine .inl (.malformed (by simp [hkind, kinds]) (fun hformed => ?_) _)
      obtain ⟨ms, hms⟩ := hformed.nested hkind
      cases hbody.symm.trans hms
  | buckets readKey wrap hkind hkeys hwrap hread =>
    have hnested : e.kind ≠ "nested" := by
      intro hn
      exact nested_not_mem_bucketKinds (hn ▸ hkind)
    rcases of_buckets_error hkeys (except_map_eq_error_iff.mp (hread.symm.trans h)) with
      ⟨hnot, reason, rfl⟩ | ⟨o, ho, herr⟩
    · exact .inl (.malformed (mem_kinds_of_mem_bucketKinds hkind)
        (fun hformed => hnot (hformed.buckets hkind)) reason)
    · refine .inr ⟨o, ?_, herr⟩
      rwa [objects, if_neg hnested, if_pos hkind]
  | unknown hkind hread =>
    obtain rfl := Except.error.inj (hread.symm.trans h)
    exact .inl (.unknown hkind)

/-- What holds of a body and is handed on to the values inside holds of the objects inside. -/
theorem objects_of_body {P : Json → Prop} (hvalues : ∀ j v, P j → v ∈ j.values → P v)
    (hbody : P e.body) {o : List (String × Json)} (ho : o ∈ e.objects) : P (.obj o) := by
  rw [objects] at ho
  split_ifs at ho with hnested hbuckets
  · cases hb : e.body with
    | obj ms =>
      obtain rfl : o = ms := by simpa [hb, Json.asMembers?] using ho
      exact hb ▸ hbody
    | null | bool | int | real | str | arr => simp [hb, Json.asMembers?] at ho
  · obtain ⟨item, hitem, hmembers⟩ := List.mem_filterMap.mp ho
    obtain rfl : item = .obj o := by
      cases item <;> simp only [Json.asMembers?, reduceCtorEq, Option.some.injEq] at hmembers
      rw [hmembers]
    rw [items] at hitem
    split at hitem
    · next items hitems =>
      exact hvalues _ _ (hvalues _ _ hbody (Json.mem_values_of_get? hitems)) hitem
    · cases hitem
  · cases ho

end Entry

theorem IsEntry.body_mem_values {ms : List (String × Json)} {e : Entry} (h : IsEntry ms e) :
    e.body ∈ (Json.obj ms).values := List.mem_map_of_mem h.2

/-! ## One level -/

section Level

variable {ms : List (String × Json)} {aggs : Aggregates}

theorem IsEntry.unique (horder : Json.InOrder ms) {e e' : Entry} (h : IsEntry ms e)
    (h' : IsEntry ms e') (hkey : e.key = e'.key) : e = e' := by
  have hbody : e.body = e'.body :=
    Option.some.inj <| (Json.lookup_of_mem horder.nodup h.2).symm.trans
      (Json.lookup_of_mem horder.nodup (hkey ▸ h'.2))
  have hentry : entryOf? (e.key, e.body) = some e := entryOf?_eq_some_iff.mpr ⟨h.1, rfl⟩
  have hentry' : entryOf? (e.key, e.body) = some e' :=
    entryOf?_eq_some_iff.mpr ⟨h'.1, by rw [hkey, hbody]⟩
  exact Option.some.inj (hentry.symm.trans hentry')

theorem Wins.unique (horder : Json.InOrder ms) {e e' : Entry} (h : Wins ms e) (h' : Wins ms e')
    (hname : e.name = e'.name) : e = e' :=
  h.1.unique horder h'.1 (le_antisymm (h'.2 e h.1 hname) (h.2 e' h'.1 hname.symm))

/-- The aggregates are those of the entries that count. -/
theorem mem_ofMembers_iff (horder : Json.InOrder ms) (h : ofMembers ms = .ok aggs) {name : String}
    {a : Aggregate} :
    (name, a) ∈ aggs ↔ ∃ e, Wins ms e ∧ e.name = name ∧ e.read = .ok a := by
  obtain ⟨pairs, hfst, hread, rfl⟩ := of_ofMembers h
  have hmem {e : Entry} : e ∈ pairs.map Prod.fst ↔ IsEntry ms e := hfst ▸ mem_entries_iff
  -- entries stand in the order of their keys, as the members do
  have hkeys : (pairs.map Prod.fst).Pairwise fun e e' => e.key < e'.key := by
    rw [hfst, List.pairwise_filterMap]
    refine horder.imp fun {m n} hlt e he e' he' => ?_
    obtain ⟨-, rfl⟩ := entryOf?_eq_some_iff.mp he
    obtain ⟨-, rfl⟩ := entryOf?_eq_some_iff.mp he'
    exact hlt
  rw [Json.mem_sortMembers_iff]
  constructor
  · rintro ⟨before, after, hsplit, hlast⟩
    obtain ⟨bs, rest, rfl, rfl, hrest⟩ := List.map_eq_append_iff.mp hsplit
    obtain ⟨⟨e, a'⟩, as, rfl, heq, rfl⟩ := List.map_eq_cons_iff.mp hrest
    obtain ⟨rfl, rfl⟩ := Prod.mk.inj heq
    refine ⟨e, ⟨hmem.mp (by simp), fun e' he' hname => ?_⟩, rfl,
      hread (e, a') (by simp)⟩
    rw [List.map_append, List.pairwise_append] at hkeys
    obtain ⟨-, -, hcross⟩ := hkeys
    have hpos := hmem.mpr he'
    rw [List.map_append, List.mem_append] at hpos
    rcases hpos with hbefore | hhere
    · exact (hcross e' hbefore e (by simp)).le
    · rcases List.mem_cons.mp hhere with rfl | hafter
      · exact le_rfl
      · obtain ⟨p, hp, rfl⟩ := List.mem_map.mp hafter
        exact absurd (by simpa using ⟨p.1, ⟨p.2, hp⟩, hname⟩) hlast
  · rintro ⟨e, hwins, rfl, ha⟩
    obtain ⟨p, hp, rfl⟩ := List.mem_map.mp (hmem.mpr hwins.1)
    obtain ⟨bs, as, rfl⟩ := List.append_of_mem hp
    obtain rfl : p.2 = a := Except.ok.inj ((hread p hp).symm.trans ha)
    refine ⟨bs.map fun p => (p.1.name, p.2), as.map fun p => (p.1.name, p.2), by simp,
      fun hname => ?_⟩
    rw [List.map_append, List.pairwise_append, List.map_cons, List.pairwise_cons] at hkeys
    obtain ⟨-, ⟨hafter, -⟩, -⟩ := hkeys
    obtain ⟨q, hq, hqname⟩ : ∃ q ∈ as, q.1.name = p.1.name := by simpa using hname
    have hmemq : q.1 ∈ (bs ++ p :: as).map Prod.fst := List.mem_map_of_mem (by simp [hq])
    exact absurd (hwins.2 q.1 (hmem.mp hmemq) hqname)
      (hafter q.1 (List.mem_map_of_mem hq)).not_ge

theorem mem_names_ofMembers_iff (h : ofMembers ms = .ok aggs) {name : String} :
    name ∈ aggs.map Prod.fst ↔ ∃ e, IsEntry ms e ∧ e.name = name := by
  obtain ⟨pairs, hfst, -, rfl⟩ := of_ofMembers h
  rw [Json.mem_names_sortMembers_iff, List.map_map]
  have hnames : pairs.map (Prod.fst ∘ fun p => (p.1.name, p.2)) =
      (pairs.map Prod.fst).map Entry.name := by simp
  simp only [hnames, hfst, List.mem_map, mem_entries_iff]

/-- What is read of an object, and in the objects inside its entries. -/
theorem readAt_of_ofMembers (horder : Json.InOrder ms) (hrange : (Json.obj ms).InRange)
    (h : ofMembers ms = .ok aggs) :
    ReadAt ms aggs ∧ ∀ e a, Wins ms e → (e.name, a) ∈ aggs →
      ∀ m ∈ e.objects.zip a.inners, ofMembers m.1 = .ok m.2 := by
  have hinside {e : Entry} {a : Aggregate} (he : IsEntry ms e) (ha : e.read = .ok a) :=
    Entry.of_read (hrange.of_mem_values he.body_mem_values) ha
  have hsorted : Json.InOrder aggs := by
    obtain ⟨_, -, -, rfl⟩ := of_ofMembers h
    exact Json.sortMembers_inOrder _
  refine ⟨⟨hsorted, fun name => mem_names_ofMembers_iff h, fun name a ha => ?_⟩,
    fun e a he ha m hm => ?_⟩
  · obtain ⟨e, he, hname, hread⟩ := (mem_ofMembers_iff horder h).mp ha
    obtain ⟨-, -, hkind, hall⟩ := hinside he.1 hread
    exact ⟨e, he, hname, hkind, hall.length_eq.symm⟩
  · obtain ⟨e', he', hname, hread⟩ := (mem_ofMembers_iff horder h).mp ha
    obtain rfl := he'.unique horder he hname
    obtain ⟨-, -, -, hall⟩ := hinside he.1 hread
    exact (List.forall₂_iff_zip.mp hall).2 hm

end Level

/-! ## All levels -/

/-- A value as texts say them: members in order, numbers in range. -/
structure IsSaid (j : Json) : Prop where
  canonical : j.IsCanonical
  inRange : j.InRange

theorem IsSaid.of_mem_values {j v : Json} (h : IsSaid j) (hv : v ∈ j.values) : IsSaid v :=
  ⟨h.canonical.of_mem_values hv, h.inRange.of_mem_values hv⟩

theorem IsSaid.inOrder {ms : List (String × Json)} (h : IsSaid (.obj ms)) : Json.InOrder ms := by
  cases h.canonical with
  | obj horder _ => exact horder

theorem IsSaid.object {ms o : List (String × Json)} {e : Entry} (h : IsSaid (.obj ms))
    (he : IsEntry ms e) (ho : o ∈ e.objects) : IsSaid (.obj o) :=
  Entry.objects_of_body (fun _ _ => IsSaid.of_mem_values) (h.of_mem_values he.body_mem_values) ho

section Levels

variable {ms : List (String × Json)} {aggs : Aggregates}

/-- An entry that is reached from an object inside is reached. -/
theorem Reached.trans {o : List (String × Json)} {e e' : Entry} (he : IsEntry ms e)
    (ho : o ∈ e.objects) (h : Reached o e') : Reached ms e' := by
  induction h with
  | here h => exact .inside (.here he) ho h
  | inside _ ho' he' ih => exact .inside ih ho' he'

/-- If the members are read, so is every entry that is reached. -/
theorem Reached.exists_read (hsaid : IsSaid (.obj ms)) (h : ofMembers ms = .ok aggs) {e : Entry}
    (he : Reached ms e) : ∃ a, e.read = .ok a ∧ IsSaid e.body := by
  -- each entry of an object that is read is itself read
  have hhere {ms : List (String × Json)} {aggs : Aggregates} {e : Entry}
      (h : ofMembers ms = .ok aggs) (he : IsEntry ms e) : ∃ a, e.read = .ok a := by
    obtain ⟨pairs, hfst, hread, -⟩ := of_ofMembers h
    obtain ⟨p, hp, rfl⟩ := List.mem_map.mp (hfst ▸ mem_entries_iff.mpr he)
    exact ⟨p.2, hread p hp⟩
  induction he with
  | here he =>
    obtain ⟨a, ha⟩ := hhere h he
    exact ⟨a, ha, hsaid.of_mem_values he.body_mem_values⟩
  | @inside e e' o _ ho he' ih =>
    obtain ⟨a, ha, hbody⟩ := ih
    obtain ⟨-, -, -, hall⟩ := Entry.of_read hbody.inRange ha
    obtain ⟨inner, hinner⟩ := exists_of_forall₂ hall ho
    obtain ⟨a', ha'⟩ := hhere hinner he'
    have ho' : IsSaid (.obj o) := Entry.objects_of_body (fun _ _ => IsSaid.of_mem_values) hbody ho
    exact ⟨a', ha', ho'.of_mem_values he'.body_mem_values⟩

theorem sizeOf_lt_of_mem_values {j v : Json} (h : v ∈ j.values) : sizeOf v < sizeOf j := by
  cases j with
  | arr items =>
    have hlt : sizeOf v < sizeOf items := List.sizeOf_lt_of_mem h
    simp only [Json.arr.sizeOf_spec]
    omega
  | obj members =>
    obtain ⟨⟨name, v⟩, hm, rfl⟩ := List.mem_map.mp h
    have hlt := List.sizeOf_lt_of_mem hm
    simp only [Prod.mk.sizeOf_spec] at hlt
    simp only [Json.obj.sizeOf_spec]
    omega
  | null | bool | int | real | str => cases h

/-- If the members are not read, an entry that is reached is at fault. -/
theorem exists_fault {err : Error} (h : ofMembers ms = .error err) :
    ∃ e, Reached ms e ∧ e.Fault err := by
  -- by the size of the object, since those inside an entry are smaller
  induction hsize : sizeOf (Json.obj ms) using Nat.strong_induction_on generalizing ms with
  | h n ih =>
    subst hsize
    obtain ⟨e, he, herr⟩ := exists_of_ofMembers_error h
    rcases Entry.of_read_error herr with hfault | ⟨o, ho, hinner⟩
    · exact ⟨e, .here he, hfault⟩
    · have hsmaller : sizeOf (Json.obj o) < sizeOf (Json.obj ms) :=
        Entry.objects_of_body (P := fun j => sizeOf j < sizeOf (Json.obj ms))
          (fun _ _ hj hv => (sizeOf_lt_of_mem_values hv).trans hj)
          (sizeOf_lt_of_mem_values he.body_mem_values) ho
      obtain ⟨e', he', hfault⟩ := ih _ hsmaller hinner rfl
      exact ⟨e', he'.trans he ho, hfault⟩

/-- Members are read exactly if every entry that is reached is of a known kind and in its
shape. -/
theorem ofMembers_ok_iff (hsaid : IsSaid (.obj ms)) :
    (∃ aggs, ofMembers ms = .ok aggs) ↔ ∀ e, Reached ms e → e.kind ∈ Entry.kinds ∧ e.Formed := by
  constructor
  · rintro ⟨aggs, h⟩ e he
    obtain ⟨a, ha, hbody⟩ := he.exists_read hsaid h
    obtain ⟨hkind, hformed, -⟩ := Entry.of_read hbody.inRange ha
    exact ⟨hkind, hformed⟩
  · intro hall
    cases h : ofMembers ms with
    | ok aggs => exact ⟨aggs, rfl⟩
    | error err =>
      obtain ⟨e, he, hfault⟩ := exists_fault h
      obtain ⟨hkind, hformed⟩ := hall e he
      cases hfault with
      | unknown hunknown => exact absurd hkind hunknown
      | malformed _ hnot => exact absurd hformed hnot

/-- At every level it is what stands there that is read. -/
theorem Level.read {ms' : List (String × Json)} {aggs' : Aggregates} (hsaid : IsSaid (.obj ms))
    (h : ofMembers ms = .ok aggs) (hlevel : Level ms aggs ms' aggs') :
    IsSaid (.obj ms') ∧ ofMembers ms' = .ok aggs' := by
  induction hlevel with
  | top => exact ⟨hsaid, h⟩
  | inside _ he ha ho ih =>
    obtain ⟨hsaid', h'⟩ := ih
    obtain ⟨-, hinside⟩ := readAt_of_ofMembers hsaid'.inOrder hsaid'.inRange h'
    exact ⟨hsaid'.object he.1 (List.of_mem_zip ho).1, hinside _ _ he ha _ ho⟩

end Levels

/-- Reading passes over no entry. It succeeds exactly if every entry that is
reached is of a known kind and in the shape of its kind; then each level has one
aggregate for each name of an entry there and no other, the one with the last
key. If all shapes are right and a kind is unknown, the error names an unknown
kind that occurs. -/
theorem ofMembers_closed {ms : List (String × Json)} (hcanonical : (Json.obj ms).IsCanonical)
    (hrange : (Json.obj ms).InRange) :
    ((∃ aggs, ofMembers ms = .ok aggs) ↔
      ∀ e, Reached ms e → e.kind ∈ Entry.kinds ∧ e.Formed) ∧
    (∀ aggs, ofMembers ms = .ok aggs →
      ∀ ms' aggs', Level ms aggs ms' aggs' → ReadAt ms' aggs') ∧
    ((∀ e, Reached ms e → e.Formed) → (∃ e, Reached ms e ∧ e.kind ∉ Entry.kinds) →
      ∃ e, Reached ms e ∧ e.kind ∉ Entry.kinds ∧
        ofMembers ms = .error (.unsupportedAggregation e.kind)) := by
  have hsaid : IsSaid (.obj ms) := ⟨hcanonical, hrange⟩
  refine ⟨ofMembers_ok_iff hsaid, fun aggs h ms' aggs' hlevel => ?_, fun hformed hunknown => ?_⟩
  · obtain ⟨hsaid', h'⟩ := hlevel.read hsaid h
    exact (readAt_of_ofMembers hsaid'.inOrder hsaid'.inRange h').1
  · cases h : ofMembers ms with
    | ok aggs =>
      obtain ⟨e, he, hkind⟩ := hunknown
      exact absurd ((ofMembers_ok_iff hsaid).mp ⟨aggs, h⟩ e he).1 hkind
    | error err =>
      obtain ⟨e, he, hfault⟩ := exists_fault h
      cases hfault with
      | unknown hkind => exact ⟨e, he, hkind, rfl⟩
      | malformed _ hnot => exact absurd (hformed e he) hnot

/-- Nested documents with a metric inside. -/
theorem ofMembers_closed_nested :
    let ms : List (String × Json) :=
      [("nested#0", .obj [("doc_count", .int 3), ("sum#x", .obj [])])]
    ∃ aggs, ofMembers ms = .ok aggs ∧ ReadAt ms aggs ∧
      ∀ e, Reached ms e → e.kind ∈ Entry.kinds ∧ e.Formed := by
  intro ms
  have hcanonical : (Json.obj ms).IsCanonical := by
    refine .obj (by decide) (List.forall_mem_singleton.mpr (.obj (by decide) ?_))
    exact List.forall_mem_cons.mpr ⟨.int 3, List.forall_mem_singleton.mpr (.obj .nil nofun)⟩
  have hrange : (Json.obj ms).InRange := by
    refine ⟨nofun, List.forall_mem_singleton.mpr ⟨nofun, ?_⟩⟩
    refine List.forall_mem_cons.mpr ⟨⟨fun n hn => ?_, nofun⟩,
      List.forall_mem_singleton.mpr ⟨nofun, nofun⟩⟩
    obtain rfl := Json.int.inj hn
    decide
  obtain ⟨haccepted, hlevels, -⟩ := ofMembers_closed hcanonical hrange
  have hinner : ofMembers [("doc_count", .int 3), ("sum#x", .obj [])] =
      .ok [("x", .metric .sum none)] :=
    ofMembers_single (show _ = [((AnswerKind.metric .sum).typed "x", Json.obj [])] from rfl)
      (ofBody_metric .sum "x" [])
  have hread : ofMembers ms = .ok [("0", .nested 3 [("x", .metric .sum none)])] :=
    ofMembers_single (show _ = [(AnswerKind.nested.typed "0", _)] from rfl) (ofBody_nested "0" hinner)
  exact ⟨_, hread, hlevels _ hread _ _ .top, haccepted.mp ⟨_, hread⟩⟩

end Aggregate

end SearchStore
