import SearchStore.Json.Decode
import SearchStore.Proofs.Json.Members

/-! # Records as values

A value is in canonical form if the members of all its objects are in order.
A record is written as the members that it has and put in canonical form, and
it is read by the names of its members, so their order does not matter. What
the readers of members do is said here once for all records: read back what was
written, and find no more than what stands in the value.
-/

namespace SearchStore.Json

/-! ## Canonical values -/

/-- The members of every object inside are in order. -/
inductive IsCanonical : Json → Prop
  | null : IsCanonical .null
  | bool (b : Bool) : IsCanonical (.bool b)
  | int (n : Int) : IsCanonical (.int n)
  | real (x : Double) : IsCanonical (.real x)
  | str (s : String) : IsCanonical (.str s)
  | arr {items : List Json} (h : ∀ j ∈ items, j.IsCanonical) : IsCanonical (.arr items)
  | obj {members : List (String × Json)} (horder : InOrder members)
      (h : ∀ m ∈ members, m.2.IsCanonical) : IsCanonical (.obj members)

theorem canonicalItems_eq (items : List Json) : canonicalItems items = items.map canonical := by
  induction items with
  | nil => rfl
  | cons j rest ih => rw [canonicalItems, ih, List.map_cons]

theorem canonicalMembers_eq (members : List (String × Json)) :
    canonicalMembers members = members.map fun m => (m.1, m.2.canonical) := by
  induction members with
  | nil => rfl
  | cons m rest ih =>
    obtain ⟨k, j⟩ := m
    rw [canonicalMembers, ih, List.map_cons]

theorem InOrder.map {α β : Type} {ms : List (String × α)} (h : InOrder ms) (f : α → β) :
    InOrder (ms.map fun m => (m.1, f m.2)) :=
  List.pairwise_map.mpr h

/-- A value in canonical form is left as it is. -/
theorem IsCanonical.canonical_eq {j : Json} (h : j.IsCanonical) : j.canonical = j := by
  induction h with
  | null | bool | int | real | str => rfl
  | @arr items _ ih =>
    have hitems : items.map canonical = items := (List.map_congr_left ih).trans (List.map_id _)
    rw [canonical, canonicalItems_eq, hitems]
  | @obj members horder _ ih =>
    have hmembers : members.map (fun m => (m.1, m.2.canonical)) = members :=
      (List.map_congr_left fun m hm => by rw [ih m hm, id]).trans (List.map_id _)
    rw [canonical, canonicalMembers_eq, hmembers, sortMembers_eq horder (.refl _)]

theorem canonical_arr_ne_null (items : List Json) : (arr items).canonical ≠ .null := by
  simp [canonical]

theorem canonical_obj_ne_null (members : List (String × Json)) :
    (obj members).canonical ≠ .null := by
  simp [canonical]

theorem inOrder_of_canonical {j : Json} {members : List (String × Json)}
    (h : j.canonical = .obj members) : InOrder members := by
  cases j with
  | obj ms =>
    obtain rfl : sortMembers (canonicalMembers ms) = members := Json.obj.inj h
    exact sortMembers_inOrder _
  | null | bool | int | real | str | arr => simp [canonical] at h

/-- The values right inside a value. -/
def values : Json → List Json
  | .arr items => items
  | .obj members => members.map Prod.snd
  | .null | .bool _ | .int _ | .real _ | .str _ => []

theorem IsCanonical.of_mem_values {j v : Json} (h : j.IsCanonical) (hv : v ∈ j.values) :
    v.IsCanonical := by
  cases h with
  | null | bool | int | real | str => simp [values] at hv
  | arr h => exact h v hv
  | obj _ h =>
    obtain ⟨m, hm, rfl⟩ := List.mem_map.mp hv
    exact h m hm

/-! ## Members by name -/

section Members

variable {α : Type} {names : List String} {ms ns : List (String × α)}

/-- The order of the members does not matter. -/
theorem member?_perm (names : List String) (h : ms.Perm ns) :
    member? names ms = member? names ns := by
  have hperm := h.filter fun m => names.contains m.1
  simp only [member?]
  generalize ms.filter (fun m => names.contains m.1) = as at hperm
  generalize ns.filter (fun m => names.contains m.1) = bs at hperm
  match as, bs, hperm.length_eq with
  | [], [], _ => rfl
  | [a], [b], _ => rw [List.perm_singleton.mp hperm |> List.singleton_inj.mp]
  | _ :: _ :: _, _ :: _ :: _, _ => rfl

/-- A member that is found is among the members. -/
theorem mem_of_member? {value : α} (h : member? names ms = some (some value)) :
    ∃ m ∈ ms, m.2 = value := by
  simp only [member?] at h
  split at h
  · simp at h
  · next name j hfilter =>
    have hm : (name, j) ∈ ms := List.mem_of_mem_filter (hfilter ▸ List.mem_singleton_self _)
    exact ⟨_, hm, by simpa using h⟩
  · simp at h

end Members

/-! ## Writing records -/

/-- The members of a record that has some values and not others. -/
def present (fields : List (String × Option Json)) : List (String × Json) :=
  fields.flatMap fun field => optionalMember field.1 field.2

section Present

variable {fields : List (String × Option Json)}

theorem forall_mem_present {P : String × Json → Prop} :
    (∀ m ∈ present fields, P m) ↔ ∀ f ∈ fields, ∀ j ∈ f.2, P (f.1, j) := by
  have hmember (name : String) (value : Option Json) :
      (∀ m ∈ optionalMember name value, P m) ↔ ∀ j ∈ value, P (name, j) := by
    cases value <;> simp [optionalMember]
  simp only [present, List.forall_mem_flatMap, hmember]

theorem names_present (fields : List (String × Option Json)) :
    ((present fields).map Prod.fst).Sublist (fields.map Prod.fst) := by
  induction fields with
  | nil => exact .slnil
  | cons field rest ih =>
    obtain ⟨name, value⟩ := field
    cases value with
    | none => exact ih.cons _
    | some j => exact ih.cons_cons _

theorem canonicalMembers_present (fields : List (String × Option Json)) :
    canonicalMembers (present fields) =
      present (fields.map fun field => (field.1, field.2.map canonical)) := by
  rw [canonicalMembers_eq, present, present, List.map_flatMap, List.flatMap_map]
  refine List.flatMap_congr fun field _ => ?_
  obtain ⟨name, _ | j⟩ := field <;> rfl

/-- A name that the record has not is not among its members. -/
theorem filter_present_eq_nil {names : List String} (h : ∀ f ∈ fields, f.1 ∉ names) :
    (present fields).filter (fun m => names.contains m.1) = [] := by
  refine List.filter_eq_nil_iff.mpr fun m hm => ?_
  have hfst : m.1 ∈ fields.map Prod.fst := (names_present fields).subset (List.mem_map_of_mem hm)
  obtain ⟨f, hf, hfm⟩ := List.mem_map.mp hfst
  simpa [← hfm] using h f hf

/-- A member is found if the record has a value for it. -/
theorem member?_present (hnodup : (fields.map Prod.fst).Nodup) {name : String}
    {value : Option Json} (hmem : (name, value) ∈ fields) {names : List String}
    (hname : name ∈ names) (hothers : ∀ n ∈ names, n ∈ fields.map Prod.fst → n = name) :
    member? names (present fields) = some value := by
  obtain ⟨before, after, rfl⟩ := List.append_of_mem hmem
  have hapart : ∀ f ∈ before ++ after, f.1 ∉ names := by
    intro f hf hcontra
    have hfst : f.1 ∈ (before ++ after).map Prod.fst := List.mem_map_of_mem hf
    have hperm : ((before ++ (name, value) :: after).map Prod.fst).Perm
        (name :: (before ++ after).map Prod.fst) := (List.perm_middle (a := (name, value))).map _
    have heq : f.1 = name :=
      hothers _ hcontra (hperm.mem_iff.mpr (List.mem_cons_of_mem _ hfst))
    exact (List.nodup_cons.mp (hperm.nodup_iff.mp hnodup)).1 (heq ▸ hfst)
  obtain ⟨hbefore, hafter⟩ := List.forall_mem_append.mp hapart
  have hfilter : (present (before ++ (name, value) :: after)).filter
      (fun m => names.contains m.1) = optionalMember name value := by
    have hsplit : present (before ++ (name, value) :: after) =
        present before ++ (optionalMember name value ++ present after) := by simp [present]
    rw [hsplit, List.filter_append, List.filter_append, filter_present_eq_nil hbefore,
      filter_present_eq_nil hafter, List.append_nil, List.nil_append, List.filter_eq_self]
    rcases value with _ | j <;> simp [optionalMember, hname]
  rw [member?, hfilter]
  cases value <;> rfl

/-- The members are those of a record in canonical form, as readers find them by any of some
names. -/
structure Holds (ms : List (String × Json)) (fields : List (String × Option Json)) : Prop where
  findAmong : ∀ names name value, (name, value) ∈ fields → name ∈ names →
    (∀ n ∈ names, n ∈ fields.map Prod.fst → n = name) →
    member? names ms = some (value.map canonical)
  absent : ∀ name, name ∉ fields.map Prod.fst → member? [name] ms = some none

/-- What a record has is found in its canonical form. -/
theorem exists_canonical_present (fields : List (String × Option Json))
    (hnodup : (fields.map Prod.fst).Nodup) :
    ∃ ms, (Json.obj (present fields)).canonical = .obj ms ∧ Holds ms fields := by
  have hfst : (fields.map fun field => (field.1, field.2.map canonical)).map Prod.fst =
      fields.map Prod.fst := by simp
  have hnames : ((present (fields.map fun field => (field.1, field.2.map canonical))).map
      Prod.fst).Nodup := (names_present _).nodup (hfst ▸ hnodup)
  rw [Json.canonical, canonicalMembers_present]
  refine ⟨_, rfl, fun names name value hmem hname hothers => ?_, fun name hname => ?_⟩
  · rw [member?_perm names (sortMembers_perm hnames)]
    exact member?_present (hfst ▸ hnodup) (List.mem_map.mpr ⟨_, hmem, rfl⟩) hname (hfst ▸ hothers)
  · rw [member?_perm [name] (sortMembers_perm hnames), member?, filter_present_eq_nil]
    intro f hf hcontra
    have hf' : f.1 ∈ fields.map Prod.fst := hfst ▸ List.mem_map_of_mem hf
    exact hname (List.mem_singleton.mp hcontra ▸ hf')

/-- A member that is found is the one of its name. -/
theorem get?_of_member? {ms : List (String × Json)} {name : String} {value : Option Json}
    (h : member? [name] ms = some value) : get? name (.obj ms) = value := by
  have hfind : ms.find? (fun m => m.1 = name) =
      (ms.filter fun m => [name].contains m.1).head? := by simp
  rw [get?, lookup, hfind]
  rw [member?] at h
  generalize ms.filter (fun m => [name].contains m.1) = kept at h
  split at h <;> cases h <;> rfl

theorem Holds.find {ms : List (String × Json)} (h : Holds ms fields) {name : String}
    {value : Option Json} (hmem : (name, value) ∈ fields) :
    member? [name] ms = some (value.map canonical) :=
  h.findAmong [name] name value hmem (List.mem_singleton_self _)
    fun _ hn _ => List.mem_singleton.mp hn

end Present

/-! ## Reading records -/

section Reading

variable {α : Type} {names : List String} {ms : List (String × Json)}

/-- A member that has to be there is read back. -/
theorem Holds.required {fields : List (String × Option Json)} (h : Holds ms fields)
    {name : String} {read : Json → Option α} {x : α} (v : Json)
    (hmem : (name, some v) ∈ fields) (hread : read v.canonical = some x) :
    required name read ms = some x := by
  simp [Json.required, h.find hmem, hread]

/-- A member that may be missing is read back. -/
theorem optionalAmong_eq {read : Json → Option α} {write : α → Json} {x : Option α}
    (hmember : member? names ms = some ((x.map write).map canonical))
    (hread : ∀ a ∈ x, read (write a).canonical = some a ∧ (write a).canonical ≠ .null) :
    optionalAmong names read ms = some x := by
  rw [optionalAmong, withDefaultAmong, hmember]
  cases x with
  | none => rfl
  | some a =>
    obtain ⟨hback, hnull⟩ := hread a rfl
    simp [nullable, hback]

/-- The members of a record need not be in order to be read back. -/
theorem withDefault_present {fields : List (String × Option Json)}
    (hnodup : (fields.map Prod.fst).Nodup) {name : String} {default : α} {read : Json → Option α}
    {x : α} (v : Json) (hmem : (name, some v) ∈ fields) (hread : read v = some x) :
    withDefault name default read (present fields) = some x := by
  have hfound : member? [name] (present fields) = some (some v) :=
    member?_present hnodup hmem (List.mem_singleton_self _) fun _ hn _ => List.mem_singleton.mp hn
  simp [withDefault, withDefaultAmong, hfound, hread]

theorem optional_present {fields : List (String × Option Json)}
    (hnodup : (fields.map Prod.fst).Nodup) {name : String} {read : Json → Option α} {x : Option α}
    (write : α → Json) (hmem : (name, x.map write) ∈ fields)
    (hread : ∀ a ∈ x, read (write a) = some a ∧ write a ≠ .null) :
    optional name read (present fields) = some x := by
  have hfound : member? [name] (present fields) = some (x.map write) :=
    member?_present hnodup hmem (List.mem_singleton_self _) fun _ hn _ => List.mem_singleton.mp hn
  rw [optional, optionalAmong, withDefaultAmong, hfound]
  cases x with
  | none => rfl
  | some a =>
    obtain ⟨hback, hnull⟩ := hread a rfl
    simp [nullable, hback]

theorem Holds.optional {fields : List (String × Option Json)} (h : Holds ms fields)
    {name : String} {read : Json → Option α} {x : Option α} (write : α → Json)
    (hmem : (name, x.map write) ∈ fields)
    (hread : ∀ a ∈ x, read (write a).canonical = some a ∧ (write a).canonical ≠ .null) :
    optional name read ms = some x :=
  optionalAmong_eq (h.find hmem) hread

theorem of_nullable {read : Json → Option α} {j : Json} {a : α}
    (h : nullable read j = some (some a)) : j ≠ .null ∧ read j = some a := by
  cases j <;> simp_all [nullable]

/-- What an optional member is read as stands in the record, and is not `null`. -/
theorem of_optionalAmong {read : Json → Option α} {x : Option α}
    (h : optionalAmong names read ms = some x) {a : α} (ha : a ∈ x) :
    ∃ m ∈ ms, m.2 ≠ .null ∧ read m.2 = some a := by
  obtain rfl : x = some a := ha
  obtain ⟨member, hmember, hread⟩ := Option.bind_eq_some_iff.mp h
  cases member with
  | none => simp at hread
  | some j =>
    obtain ⟨m, hm, rfl⟩ := mem_of_member? hmember
    exact ⟨m, hm, of_nullable hread⟩

theorem of_required {β : Type} {name : String} {read : α → Option β} {ms : List (String × α)}
    {b : β} (h : required name read ms = some b) : ∃ m ∈ ms, read m.2 = some b := by
  obtain ⟨member, hmember, hread⟩ := Option.bind_eq_some_iff.mp h
  obtain ⟨j, rfl, hread⟩ := Option.bind_eq_some_iff.mp hread
  obtain ⟨m, hm, rfl⟩ := mem_of_member? hmember
  exact ⟨m, hm, hread⟩

/-- The members of a record are values in it. -/
theorem mem_values_of_asRecord? {j : Json} (h : j.asRecord? names = some ms)
    {m : String × Json} (hm : m ∈ ms) : m.2 ∈ j.values := by
  cases j with
  | null | bool | int | real | str => simp [asRecord?] at h
  | arr items =>
    simp only [asRecord?, positional, Option.ite_none_right_eq_some, Option.some.injEq] at h
    obtain ⟨-, rfl⟩ := h
    exact (List.of_mem_zip hm).2
  | obj members =>
    obtain rfl : members = ms := by simpa [asRecord?] using h
    exact List.mem_map_of_mem hm

/-! ## Members one after the other -/

section Found

variable {β : Type} {names : List String} {read : α → Option β} {ms : List (String × α)}

/-- What a member that may be missing is read as, if it is there. -/
def found? (names : List String) (read : α → Option β) (ms : List (String × α)) :
    Option (Option β) :=
  withDefaultAmong names none (fun x => (read x).map some) ms

/-- A member before others is read if none of them goes by the names. -/
theorem found?_cons (name : String) (x : α) :
    found? names read ((name, x) :: ms) =
      if name ∈ names then
        (found? names read ms).bind fun old => if old.isSome then none else (read x).map some
      else found? names read ms := by
  simp only [found?, withDefaultAmong, member?]
  by_cases hname : name ∈ names
  · rw [List.filter_cons_of_pos (by simpa using hname), if_pos hname]
    generalize ms.filter (fun m => names.contains m.1) = kept
    rcases kept with _ | ⟨⟨k, y⟩, _ | ⟨n, rest⟩⟩
    · simp
    · cases hread : read y <;> simp [hread]
    · simp
  · rw [List.filter_cons_of_neg (by simpa using hname), if_neg hname]

theorem of_found? {b : β} (h : found? names read ms = some (some b)) :
    ∃ m ∈ ms, read m.2 = some b := by
  obtain ⟨member, hmember, hread⟩ := Option.bind_eq_some_iff.mp h
  cases member with
  | none => simp at hread
  | some x =>
    obtain ⟨m, hm, rfl⟩ := mem_of_member? hmember
    exact ⟨m, hm, by simpa using hread⟩

end Found

/-- A reader that goes through the members from the last one on reads an array as the members of
the names in order, if that is how it goes through the items. -/
theorem zip_eq_of_items {β : Type} (add : String → Json → β → Option β)
    {fromItems : List String → List Json → Option β}
    {fromMembers : List (String × Json) → Option β}
    (hnil : ∀ names, fromItems names [] = fromMembers [])
    (hlong : ∀ j items, fromItems [] (j :: items) = none)
    (hitem : ∀ name names j items,
      fromItems (name :: names) (j :: items) = (fromItems names items).bind (add name j))
    (hmember : ∀ name j ms, fromMembers ((name, j) :: ms) = (fromMembers ms).bind (add name j))
    {names : List String} {items : List Json} {x : β} (h : fromItems names items = some x) :
    fromMembers (names.zip items) = some x := by
  induction names generalizing items x with
  | nil =>
    cases items with
    | nil => rw [List.zip_nil_left, ← hnil, h]
    | cons j items => rw [hlong] at h; cases h
  | cons name names ih =>
    cases items with
    | nil => rw [List.zip_nil_right, ← hnil, h]
    | cons j items =>
      rw [hitem] at h
      obtain ⟨y, hy, hadd⟩ := Option.bind_eq_some_iff.mp h
      rw [List.zip_cons_cons, hmember, ih hy, Option.bind_some, hadd]

/-- A member that may be missing is found and read back. -/
theorem Holds.found {fields : List (String × Option Json)} (h : Holds ms fields) {name : String}
    {read : Json → Option α} {x : Option α} (value : Option Json) (hmem : (name, value) ∈ fields)
    (hread : (value.map fun v => read v.canonical) = x.map some) :
    found? [name] read ms = some x := by
  rw [found?, withDefaultAmong, h.find hmem]
  cases value <;> cases x <;> simp_all

/-! ## Single values -/

theorem asString?_back (s : String) :
    asString? (Json.str s).canonical = some s ∧ (Json.str s).canonical ≠ .null := ⟨rfl, nofun⟩

theorem asBelow?_back {bound n : Nat} (h : n < bound) :
    asBelow? bound (ofNat n).canonical = some n ∧ (ofNat n).canonical ≠ .null := by
  simp [ofNat, canonical, asBelow?, h]

theorem lt_of_asBelow? {bound n : Nat} {j : Json} (h : asBelow? bound j = some n) : n < bound := by
  cases j <;> simp only [asBelow?, reduceCtorEq] at h
  split_ifs at h with hbound
  simp only [Bool.and_eq_true, decide_eq_true_eq] at hbound
  obtain rfl := Option.some.inj h
  omega

/-- What a member with a default gives is the default, or is read. -/
theorem of_withDefault {α β : Type} {name : String} {default : β} {read : α → Option β}
    {members : List (String × α)} {b : β} (h : withDefault name default read members = some b) :
    b = default ∨ ∃ v, read v = some b := by
  obtain ⟨found, -, h⟩ := Option.bind_eq_some_iff.mp h
  rcases found with _ | v
  · exact .inl (Option.some.inj h).symm
  · exact .inr ⟨v, h⟩

/-! ## Lists and maps -/

theorem mapM_eq_some_iff {β : Type} {f : α → Option β} {as : List α} {bs : List β} :
    as.mapM f = some bs ↔ List.Forall₂ (fun a b => f a = some b) as bs := by
  induction as generalizing bs with
  | nil => cases bs <;> simp
  | cons a as ih =>
    rw [List.mapM_cons]
    constructor
    · intro h
      obtain ⟨b, hb, h⟩ := Option.bind_eq_some_iff.mp h
      obtain ⟨others, hothers, h⟩ := Option.bind_eq_some_iff.mp h
      obtain rfl : b :: others = bs := Option.some.inj h
      exact .cons hb (ih.mp hothers)
    · rintro (_ | ⟨hb, hothers⟩)
      simp [hb, ih.mpr hothers]

theorem isSome_mapM {β : Type} {f : α → Option β} {as : List α} :
    (as.mapM f).isSome ↔ ∀ a ∈ as, (f a).isSome := by
  induction as with
  | nil => simp
  | cons a as ih =>
    rw [List.mapM_cons, List.forall_mem_cons, ← ih]
    cases f a <;> cases as.mapM f <;> simp

/-- A list whose items are read back is. -/
theorem mapM_map_eq {β : Type} {f : β → Option α} {g : α → β} {as : List α}
    (h : ∀ a ∈ as, f (g a) = some a) : (as.map g).mapM f = some as :=
  mapM_eq_some_iff.mpr (List.forall₂_map_left_iff.mpr (List.forall₂_same.mpr h))

/-- What the items of a list are read as comes from them. -/
theorem of_mapM {β : Type} {f : α → Option β} {as : List α} {bs : List β}
    (h : as.mapM f = some bs) : ∀ b ∈ bs, ∃ a ∈ as, f a = some b := by
  induction mapM_eq_some_iff.mp h with
  | nil => exact nofun
  | cons hb hothers ih =>
    refine List.forall_mem_cons.mpr ⟨⟨_, List.mem_cons_self .., hb⟩, fun c hc => ?_⟩
    obtain ⟨x, hx, hxc⟩ := ih (mapM_eq_some_iff.mpr hothers) c hc
    exact ⟨x, List.mem_cons_of_mem _ hx, hxc⟩

/-- If the items are what the read ones are written as, so is the list. -/
theorem eq_map_of_mapM {β : Type} {f : α → Option β} {g : β → α}
    (hback : ∀ a b, f a = some b → a = g b) {as : List α} {bs : List β}
    (h : as.mapM f = some bs) : as = bs.map g := by
  induction mapM_eq_some_iff.mp h with
  | nil => rfl
  | cons hb hothers ih =>
    rw [List.map_cons, ← ih (mapM_eq_some_iff.mpr hothers), ← hback _ _ hb]

theorem asStrings?_back (ss : List String) : asStrings? (ofStrings ss).canonical = some ss := by
  rw [ofStrings, canonical, canonicalItems_eq, List.map_map, asStrings?, asItems?]
  exact mapM_map_eq fun s _ => rfl

/-- A map from names is read back. -/
theorem asMap?_eq {fields : List (String × α)} (horder : InOrder fields) (write : α → Json)
    {read : Json → Option α}
    (hread : ∀ f ∈ fields, read (write f.2).canonical = some f.2) :
    asMap? read (Json.obj (fields.map fun (name, x) => (name, write x))).canonical =
      some fields := by
  have hsorted : (Json.obj (fields.map fun (name, x) => (name, write x))).canonical =
      .obj (fields.map fun f => (f.1, (write f.2).canonical)) := by
    rw [canonical, canonicalMembers_eq, List.map_map]
    exact congrArg Json.obj
      (sortMembers_eq (horder.map fun x => (write x).canonical) (.refl _))
  simp only [asMap?, hsorted, asMembers?, Option.bind_eq_bind, Option.bind_some, Option.pure_def]
  rw [mapM_map_eq fun f hf => by simp [hread f hf], Option.bind_some,
    sortMembers_eq horder (.refl _)]

/-- What is read as a map has its names in order, and its values stand in the value that is
read. -/
theorem of_asMap? {read : Json → Option α} {j : Json} {fields : List (String × α)}
    (h : asMap? read j = some fields) :
    InOrder fields ∧ ∀ f ∈ fields, ∃ v ∈ j.values, read v = some f.2 := by
  obtain ⟨members, hmembers, h⟩ := Option.bind_eq_some_iff.mp h
  obtain ⟨entries, hentries, h⟩ := Option.bind_eq_some_iff.mp h
  obtain rfl : sortMembers entries = fields := Option.some.inj h
  refine ⟨sortMembers_inOrder entries, fun f hf => ?_⟩
  obtain ⟨m, hm, hread⟩ := of_mapM hentries f (mem_of_mem_sortMembers hf)
  obtain ⟨x, hx, rfl⟩ := Option.map_eq_some_iff.mp hread
  cases j <;> simp only [asMembers?, Option.some.injEq, reduceCtorEq] at hmembers
  exact ⟨m.2, List.mem_map_of_mem (hmembers ▸ hm), hx⟩

end Reading

end SearchStore.Json
