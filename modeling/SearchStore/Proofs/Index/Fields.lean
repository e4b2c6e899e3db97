import SearchStore.Mapping
import SearchStore.Proofs.Json.Members

/-! # Fields of a mapping

A path of names leads from a type to a field inside it: each name to its last
declaration among the fields, and the rest of the path on from the type that is
declared there. A mapping is declared like an object with its fields.

`mappingBody_resolves` says that this is what stands in the body of a mapping,
under `properties` and the name for each step of a path, and that nothing else
of the declarations is left in it: two mappings have one body just if all paths
lead to the same types in both.
-/

namespace SearchStore

namespace FieldType

/-- The fields inside a type. Only nested documents and objects have any. -/
def fields? : FieldType → Option (List FieldMapping)
  | .nested fields | .object fields => some fields
  | .keyword | .text | .long | .integer | .short | .double | .boolean | .date => none

/-- What a type is apart from the fields inside it. -/
def outline : FieldType → FieldType
  | .nested _ => .nested []
  | .object _ => .object []
  | t => t

/-- A path leads from a type to the type of a field: the last declaration of
each name counts. -/
inductive LeadsTo : FieldType → List String → FieldType → Prop
  | here (t : FieldType) : LeadsTo t [] t
  | inside {t u v : FieldType} {fields : List FieldMapping} {name : String} {path : List String}
      (hfields : t.fields? = some fields) (hname : IsLast (name, u) fields)
      (hpath : LeadsTo u path v) : LeadsTo t (name :: path) v

/-- A path comes to a name that is not declared, or goes on from a type that
has no fields. -/
inductive Breaks : FieldType → List String → Prop
  | flat {t : FieldType} (name : String) (path : List String) (hfields : t.fields? = none) :
      Breaks t (name :: path)
  | undeclared {t : FieldType} {fields : List FieldMapping} {name : String} (path : List String)
      (hfields : t.fields? = some fields) (hname : name ∉ fields.map Prod.fst) :
      Breaks t (name :: path)
  | inside {t u : FieldType} {fields : List FieldMapping} {name : String} {path : List String}
      (hfields : t.fields? = some fields) (hname : IsLast (name, u) fields)
      (hpath : Breaks u path) : Breaks t (name :: path)

/-- All paths lead to the same types in both. What is inside these is left to
the paths that go on. -/
def Alike (t u : FieldType) : Prop :=
  ∀ path shape, (∃ v, t.LeadsTo path v ∧ v.outline = shape) ↔
    ∃ v, u.LeadsTo path v ∧ v.outline = shape

end FieldType

/-- What stands in a mapping under `properties` and a name, for each name of a
path. -/
def Json.property? : Json → List String → Option Json
  | j, [] => some j
  | j, name :: path => do
    let properties ← j.get? "properties"
    let property ← properties.get? name
    property.property? path

namespace FieldType

variable {t u v w : FieldType} {fields others : List FieldMapping} {name : String}
  {path : List String}

/-! ## Declarations -/

/-- A name has one declaration that counts. -/
theorem eq_of_isLast (ht : IsLast (name, t) fields) (hu : IsLast (name, u) fields) : t = u := by
  rw [← Json.mem_sortMembers_iff, ← (Json.sortMembers_inOrder fields).lookup_eq_some_iff] at ht hu
  exact Option.some.inj (ht.symm.trans hu)

theorem sizeOf_lt_of_isLast (hfields : t.fields? = some fields) (hname : IsLast (name, u) fields) :
    sizeOf u < sizeOf t := by
  have hlt := List.sizeOf_lt_of_mem hname.mem
  cases t <;> simp only [fields?, Option.some.injEq, reduceCtorEq] at hfields
  all_goals
    subst hfields
    simp only [Prod.mk.sizeOf_spec, nested.sizeOf_spec, object.sizeOf_spec] at *
    omega

/-- There is no endless path. -/
theorem wellFounded_inside :
    WellFounded fun u t : FieldType => ∃ fields name, t.fields? = some fields ∧
      IsLast (name, u) fields :=
  Subrelation.wf (fun ⟨_, _, hfields, hname⟩ => sizeOf_lt_of_isLast hfields hname)
    (measure sizeOf).wf

theorem members_eq (fields : List FieldMapping) :
    members fields = fields.map fun m => (m.1, m.2.toJson) := by
  induction fields with
  | nil => rfl
  | cons m rest ih =>
    obtain ⟨name, t⟩ := m
    rw [members, ih, List.map_cons]

/-- The members of a mapping are what the last declarations say. -/
theorem mem_properties_iff {j : Json} :
    (name, j) ∈ Json.sortMembers (members fields) ↔
      ∃ t, IsLast (name, t) fields ∧ t.toJson = j := by
  rw [Json.mem_sortMembers_iff, members_eq]
  constructor
  · rintro ⟨before, after, heq, hafter⟩
    obtain ⟨front, back, rfl, -, hback⟩ := List.map_eq_append_iff.mp heq
    obtain ⟨⟨k, t⟩, rest, rfl, hm, rfl⟩ := List.map_eq_cons_iff.mp hback
    obtain ⟨rfl, rfl⟩ := Prod.mk.inj hm
    exact ⟨t, ⟨front, rest, rfl, by simpa using hafter⟩, rfl⟩
  · rintro ⟨t, ⟨before, after, rfl, hafter⟩, rfl⟩
    exact ⟨_, _, List.map_append, by simpa using hafter⟩

theorem mem_names_properties_iff :
    name ∈ (Json.sortMembers (members fields)).map Prod.fst ↔ name ∈ fields.map Prod.fst := by
  rw [Json.mem_names_sortMembers_iff, members_eq, List.map_map]
  rfl

/-! ## Steps of a path -/

theorem get?_properties (t : FieldType) :
    t.toJson.get? "properties" =
      t.fields?.map fun fields => .obj (Json.sortMembers (members fields)) := by
  cases t <;> rfl

theorem property?_cons (t : FieldType) (name : String) (path : List String) :
    t.toJson.property? (name :: path) = t.fields?.bind fun fields =>
      (Json.lookup name (Json.sortMembers (members fields))).bind (Json.property? · path) := by
  rw [Json.property?, get?_properties]
  cases t.fields? <;> rfl

/-- A step of a path goes to the last declaration of its name. -/
theorem property?_of_isLast (hfields : t.fields? = some fields) (hname : IsLast (name, u) fields)
    (path : List String) : t.toJson.property? (name :: path) = u.toJson.property? path := by
  have hmem : (name, u.toJson) ∈ Json.sortMembers (members fields) :=
    mem_properties_iff.mpr ⟨u, hname, rfl⟩
  have hlookup := (Json.sortMembers_inOrder _).lookup_eq_some_iff.mpr hmem
  rw [property?_cons, hfields, Option.bind_some, hlookup, Option.bind_some]

theorem leadsTo_cons_iff (hfields : t.fields? = some fields) (hname : IsLast (name, u) fields) :
    t.LeadsTo (name :: path) v ↔ u.LeadsTo path v := by
  constructor
  · rintro (_ | ⟨hfields', hname', hpath⟩)
    obtain rfl := Option.some.inj (hfields.symm.trans hfields')
    obtain rfl := eq_of_isLast hname hname'
    exact hpath
  · exact .inside hfields hname

/-! ## Whole paths -/

/-- A path that leads somewhere leads there in the body. -/
theorem LeadsTo.property?_eq (h : t.LeadsTo path v) :
    t.toJson.property? path = some v.toJson := by
  induction h with
  | here t => rfl
  | inside hfields hname _ ih => rw [property?_of_isLast hfields hname, ih]

/-- A path that breaks finds nothing in the body. -/
theorem Breaks.property?_eq (h : t.Breaks path) : t.toJson.property? path = none := by
  induction h with
  | flat name path hfields => rw [property?_cons, hfields, Option.bind_none]
  | undeclared path hfields hname =>
    rw [← mem_names_properties_iff, ← Json.lookup_eq_none_iff] at hname
    rw [property?_cons, hfields, Option.bind_some, hname, Option.bind_none]
  | inside hfields hname _ ih => rw [property?_of_isLast hfields hname, ih]

theorem leadsTo_or_breaks (t : FieldType) (path : List String) :
    (∃ v, t.LeadsTo path v) ∨ t.Breaks path := by
  induction path generalizing t with
  | nil => exact .inl ⟨t, .here t⟩
  | cons name path ih =>
    rcases hfields : t.fields? with _ | fields
    · exact .inr (.flat name path hfields)
    · by_cases hmem : name ∈ fields.map Prod.fst
      · obtain ⟨u, hname⟩ := exists_isLast_iff.mpr hmem
        rcases ih u with ⟨v, hpath⟩ | hpath
        · exact .inl ⟨v, .inside hfields hname hpath⟩
        · exact .inr (.inside hfields hname hpath)
      · exact .inr (.undeclared path hfields hmem)

/-- What stands in the body under a path is the type that the path leads to. -/
theorem property?_eq_some_iff {j : Json} :
    t.toJson.property? path = some j ↔ ∃ v, t.LeadsTo path v ∧ v.toJson = j := by
  constructor
  · intro h
    rcases leadsTo_or_breaks t path with ⟨v, hpath⟩ | hpath
    · exact ⟨v, hpath, Option.some.inj (hpath.property?_eq.symm.trans h)⟩
    · exact absurd (hpath.property?_eq.symm.trans h) nofun
  · rintro ⟨v, hpath, rfl⟩
    exact hpath.property?_eq

theorem property?_eq_none_iff : t.toJson.property? path = none ↔ t.Breaks path := by
  constructor
  · intro h
    rcases leadsTo_or_breaks t path with ⟨v, hpath⟩ | hpath
    · exact absurd (hpath.property?_eq.symm.trans h) nofun
    · exact hpath
  · exact Breaks.property?_eq

/-! ## Equal bodies -/

/-- The member `type`, or that there is none, tells what a type is. -/
theorem outline_eq (h : t.toJson.get? "type" = u.toJson.get? "type") : t.outline = u.outline := by
  cases t <;> cases u <;> simp_all [toJson, named, Json.get?, Json.lookup, outline]

/-- What a type is and the fields inside it are all that it says. -/
theorem toJson_congr (houtline : t.outline = u.outline)
    (hfields : t.toJson.get? "properties" = u.toJson.get? "properties") :
    t.toJson = u.toJson := by
  cases t <;> cases u <;> simp_all [toJson, named, Json.get?, Json.lookup, outline]

theorem isSome_fields?_congr (h : t.outline = u.outline) :
    t.fields?.isSome = u.fields?.isSome := by
  cases t <;> cases u <;> simp_all [outline, fields?]

namespace Alike

theorem symm (h : t.Alike u) : u.Alike t := fun path shape => (h path shape).symm

theorem outline_eq (h : t.Alike u) : t.outline = u.outline := by
  obtain ⟨v, hpath, hv⟩ := (h [] t.outline).mp ⟨t, .here t, rfl⟩
  cases hpath
  exact hv.symm

/-- A field inside one is declared in the other, and as one that is alike. -/
theorem exists_inside (h : t.Alike u) (ht : t.fields? = some fields) (hu : u.fields? = some others)
    (hname : IsLast (name, v) fields) : ∃ w, IsLast (name, w) others ∧ v.Alike w := by
  obtain ⟨w, hpath, -⟩ := (h [name] v.outline).mp ⟨v, .inside ht hname (.here v), rfl⟩
  obtain ⟨w, hw⟩ : ∃ w, IsLast (name, w) others := by
    rcases hpath with _ | ⟨hfields, hw, -⟩
    obtain rfl := Option.some.inj (hu.symm.trans hfields)
    exact ⟨_, hw⟩
  refine ⟨w, hw, fun path shape => ?_⟩
  simpa only [leadsTo_cons_iff ht hname, leadsTo_cons_iff hu hw] using h (name :: path) shape

/-- Types that are alike are declared alike. -/
theorem toJson_eq (h : t.Alike u) : t.toJson = u.toJson := by
  induction t using wellFounded_inside.induction generalizing u with
  | _ t ih =>
    apply toJson_congr h.outline_eq
    have hboth := isSome_fields?_congr h.outline_eq
    rw [get?_properties, get?_properties]
    rcases ht : t.fields? with _ | fields <;> rcases hu : u.fields? with _ | others <;>
      simp only [ht, hu, Option.isSome_none, Option.isSome_some, reduceCtorEq] at hboth
    · rfl
    · rw [Option.map_some, Option.map_some]
      congr 2
      refine (Json.sortMembers_inOrder _).ext (Json.sortMembers_inOrder _) fun ⟨name, j⟩ => ?_
      rw [mem_properties_iff, mem_properties_iff]
      constructor
      · rintro ⟨v, hv, rfl⟩
        obtain ⟨w, hw, halike⟩ := h.exists_inside ht hu hv
        exact ⟨w, hw, (ih v ⟨fields, name, ht, hv⟩ halike).symm⟩
      · rintro ⟨w, hw, rfl⟩
        obtain ⟨v, hv, halike⟩ := h.symm.exists_inside hu ht hw
        exact ⟨v, hv, ih v ⟨fields, name, ht, hv⟩ halike.symm⟩

end Alike

theorem toJson_eq_iff_alike : t.toJson = u.toJson ↔ t.Alike u := by
  constructor
  · intro h path shape
    have hinside : ∀ {t u : FieldType}, t.toJson = u.toJson → ∀ v, t.LeadsTo path v →
        ∃ w, u.LeadsTo path w ∧ w.outline = v.outline := by
      intro t u h v hpath
      obtain ⟨w, hw, hjson⟩ := property?_eq_some_iff.mp (h ▸ hpath.property?_eq)
      exact ⟨w, hw, FieldType.outline_eq (congrArg (Json.get? "type") hjson)⟩
    constructor
    · rintro ⟨v, hpath, rfl⟩
      exact hinside h v hpath
    · rintro ⟨w, hpath, rfl⟩
      exact hinside h.symm w hpath
  · exact Alike.toJson_eq

end FieldType

/-- What stands in the body of a mapping under a path is the type that the path
leads to, by the last declaration of each name, and nothing stands there just if
the path breaks. Mappings have one body just if all paths lead to the same types
in both; it is enough that the last declarations are the same, in whatever order
they stand and whatever others come before them. Nested documents and objects
are never declared alike. -/
theorem mappingBody_resolves :
    (∀ (fields : List FieldMapping) (path : List String) (j : Json),
      (mappingBody fields).property? path = some j ↔
        ∃ t, (FieldType.object fields).LeadsTo path t ∧ t.toJson = j) ∧
    (∀ (fields : List FieldMapping) (path : List String),
      (mappingBody fields).property? path = none ↔ (FieldType.object fields).Breaks path) ∧
    (∀ fields others : List FieldMapping, mappingBody fields = mappingBody others ↔
      (FieldType.object fields).Alike (.object others)) ∧
    (∀ fields others : List FieldMapping,
      (∀ m, IsLast m fields ↔ IsLast m others) → mappingBody fields = mappingBody others) ∧
    (∀ fields others : List FieldMapping,
      (FieldType.nested fields).toJson ≠ (FieldType.object others).toJson) := by
  have hbody : ∀ fields : List FieldMapping,
      mappingBody fields = (FieldType.object fields).toJson := fun fields => by
    rw [mappingBody, FieldType.toJson]
  refine ⟨fun fields path j => ?_, fun fields path => ?_, fun fields others => ?_,
    fun fields others h => ?_, fun fields others h => ?_⟩
  · rw [hbody, FieldType.property?_eq_some_iff]
  · rw [hbody, FieldType.property?_eq_none_iff]
  · rw [hbody, hbody, FieldType.toJson_eq_iff_alike]
  · rw [mappingBody, mappingBody]
    congr 4
    refine (Json.sortMembers_inOrder _).ext (Json.sortMembers_inOrder _) fun ⟨name, j⟩ => ?_
    simp only [FieldType.mem_properties_iff, h]
  · exact absurd (FieldType.outline_eq (congrArg (Json.get? "type") h)) nofun

/-- A field that is named like the member for fields and declared twice. -/
def shadowingFields : List FieldMapping :=
  [("properties", .keyword), ("tags", .nested [("name", .text)]),
    ("properties", .object [("type", .long)])]

/-- The declarations of these that count, in another order. -/
def clearFields : List FieldMapping :=
  [("properties", .object [("type", .long)]), ("tags", .nested [("name", .text)])]

theorem mappingBody_resolves_shadowing :
    (∀ m, IsLast m shadowingFields ↔ IsLast m clearFields) ∧
      mappingBody shadowingFields = mappingBody clearFields ∧
      (mappingBody shadowingFields).property? ["properties", "type"] = some FieldType.long.toJson ∧
      (mappingBody shadowingFields).property? ["tags", "name", "first"] = none := by
  obtain ⟨hfound, hnothing, -, hsame, -⟩ := mappingBody_resolves
  have hlast : ∀ m, IsLast m shadowingFields ↔ IsLast m clearFields := by
    have hsorted : Json.sortMembers shadowingFields = Json.sortMembers clearFields := rfl
    intro m
    rw [← Json.mem_sortMembers_iff, hsorted, Json.mem_sortMembers_iff]
  have htype : (FieldType.object shadowingFields).LeadsTo ["properties", "type"] .long :=
    .inside rfl ⟨[("properties", .keyword), ("tags", .nested [("name", .text)])], [], rfl,
      by decide⟩ (.inside rfl ⟨[], [], rfl, by decide⟩ (.here _))
  have hflat : (FieldType.object shadowingFields).Breaks ["tags", "name", "first"] :=
    .inside rfl ⟨[("properties", .keyword)], [("properties", .object [("type", .long)])], rfl,
      by decide⟩ (.inside rfl ⟨[], [], rfl, by decide⟩ (.flat "first" [] rfl))
  exact ⟨hlast, hsame _ _ hlast, (hfound _ _ _).mpr ⟨_, htype, rfl⟩, (hnothing _ _).mpr hflat⟩

end SearchStore
