import Mathlib.Data.String.Basic
import SearchStore.Json.Basic
import SearchStore.Proofs.Keyed

/-! # Members in order

`InOrder` says that members stand in the order of their names, one for each
name. Sorting always gives such members, and if no name stands twice it only
changes the order; so members that are put in order are the only ones in order
among those with the same members (`sortMembers_eq`).
-/

namespace SearchStore

namespace Json

variable {α : Type}

/-! ## Order -/

/-- The members stand in the order of their names, one for each name. -/
def InOrder (ms : List (String × α)) : Prop := ms.Pairwise fun m n => m.1 < n.1

instance (ms : List (String × α)) : Decidable (InOrder ms) :=
  inferInstanceAs (Decidable (ms.Pairwise fun m n => m.1 < n.1))

namespace InOrder

variable {ms ns : List (String × α)}

theorem nodup (h : InOrder ms) : (ms.map Prod.fst).Nodup :=
  List.pairwise_map.mpr (h.imp fun hlt => hlt.ne)

/-- There is only one order. -/
theorem eq_of_perm (h : InOrder ms) (h' : InOrder ns) (hperm : ms.Perm ns) : ms = ns :=
  hperm.eq_of_pairwise (fun _ _ _ _ hlt hgt => absurd hlt hgt.asymm) h h'

/-- Members in order are told apart by what is among them. -/
theorem ext (h : InOrder ms) (h' : InOrder ns) (hmem : ∀ m, m ∈ ms ↔ m ∈ ns) : ms = ns :=
  h.eq_of_perm h' <| (List.perm_ext_iff_of_nodup (.of_map _ h.nodup) (.of_map _ h'.nodup)).mpr hmem

end InOrder

/-! ## Members by name -/

section Lookup

variable {name : String} {members : List (String × α)}

@[simp]
theorem lookup_nil : lookup name ([] : List (String × α)) = none := rfl

theorem lookup_cons {k : String} (value : α) (members : List (String × α)) :
    lookup name ((k, value) :: members) =
      if k = name then some value else lookup name members := by
  by_cases h : k = name <;> simp [lookup, h]

theorem lookup_append (members others : List (String × α)) :
    lookup name (members ++ others) = (lookup name members).or (lookup name others) := by
  rw [lookup, lookup, lookup, List.find?_append]
  cases members.find? fun m => m.1 = name <;> rfl

theorem lookup_eq_none_iff : lookup name members = none ↔ name ∉ members.map Prod.fst := by
  simp only [lookup, Option.map_eq_none_iff, List.find?_eq_none, decide_eq_true_eq, List.mem_map,
    not_exists, not_and]

theorem mem_of_lookup {value : α} (h : lookup name members = some value) :
    (name, value) ∈ members := by
  obtain ⟨⟨k, v⟩, hfind, rfl⟩ := Option.map_eq_some_iff.mp h
  obtain rfl : k = name := by simpa using List.find?_some hfind
  exact List.mem_of_find?_eq_some hfind

theorem lookup_of_mem {value : α} (hnames : (members.map Prod.fst).Nodup)
    (h : (name, value) ∈ members) : lookup name members = some value := by
  induction members with
  | nil => simp at h
  | cons m rest ih =>
    obtain ⟨k, v⟩ := m
    have hparts : k ∉ rest.map Prod.fst ∧ (rest.map Prod.fst).Nodup := by simpa using hnames
    rcases List.mem_cons.mp h with heq | hrest
    · obtain ⟨rfl, rfl⟩ := Prod.mk.inj heq
      rw [lookup_cons, if_pos rfl]
    · -- the member before it has another name, since no name stands there twice
      have hne : k ≠ name := by
        rintro rfl
        exact hparts.1 (List.mem_map.mpr ⟨_, hrest, rfl⟩)
      rw [lookup_cons, if_neg hne, ih hparts.2 hrest]

theorem InOrder.lookup_eq_some_iff {value : α} (h : InOrder members) :
    lookup name members = some value ↔ (name, value) ∈ members :=
  ⟨mem_of_lookup, lookup_of_mem h.nodup⟩

end Lookup

/-! ## Inserting and sorting -/

section Sorting

variable {name : String} {ms ns : List (String × α)}

theorem insertMember_eq (name : String) (value : α) (ms : List (String × α)) :
    insertMember name value ms = insertByKey Ord.compare name value ms := by
  induction ms with
  | nil => rfl
  | cons m rest ih =>
    obtain ⟨k, v⟩ := m
    rw [insertMember, insertByKey]
    rcases lt_trichotomy name k with hlt | rfl | hgt
    · rw [if_pos hlt, compare_lt_iff_lt.mpr hlt]
    · rw [if_neg (lt_irrefl name), if_pos rfl, compare_eq_iff_eq.mpr rfl]
    · rw [if_neg hgt.not_gt, if_neg hgt.ne', compare_gt_iff_gt.mpr hgt, ih]

theorem inOrder_iff_ascending : InOrder ms ↔ Ascending Ord.compare ms := by
  simp only [InOrder, Ascending, compare_lt_iff_lt]

/-- A member that is put among others stands there instead of one with its
name, and leaves them in order. -/
theorem puts_insertMember : Puts (fun ms : List (String × α) => InOrder ms) insertMember where
  start := .nil
  nodup h := h.nodup
  good_put name value h := by
    rw [insertMember_eq, inOrder_iff_ascending]
    exact (inOrder_iff_ascending.mp h).insertByKey value
  mem_put name value h := by
    rw [insertMember_eq]
    exact (inOrder_iff_ascending.mp h).mem_insertByKey_iff value

theorem InOrder.insertMember (h : InOrder ms) (name : String) (value : α) :
    InOrder (insertMember name value ms) :=
  puts_insertMember.good_put name value h

theorem sortMembers_inOrder (ms : List (String × α)) : InOrder (sortMembers ms) :=
  puts_insertMember.good_tableOf ms

/-- Of several members of one name the last stays. -/
theorem mem_sortMembers_iff {m : String × α} : m ∈ sortMembers ms ↔ IsLast m ms :=
  puts_insertMember.mem_tableOf_iff

theorem mem_of_mem_sortMembers {m : String × α} (h : m ∈ sortMembers ms) : m ∈ ms :=
  (mem_sortMembers_iff.mp h).mem

/-- Sorting keeps the names. -/
theorem mem_names_sortMembers_iff :
    name ∈ (sortMembers ms).map Prod.fst ↔ name ∈ ms.map Prod.fst := by
  have hlast : name ∈ ms.map Prod.fst ↔ ∃ value, IsLast (name, value) ms := exists_isLast_iff.symm
  rw [hlast]
  simp only [List.mem_map, mem_sortMembers_iff, Prod.exists, exists_and_right, exists_eq_right]

/-- If no name stands twice, sorting changes nothing but the order. -/
theorem sortMembers_perm (h : (ms.map Prod.fst).Nodup) : (sortMembers ms).Perm ms :=
  puts_insertMember.tableOf_perm h

/-- However members in order are mixed up, sorting brings them back. -/
theorem sortMembers_eq (h : InOrder ms) (hperm : ns.Perm ms) : sortMembers ns = ms := by
  have hnodup : (ns.map Prod.fst).Nodup := ((hperm.map Prod.fst).nodup_iff).mpr h.nodup
  exact (sortMembers_inOrder ns).eq_of_perm h ((sortMembers_perm hnodup).trans hperm)

end Sorting

end Json

end SearchStore
