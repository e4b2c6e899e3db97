import Mathlib.Data.List.Induction
import Mathlib.Data.List.Nodup
import SearchStore.Result.GroupKey

/-! # Lists of pairs with keys

Of several pairs with one key the last counts (`IsLast`). A table keeps just
these if each pair that is put into it takes the place of the one with its key
(`Puts.mem_tableOf_iff`). Tables in the order of their keys do.
-/

namespace SearchStore

/-! ## The last pair with a key -/

section Last

variable {κ α : Type} {m n : κ × α} {ms : List (κ × α)}

/-- A pair is the last one with its key. -/
def IsLast (m : κ × α) (ms : List (κ × α)) : Prop :=
  ∃ before after, ms = before ++ m :: after ∧ m.1 ∉ after.map Prod.fst

theorem not_isLast_nil : ¬ IsLast m [] := by
  rintro ⟨before, after, heq, -⟩
  simp at heq

theorem IsLast.mem (h : IsLast m ms) : m ∈ ms := by
  obtain ⟨before, after, rfl, -⟩ := h
  exact List.mem_append_right _ List.mem_cons_self

/-- If no key stands twice, every pair is the last one with its key. -/
theorem isLast_iff_mem (h : (ms.map Prod.fst).Nodup) : IsLast m ms ↔ m ∈ ms := by
  refine ⟨IsLast.mem, fun hmem => ?_⟩
  obtain ⟨before, after, rfl⟩ := List.append_of_mem hmem
  rw [List.map_append, List.map_cons, List.nodup_append, List.nodup_cons] at h
  exact ⟨before, after, rfl, h.2.1.1⟩

theorem isLast_append_single : IsLast m (ms ++ [n]) ↔ m = n ∨ IsLast m ms ∧ m.1 ≠ n.1 := by
  constructor
  · rintro ⟨before, after, heq, hafter⟩
    rcases List.eq_nil_or_concat after with rfl | ⟨init, last, rfl⟩
    · exact .inl (List.append_inj' heq rfl |>.2 |> List.singleton_inj.mp).symm
    · have hsplit : ms ++ [n] = (before ++ m :: init) ++ [last] := by simpa using heq
      obtain ⟨rfl, hlast⟩ := List.append_inj' hsplit rfl
      obtain rfl : n = last := List.singleton_inj.mp hlast
      have hparts : m.1 ∉ init.map Prod.fst ∧ m.1 ≠ n.1 := by simpa using hafter
      exact .inr ⟨⟨before, init, rfl, hparts.1⟩, hparts.2⟩
  · rintro (rfl | ⟨⟨before, after, rfl, hafter⟩, hne⟩)
    · exact ⟨ms, [], rfl, by simp⟩
    · exact ⟨before, after ++ [n], by simp, by simpa [hne] using hafter⟩

/-- Of the pairs with a key one is the last. -/
theorem exists_isLast_iff {key : κ} :
    (∃ value, IsLast (key, value) ms) ↔ key ∈ ms.map Prod.fst := by
  constructor
  · rintro ⟨value, h⟩
    exact List.mem_map_of_mem h.mem
  · induction ms using List.reverseRecOn with
    | nil => simp
    | append_singleton ms n ih =>
      intro hmem
      by_cases hkey : key = n.1
      · exact ⟨n.2, isLast_append_single.mpr (.inl (Prod.ext hkey rfl))⟩
      · obtain ⟨value, h⟩ := ih (by simpa [hkey] using hmem)
        exact ⟨value, isLast_append_single.mpr (.inr ⟨h, hkey⟩)⟩

end Last

/-! ## Tables -/

section

variable {κ α : Type}

/-- A way to put values under keys into tables that are in good order: instead
of the row with the same key, if there is one. -/
structure Puts (good : List (κ × α) → Prop) (put : κ → α → List (κ × α) → List (κ × α)) :
    Prop where
  start : good []
  nodup : ∀ {table}, good table → (table.map Prod.fst).Nodup
  good_put : ∀ {table} key value, good table → good (put key value table)
  mem_put : ∀ {table row} key value, good table →
    (row ∈ put key value table ↔ row = (key, value) ∨ row ∈ table ∧ row.1 ≠ key)

/-- The table of some rows, put into it one after the other. -/
def tableOf (put : κ → α → List (κ × α) → List (κ × α)) (rows : List (κ × α)) : List (κ × α) :=
  rows.foldl (fun table row => put row.1 row.2 table) []

section

variable {key k : κ} {value v : α} {row : κ × α} {rest table : List (κ × α)}

/-- A row takes the place of the one with its key. -/
theorem mem_cons_instead_iff (hothers : ∀ row ∈ rest, row.1 ≠ key) :
    row ∈ (key, value) :: rest ↔ row = (key, value) ∨ row ∈ (key, v) :: rest ∧ row.1 ≠ key := by
  simp only [List.mem_cons]
  constructor
  · exact Or.imp_right fun hrow => ⟨.inr hrow, hothers row hrow⟩
  · rintro (rfl | ⟨rfl | hrow, hne⟩)
    · exact .inl rfl
    · exact absurd rfl hne
    · exact .inr hrow

/-- A row is put behind one with another key. -/
theorem mem_cons_behind_iff (hne : k ≠ key)
    (hput : row ∈ table ↔ row = (key, value) ∨ row ∈ rest ∧ row.1 ≠ key) :
    row ∈ (k, v) :: table ↔ row = (key, value) ∨ row ∈ (k, v) :: rest ∧ row.1 ≠ key := by
  simp only [List.mem_cons, hput]
  constructor
  · rintro (rfl | rfl | ⟨hrow, hkey⟩)
    · exact .inr ⟨.inl rfl, hne⟩
    · exact .inl rfl
    · exact .inr ⟨.inr hrow, hkey⟩
  · rintro (rfl | ⟨rfl | hrow, hkey⟩)
    · exact .inr (.inl rfl)
    · exact .inl rfl
    · exact .inr (.inr ⟨hrow, hkey⟩)

end

section

variable {good : List (κ × α) → Prop} {put : κ → α → List (κ × α) → List (κ × α)}
  {rows : List (κ × α)}

theorem tableOf_append_single (rows : List (κ × α)) (row : κ × α) :
    tableOf put (rows ++ [row]) = put row.1 row.2 (tableOf put rows) := by
  simp [tableOf]

namespace Puts

theorem good_tableOf (h : Puts good put) (rows : List (κ × α)) : good (tableOf put rows) := by
  induction rows using List.reverseRecOn with
  | nil => exact h.start
  | append_singleton rows row ih =>
    rw [tableOf_append_single]
    exact h.good_put _ _ ih

/-- A table holds the last row with each key. -/
theorem mem_tableOf_iff (h : Puts good put) {row : κ × α} :
    row ∈ tableOf put rows ↔ IsLast row rows := by
  induction rows using List.reverseRecOn with
  | nil => exact iff_of_false List.not_mem_nil not_isLast_nil
  | append_singleton rows last ih =>
    rw [tableOf_append_single, h.mem_put _ _ (h.good_tableOf rows), ih, isLast_append_single]

theorem nodup_tableOf (h : Puts good put) (rows : List (κ × α)) : (tableOf put rows).Nodup :=
  .of_map _ (h.nodup (h.good_tableOf rows))

/-- If no key stands twice, a table holds all the rows. -/
theorem tableOf_perm (h : Puts good put) (hkeys : (rows.map Prod.fst).Nodup) :
    (tableOf put rows).Perm rows := by
  refine (List.perm_ext_iff_of_nodup (h.nodup_tableOf rows) (.of_map _ hkeys)).mpr ?_
  exact fun row => h.mem_tableOf_iff.trans (isLast_iff_mem hkeys)

end Puts

end

/-! ## Tables in the order of their keys -/

variable {order : κ → κ → Ordering}

/-- The rows stand in the order of their keys, one for each key. -/
def Ascending (order : κ → κ → Ordering) (table : List (κ × α)) : Prop :=
  table.Pairwise fun row next => order row.1 next.1 = .lt

variable [Std.LawfulEqCmp order] {table : List (κ × α)} {key : κ}

theorem ne_of_compare_eq_lt {a b : κ} (h : order a b = .lt) : a ≠ b := by
  rintro rfl
  have hself : order a a = .eq := Std.ReflCmp.compare_self
  exact absurd (hself.symm.trans h) nofun

theorem Ascending.nodup (h : Ascending order table) : (table.map Prod.fst).Nodup :=
  List.pairwise_map.mpr (h.imp ne_of_compare_eq_lt)

variable [Std.TransCmp order]

theorem Ascending.mem_insertByKey_iff (h : Ascending order table) (value : α) {row : κ × α} :
    row ∈ insertByKey order key value table ↔ row = (key, value) ∨ row ∈ table ∧ row.1 ≠ key := by
  induction table with
  | nil => simp [insertByKey]
  | cons first rest ih =>
    obtain ⟨k, v⟩ := first
    obtain ⟨hk, hrest⟩ := List.pairwise_cons.mp h
    rw [insertByKey]
    split
    · -- all others come after the key
      rename_i hlt
      have hothers : ∀ row ∈ (k, v) :: rest, row.1 ≠ key := by
        refine List.forall_mem_cons.mpr ⟨(ne_of_compare_eq_lt hlt).symm, fun row hrow => ?_⟩
        exact (ne_of_compare_eq_lt (Std.TransCmp.lt_trans hlt (hk row hrow))).symm
      rw [List.mem_cons]
      exact or_congr_right ⟨fun hrow => ⟨hrow, hothers row hrow⟩, And.left⟩
    · rename_i heq
      obtain rfl : key = k := Std.LawfulEqCmp.eq_of_compare heq
      exact mem_cons_instead_iff fun row hrow => (ne_of_compare_eq_lt (hk row hrow)).symm
    · rename_i hgt
      exact mem_cons_behind_iff (ne_of_compare_eq_lt (Std.OrientedCmp.gt_iff_lt.mp hgt)) (ih hrest)

theorem Ascending.insertByKey (h : Ascending order table) (value : α) :
    Ascending order (insertByKey order key value table) := by
  induction table with
  | nil => exact List.pairwise_singleton _ _
  | cons first rest ih =>
    obtain ⟨k, v⟩ := first
    obtain ⟨hk, hrest⟩ := List.pairwise_cons.mp h
    rw [SearchStore.insertByKey]
    split
    · rename_i hlt
      refine List.pairwise_cons.mpr ⟨fun row hrow => ?_, h⟩
      rcases List.mem_cons.mp hrow with rfl | hrow
      · exact hlt
      · exact Std.TransCmp.lt_trans hlt (hk row hrow)
    · rename_i heq
      obtain rfl : key = k := Std.LawfulEqCmp.eq_of_compare heq
      exact List.pairwise_cons.mpr ⟨hk, hrest⟩
    · rename_i hgt
      refine List.pairwise_cons.mpr ⟨fun row hrow => ?_, ih hrest⟩
      rcases (Ascending.mem_insertByKey_iff hrest value).mp hrow with rfl | ⟨hrow, -⟩
      · exact Std.OrientedCmp.gt_iff_lt.mp hgt
      · exact hk row hrow

/-- A row that is put into a table stands there instead of the one with its key,
and leaves the others in order. -/
theorem puts_insertByKey : Puts (Ascending order) (insertByKey (α := α) order) where
  start := .nil
  nodup h := h.nodup
  good_put _ value h := h.insertByKey value
  mem_put _ value h := h.mem_insertByKey_iff value

end

end SearchStore
