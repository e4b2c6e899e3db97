import SearchStore.Proofs.Aggregation.Conformance
import SearchStore.Proofs.Keyed

/-! # Tables of decoded buckets

The decoder puts the values of buckets into a table ordered by key and adds
them up on the way. If the keys are distinct, no bucket takes the place of
another: the table holds just the buckets, and the total is their sum in order.
-/

namespace SearchStore

/-! ## Putting rows into a table -/

section

variable {κ α β : Type} (order : κ → κ → Ordering)

/-- The table and the total of rows: what is stored of each, and what it adds
to the total. -/
def tabulate (store : α → β) (amount : α → Double) (rows : List (κ × α))
    (start : List (κ × β) × Double) : List (κ × β) × Double :=
  rows.foldl (fun t row => (insertByKey order row.1 (store row.2) t.1, t.2 + amount row.2)) start

/-- The rows as they stand in a table. -/
def stored (store : α → β) (rows : List (κ × α)) : List (κ × β) :=
  rows.map fun row => (row.1, store row.2)

/-- The table and the total do not depend on each other. -/
theorem tabulate_eq (store : α → β) (amount : α → Double) (rows : List (κ × α)) :
    tabulate order store amount rows ([], .zero) =
      (tableOf (insertByKey order) (stored store rows), sumOf (rows.map fun row => amount row.2)) := by
  have hfold : ∀ start, tabulate order store amount rows start =
      ((stored store rows).foldl (fun table row => insertByKey order row.1 row.2 table) start.1,
        (rows.map fun row => amount row.2).foldl (· + ·) start.2) := by
    induction rows with
    | nil => exact fun _ => rfl
    | cons row rest ih => exact fun _ => ih _
  exact hfold _

/-- With distinct keys the table holds just the rows. -/
theorem tabulate_start [Std.TransCmp order] [Std.LawfulEqCmp order] (store : α → β)
    (amount : α → Double) {rows : List (κ × α)} (hkeys : (rows.map Prod.fst).Nodup) :
    (tabulate order store amount rows ([], .zero)).1.Perm (stored store rows) ∧
      (tabulate order store amount rows ([], .zero)).2 =
        sumOf (rows.map fun row => amount row.2) := by
  rw [tabulate_eq]
  refine ⟨puts_insertByKey.tableOf_perm ?_, rfl⟩
  simpa [stored, Function.comp_def] using hkeys

end

/-! ## What the decoder does with buckets -/

namespace Aggregate

/-- A bucket has the key and the point of a row. -/
def IsPoint {κ γ : Type} (key : κ → γ) (b : Bucket κ Aggregate) (row : γ × DataPoint) : Prop :=
  key b.key = row.1 ∧ dataPoint b.docCount b.inner = row.2

theorem groupsOf_eq {κ : Type} {key : κ → GroupKey} {bs : List (Bucket κ Aggregate)}
    {rows : List (GroupKey × DataPoint)} (h : List.Forall₂ (IsPoint key) bs rows) :
    ((groupsOf key bs).groups, (groupsOf key bs).total) =
      tabulate GroupKey.compare id DataPoint.value rows ([], .zero) := by
  have hfold : ∀ start : Groups,
      let out := bs.foldl (fun g b =>
        let point := dataPoint b.docCount b.inner
        { groups := insertByKey GroupKey.compare (key b.key) point g.groups
          total := g.total + point.value : Groups }) start
      (out.groups, out.total) =
        tabulate GroupKey.compare id DataPoint.value rows (start.groups, start.total) := by
    induction h with
    | nil => exact fun _ => rfl
    | cons hb _ ih =>
      intro start
      rw [List.foldl_cons, hb.1, hb.2]
      exact ih _
  exact hfold {}

theorem histogram_eq {a : Aggregate} {bs : List (Bucket Int Aggregate)}
    {rows : List (Timestamp × DataPoint)} (ha : a.timeBuckets = .ok bs)
    (h : List.Forall₂ (IsPoint id) bs rows) :
    ∃ s, a.histogram = .ok s ∧
      (s.points, s.total) = tabulate Ord.compare id DataPoint.value rows ([], .zero) := by
  have hfold : ∀ start : Series,
      let out := bs.foldl (fun s b =>
        let point := dataPoint b.docCount b.inner
        { points := insertByKey Ord.compare b.key point s.points
          total := s.total + point.value : Series }) start
      (out.points, out.total) =
        tabulate Ord.compare id DataPoint.value rows (start.points, start.total) := by
    clear ha
    induction h with
    | nil => exact fun _ => rfl
    | @cons b row _ _ hb _ ih =>
      intro start
      have hkey : b.key = row.1 := hb.1
      rw [List.foldl_cons, hkey, hb.2]
      exact ih _
  refine ⟨_, ?_, hfold {}⟩
  simp only [histogram, ha, bind, Except.bind, pure, Except.pure]

/-- A bucket has the key of a row, and inside it, under a name, what decodes
to the groups of the row. -/
def HasGroups (name : String) (b : Bucket Int Aggregate) (row : Timestamp × Groups) : Prop :=
  b.key = row.1 ∧ ∃ a, Json.lookup name b.inner = some a ∧ a.grouped = .ok row.2

theorem histogram2d_eq {a : Aggregate} {name : String} {bs : List (Bucket Int Aggregate)}
    {rows : List (Timestamp × Groups)} (ha : a.timeBuckets = .ok bs)
    (h : List.Forall₂ (HasGroups name) bs rows) :
    ∃ s, a.histogram2d name = .ok s ∧
      (s.points, s.total) = tabulate Ord.compare Groups.groups Groups.total rows ([], .zero) := by
  -- no bucket is refused: each has its groups, so the fold never stops
  have hfold : ∀ start : GroupedSeries, ∃ out, bs.foldlM (addGroups name) start = .ok out ∧
      (out.points, out.total) =
        tabulate Ord.compare Groups.groups Groups.total rows (start.points, start.total) := by
    clear ha
    induction h with
    | nil => exact fun start => ⟨start, rfl, rfl⟩
    | @cons b row _ _ hb _ ih =>
      intro start
      obtain ⟨hkey, inner, hlookup, hgrouped⟩ := hb
      have hadd : addGroups name start b = .ok
          { points := insertByKey Ord.compare row.1 row.2.groups start.points
            total := start.total + row.2.total } := by
        simp [addGroups, hlookup, hgrouped, hkey, bind, Except.bind, pure, Except.pure]
      obtain ⟨out, hout, htable⟩ := ih
        { points := insertByKey Ord.compare row.1 row.2.groups start.points
          total := start.total + row.2.total }
      refine ⟨out, ?_, htable⟩
      rw [List.foldlM_cons, hadd]
      exact hout
  obtain ⟨out, hout, htable⟩ := hfold {}
  refine ⟨out, ?_, htable⟩
  simp only [histogram2d, ha, bind, Except.bind]
  exact hout

end Aggregate

end SearchStore
