import SearchStore.Proofs.Aggregation.Keys
import SearchStore.Proofs.Aggregation.Table

/-! # Buckets that share a group

Buckets are put into the table of groups under their keys, each instead of an
earlier one with its key. Two of them share a group just if their keys are of one
type and have one content. That is so whether the table finds a key by the order
of the keys or by a hash of their pieces, since equal keys have equal pieces.

`GroupKey.lawful` puts this together with the laws of the order.
-/

namespace SearchStore

open GroupKey (HashPiece)

/-! ## Tables that find keys by a hash -/

section

variable {α : Type}

/-- Puts a value into a table that finds a key by the hash of its pieces: a row
has the key if the hashes are the same and then also the keys. -/
def insertHashed (hash : List HashPiece → UInt64) (key : GroupKey) (value : α) :
    List (GroupKey × α) → List (GroupKey × α)
  | [] => [(key, value)]
  | (k, v) :: rest =>
    if hash k.pieces = hash key.pieces ∧ k == key then (k, value) :: rest
    else (k, v) :: insertHashed hash key value rest

variable {hash : List HashPiece → UInt64} {key : GroupKey} {table : List (GroupKey × α)}

/-- Whatever the hash function is, the row with the key itself is found. -/
theorem insertHashed_cons (k : GroupKey) (v value : α) (rest : List (GroupKey × α)) :
    insertHashed hash key value ((k, v) :: rest) =
      if k = key then (k, value) :: rest else (k, v) :: insertHashed hash key value rest := by
  rw [insertHashed]
  by_cases heq : k = key
  · rw [if_pos heq, if_pos ⟨by rw [heq], GroupKey.beq_iff.mpr heq⟩]
  · rw [if_neg heq, if_neg fun h => heq (GroupKey.beq_iff.mp h.2)]

theorem mem_insertHashed_iff (h : (table.map Prod.fst).Nodup) (value : α) {row : GroupKey × α} :
    row ∈ insertHashed hash key value table ↔
      row = (key, value) ∨ row ∈ table ∧ row.1 ≠ key := by
  induction table with
  | nil => simp [insertHashed]
  | cons first rest ih =>
    obtain ⟨k, v⟩ := first
    obtain ⟨hk, hrest⟩ : k ∉ rest.map Prod.fst ∧ (rest.map Prod.fst).Nodup := by simpa using h
    rw [insertHashed_cons]
    split_ifs with heq
    · subst heq
      exact mem_cons_instead_iff fun row hrow hkey => hk (hkey ▸ List.mem_map_of_mem hrow)
    · exact mem_cons_behind_iff heq (ih hrest)

theorem nodup_insertHashed (h : (table.map Prod.fst).Nodup) (value : α) :
    ((insertHashed hash key value table).map Prod.fst).Nodup := by
  induction table with
  | nil => exact List.nodup_singleton _
  | cons first rest ih =>
    obtain ⟨k, v⟩ := first
    obtain ⟨hk, hrest⟩ : k ∉ rest.map Prod.fst ∧ (rest.map Prod.fst).Nodup := by simpa using h
    rw [insertHashed_cons]
    split_ifs with heq
    · exact List.nodup_cons.mpr ⟨hk, hrest⟩
    · refine List.nodup_cons.mpr ⟨fun hmem => ?_, ih hrest⟩
      obtain ⟨row, hrow, rfl⟩ := List.mem_map.mp hmem
      rcases (mem_insertHashed_iff hrest value).mp hrow with rfl | ⟨hrow, -⟩
      · exact heq rfl
      · exact hk (List.mem_map_of_mem hrow)

theorem puts_insertHashed (hash : List HashPiece → UInt64) :
    Puts (fun table : List (GroupKey × α) => (table.map Prod.fst).Nodup) (insertHashed hash) where
  start := .nil
  nodup h := h
  good_put _ value h := nodup_insertHashed h value
  mem_put _ value h := mem_insertHashed_iff h value

end

namespace Aggregate

/-! ## Groups -/

variable {κ : Type} {key : κ → GroupKey} {bs : List (Bucket κ Aggregate)}

/-- A bucket as a row of the table of groups. -/
def rowOf (key : κ → GroupKey) (b : Bucket κ Aggregate) : GroupKey × DataPoint :=
  (key b.key, dataPoint b.docCount b.inner)

/-- Buckets are merged by their keys: there is one group for each key, which says
what the last bucket with the key says. -/
structure Merged (key : κ → GroupKey) (bs : List (Bucket κ Aggregate))
    (groups : List (GroupKey × DataPoint)) : Prop where
  last : ∀ row, row ∈ groups ↔ IsLast row (bs.map (rowOf key))
  once : groups.Pairwise fun row other => ¬ row.1.SameContent other.1
  shared : ∀ b ∈ bs, ∀ b' ∈ bs,
    (∃ row ∈ groups, row.1 == key b.key ∧ row.1 == key b'.key) ↔
      (key b.key).SameContent (key b'.key)

theorem groups_groupsOf (key : κ → GroupKey) (bs : List (Bucket κ Aggregate)) :
    (groupsOf key bs).groups = tableOf (insertByKey GroupKey.compare) (bs.map (rowOf key)) := by
  have hpoints : List.Forall₂ (IsPoint key) bs (bs.map (rowOf key)) :=
    List.forall₂_map_right_iff.mpr (List.forall₂_same.mpr fun _ _ => ⟨rfl, rfl⟩)
  have htable := groupsOf_eq hpoints
  rw [tabulate_eq] at htable
  simpa [stored, Function.comp_def] using congrArg Prod.fst htable

/-- Every table merges buckets by their keys. -/
theorem merged_tableOf {good : List (GroupKey × DataPoint) → Prop}
    {put : GroupKey → DataPoint → List (GroupKey × DataPoint) → List (GroupKey × DataPoint)}
    (h : Puts good put) : Merged key bs (tableOf put (bs.map (rowOf key))) where
  last _ := h.mem_tableOf_iff
  once := by
    have hkeys := h.nodup (h.good_tableOf (bs.map (rowOf key)))
    exact (List.pairwise_map.mp hkeys).imp fun hne hsame =>
      hne (GroupKey.sameContent_iff.mp hsame)
  shared b hb b' _ := by
    simp only [GroupKey.beq_iff, GroupKey.sameContent_iff]
    constructor
    · rintro ⟨row, -, hrow, hrow'⟩
      exact hrow.symm.trans hrow'
    · intro heq
      have hmem : key b.key ∈ (bs.map (rowOf key)).map Prod.fst :=
        List.mem_map_of_mem (List.mem_map_of_mem hb)
      obtain ⟨p, hp⟩ := exists_isLast_iff.mpr hmem
      exact ⟨_, h.mem_tableOf_iff.mpr hp, rfl, heq⟩

end Aggregate

open Aggregate (Merged rowOf groupsOf)

/-- Keys are in a total order. They are equal in it just if they are of one type
and have one content, doubles bit for bit, and then a hash function is given the
same; strings come first, then integers, then doubles. Buckets with equal keys
share a group and others do not, in the table that is ordered by the keys and in
every table that finds keys by a hash. -/
theorem GroupKey.lawful :
    TotalOrder GroupKey.compare (· == ·) ∧
    (∀ a b : GroupKey, (a == b) = true ↔ a.SameContent b) ∧
    (∀ a b : GroupKey, a == b → a.pieces = b.pieces) ∧
    (∀ (s : String) (n : Int) (x : Double),
      GroupKey.compare (.str s) (.int n) = .lt ∧ GroupKey.compare (.int n) (.double x) = .lt ∧
        GroupKey.compare (.str s) (.double x) = .lt) ∧
    (∀ (κ : Type) (key : κ → GroupKey) (bs : List (Bucket κ Aggregate)),
      Ascending GroupKey.compare (groupsOf key bs).groups ∧
        Merged key bs (groupsOf key bs).groups ∧
        ∀ hash, Merged key bs (tableOf (insertHashed hash) (bs.map (rowOf key)))) := by
  refine ⟨GroupKey.totalOrder_compare, fun a b => ?_, fun a b h => ?_, fun s n x => ?_,
    fun κ key bs => ⟨?_, ?_, fun hash => ?_⟩⟩
  · rw [GroupKey.beq_iff, GroupKey.sameContent_iff]
  · rw [GroupKey.beq_iff.mp h]
  · exact ⟨rfl, rfl, rfl⟩
  · rw [Aggregate.groups_groupsOf]
    exact puts_insertByKey.good_tableOf _
  · rw [Aggregate.groups_groupsOf]
    exact Aggregate.merged_tableOf puts_insertByKey
  · exact Aggregate.merged_tableOf (puts_insertHashed hash)

/-- Buckets of both zeros, and two of one not-a-number. -/
def unusualBuckets : List (Bucket Double Aggregate) :=
  [⟨.nan false, none, 1, []⟩, ⟨.zero, none, 2, []⟩, ⟨-.zero, none, 3, []⟩,
    ⟨.nan false, none, 4, []⟩]

theorem GroupKey.lawful_unusual :
    let groups := (groupsOf .double unusualBuckets).groups
    (GroupKey.double (.nan false) == .double ⟨9221120237041090560⟩) = true ∧
      (GroupKey.double (.nan false)).pieces = (GroupKey.double ⟨9221120237041090560⟩).pieces ∧
      (∃ row ∈ groups, row.1 == .double (.nan false) ∧ row.1 == .double ⟨9221120237041090560⟩) ∧
      ¬ ∃ row ∈ groups, row.1 == .double .zero ∧ row.1 == .double (-.zero) := by
  intro groups
  obtain ⟨-, -, hpieces, -, hgroups⟩ := GroupKey.lawful
  have hsame : (GroupKey.double (.nan false) == .double ⟨9221120237041090560⟩) = true := by decide
  have hshared := (hgroups Double .double unusualBuckets).2.1.shared
  refine ⟨hsame, hpieces _ _ hsame, ?_, fun hzero => ?_⟩
  · exact (hshared ⟨.nan false, none, 1, []⟩ (by simp [unusualBuckets])
      ⟨.nan false, none, 4, []⟩ (by simp [unusualBuckets])).mpr rfl
  · have hbits := (hshared ⟨.zero, none, 2, []⟩ (by simp [unusualBuckets])
      ⟨-.zero, none, 3, []⟩ (by simp [unusualBuckets])).mp hzero
    have hne : Double.zero.bits ≠ (-Double.zero).bits := by decide
    exact hne hbits

end SearchStore
