import SearchStore.Proofs.Query.Layout

/-! # What each clause of a query lies in

A clause about a field is understood by the engine in the documents of the
innermost nested query around it. `Query.leavesUnder` walks down a query and
gives each clause with everything that it lies in, and `Scoped` says of one
clause that it is understood in the right documents: a clause about a field with
a point right in the wrapper of its path, any other clause in no wrapper.

All clauses that filters make are scoped, whichever list they end up in. The
range is added as it is, so that a whole query is scoped only if its range is on
a plain field (`ofFilters_scoped_iff`).
-/

namespace SearchStore

namespace Query

/-- What a query stands in: one of the lists of a bool query, or a query on the
nested documents of a path. -/
inductive Enclosure where
  | filter
  | must
  | should
  | mustNot
  | nested (path : String)
deriving DecidableEq

mutual

/-- The clauses of a query that hold no others, each with what it lies in, the
outermost first. -/
def leavesUnder (above : List Enclosure) : Query → List (List Enclosure × Query)
  | .nested path q => q.leavesUnder (above ++ [.nested path])
  | .bool filter must should mustNot _ =>
    leavesOfEach (above ++ [.filter]) filter ++ leavesOfEach (above ++ [.must]) must ++
      leavesOfEach (above ++ [.should]) should ++ leavesOfEach (above ++ [.mustNot]) mustNot
  | q => [(above, q)]

/-- The clauses of several queries that lie in the same. -/
def leavesOfEach (above : List Enclosure) : List Query → List (List Enclosure × Query)
  | [] => []
  | q :: rest => q.leavesUnder above ++ leavesOfEach above rest

end

/-- The clauses of a whole query. -/
def clauses (q : Query) : List (List Enclosure × Query) := q.leavesUnder []

theorem leavesOfEach_eq (above : List Enclosure) (queries : List Query) :
    leavesOfEach above queries = queries.flatMap fun q => q.leavesUnder above := by
  induction queries with
  | nil => rfl
  | cons q rest ih => rw [leavesOfEach, ih, List.flatMap_cons]

/-- A clause about a field holds no others. -/
theorem leavesUnder_of_fieldNames {q : Query} {field : String} (h : q.fieldNames = [field])
    (above : List Enclosure) : q.leavesUnder above = [(above, q)] := by
  cases q <;> first | rfl | simp [fieldNames] at h

end Query

open Query (Enclosure)

/-- A clause is understood in the documents that its field belongs to. -/
structure Scoped (above : List Enclosure) (leaf : Query) : Prop where
  /-- What is about a field with a point is required right in the wrapper of the
  path before the point, and there is no other wrapper. -/
  dotted : ∀ field ∈ leaf.fieldNames, '.' ∈ field.toList →
    ∃ path outer, IsPathOf path field ∧ above = outer ++ [.nested path, .must] ∧
      ∀ other, .nested other ∉ outer
  /-- What is about any other field lies in no wrapper. -/
  plain : ∀ field ∈ leaf.fieldNames, '.' ∉ field.toList → ∀ path, .nested path ∉ above

namespace Scoped

variable {above : List Enclosure} {leaf : Query} {field : String}

/-- A clause without fields is scoped anywhere. -/
theorem of_no_fields (h : leaf.fieldNames = []) : Scoped above leaf where
  dotted := by simp [h]
  plain := by simp [h]

theorem of_plain (h : leaf.fieldNames = [field]) (hfield : '.' ∉ field.toList)
    (habove : ∀ path, .nested path ∉ above) : Scoped above leaf where
  dotted := by
    intro name hname hpoint
    obtain rfl : name = field := by simpa [h] using hname
    exact absurd hpoint hfield
  plain := fun _ _ _ => habove

theorem of_nested {path : String} (h : leaf.fieldNames = [field]) (hpath : IsPathOf path field)
    (habove : ∀ other, .nested other ∉ above) :
    Scoped (above ++ [.nested path, .must]) leaf where
  dotted := by
    intro name hname _
    obtain rfl : name = field := by simpa [h] using hname
    exact ⟨path, above, hpath, rfl, habove⟩
  plain := by
    intro name hname hplain
    obtain rfl : name = field := by simpa [h] using hname
    obtain ⟨-, rest, hrest⟩ := hpath
    exact absurd (by simp [hrest]) hplain

/-- A clause about a field with a point is not scoped where no wrapper is. -/
theorem not_of_dotted (h : leaf.fieldNames = [field]) (hfield : '.' ∈ field.toList)
    (habove : ∀ path, .nested path ∉ above) : ¬ Scoped above leaf := by
  intro hscoped
  obtain ⟨path, outer, -, rfl, -⟩ := hscoped.dotted field (by simp [h]) hfield
  exact habove path (by simp)

end Scoped

/-! ## The clauses of a selection -/

/-- What queries that are arranged lie in, if they themselves lie in no wrapper. -/
theorem Arranged.scoped {queries : List Query} {ps : List Placed} (h : Arranged queries ps)
    {above : List Enclosure} (habove : ∀ path, .nested path ∉ above) :
    ∀ x ∈ Query.leavesOfEach above queries, Scoped x.1 x.2 := by
  intro x hx
  rw [Query.leavesOfEach_eq] at hx
  obtain ⟨q, hq, hleaf⟩ := List.mem_flatMap.mp hx
  rcases hwrapper : q.wrapper? with _ | path
  · -- a query that is no wrapper is about one plain field
    obtain ⟨field, hfield, hpoint⟩ := h.plain q hq hwrapper
    rw [Query.leavesUnder_of_fieldNames hfield] at hleaf
    obtain rfl := List.mem_singleton.mp hleaf
    exact Scoped.of_plain hfield hpoint habove
  · -- a wrapper holds queries of its path, all of them required
    obtain ⟨inner, rfl⟩ : ∃ inner, q = .nested path inner := by
      cases q <;> simp_all [Query.wrapper?]
    obtain rfl := h.inside path inner hq
    have hmust : x ∈ Query.leavesOfEach (above ++ [.nested path] ++ [.must])
        (Placed.onPath path ps) := by
      simpa [Query.leavesUnder, Query.leavesOfEach] using hleaf
    rw [Query.leavesOfEach_eq] at hmust
    obtain ⟨leaf, hmem, hx⟩ := List.mem_flatMap.mp hmust
    obtain ⟨field, hfield, hpath⟩ := h.nested path _ hq leaf hmem
    rw [Query.leavesUnder_of_fieldNames hfield] at hx
    obtain rfl := List.mem_singleton.mp hx
    rw [List.append_assoc]
    exact Scoped.of_nested hfield hpath habove

namespace BoolClauses

/-- The clauses of a query are those of its parts. The alternatives lie in the
one group that they form. -/
theorem mem_clauses_toQuery {b : BoolClauses} {x : List Enclosure × Query} :
    x ∈ b.toQuery.clauses ↔
      (b.isEmpty ∧ x = ([], .matchAll none)) ∨
      x ∈ Query.leavesOfEach [.filter] b.filter ∨
      x ∈ Query.leavesOfEach [.filter] b.range.toList ∨
      x ∈ Query.leavesOfEach [.should, .should] b.should ∨
      x ∈ Query.leavesOfEach [.mustNot] b.mustNot := by
  rw [toQuery, Query.clauses]
  by_cases hempty : b.isEmpty
  · obtain ⟨⟨⟨hfilter, hshould⟩, hmustNot⟩, hrange⟩ :
        ((b.filter = [] ∧ b.should = []) ∧ b.mustNot = []) ∧ b.range = none := by
      simpa [isEmpty] using hempty
    simp [hempty, hfilter, hshould, hmustNot, hrange, Query.leavesUnder, Query.leavesOfEach]
  · by_cases hshould : b.should = []
    · simp [hempty, hshould, Query.leavesUnder, Query.leavesOfEach_eq]
    · simp [hempty, hshould, Query.leavesUnder, Query.leavesOfEach_eq]

end BoolClauses

namespace Selection

/-- Every clause of a selection's query is scoped, with the exception of a range
on a field with a point: that one lies among the filters, in no wrapper. So the
query is scoped throughout exactly if it has no such range. -/
theorem ofFilters_scoped_iff (like : LikePolarity) (all any : List Filter)
    (range : Option RangeFilter) :
    let clauses := (ofFilters like all any range).toQuery.clauses
    (∀ x ∈ clauses, Scoped x.1 x.2 ∨
      ∃ r ∈ range, '.' ∈ r.field.toList ∧ x = ([.filter], r.toQuery)) ∧
    ((∀ x ∈ clauses, Scoped x.1 x.2) ↔ ∀ r ∈ range, '.' ∉ r.field.toList) := by
  intro clauses
  obtain ⟨hfilter, hshould, hmustNot, hrange, -⟩ := ofFilters_arranged like all any range
  have hrangeQuery (r : RangeFilter) : r.toQuery.fieldNames = [r.field] := rfl
  have hclauses : ∀ x ∈ clauses, Scoped x.1 x.2 ∨ ∃ r ∈ range, x = ([.filter], r.toQuery) := by
    intro x hx
    rcases BoolClauses.mem_clauses_toQuery.mp hx with ⟨-, rfl⟩ | hx | hx | hx | hx
    · exact .inl (Scoped.of_no_fields rfl)
    · exact .inl (hfilter.scoped (by simp) x hx)
    · right
      rw [hrange, Query.leavesOfEach_eq] at hx
      obtain ⟨q, hq, hleaf⟩ := List.mem_flatMap.mp hx
      obtain ⟨r, hr, rfl⟩ : ∃ r, range = some r ∧ r.toQuery = q := by simpa using hq
      rw [Query.leavesUnder_of_fieldNames (hrangeQuery r)] at hleaf
      exact ⟨r, hr, List.mem_singleton.mp hleaf⟩
    · exact .inl (hshould.scoped (by simp) x hx)
    · exact .inl (hmustNot.scoped (by simp) x hx)
  have hplain (r : RangeFilter) (h : '.' ∉ r.field.toList) : Scoped [.filter] r.toQuery :=
    Scoped.of_plain (hrangeQuery r) h (by simp)
  constructor
  · intro x hx
    rcases hclauses x hx with hscoped | ⟨r, hr, rfl⟩
    · exact .inl hscoped
    · by_cases hpoint : '.' ∈ r.field.toList
      · exact .inr ⟨r, hr, hpoint, rfl⟩
      · exact .inl (hplain r hpoint)
  · constructor
    · intro hall r hr hpoint
      -- the range is a clause of the query, and lies in no wrapper
      have hmem : (([.filter], r.toQuery) : List Enclosure × Query) ∈ clauses := by
        refine BoolClauses.mem_clauses_toQuery.mpr (.inr (.inr (.inl ?_)))
        rw [hrange, Query.leavesOfEach_eq, hr]
        simp [Query.leavesUnder_of_fieldNames (hrangeQuery r)]
      exact Scoped.not_of_dotted (hrangeQuery r) hpoint (by simp) (hall _ hmem)
    · intro hrange x hx
      rcases hclauses x hx with hscoped | ⟨r, hr, rfl⟩
      · exact hscoped
      · exact hplain r (hrange r hr)

/-- A range on a field of nested documents lies in no wrapper, so that it is
asked of the documents around them, which do not have the field. -/
theorem not_scoped_range :
    let range : RangeFilter := ⟨"tags.since", 1, 2⟩
    ∃ x ∈ (ofFilters .include [] [] (some range)).toQuery.clauses, ¬ Scoped x.1 x.2 := by
  intro range
  refine ⟨([.filter], range.toQuery), List.mem_singleton_self _, ?_⟩
  exact Scoped.not_of_dotted rfl (by decide) (by simp)

end Selection

end SearchStore
