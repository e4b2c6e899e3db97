import SearchStore.Proofs.Text.Utf8
import SearchStore.Proofs.Url.Destination

/-! # Paths without loss

A path is written from any segments whatever: texts with slashes, blanks and signs
of encoding among them, and empty ones. `pathSegments` is what stands between its
slashes, decoded. `pathOf_lossless` says that these are the bytes of the segments
again, so that a path belongs to one list of segments only, and that nothing in a
path ends it or asks for a query.
-/

namespace SearchStore

/-! ## Characters of a path -/

/-- An encoded segment consists of ASCII that can be seen, without what has a meaning in a URL. -/
theorem isSegmentChar_visible {c : Char} (h : isSegmentChar c = true) :
    0x20 < c.toNat ∧ c.toNat < 0x7F ∧ c ∉ ['?', '#', '\\', '"'] := by
  have hcases : plainInSegment c = true ∨ c = '%' := by
    simpa [isSegmentChar] using h
  rcases hcases with hplain | rfl
  · unfold plainInSegment at hplain
    simp only [Bool.and_eq_true, decide_eq_true_eq, Bool.not_eq_true', List.contains_eq_mem,
      decide_eq_false_iff_not, List.mem_cons, List.not_mem_nil, or_false, not_or] at hplain
    obtain ⟨⟨hlow, hhigh⟩, hne⟩ := hplain
    refine ⟨hlow, hhigh, ?_⟩
    simp [hne]
  · decide

section

variable {segments : List String} {c : Char}

theorem visible_of_mem_pathOf (h : c ∈ (pathOf segments).toList) :
    0x20 < c.toNat ∧ c.toNat < 0x7F ∧ c ∉ ['?', '#', '\\', '"'] := by
  rw [toList_pathOf] at h
  rcases Url.mem_slashed h with rfl | ⟨part, hpart, hc⟩
  · decide
  · apply isSegmentChar_visible
    exact isSegmentChar_of_mem_map hpart hc

theorem slash_not_mem_segment (s : String) : '/' ∉ (segment s).toList := by
  intro h
  exact absurd (isSegmentChar_of_mem h) (by decide)

theorem count_slash_pathOf (segments : List String) :
    (pathOf segments).toList.count '/' = segments.length := by
  rw [toList_pathOf]
  induction segments with
  | nil => rfl
  | cons s rest ih =>
    have hnone : (segment s).toList.count '/' = 0 :=
      List.count_eq_zero_of_not_mem (slash_not_mem_segment s)
    unfold Url.slashed at ih ⊢
    rw [List.map_cons, List.flatMap_cons, List.count_append, List.count_cons_self, hnone, ih,
      List.length_cons]
    omega

/-! ## Reading a path -/

/-- The segments of a path, as the bytes that they stand for. -/
def pathSegments (path : String) : List (List UInt8) :=
  (Text.splitOn '/' path.toList.tail).map fun cs => Text.Percent.decode (String.ofList cs)

theorem pathSegments_pathOf (hne : segments ≠ []) :
    pathSegments (pathOf segments) = segments.map Text.Utf8.encode := by
  have hslash : ∀ part ∈ segments.map segment, '/' ∉ part.toList := by
    intro part hpart
    obtain ⟨s, -, rfl⟩ := List.mem_map.mp hpart
    exact slash_not_mem_segment s
  rw [pathSegments, toList_pathOf, Url.splitOn_slashed hslash (by simpa using hne), List.map_map,
    List.map_map]
  refine List.map_congr_left fun s _ => ?_
  simp [decode_segment]

/-- The segments of a path, as texts. -/
def readPath (path : String) : Except Text.Utf8.Error (List String) :=
  (pathSegments path).mapM Text.Utf8.decode

theorem readPath_pathOf (hne : segments ≠ []) : readPath (pathOf segments) = .ok segments := by
  unfold readPath
  rw [pathSegments_pathOf hne]
  clear hne
  induction segments with
  | nil => rfl
  | cons s rest ih =>
    rw [List.map_cons, List.mapM_cons, Text.Utf8.decode_encode, ih]
    rfl

/-- Paths with the same text have the same segments. -/
theorem pathOf_inj {others : List String} (hne : segments ≠ []) (hne' : others ≠ [])
    (h : pathOf segments = pathOf others) : segments = others := by
  have hread := readPath_pathOf hne
  rw [h, readPath_pathOf hne'] at hread
  exact (Except.ok.inj hread).symm

/-! ## Patterns in a path -/

theorem Text.Percent.encode_append (plain : Char → Bool) (s t : String) :
    encode plain (s ++ t) = encode plain s ++ encode plain t := by
  unfold encode
  rw [String.toList_append, List.flatMap_append, String.ofList_append]

/-- Stars and commas mean something to the engine, and stay where they are. -/
theorem segment_append_mark (before after : String) (h : c ∈ ['*', ',']) :
    segment (before ++ String.singleton c ++ after) =
      segment before ++ String.singleton c ++ segment after := by
  have hplain : plainInSegment c = true := by
    rcases List.mem_pair.mp h with rfl | rfl <;> decide
  have hmark : segment (String.singleton c) = String.singleton c := by
    apply Text.Percent.encode_of_plain
    rw [String.toList_singleton]
    exact List.forall_mem_singleton.mpr hplain
  unfold segment at hmark ⊢
  rw [Text.Percent.encode_append, Text.Percent.encode_append, hmark]

theorem pathOf_append_cons (front back : List String) (s : String) :
    pathOf (front ++ s :: back) = pathOf front ++ "/" ++ segment s ++ pathOf back := by
  apply String.toList_inj.mp
  simp only [toList_pathOf, Url.slashed, String.toList_append, List.map_append, List.map_cons,
    List.flatMap_append, List.flatMap_cons]
  simp

end

/-- A path of any segments consists of ASCII that can be seen and has no meaning
elsewhere in a URL, with one slash for each segment, in front of it. Whoever reads
what stands between the slashes gets the segments back, so that no other segments
have this path. Stars and commas stand in it as they are. -/
theorem pathOf_lossless {segments : List String} (hne : segments ≠ []) :
    (∀ c ∈ (pathOf segments).toList,
      0x20 < c.toNat ∧ c.toNat < 0x7F ∧ c ∉ ['?', '#', '\\', '"']) ∧
    (pathOf segments).toList.count '/' = segments.length ∧
    (pathOf segments).toList.head? = some '/' ∧
    readPath (pathOf segments) = .ok segments ∧
    (∀ others, others ≠ [] → others ≠ segments → pathOf others ≠ pathOf segments) ∧
    ∀ front before after back, ∀ c ∈ ['*', ','],
      segments = front ++ (before ++ String.singleton c ++ after) :: back →
      pathOf segments =
        pathOf front ++ "/" ++ segment before ++ String.singleton c ++ segment after ++
          pathOf back := by
  refine ⟨?_, ?_, ?_, ?_, ?_, ?_⟩
  · intro c hc
    exact visible_of_mem_pathOf hc
  · exact count_slash_pathOf segments
  · cases segments with
    | nil => exact absurd rfl hne
    | cons s rest =>
      rw [toList_pathOf]
      rfl
  · exact readPath_pathOf hne
  · intro others hothers hdifferent h
    exact hdifferent (pathOf_inj hothers hne h)
  · rintro front before after back c hc rfl
    rw [pathOf_append_cons, segment_append_mark before after hc]
    simp only [String.append_assoc]

/-- The signs of encoding, an empty segment and letters beyond ASCII come back as well. -/
theorem pathOf_lossless_marks :
    pathOf ["hero-*,é-*", "", "100%/?"] = "/hero-*,%C3%A9-*//100%25%2F%3F" ∧
      readPath "/hero-*,%C3%A9-*//100%25%2F%3F" = .ok ["hero-*,é-*", "", "100%/?"] := by
  have hpath : pathOf ["hero-*,é-*", "", "100%/?"] = "/hero-*,%C3%A9-*//100%25%2F%3F" := by
    decide +kernel
  refine ⟨hpath, ?_⟩
  rw [← hpath]
  exact (pathOf_lossless (List.cons_ne_nil _ _)).2.2.2.1

end SearchStore
