import SearchStore.Proofs.Bulk.Outcome
import SearchStore.Proofs.Json.Reading
import SearchStore.Proofs.Json.Record
import SearchStore.Proofs.Url.Segment

/-! # Reading bulk texts

A bulk text has no marks for where an item ends: whoever reads it knows the line breaks, and from
the action of a header whether a body follows. `BulkItem.ofText?` reads a text in this way. The
text of any items that callers can make is read as the changes that these items ask for, so no
other changes have the same text (`Shipment.text_decodable`).
-/

namespace SearchStore

/-! ## Reading -/

/-- The action with a name. -/
def BulkAction.ofName? (name : String) : Option BulkAction :=
  [.index, .update, .delete].find? fun action => action.name = name

theorem BulkAction.ofName?_name (action : BulkAction) : ofName? action.name = some action := by
  cases action <;> rfl

namespace BulkItem

/-- What is asked for: an action, the index, the document, and a body. -/
abbrev Change := BulkAction × String × String × Option Json

/-- The change that an item asks for. Who wants to hear of it is not part of it. -/
def change (item : BulkItem) : Change := (item.action, item.index, item.id, item.body)

/-- What a header says. -/
def ofHeader? : Json → Option (BulkAction × String × String)
  | .obj [(name, .obj target)] => do
    let action ← BulkAction.ofName? name
    match Json.lookup "_index" target, Json.lookup "_id" target with
    | some (.str index), some (.str id) => return (action, index, id)
    | _, _ => none
  | _ => none

/-- The changes that lines ask for: a header for each, and a body unless it deletes. -/
def ofLines? : List Json → Option (List Change)
  | [] => some []
  | header :: rest => do
    let (action, index, id) ← ofHeader? header
    if action = .delete then
      return (action, index, id, none) :: (← ofLines? rest)
    else
      match rest with
      | [] => none
      | body :: rest => return (action, index, id, some body) :: (← ofLines? rest)

/-- The lines of a text, which all end with a line break. -/
def linesOf? (text : String) : Option (List Json) :=
  let pieces := Text.splitOn '\n' text.toList
  if pieces.getLast? = some [] then pieces.dropLast.mapM fun cs => Json.read? (String.ofList cs)
  else none

/-- The changes that a text asks for. -/
def ofText? (text : String) : Option (List Change) := (linesOf? text).bind ofLines?

/-! ## Items that callers make -/

/-- The items that callers can make, whoever wants to hear of them. -/
inductive Made : BulkItem → Prop
  | put (index id : String) {document : Json} (h : document.IsFinite) (hooks : Hooks) :
      Made { put index id document with hooks }
  | update (index id : String) {body : Json} (h : body.IsFinite) (hooks : Hooks) :
      Made { update index id body with hooks }
  | merge (index id : String) {doc : Json} (h : doc.IsFinite) (hooks : Hooks) :
      Made { merge index id doc with hooks }
  | upsert (index id : String) {doc : Json} (h : doc.IsFinite) (hooks : Hooks) :
      Made { upsert index id doc with hooks }
  | delete (index id : String) (hooks : Hooks) : Made { delete index id with hooks }

namespace Made

variable {item : BulkItem}

/-- An item has a body unless it deletes. -/
theorem body_eq_none_iff (h : item.Made) : item.body = none ↔ item.action = .delete := by
  cases h <;> simp [BulkItem.put, BulkItem.update, BulkItem.merge, BulkItem.upsert,
    BulkItem.delete]

theorem isFinite_body (h : item.Made) {j : Json} (hj : item.body = some j) : j.IsFinite := by
  cases h with
  | put _ _ h | update _ _ h => cases hj; exact h
  | merge _ _ h => cases hj; exact .obj (by simpa using h)
  | upsert _ _ h => cases hj; exact .obj (by simpa using ⟨h, .bool true⟩)
  | delete => cases hj

theorem isFinite_of_mem_lines (h : item.Made) : ∀ j ∈ item.lines, j.IsFinite := by
  have htarget : (Json.obj [("_id", .str item.id), ("_index", .str item.index)]).IsFinite :=
    .obj (by simpa using ⟨.str item.id, .str item.index⟩)
  intro j hj
  rcases List.mem_cons.mp hj with rfl | hj
  · exact .obj (by simpa using htarget)
  · exact h.isFinite_body (by simpa using hj)

end Made

theorem ofHeader?_header (item : BulkItem) :
    ofHeader? item.header = some (item.action, item.index, item.id) := by
  rw [header, ofHeader?, BulkAction.ofName?_name]
  rfl

/-- The lines of items are read as the changes that the items ask for. -/
theorem ofLines?_lines {items : List BulkItem} (h : ∀ item ∈ items, item.Made) :
    ofLines? (items.flatMap lines) = some (items.map change) := by
  induction items with
  | nil => rfl
  | cons item rest ih =>
    rw [List.forall_mem_cons] at h
    have hrest := ih h.2
    rw [List.flatMap_cons, lines, List.cons_append, ofLines?, ofHeader?_header, List.map_cons,
      change]
    cases hbody : item.body with
    | none =>
      have haction := h.1.body_eq_none_iff.mp hbody
      simp [haction, hrest]
    | some body =>
      have haction : item.action ≠ .delete := by
        rw [ne_eq, ← h.1.body_eq_none_iff, hbody]
        exact Option.some_ne_none body
      simp [haction, hrest]

end BulkItem

/-! ## Lines -/

/-- Lines that are ended with a separator are the pieces between separators, and an empty one. -/
theorem Text.splitOn_flatMap {α : Type} [DecidableEq α] {separator : α} {lines : List (List α)}
    (h : ∀ l ∈ lines, separator ∉ l) :
    splitOn separator (lines.flatMap fun l => l ++ [separator]) = lines ++ [[]] := by
  induction lines with
  | nil => rfl
  | cons l rest ih =>
    rw [List.forall_mem_cons] at h
    rw [List.flatMap_cons, List.append_assoc, List.singleton_append, splitOn_append h.1, ih h.2,
      List.cons_append]

namespace Shipment

variable {items : List BulkItem}

theorem toList_text (items : List BulkItem) : (text items).toList =
    ((items.flatMap BulkItem.lines).map Json.chars).flatMap fun l => l ++ ['\n'] := by
  simp [text, BulkItem.encode, Json.render, String.toList_join, List.flatMap_map,
    List.flatMap_assoc]

/-- A text has a line break behind each line, and no other. -/
theorem splitOn_text (h : ∀ item ∈ items, item.Made) :
    Text.splitOn '\n' (text items).toList =
      (items.flatMap BulkItem.lines).map Json.chars ++ [[]] := by
  rw [toList_text, Text.splitOn_flatMap]
  intro l hl
  obtain ⟨j, hj, rfl⟩ := List.mem_map.mp hl
  obtain ⟨item, hitem, hj⟩ := List.mem_flatMap.mp hj
  exact Json.newline_not_mem_chars ((h item hitem).isFinite_of_mem_lines j hj)

theorem linesOf?_text (h : ∀ item ∈ items, item.Made) :
    BulkItem.linesOf? (text items) = some (items.flatMap BulkItem.lines) := by
  have hread : ∀ j ∈ items.flatMap BulkItem.lines,
      Json.read? (String.ofList (Json.chars j)) = some j := by
    intro j hj
    obtain ⟨item, hitem, hj⟩ := List.mem_flatMap.mp hj
    exact Json.read?_render ((h item hitem).isFinite_of_mem_lines j hj)
  rw [BulkItem.linesOf?, splitOn_text h]
  simp only [List.getLast?_concat, if_true, List.dropLast_concat]
  exact Json.mapM_map_eq (f := fun cs => Json.read? (String.ofList cs)) hread

/-- The text of items is read as the changes that they ask for. -/
theorem ofText?_text (h : ∀ item ∈ items, item.Made) :
    BulkItem.ofText? (text items) = some (items.map BulkItem.change) := by
  rw [BulkItem.ofText?, linesOf?_text h, Option.bind_some, BulkItem.ofLines?_lines h]

/-- The text of items has a line break behind each line and no other, and read line by line it
says which changes the items ask for, in order. So no other changes have that text. -/
theorem text_decodable (items : List BulkItem) (h : ∀ item ∈ items, item.Made) :
    Text.splitOn '\n' (text items).toList =
        (items.flatMap BulkItem.lines).map Json.chars ++ [[]] ∧
      BulkItem.ofText? (text items) = some (items.map BulkItem.change) ∧
      ∀ others : List BulkItem, (∀ item ∈ others, item.Made) →
        text others = text items → others.map BulkItem.change = items.map BulkItem.change := by
  have hread {items : List BulkItem} (h : ∀ item ∈ items, item.Made) :
      BulkItem.ofText? (text items) = some (items.map BulkItem.change) := by
    rw [BulkItem.ofText?, linesOf?_text h, Option.bind_some, BulkItem.ofLines?_lines h]
  refine ⟨splitOn_text h, hread h, fun others hothers htext => ?_⟩
  have hchanges := hread hothers
  rw [htext, hread h] at hchanges
  exact (Option.some.inj hchanges).symm

/-- Names and strings with quotes, backslashes, line breaks and characters of all kinds. -/
theorem text_decodable_breaks :
    let document : Json := .obj [("a\n\"b", .arr [.str "\\n\x01\u2028é😀", .int (-5), .null])]
    let items : List BulkItem :=
      [.put "i\r\n" "\"\\" document, .delete "\t" "", .upsert "i" "1" (.real ⟨0xBFB999999999999A⟩)]
    (∀ item ∈ items, item.Made) ∧
      BulkItem.ofText? (text items) =
        some [(.index, "i\r\n", "\"\\", some document), (.delete, "\t", "", none),
          (.update, "i", "1",
            some (.obj [("doc", .real ⟨0xBFB999999999999A⟩), ("doc_as_upsert", .bool true)]))] := by
  intro document items
  have hdocument : document.IsFinite :=
    .obj (by simpa using .arr (by simpa using ⟨.str _, .int _, .null⟩))
  have hmade : ∀ item ∈ items, item.Made := by
    simp only [items, List.forall_mem_cons]
    exact ⟨.put _ _ hdocument {}, .delete _ _ {}, .upsert _ _ (.real (by decide)) {}, by simp⟩
  exact ⟨hmade, (text_decodable items hmade).2.1⟩

end Shipment

end SearchStore
