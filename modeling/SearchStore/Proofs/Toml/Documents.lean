import SearchStore.Proofs.Toml.Values

/-! # Documents come back

A document has a line for each value, and then the tables with a line for each of theirs. The
text of some lines `Reads` as some statements if these are what is read of it, whatever follows;
so a line can be read on its own, and a text after the other. What the statements build are the
values and the tables, because no name stands twice (`parse?_render`).
-/

namespace SearchStore.Toml

open Json (lookup)

variable {rest text : List Char} {name : String} {j : Json} {ms : List (String × Json)}

/-! ## Names -/

/-- A name that needs no quotes. -/
def Plain (name : String) : Prop := name.toList ≠ [] ∧ name.toList.all isKeyChar

instance (name : String) : Decidable (Plain name) := inferInstanceAs (Decidable (_ ∧ _))

/-- Names for the members of a table. -/
def Names (names : List String) : Prop := names.Nodup ∧ ∀ name ∈ names, Plain name

instance (names : List String) : Decidable (Names names) := inferInstanceAs (Decidable (_ ∧ _))

theorem Names.sublist {names names' : List String} (h : Names names) (hsub : names'.Sublist names) :
    Names names' :=
  ⟨h.1.sublist hsub, fun name hname => h.2 name (hsub.subset hname)⟩

theorem ne_of_isKeyChar {c d : Char} (h : isKeyChar c) (hd : isKeyChar d = false) : c ≠ d := by
  rintro rfl
  exact absurd h (by simp [hd])

theorem solid_of_isKeyChar {c : Char} (h : isKeyChar c) : Solid c := by
  simp only [Solid, List.mem_cons, List.not_mem_nil, or_false, not_or]
  exact ⟨ne_of_isKeyChar h (by decide), ne_of_isKeyChar h (by decide),
    ne_of_isKeyChar h (by decide), ne_of_isKeyChar h (by decide), ne_of_isKeyChar h (by decide)⟩

theorem Plain.isKeyChar_of_mem (h : Plain name) : ∀ c ∈ name.toList, isKeyChar c :=
  List.all_eq_true.mp h.2

theorem Plain.exists_cons (h : Plain name) :
    ∃ c, isKeyChar c ∧ ∃ rest, name.toList = c :: rest := by
  obtain ⟨c, rest, heq⟩ := List.exists_cons_of_ne_nil h.1
  exact ⟨c, h.isKeyChar_of_mem c (by simp [heq]), rest, heq⟩

theorem dropBlanks_cons {c : Char} (h : Solid c) (rest : List Char) :
    dropBlanks (c :: rest) = c :: rest := by
  simp only [Solid, List.mem_cons, List.not_mem_nil, or_false, not_or] at h
  simp [dropBlanks, isBlank, h]

theorem name?_append (h : Plain name) {c : Char} (hc : isKeyChar c = false) (rest : List Char) :
    name? (name.toList ++ c :: rest) = some (name, c :: rest) := by
  rw [name?, span_append h.isKeyChar_of_mem hc]
  split
  · next heq => exact absurd (Prod.mk.inj heq).1 h.1
  · next heq =>
    obtain ⟨rfl, rfl⟩ := Prod.mk.inj heq
    simp

/-- A plain name is a key by itself, with blanks behind it or without. -/
theorem keyBefore?_append (h : Plain name) {c sign : Char} (hc : isKeyChar c = false)
    {rest rest' : List Char} (hblanks : dropBlanks (c :: rest) = sign :: rest')
    (hdot : sign ≠ '.') :
    keyBefore? sign (name.toList ++ c :: rest) = some (([], name), rest') := by
  have hname := name?_append h hc rest
  obtain ⟨d, hd, name', heq⟩ := h.exists_cons
  have hdrop := dropBlanks_cons (solid_of_isKeyChar hd) (name' ++ c :: rest)
  rw [heq, List.cons_append] at hname ⊢
  rw [keyBefore?, depthLimit, key?, hdrop, hname]
  simp only [Option.bind_eq_bind, Option.bind_some, hblanks, Option.pure_def]
  split
  · next heq => exact absurd (List.cons.inj heq).1 hdot
  · simp

/-! ## Statements -/

/-- The end of a line is cut off. -/
theorem endLine?_break (rest : List Char) : endLine? ('\n' :: rest) = some rest := rfl

theorem statement?_assign (h : Plain name) (htext : valueText? j = some text) (rest : List Char) :
    statement? (name.toList ++ ' ' :: '=' :: ' ' :: (text ++ '\n' :: rest)) =
      some (.assign [] name j, '\n' :: rest) := by
  have hkey : keyBefore? '=' (name.toList ++ ' ' :: '=' :: ' ' :: (text ++ '\n' :: rest)) =
      some (([], name), ' ' :: (text ++ '\n' :: rest)) :=
    keyBefore?_append h (by decide) rfl (by decide)
  have hdrop : dropBlanks (' ' :: (text ++ '\n' :: rest)) = text ++ '\n' :: rest := by
    obtain ⟨c, hc, text, rfl⟩ := exists_solid htext
    exact dropBlanks_cons hc _
  -- of the levels that are allowed an array needs one
  have hvalue : value? depthLimit (2 * (text ++ '\n' :: rest).length + 2) (text ++ '\n' :: rest) =
      some (j, '\n' :: rest) := by
    refine value?_valueText 78 htext ?_ (.cons (by decide) rest)
    rw [List.length_append]
    omega
  obtain ⟨c, hc, name', heq⟩ := h.exists_cons
  have hbracket : c ≠ '[' := ne_of_isKeyChar hc (by decide)
  rw [heq, List.cons_append] at hkey ⊢
  rw [statement?]
  · simp only [hkey, Option.bind_eq_bind, Option.bind_some, hdrop, hvalue, Option.pure_def]
  · exact fun _ heq => hbracket (List.cons.inj heq).1
  · exact fun _ heq => hbracket (List.cons.inj heq).1

theorem statement?_header (h : Plain name) (rest : List Char) :
    statement? ('[' :: (name.toList ++ ']' :: rest)) = some (.header [] name, rest) := by
  have hkey := keyBefore?_append h (c := ']') (by decide) (dropBlanks_cons (by decide) rest)
    (by decide)
  obtain ⟨c, hc, name', heq⟩ := h.exists_cons
  have hbracket : c ≠ '[' := ne_of_isKeyChar hc (by decide)
  rw [heq, List.cons_append] at hkey ⊢
  rw [statement?]
  · simp [hkey]
  · exact fun _ heq => hbracket (List.cons.inj heq).1

/-- The statements are what is read of the text, and those of what follows come after them. -/
structure Reads (ss : List Statement) (text : List Char) : Prop where
  read : ∀ fuel rest,
    statements? (fuel + ss.length) (text ++ rest) = (statements? fuel rest).map (ss ++ ·)
  length : ss.length ≤ text.length
  /-- The text does not begin with the mark that is cut off. -/
  unmarked : ∀ rest, text ≠ '\uFEFF' :: rest

theorem Reads.nil : Reads [] [] where
  read fuel rest := by simp
  length := Nat.le_refl 0
  unmarked := by simp

theorem Reads.append {ss ss' : List Statement} {text text' : List Char} (h : Reads ss text)
    (h' : Reads ss' text') : Reads (ss ++ ss') (text ++ text') where
  read fuel rest := by
    rw [List.length_append, Nat.add_comm ss.length, ← Nat.add_assoc, List.append_assoc, h.read,
      h'.read, Option.map_map]
    simp [Function.comp_def]
  length := by
    have hle := h.length
    have hle' := h'.length
    simp only [List.length_append]
    omega
  unmarked rest := by
    cases text with
    | nil => exact h'.unmarked rest
    | cons c text => exact fun heq => h.unmarked text (by rw [(List.cons.inj heq).1])

/-- A text that no gap begins is read as the statement that ends at its end. -/
theorem Reads.line {s : Statement} {c : Char} (hc : Solid c) (hmark : c ≠ '\uFEFF')
    {text text' : List Char} (htext : text = c :: text')
    (h : ∀ rest, statement? (text ++ '\n' :: rest) = some (s, '\n' :: rest)) :
    Reads [s] (text ++ ['\n']) where
  read fuel rest := by
    have hstatement := h rest
    rw [htext, List.cons_append] at hstatement ⊢
    rw [List.length_singleton, statements?, List.cons_append, List.append_assoc,
      List.singleton_append, skipGap?_cons hc]
    simp [hstatement, endLine?_break, Option.map_eq_bind]
  length := by simp
  unmarked rest heq := by
    rw [htext] at heq
    exact hmark (List.cons.inj heq).1

/-- Gaps between lines are skipped. -/
theorem Reads.gap {ss : List Statement} {text : List Char} (h : Reads ss text) :
    Reads ss ('\n' :: text) where
  read fuel rest := by
    have hskip (n : Nat) (cs : List Char) : statements? n ('\n' :: cs) = statements? n cs := by
      rw [statements?.eq_def, statements?.eq_def n cs]
      simp only [skipGap?_break]
    rw [List.cons_append, hskip, h.read]
  length := Nat.le_succ_of_le h.length
  unmarked rest heq := absurd (List.cons.inj heq).1 (by decide)

/-! ## Lines and tables -/

/-- The statements that give values to names. -/
def assigns (ms : List (String × Json)) : List Statement := ms.map fun m => .assign [] m.1 m.2

theorem reads_line? (h : Plain name) (htext : line? (name, j) = some text) :
    Reads [.assign [] name j] text := by
  obtain ⟨value, hvalue, htext⟩ := Option.bind_eq_some_iff.mp htext
  obtain rfl := Option.some.inj htext
  obtain ⟨c, hc, name', heq⟩ := h.exists_cons
  have hline : name.toList ++ " = ".toList ++ value = c :: (name' ++ " = ".toList ++ value) := by
    simp [heq]
  refine Reads.line (solid_of_isKeyChar hc) (ne_of_isKeyChar hc (by decide)) hline fun rest => ?_
  simpa using statement?_assign h hvalue rest

theorem reads_lines? (h : ∀ m ∈ ms, Plain m.1) (htext : lines? ms = some text) :
    Reads (assigns ms) text := by
  obtain ⟨lines, hlines, hflat⟩ := Option.bind_eq_some_iff.mp htext
  obtain rfl := Option.some.inj hflat
  clear htext hflat
  -- a line for each member, in their order
  induction Json.mapM_eq_some_iff.mp hlines with
  | nil => exact .nil
  | @cons m line ms lines hline hrest ih =>
    obtain ⟨hm, hms⟩ := List.forall_mem_cons.mp h
    exact (reads_line? hm hline).append (ih hms (Json.mapM_eq_some_iff.mpr hrest))

theorem reads_section? (h : Plain name) (hnames : ∀ m ∈ ms, Plain m.1)
    (htext : section? name ms = some text) : Reads (.header [] name :: assigns ms) text := by
  obtain ⟨lines, hlines, htext⟩ := Option.bind_eq_some_iff.mp htext
  obtain rfl := Option.some.inj htext
  have hheader : Reads [.header [] name] (('[' :: (name.toList ++ [']'])) ++ ['\n']) := by
    refine Reads.line (c := '[') (by decide) (by decide) rfl fun rest => ?_
    simpa using statement?_header h ('\n' :: rest)
  simpa using hheader.gap.append (reads_lines? hnames hlines)

theorem isValue_iff {m : String × Json} : isValue m = true ↔ ∀ members, m.2 ≠ .obj members := by
  obtain ⟨k, j⟩ := m
  cases j <;> simp [isValue]

/-- The tables among some members. -/
def tables : List (String × Json) → List (String × List (String × Json))
  | [] => []
  | (name, .obj members) :: rest => (name, members) :: tables rest
  | _ :: rest => tables rest

theorem tables_append {values : List (String × Json)} (h : ∀ m ∈ values, isValue m)
    (others : List (String × Json)) : tables (values ++ others) = tables others := by
  induction values with
  | nil => rfl
  | cons m values ih =>
    obtain ⟨hm, hvalues⟩ := List.forall_mem_cons.mp h
    rw [List.cons_append, tables, ih hvalues]
    exact fun name members heq => isValue_iff.mp hm members (by rw [heq])

/-- The statements of some tables. -/
def sections (ts : List (String × List (String × Json))) : List Statement :=
  ts.flatMap fun t => .header [] t.1 :: assigns t.2

theorem reads_sections? (h : ∀ t ∈ tables ms, Plain t.1 ∧ ∀ m ∈ t.2, Plain m.1)
    (htext : sections? ms = some text) : Reads (sections (tables ms)) text := by
  induction ms using tables.induct generalizing text with
  | case1 =>
    obtain rfl : [] = text := Option.some.inj htext
    exact .nil
  | case2 name members rest ih =>
    rw [tables, List.forall_mem_cons] at h
    rw [sections?] at htext
    obtain ⟨first, hfirst, htext⟩ := Option.bind_eq_some_iff.mp htext
    obtain ⟨others, hothers, htext⟩ := Option.bind_eq_some_iff.mp htext
    obtain rfl := Option.some.inj htext
    exact (reads_section? h.1.1 h.1.2 hfirst).append (ih h.2 hothers)
  | case3 m rest hvalue ih =>
    rw [tables] at h ⊢
    · rw [sections?] at htext
      · exact ih h htext
      · exact hvalue
    · exact hvalue
    · exact hvalue

/-! ## What can be written -/

theorem isSome_lines? : (lines? ms).isSome ↔ ∀ m ∈ ms, Value m.2 := by
  have hline (m : String × Json) : (line? m).isSome ↔ Value m.2 := by
    rw [line?, ← isSome_valueText?]
    cases valueText? m.2 <;> simp
  have hlines : (lines? ms).isSome ↔ (ms.mapM line?).isSome := by
    rw [lines?]
    cases ms.mapM line? <;> simp
  simp only [hlines, Json.isSome_mapM, hline]

theorem isSome_sections? : (sections? ms).isSome ↔ ∀ t ∈ tables ms, ∀ m ∈ t.2, Value m.2 := by
  induction ms using tables.induct with
  | case1 => simp [sections?, tables]
  | case2 name members rest ih =>
    rw [tables, List.forall_mem_cons, ← ih, ← isSome_lines?, sections?, section?]
    cases lines? members <;> cases sections? rest <;> simp
  | case3 m rest hvalue ih =>
    rw [tables, sections?]
    · exact ih
    · exact hvalue
    · exact hvalue

/-- Members can be written if their values can, and those of their tables. -/
theorem isSome_render? : (render? ms).isSome ↔
    (∀ m ∈ ms.filter isValue, Value m.2) ∧ ∀ t ∈ tables ms, ∀ m ∈ t.2, Value m.2 := by
  rw [render?, ← isSome_lines?, ← isSome_sections?]
  cases lines? (ms.filter isValue) <;> cases sections? ms <;> simp

/-! ## Building tables -/

namespace Members

variable {members : Members} {node : Node}

theorem set_append (h : name ∉ members.map Prod.fst) (node : Node) (rest : Members) :
    set name node (members ++ rest) = members ++ set name node rest := by
  induction members with
  | nil => rfl
  | cons m members ih =>
    obtain ⟨k, n⟩ := m
    have hparts : k ≠ name ∧ name ∉ members.map Prod.fst := by
      simpa [eq_comm] using h
    rw [List.cons_append, set, if_neg hparts.1, ih hparts.2, List.cons_append]

theorem assign_new (h : name ∉ members.map Prod.fst) (j : Json) :
    assign name j [] members = some (members ++ [(name, .value j)]) := by
  have hset := set_append h (.value j) []
  rw [List.append_nil] at hset
  rw [assign, Json.lookup_eq_none_iff.mpr h, hset]
  rfl

theorem name_new (h : name ∉ members.map Prod.fst) :
    Members.name name members = some (members ++ [(name, .table .header [])]) := by
  have hset := set_append h (.table .header []) []
  rw [List.append_nil] at hset
  rw [Members.name, Json.lookup_eq_none_iff.mpr h]
  exact congrArg some hset

/-- What is changed in the table that was begun last. -/
theorem changeAt_last (h : name ∉ members.map Prod.fst) (change : Members → Option Members)
    (inner : Members) :
    changeAt change [name] (members ++ [(name, .table .header inner)]) =
      (change inner).map fun inner => members ++ [(name, .table .header inner)] := by
  have hlookup : lookup name (members ++ [(name, Node.table .header inner)]) =
      some (.table .header inner) := by
    simp [Json.lookup_append, Json.lookup_eq_none_iff.mpr h, Json.lookup_cons]
  rw [changeAt, hlookup]
  simp [changeAt, set_append h, set, Option.map_eq_bind]

end Members

/-- The nodes of some values. -/
def nodes (ms : List (String × Json)) : Members := ms.map fun m => (m.1, .value m.2)

@[simp]
theorem names_nodes (ms : List (String × Json)) :
    (nodes ms).map Prod.fst = ms.map Prod.fst := by
  simp [nodes]

/-- Values get into the table that is open, wherever it stands. -/
theorem build_assigns {here : List String} (frame : Members → Members)
    (hframe : ∀ change inner, (frame inner).changeAt change here = (change inner).map frame)
    (inner : Members) (hnodup : (inner.map Prod.fst ++ ms.map Prod.fst).Nodup)
    (rest : List Statement) :
    build here (frame inner) (assigns ms ++ rest) =
      build here (frame (inner ++ nodes ms)) rest := by
  induction ms generalizing inner with
  | nil => simp [assigns, nodes]
  | cons m ms ih =>
    obtain ⟨k, j⟩ := m
    have hk : k ∉ inner.map Prod.fst := fun hmem =>
      List.disjoint_of_nodup_append hnodup hmem List.mem_cons_self
    have hrest := ih (inner ++ [(k, .value j)]) (by simpa using hnodup)
    have hassign : assigns ((k, j) :: ms) = .assign [] k j :: assigns ms := rfl
    have hnodes : nodes ((k, j) :: ms) = (k, .value j) :: nodes ms := rfl
    rw [hassign, List.cons_append, build, hframe, Members.assign_new hk]
    simpa [hnodes] using hrest

/-- The tables come after what stood before them, whichever table was open. -/
theorem build_sections (ts : List (String × List (String × Json))) (members : Members)
    (hnodup : (members.map Prod.fst ++ ts.map Prod.fst).Nodup)
    (hinner : ∀ t ∈ ts, (t.2.map Prod.fst).Nodup) (here : List String) :
    build here members (sections ts) =
      some (members ++ ts.map fun t => (t.1, .table .header (nodes t.2))) := by
  induction ts generalizing members here with
  | nil => simp [sections, build]
  | cons t ts ih =>
    obtain ⟨name, ms⟩ := t
    obtain ⟨hms, hts⟩ := List.forall_mem_cons.mp hinner
    have hname : name ∉ members.map Prod.fst := fun hmem =>
      List.disjoint_of_nodup_append hnodup hmem List.mem_cons_self
    -- the table is begun empty, and its values get into it while it is the open one
    have hassigns : build [name] (members ++ [(name, .table .header [])])
        (assigns ms ++ sections ts) =
          build [name] (members ++ [(name, .table .header (nodes ms))]) (sections ts) :=
      build_assigns (fun inner => members ++ [(name, .table .header inner)])
        (Members.changeAt_last hname) [] (by simpa using hms) (sections ts)
    have hrest := ih (members ++ [(name, .table .header (nodes ms))]) (by simpa using hnodup) hts
      [name]
    have hsections : sections ((name, ms) :: ts) =
        .header [] name :: (assigns ms ++ sections ts) := rfl
    rw [hsections, build, Members.changeAt, Members.name_new hname]
    refine hassigns.trans ?_
    simpa using hrest

/-! ## Documents -/

theorem membersJson_eq (members : Members) :
    membersJson members = members.map fun m => (m.1, m.2.toJson) := by
  induction members with
  | nil => rfl
  | cons m members ih =>
    obtain ⟨k, n⟩ := m
    rw [membersJson, ih, List.map_cons]

theorem membersJson_nodes (ms : List (String × Json)) : membersJson (nodes ms) = ms := by
  rw [membersJson_eq, nodes, List.map_map]
  exact List.map_id _

/-- The members as a document has them, with the tables behind the values. -/
def arranged (ms : List (String × Json)) : List (String × Json) :=
  ms.filter isValue ++ ms.filter fun m => !isValue m

theorem map_tables (ms : List (String × Json)) :
    (tables ms).map (fun t => (t.1, Json.obj t.2)) = ms.filter fun m => !isValue m := by
  induction ms using tables.induct with
  | case1 => rfl
  | case2 name members rest ih => simp [tables, isValue, ih]
  | case3 m rest hvalue ih =>
    have hm : isValue m = true :=
      isValue_iff.mpr fun members heq => hvalue m.1 members (by rw [← heq])
    rw [tables]
    · simp [hm, ih]
    · exact hvalue

/-- Members stay where they are if the tables stand behind the values. -/
theorem arranged_append {values others : List (String × Json)} (h : ∀ m ∈ values, isValue m)
    (h' : ∀ m ∈ others, ¬ isValue m) : arranged (values ++ others) = values ++ others := by
  have hvalues : (values ++ others).filter isValue = values := by
    rw [List.filter_append, List.filter_eq_self.mpr h, List.filter_eq_nil_iff.mpr h',
      List.append_nil]
  have hothers : (values ++ others).filter (fun m => !isValue m) = others := by
    rw [List.filter_append, List.filter_eq_nil_iff.mpr (by simpa using h),
      List.filter_eq_self.mpr (by simpa using h'), List.nil_append]
  rw [arranged, hvalues, hothers]

theorem arranged_perm (ms : List (String × Json)) : (arranged ms).Perm ms :=
  List.filter_append_perm isValue ms

theorem names_arranged (ms : List (String × Json)) :
    (arranged ms).map Prod.fst = (ms.filter isValue).map Prod.fst ++ (tables ms).map Prod.fst := by
  rw [arranged, ← map_tables, List.map_append, List.map_map]
  rfl

theorem Reads.statements?_eq {ss : List Statement} (h : Reads ss text) :
    statements? text.length text = some ss := by
  have hread := h.read (text.length - ss.length) []
  have hend (fuel : Nat) : statements? fuel [] = some [] := by
    rw [statements?.eq_def]
    rfl
  -- the fuel is enough, since every statement has a character
  rw [Nat.sub_add_cancel h.length, List.append_nil, hend] at hread
  simpa using hread

theorem contents_ofList (h : ∀ rest, text ≠ '\uFEFF' :: rest) :
    contents (String.ofList text) = text := by
  rw [contents, String.toList_ofList]
  split
  · next rest => exact absurd rfl (h rest)
  · rfl

/-- The statements of a document build its members. -/
theorem build_arranged (hnodup : (ms.map Prod.fst).Nodup)
    (htables : ∀ t ∈ tables ms, (t.2.map Prod.fst).Nodup) :
    (build [] [] (assigns (ms.filter isValue) ++ sections (tables ms))).map membersJson =
      some (arranged ms) := by
  have hsplit : ((ms.filter isValue).map Prod.fst ++ (tables ms).map Prod.fst).Nodup := by
    rw [← names_arranged]
    exact ((arranged_perm ms).map Prod.fst).nodup_iff.mpr hnodup
  -- no table is open before the first header, so the values get into the document itself
  have hassigns : build [] [] (assigns (ms.filter isValue) ++ sections (tables ms)) =
      build [] (nodes (ms.filter isValue)) (sections (tables ms)) :=
    build_assigns id (fun change inner => by simp [Members.changeAt]) []
      (by simpa using hsplit.of_append_left) _
  have hsections := build_sections (tables ms) (nodes (ms.filter isValue))
    (by simpa using hsplit) htables []
  have htoJson : ((tables ms).map fun t => (t.1, Node.table .header (nodes t.2))).map
      (fun m => (m.1, m.2.toJson)) = ms.filter fun m => !isValue m := by
    simp [← map_tables, Function.comp_def, Node.toJson, membersJson_nodes]
  have hvalues := membersJson_nodes (ms.filter isValue)
  rw [membersJson_eq] at hvalues
  rw [hassigns, hsections, Option.map_some, membersJson_eq, List.map_append, hvalues, htoJson,
    arranged]

/-- A document is read as the members that it was written for. -/
theorem parse?_render {text : String} (hnames : Names (ms.map Prod.fst))
    (htables : ∀ t ∈ tables ms, Names (t.2.map Prod.fst)) (htext : render? ms = some text) :
    parse? text = some (.obj (arranged ms)) := by
  obtain ⟨values, hvalues, htext⟩ := Option.bind_eq_some_iff.mp htext
  obtain ⟨others, hothers, htext⟩ := Option.bind_eq_some_iff.mp htext
  obtain rfl := Option.some.inj htext
  have hreads : Reads (assigns (ms.filter isValue) ++ sections (tables ms)) (values ++ others) := by
    refine (reads_lines? (fun m hm => ?_) hvalues).append (reads_sections? (fun t ht => ?_) hothers)
    · exact hnames.2 _ (List.mem_map_of_mem (List.mem_of_mem_filter hm))
    · refine ⟨?_, fun m hm => (htables t ht).2 _ (List.mem_map_of_mem hm)⟩
      have hmem : t.1 ∈ (arranged ms).map Prod.fst := by
        rw [names_arranged]
        exact List.mem_append_right _ (List.mem_map_of_mem ht)
      exact hnames.2 _ (((arranged_perm ms).map Prod.fst).subset hmem)
  obtain ⟨members, hbuild, hjson⟩ := Option.map_eq_some_iff.mp
    (build_arranged hnames.1 fun t ht => (htables t ht).1)
  rw [parse?, contents_ofList hreads.unmarked]
  simp only [hreads.statements?_eq, hbuild, hjson, Option.bind_eq_bind, Option.bind_some,
    Option.pure_def]

end SearchStore.Toml
