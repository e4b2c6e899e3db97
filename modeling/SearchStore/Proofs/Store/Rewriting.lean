import SearchStore.Proofs.Store.Lookup

/-! # What becomes of a document whose fields are set

The document with the new members in it is not what is written. The stored
document is read as an entity, the entity with the members in it is written
again, and so the document has just the members that entities are written with.
`setFields_overwrites_iff` says when that is the stored document with its members
overwritten, and what is lost if it is not: the members that the entity type does
not know, whether they are stored or set.
-/

namespace SearchStore

/-! ## Members with some names -/

namespace Json

variable {α : Type}

/-- The members that have one of some names. -/
def among (names : List String) (members : List (String × α)) : List (String × α) :=
  members.filter fun m => m.1 ∈ names

variable {names : List String} {name : String} {members : List (String × α)}

@[simp]
theorem among_nil : among names ([] : List (String × α)) = [] := rfl

theorem among_cons_of_mem {value : α} (h : name ∈ names) :
    among names ((name, value) :: members) = (name, value) :: among names members := by
  simp [among, h]

theorem among_cons_of_not_mem {value : α} (h : name ∉ names) :
    among names ((name, value) :: members) = among names members := by
  simp [among, h]

theorem mem_among {m : String × α} : m ∈ among names members ↔ m ∈ members ∧ m.1 ∈ names := by
  simp [among]

theorem among_among : among names (among names members) = among names members := by
  simp [among]

theorem among_eq_self_iff : among names members = members ↔ ∀ m ∈ members, m.1 ∈ names := by
  simp [among, List.filter_eq_self]

theorem InOrder.among (h : InOrder members) (names : List String) :
    InOrder (among names members) :=
  List.Pairwise.filter _ h

theorem lookup_among :
    lookup name (among names members) = if name ∈ names then lookup name members else none := by
  induction members with
  | nil => simp
  | cons m rest ih =>
    obtain ⟨k, v⟩ := m
    by_cases hk : k ∈ names
    · rw [among_cons_of_mem hk, lookup_cons, lookup_cons, ih]
      by_cases hname : k = name
      · subst hname
        simp [hk]
      · simp [hname]
    · rw [among_cons_of_not_mem hk, lookup_cons, ih]
      by_cases hname : k = name
      · subst hname
        simp [hk]
      · simp [hname]

/-- A member that comes before all others is put in front of them. -/
theorem insertMember_of_lt {value : α} (h : ∀ m ∈ members, name < m.1) :
    insertMember name value members = (name, value) :: members := by
  cases members with
  | nil => rfl
  | cons m rest => rw [insertMember, if_pos (h m List.mem_cons_self)]

/-- A member takes the place of one with its name. -/
theorem insertMember_cons_self (value old : α) :
    insertMember name value ((name, old) :: members) = (name, value) :: members := by
  rw [insertMember, if_neg (lt_irrefl name), if_pos rfl]

/-- A member is put behind those with smaller names. -/
theorem insertMember_cons_of_gt {k : String} (h : k < name) (value old : α) :
    insertMember name value ((k, old) :: members) =
      (k, old) :: insertMember name value members := by
  rw [insertMember, if_neg h.not_gt, if_neg h.ne']

/-- A member that is put in its place is in its place among some of the members. -/
theorem among_insertMember (h : InOrder members) (value : α) :
    among names (insertMember name value members) =
      if name ∈ names then insertMember name value (among names members)
      else among names members := by
  induction members with
  | nil => by_cases hname : name ∈ names <;> simp [insertMember, among, hname]
  | cons m rest ih =>
    obtain ⟨k, v⟩ := m
    obtain ⟨hk, hrest⟩ := List.pairwise_cons.mp h
    rcases lt_trichotomy name k with hlt | rfl | hgt
    · rw [insertMember, if_pos hlt]
      have hfirst : ∀ m ∈ among names ((k, v) :: rest), name < m.1 := by
        intro m hm
        rcases List.mem_cons.mp (mem_among.mp hm).1 with rfl | hm
        · exact hlt
        · exact hlt.trans (hk m hm)
      by_cases hname : name ∈ names
      · rw [among_cons_of_mem hname, if_pos hname, insertMember_of_lt hfirst]
      · rw [among_cons_of_not_mem hname, if_neg hname]
    · rw [insertMember_cons_self]
      by_cases hname : name ∈ names
      · rw [among_cons_of_mem hname, among_cons_of_mem hname, if_pos hname, insertMember_cons_self]
      · rw [among_cons_of_not_mem hname, among_cons_of_not_mem hname, if_neg hname]
    · rw [insertMember_cons_of_gt hgt]
      by_cases hkey : k ∈ names
      · rw [among_cons_of_mem hkey, among_cons_of_mem hkey, ih hrest, insertMember_cons_of_gt hgt]
        split_ifs
        · rfl
        · rfl
      · rw [among_cons_of_not_mem hkey, among_cons_of_not_mem hkey, ih hrest]

end Json

/-! ## Overwriting members -/

namespace Schema

variable {members fields : List (String × Json)} {name : String}

theorem overwrite_cons (f : String × Json) :
    overwrite members (f :: fields) = overwrite (Json.insertMember f.1 f.2 members) fields := rfl

theorem overwrite_append_single (f : String × Json) :
    overwrite members (fields ++ [f]) = Json.insertMember f.1 f.2 (overwrite members fields) := by
  simp [overwrite]

/-- The last one of the new members with a name counts, and the old one if there is none. -/
theorem lookup_overwrite (members fields : List (String × Json)) (name : String) :
    Json.lookup name (overwrite members fields) =
      (Json.lookup name fields.reverse).or (Json.lookup name members) := by
  induction fields using List.reverseRecOn with
  | nil => rfl
  | append_singleton fields f ih =>
    obtain ⟨k, v⟩ := f
    rw [overwrite_append_single, List.reverse_append, List.reverse_singleton,
      List.singleton_append, Json.lookup_cons]
    by_cases hk : k = name
    · subst hk
      simp
    · rw [Json.lookup_insertMember_of_ne _ hk, if_neg hk, ih]

/-- The members that are set are in the overwritten document. -/
theorem lookup_overwrite_of_mem (members : List (String × Json))
    (h : name ∈ fields.map Prod.fst) :
    Json.lookup name (overwrite members fields) = Json.lookup name fields.reverse := by
  rw [lookup_overwrite]
  rcases hlookup : Json.lookup name fields.reverse with _ | value
  · rw [Json.lookup_eq_none_iff, List.map_reverse, List.mem_reverse] at hlookup
    exact absurd h hlookup
  · rfl

/-- Members that are not set are as they were. -/
theorem lookup_overwrite_of_not_mem (members : List (String × Json))
    (h : name ∉ fields.map Prod.fst) :
    Json.lookup name (overwrite members fields) = Json.lookup name members := by
  rw [lookup_overwrite, Json.lookup_eq_none_iff.mpr, Option.none_or]
  rwa [List.map_reverse, List.mem_reverse]

/-- What is left of overwritten members is what is left of the old ones, overwritten with what is
left of the new ones. -/
theorem among_overwrite (h : Json.InOrder members) (names : List String) :
    Json.among names (overwrite members fields) =
      overwrite (Json.among names members) (Json.among names fields) := by
  induction fields generalizing members with
  | nil => rfl
  | cons f rest ih =>
    obtain ⟨k, v⟩ := f
    rw [overwrite_cons, ih (h.insertMember _ _), Json.among_insertMember h]
    by_cases hk : k ∈ names
    · rw [if_pos hk, Json.among_cons_of_mem hk, overwrite_cons]
    · rw [if_neg hk, Json.among_cons_of_not_mem hk]

/-! ## What entities are written as -/

variable {ε : Type} (schema : Schema ε)

/-- Every entity is read back from what it is written as. -/
def ReadsBack : Prop := ∀ e j, schema.encode? e = some j → schema.decode? j = some e

/-- A document is what the entity that is read from it is written as. -/
def Settled (j : Json) : Prop := ∃ e, schema.decode? j = some e ∧ schema.encode? e = some j

/-- Reading looks at the members with some names only, and passes over all others. -/
def ReadsOnly (names : List String) : Prop :=
  ∀ members, schema.decode? (.obj members) = schema.decode? (.obj (Json.among names members))

variable {schema}

theorem decode_eq_ok_iff {j : Json} {e : ε} :
    schema.decode j = .ok e ↔ schema.decode? j = some e := by
  unfold decode
  rcases schema.decode? j with _ | e'
  · simp
  · simp

theorem encode_eq_ok_iff {j : Json} {e : ε} :
    schema.encode e = .ok j ↔ schema.encode? e = some j := by
  unfold encode
  rcases schema.encode? e with _ | j'
  · simp
  · simp

/-- Only entities that are written as objects can have members set. -/
theorem merge_eq_ok_iff {e e' : ε} :
    schema.merge e fields = .ok e' ↔ ∃ written, schema.encode? e = some (.obj written) ∧
      schema.decode? (.obj (overwrite written fields)) = some e' := by
  unfold merge encode
  rcases schema.encode? e with _ | j
  · simp [bind, Except.bind]
  · cases j with
    | obj written => simp [bind, Except.bind, decode_eq_ok_iff]
    | null | bool | int | real | str | arr => simp [bind, Except.bind]

/-- The way from a document to what becomes of it. -/
theorem changed_eq_ok_iff {source doc : Json} {target : String} :
    schema.changed fields source = .ok (target, doc) ↔
      ∃ e e', schema.decode? source = some e ∧ schema.merge e fields = .ok e' ∧
        schema.id e' = target ∧ schema.encode? e' = some doc := by
  constructor
  · intro h
    unfold changed at h
    rcases hdecode : schema.decode source with error | e
    · simp [hdecode, bind, Except.bind] at h
    · rcases hmerge : schema.merge e fields with error | e'
      · simp [hdecode, hmerge, bind, Except.bind] at h
      · rcases hencode : schema.encode e' with error | doc'
        · simp [hdecode, hmerge, hencode, bind, Except.bind] at h
        · obtain ⟨htarget, hdoc⟩ : schema.id e' = target ∧ doc' = doc := by
            simpa [hdecode, hmerge, hencode, bind, Except.bind, pure, Except.pure] using h
          exact ⟨e, e', decode_eq_ok_iff.mp hdecode, hmerge, htarget,
            encode_eq_ok_iff.mp (hdoc ▸ hencode)⟩
  · rintro ⟨e, e', hdecode, hmerge, rfl, hencode⟩
    unfold changed
    rw [decode_eq_ok_iff.mpr hdecode]
    show (schema.merge e fields >>= fun changed => do
      return (schema.id changed, ← schema.encode changed)) = _
    rw [hmerge]
    show (do return (schema.id e', ← schema.encode e')) = _
    rw [encode_eq_ok_iff.mpr hencode]
    rfl

/-! ## What becomes of a document -/

section Written

variable {v doc : Json} {target : String} {e : ε} {written : List (String × Json)}
  (hchanged : schema.changed fields v = .ok (target, doc)) (hdecode : schema.decode? v = some e)

include hchanged hdecode

/-- Only what is read as an entity that is written as an object changes. -/
theorem exists_written : ∃ written, schema.encode? e = some (.obj written) := by
  obtain ⟨e', _, hdecode', hmerge, -, -⟩ := changed_eq_ok_iff.mp hchanged
  obtain rfl : e = e' := Option.some.inj (hdecode.symm.trans hdecode')
  obtain ⟨written, hwritten, -⟩ := merge_eq_ok_iff.mp hmerge
  exact ⟨written, hwritten⟩

/-- What the stored entity is written as is overwritten, and comes about if an entity is written as
that. -/
theorem eq_overwrite_of_settled (hwritten : schema.encode? e = some (.obj written))
    (hsettled : schema.Settled (.obj (overwrite written fields))) :
    doc = .obj (overwrite written fields) := by
  obtain ⟨e₁, e', hdecode₁, hmerge, -, hencode⟩ := changed_eq_ok_iff.mp hchanged
  obtain rfl : e = e₁ := Option.some.inj (hdecode.symm.trans hdecode₁)
  obtain ⟨written₁, hwritten₁, hread⟩ := merge_eq_ok_iff.mp hmerge
  obtain rfl : written = written₁ :=
    Json.obj.inj (Option.some.inj (hwritten.symm.trans hwritten₁))
  obtain ⟨e₂, hdecode₂, hencode₂⟩ := hsettled
  obtain rfl : e' = e₂ := Option.some.inj (hread.symm.trans hdecode₂)
  exact Option.some.inj (hencode.symm.trans hencode₂)

end Written

section Changed

variable {target : String} {doc : Json} (hback : schema.ReadsBack)
  (hchanged : schema.changed fields (.obj members) = .ok (target, doc))

include hback hchanged

/-- What is written is what an entity is written as. -/
theorem settled_of_changed : schema.Settled doc := by
  obtain ⟨e, e', -, -, -, hencode⟩ := changed_eq_ok_iff.mp hchanged
  exact ⟨e', hback e' doc hencode, hencode⟩

/-- The document with its members overwritten is written exactly if it is what an entity is written
as, and that is the changed entity. -/
theorem eq_overwrite_iff :
    doc = .obj (overwrite members fields) ↔ schema.Settled (.obj (overwrite members fields)) ∧
      schema.decode? (.obj (overwrite members fields)) = schema.decode? doc := by
  constructor
  · rintro rfl
    exact ⟨settled_of_changed hback hchanged, rfl⟩
  · rintro ⟨⟨e, hdecode, hencode⟩, hsame⟩
    obtain ⟨e', hdecode', hencode'⟩ := settled_of_changed hback hchanged
    obtain rfl : e = e' := Option.some.inj (hdecode.symm.trans (hsame.trans hdecode'))
    exact Option.some.inj (hencode'.symm.trans hencode)

/-- A document that an entity was written as is read as that entity, and then only the changed
document counts. -/
theorem eq_overwrite_iff_of_settled (hsettled : schema.Settled (.obj members)) :
    doc = .obj (overwrite members fields) ↔
      schema.Settled (.obj (overwrite members fields)) := by
  obtain ⟨e, hdecode, hencode⟩ := hsettled
  constructor
  · rintro rfl
    exact settled_of_changed hback hchanged
  · exact eq_overwrite_of_settled hchanged hdecode hencode

omit hback in
/-- Where the members that the type knows stand as the type writes them, the overwritten document is
written without the members that the type does not know. -/
theorem eq_among_of_readsOnly (horder : Json.InOrder members) {names : List String}
    (hnames : schema.ReadsOnly names) (hstored : schema.Settled (.obj (Json.among names members)))
    (hmerged : schema.Settled (.obj (Json.among names (overwrite members fields)))) :
    doc = .obj (Json.among names (overwrite members fields)) := by
  obtain ⟨e, e', hdecode, hmerge, -, hencode'⟩ := changed_eq_ok_iff.mp hchanged
  obtain ⟨written, hencode, hread⟩ := merge_eq_ok_iff.mp hmerge
  -- the stored document is read as the entity that its known members are
  obtain ⟨e₁, hdecode₁, hencode₁⟩ := hstored
  rw [hnames members] at hdecode
  obtain rfl : e = e₁ := Option.some.inj (hdecode.symm.trans hdecode₁)
  obtain rfl : Json.among names members = written :=
    Json.obj.inj (Option.some.inj (hencode₁.symm.trans hencode))
  -- and so is the changed one
  obtain ⟨e₂, hdecode₂, hencode₂⟩ := hmerged
  rw [hnames, among_overwrite (horder.among names), Json.among_among,
    ← among_overwrite horder] at hread
  obtain rfl : e' = e₂ := Option.some.inj (hread.symm.trans hdecode₂)
  exact Option.some.inj (hencode'.symm.trans hencode₂)

end Changed

end Schema

namespace Store

variable {ε σ : Type} {schema : Schema ε} {server : Session.Server σ} {x : σ} {id key : String}
  {fields : List (String × Json)}

/-- What a successful setting of fields does: it finds a document, and has written what becomes of
it into the index in which it was found. -/
theorem exists_rewriting (h : (Session.run server (setFields schema id fields key) x).1 = .ok ()) :
    ∃ found written hit target doc,
      Session.exchanges server (setFields schema id fields key) x =
        [(lookupRequest (schema.pattern key) [id], found),
          (putRequest hit.index target doc, written)] ∧
      firstHit (schema.pattern key) id found = .ok hit ∧
      schema.changed fields hit.source = .ok (target, doc) ∧
      accepted written = .ok () := by
  rw [setFields_eq] at h ⊢
  simp only [Session.run, Session.exchanges] at h ⊢
  generalize server (lookupRequest (schema.pattern key) [id]) x = found at h ⊢
  rcases hhit : firstHit (schema.pattern key) id found.1 with e | hit
  · simp [hhit, Session.run] at h
  · rcases hchanged : schema.changed fields hit.source with e | ⟨target, doc⟩
    · simp [hhit, hchanged, Session.run] at h
    · simp only [hhit, hchanged, Session.run] at h
      refine ⟨found.1, _, hit, target, doc, ?_, hhit, hchanged, h⟩
      simp only [hchanged, Session.exchanges]

/-- To set fields of a document overwrites its members, and keeps all others, exactly if the
overwritten document is what an entity of the type is written as, and that is the changed entity. If
an entity was written as the stored document, only the overwritten one counts. Where the type reads
some names only, and the members with these names stand as the type writes them, what is written
has just those of the overwritten members that the type knows: all others are lost, set or not. -/
theorem setFields_overwrites_iff (hback : schema.ReadsBack)
    (h : (Session.run server (setFields schema id fields key) x).1 = .ok ()) :
    ∃ found written hit target doc,
      Session.exchanges server (setFields schema id fields key) x =
        [(lookupRequest (schema.pattern key) [id], found),
          (putRequest hit.index target doc, written)] ∧
      firstHit (schema.pattern key) id found = .ok hit ∧
      ∀ members, hit.source = .obj members →
        let merged := Schema.overwrite members fields
        (∀ name, Json.lookup name merged =
          (Json.lookup name fields.reverse).or (Json.lookup name members)) ∧
        (doc = .obj merged ↔ schema.Settled (.obj merged) ∧
          schema.decode? (.obj merged) = schema.decode? doc) ∧
        (schema.Settled (.obj members) → (doc = .obj merged ↔ schema.Settled (.obj merged))) ∧
        ∀ names, schema.ReadsOnly names → schema.Settled (.obj (Json.among names members)) →
          schema.Settled (.obj (Json.among names merged)) →
          (∀ name, doc.get? name = if name ∈ names then Json.lookup name merged else none) ∧
          (doc = .obj merged ↔ ∀ m ∈ merged, m.1 ∈ names) := by
  obtain ⟨found, written, hit, target, doc, hexchanges, hhit, hchanged, -⟩ := exists_rewriting h
  refine ⟨found, written, hit, target, doc, hexchanges, hhit, ?_⟩
  intro members hsource merged
  rw [hsource] at hchanged
  obtain ⟨rest, hshown⟩ := firstHit_eq_ok_iff.mp hhit
  have horder : Json.InOrder members :=
    inOrder_of_shownHits hshown List.mem_cons_self hsource
  refine ⟨Schema.lookup_overwrite members fields, Schema.eq_overwrite_iff hback hchanged,
    Schema.eq_overwrite_iff_of_settled hback hchanged, ?_⟩
  intro names hnames hstored hmerged
  have hdoc := Schema.eq_among_of_readsOnly hchanged horder hnames hstored hmerged
  constructor
  · intro name
    rw [hdoc, Json.get?, Json.lookup_among]
  · rw [hdoc, Json.obj.injEq]
    exact Json.among_eq_self_iff

/-! ### Portraits -/

end Store

/-- A portrait of a hero, as an account has it. -/
structure Portrait where
  account : String
  color : String
  id : String
  name : String
deriving DecidableEq

namespace Portrait

def members (p : Portrait) : List (String × String) :=
  [("account", p.account), ("color", p.color), ("id", p.id), ("name", p.name)]

def ofMembers? (members : List (String × Json)) : Option Portrait := do
  let account ← Json.required "account" Json.asString? members
  let color ← Json.required "color" Json.asString? members
  let id ← Json.required "id" Json.asString? members
  let name ← Json.required "name" Json.asString? members
  return { account, color, id, name }

end Portrait

/-- Portraits in a table that has indices for each account. -/
def portraits : Schema Portrait where
  table := "hero-\x7baccountId\x7d-v1"
  id := Portrait.id
  key := Portrait.account
  encode? p := some (.ofStringMembers p.members)
  decode? j := j.asMembers?.bind Portrait.ofMembers?

theorem portraits_readsBack : portraits.ReadsBack := by
  rintro ⟨account, color, id, name⟩ j h
  obtain rfl := Option.some.inj h
  rfl

/-- A member is looked for among those with its name. -/
theorem Json.required_among {α : Type} {name : String} {names : List String} (h : name ∈ names)
    (read : Json → Option α) (members : List (String × Json)) :
    required name read (among names members) = required name read members := by
  have hfilter : (among names members).filter (fun m => [name].contains m.1) =
      members.filter fun m => [name].contains m.1 := by
    rw [among, List.filter_filter]
    refine List.filter_congr fun m _ => ?_
    by_cases hm : m.1 = name
    · simp [hm, h]
    · simp [hm]
  rw [required, required, member?, member?, hfilter]

theorem portraits_readsOnly : portraits.ReadsOnly ["account", "color", "id", "name"] := by
  intro members
  show Portrait.ofMembers? members = Portrait.ofMembers? (Json.among _ members)
  simp only [Portrait.ofMembers?]
  rw [Json.required_among (by decide), Json.required_among (by decide),
    Json.required_among (by decide), Json.required_among (by decide)]

/-- A portrait where it is found. -/
def Portrait.hung (p : Portrait) (index : String) : StringHit := ⟨index, p.id, p.members⟩

/-- A portrait of the hero with the id 1. -/
def Portrait.ada : Portrait := ⟨"a", "red", "1", "Ada"⟩

theorem settled_portrait (p : Portrait) : portraits.Settled (.ofStringMembers p.members) :=
  ⟨p, portraits_readsBack p _ rfl, rfl⟩

namespace Store

/-- An engine that shows some documents to every search, and takes all documents. -/
def answering (hits : List StringHit) : Session.Server Unit := fun r x =>
  (.ok (if r.method = .post then StringHit.answer hits else ⟨200, []⟩), x)

theorem answering_lookup (hits : List StringHit) (pattern : String) (ids : List String) :
    answering hits (lookupRequest pattern ids) () = (.ok (StringHit.answer hits), ()) := rfl

/-- What becomes of the document that is found first, with an engine that takes all documents. -/
theorem setFields_answering {ε : Type} (schema : Schema ε) (id key : String)
    (fields : List (String × Json)) {hit : StringHit} {rest : List StringHit} {target : String}
    {doc : Json} (hlegible : StringHit.Legible (hit :: rest))
    (hchanged : schema.changed fields (.ofStringMembers hit.members) = .ok (target, doc)) :
    (Session.run (answering (hit :: rest)) (setFields schema id fields key) ()).1 = .ok () ∧
      Session.exchanges (answering (hit :: rest)) (setFields schema id fields key) () =
        [(lookupRequest (schema.pattern key) [id], .ok (StringHit.answer (hit :: rest))),
          (putRequest hit.index target doc, .ok ⟨200, []⟩)] := by
  have hhit : firstHit (schema.pattern key) id
      (answering (hit :: rest) (lookupRequest (schema.pattern key) [id]) ()).1 = .ok hit.toHit :=
    firstHit_of_shown _ _ hlegible.shownHits
  obtain ⟨hsent, hrun⟩ := setFields_of_changed hhit hchanged
  exact ⟨congrArg Prod.fst hrun, hsent⟩

theorem legible_ada : StringHit.Legible [Portrait.ada.hung "hero-a-v1"] := by decide +kernel

/-- A portrait that is stored as it was written keeps all its members but the color that is set. -/
theorem setFields_overwrites_color :
    let members : List (String × Json) := [("account", .str "a"), ("color", .str "red"),
      ("id", .str "1"), ("name", .str "Ada")]
    let fields : List (String × Json) := [("color", .str "blue")]
    let server := answering [Portrait.ada.hung "hero-a-v1"]
    portraits.ReadsBack ∧
      (Session.run server (setFields portraits "1" fields "a") ()).1 = .ok () ∧
      ∃ found written, ∃ hit : Hit, ∃ target doc,
        Session.exchanges server (setFields portraits "1" fields "a") () =
          [(lookupRequest (portraits.pattern "a") ["1"], found),
            (putRequest hit.index target doc, written)] ∧
        hit.source = .obj members ∧ doc = .obj (Schema.overwrite members fields) := by
  intro members fields server
  obtain ⟨hok, hsent⟩ := setFields_answering portraits "1" "a" fields legible_ada rfl
  refine ⟨portraits_readsBack, hok, ?_⟩
  obtain ⟨found, written, hit, target, doc, hexchanges, hhit, hdoc⟩ :=
    setFields_overwrites_iff portraits_readsBack hok
  obtain rfl : found = .ok (StringHit.answer [Portrait.ada.hung "hero-a-v1"]) :=
    congrArg Prod.snd (List.cons.inj (hexchanges.symm.trans hsent)).1
  obtain rfl : hit = (Portrait.ada.hung "hero-a-v1").toHit :=
    Except.ok.inj (hhit.symm.trans (firstHit_of_shown _ _ legible_ada.shownHits))
  refine ⟨_, written, _, target, doc, hexchanges, rfl, ?_⟩
  exact ((hdoc members rfl).2.2.1 (settled_portrait Portrait.ada)).mpr
    (settled_portrait { Portrait.ada with color := "blue" })

/-- A team that is stored with a portrait is lost when the color is set: it is not among the
members of the document that is written. -/
theorem setFields_drops_team :
    let members : List (String × Json) := [("account", .str "a"), ("color", .str "red"),
      ("id", .str "1"), ("name", .str "Ada"), ("team", .str "x")]
    let fields : List (String × Json) := [("color", .str "blue")]
    let stored : StringHit := ⟨"hero-a-v1", "1", Portrait.ada.members ++ [("team", "x")]⟩
    let server := answering [stored]
    portraits.ReadsBack ∧ portraits.ReadsOnly ["account", "color", "id", "name"] ∧
      (Session.run server (setFields portraits "1" fields "a") ()).1 = .ok () ∧
      ∃ found written, ∃ hit : Hit, ∃ doc,
        Session.exchanges server (setFields portraits "1" fields "a") () =
          [(lookupRequest (portraits.pattern "a") ["1"], found),
            (putRequest "hero-a-v1" "1" doc, written)] ∧
        firstHit (portraits.pattern "a") "1" found = .ok hit ∧ hit.source = .obj members ∧
        (Json.lookup "team" members).isSome ∧ doc.get? "team" = none ∧
        doc ≠ .obj (Schema.overwrite members fields) := by
  intro members fields stored server
  have hlegible : StringHit.Legible [stored] := by decide +kernel
  obtain ⟨hok, hsent⟩ := setFields_answering portraits "1" "a" fields hlegible rfl
  have hhit := firstHit_of_shown (portraits.pattern "a") "1" hlegible.shownHits
  refine ⟨portraits_readsBack, portraits_readsOnly, hok, _, _, _, _, hsent, hhit, rfl, rfl, rfl, ?_⟩
  intro hdoc
  have hteam := congrArg (Json.get? "team") hdoc
  rw [show Json.get? "team" (.obj (Schema.overwrite members fields)) = some (.str "x") from rfl]
    at hteam
  exact nomatch hteam

end Store

end SearchStore
