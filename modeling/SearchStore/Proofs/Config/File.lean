import SearchStore.Config.File
import SearchStore.Proofs.Toml.Documents

/-! # Configurations survive their files

A configuration is saved as a document with a line for each of its settings, those without a
value left out, and two tables. The document can be written if and only if no integer is too
large for it, and then it is read as the configuration: the names of the settings are plain and
differ, each setting is found under its name, and none of them stands for its default.
-/

namespace SearchStore

open Json (present)

/-! ## Reading the settings -/

namespace BulkConfig

/-- The settings with their names. -/
def fields (c : BulkConfig) : List (String × Option Json) :=
  [("workers", some (Json.ofNat c.workers)), ("flush_bytes", some (Json.ofNat c.flushBytes)),
    ("flush_items", some (Json.ofNat c.flushItems)),
    ("flush_interval_ms", some (Json.ofNat c.flushIntervalMs)),
    ("queue_capacity", some (Json.ofNat c.queueCapacity))]

theorem encode_eq (c : BulkConfig) : c.encode = .obj (present c.fields) := rfl

theorem names_fields (c : BulkConfig) : c.fields.map Prod.fst = names := rfl

/-- The integers of the settings. -/
def integers (c : BulkConfig) : List Nat :=
  [c.workers, c.flushBytes, c.flushItems, c.flushIntervalMs, c.queueCapacity]

/-- The settings are read back, whatever their defaults are. -/
theorem decode?_encode {c : BulkConfig} (h : ∀ n ∈ c.integers, n < UInt64.size) :
    decode? c.encode = some c := by
  have hcount (name : String) (n : Nat) (hmem : (name, some (Json.ofNat n)) ∈ c.fields)
      (hn : n ∈ c.integers) (default : Nat) :
      Json.withDefault name default Json.asCount? (present c.fields) = some n :=
    Json.withDefault_present (by rw [names_fields]; decide) _ hmem (Json.asBelow?_back (h n hn)).1
  have hworkers := hcount "workers" c.workers (by simp [fields]) (by simp [integers])
  have hbytes := hcount "flush_bytes" c.flushBytes (by simp [fields]) (by simp [integers])
  have hitems := hcount "flush_items" c.flushItems (by simp [fields]) (by simp [integers])
  have hinterval := hcount "flush_interval_ms" c.flushIntervalMs (by simp [fields])
    (by simp [integers])
  have hqueue := hcount "queue_capacity" c.queueCapacity (by simp [fields]) (by simp [integers])
  rw [decode?, encode_eq, Json.asRecord?, Option.bind_eq_bind, Option.bind_some]
  simp only [hworkers, hbytes, hitems, hinterval, hqueue, Option.bind_eq_bind, Option.bind_some,
    Option.pure_def]

end BulkConfig

namespace LoggingConfig

/-- The settings with their names. -/
def fields (c : LoggingConfig) : List (String × Option Json) :=
  [("level", some (.str c.level)), ("log_format", some (.str c.format))]

theorem encode_eq (c : LoggingConfig) : c.encode = .obj (present c.fields) := rfl

theorem names_fields (c : LoggingConfig) : c.fields.map Prod.fst = names := rfl

theorem decode?_encode (c : LoggingConfig) : decode? c.encode = some c := by
  have hstring (name s : String) (hmem : (name, some (.str s)) ∈ c.fields) (default : String) :
      Json.withDefault name default Json.asString? (present c.fields) = some s :=
    Json.withDefault_present (by rw [names_fields]; decide) _ hmem rfl
  have hlevel := hstring "level" c.level (by simp [fields])
  have hformat := hstring "log_format" c.format (by simp [fields])
  rw [decode?, encode_eq, Json.asRecord?, Option.bind_eq_bind, Option.bind_some]
  simp only [hlevel, hformat, Option.bind_eq_bind, Option.bind_some, Option.pure_def]

end LoggingConfig

theorem LikePolarity.decode?_name (p : LikePolarity) : decode? (.str p.name) = some p := by
  cases p <;> rfl

namespace StoreConfig

variable {c : StoreConfig}

/-- The settings that are no tables, with their names. -/
def values (c : StoreConfig) : List (String × Option Json) :=
  [("hosts", some (Json.ofStrings c.hosts)), ("username", c.username.map .str),
    ("password", c.password.map .str), ("request_timeout_ms", some (Json.ofNat c.requestTimeoutMs)),
    ("connect_timeout_ms", some (Json.ofNat c.connectTimeoutMs)),
    ("max_retries", some (Json.ofNat c.maxRetries)),
    ("retry_on_status", some (.arr (c.retryOnStatus.map Json.ofNat))),
    ("backoff_initial_ms", some (Json.ofNat c.backoffInitialMs)),
    ("backoff_max_ms", some (Json.ofNat c.backoffMaxMs)),
    ("default_limit", some (Json.ofNat c.defaultLimit)),
    ("like_polarity", some (.str c.likePolarity.name))]

/-- The settings with their names. -/
def fields (c : StoreConfig) : List (String × Option Json) :=
  c.values ++ [("bulk", some c.bulk.encode), ("logging", some c.logging.encode)]

theorem members_eq_append (c : StoreConfig) : c.members =
    present c.values ++ [("bulk", c.bulk.encode), ("logging", c.logging.encode)] := by
  simp [members, present, values, Json.optionalMember]

theorem members_eq (c : StoreConfig) : c.members = present c.fields := by
  simp [members_eq_append, present, fields, Json.optionalMember]

theorem names_fields (c : StoreConfig) : c.fields.map Prod.fst = names := rfl

/-- The integers of the settings. -/
def integers (c : StoreConfig) : List Nat :=
  [c.requestTimeoutMs, c.connectTimeoutMs, c.maxRetries] ++ c.retryOnStatus ++
    [c.backoffInitialMs, c.backoffMaxMs, c.defaultLimit] ++ c.bulk.integers

/-- Numbers of retries have 32 bits and statuses have 16. -/
structure Sized (c : StoreConfig) : Prop where
  maxRetries : c.maxRetries < UInt32.size
  retryOnStatus : ∀ status ∈ c.retryOnStatus, status < UInt16.size

theorem nodup_names_fields (c : StoreConfig) : (c.fields.map Prod.fst).Nodup := by
  rw [names_fields]
  decide

theorem decode?_members (hsized : c.Sized) (h : ∀ n ∈ c.integers, n < UInt64.size) :
    decode? (.obj c.members) = some c := by
  -- a setting that is written is not left to its default
  have hset {α : Type} (name : String) (read : Json → Option α) {v : Json} {x : α}
      (hmem : (name, some v) ∈ c.fields) (hread : read v = some x) (default : α) :
      Json.withDefault name default read (present c.fields) = some x :=
    Json.withDefault_present c.nodup_names_fields v hmem hread
  have hcount (name : String) (n : Nat) (hmem : (name, some (Json.ofNat n)) ∈ c.fields)
      (hn : n ∈ c.integers) (default : Nat) :
      Json.withDefault name default Json.asCount? (present c.fields) = some n :=
    hset name _ hmem (Json.asBelow?_back (h n hn)).1 default
  -- a credential that is left out is read as absent
  have hcredential (name : String) (x : Option String) (hmem : (name, x.map .str) ∈ c.fields) :
      Json.optional name Json.asString? (present c.fields) = some x :=
    Json.optional_present c.nodup_names_fields .str hmem fun s _ => Json.asString?_back s
  have hhosts := hset "hosts" Json.asStrings? (v := Json.ofStrings c.hosts)
    (by simp [fields, values]) (Json.mapM_map_eq fun s _ => rfl)
  have husername := hcredential "username" c.username (by simp [fields, values])
  have hpassword := hcredential "password" c.password (by simp [fields, values])
  have hrequest := hcount "request_timeout_ms" c.requestTimeoutMs (by simp [fields, values])
    (by simp [integers])
  have hconnect := hcount "connect_timeout_ms" c.connectTimeoutMs (by simp [fields, values])
    (by simp [integers])
  have hretries := hset "max_retries" (Json.asBelow? UInt32.size) (v := Json.ofNat c.maxRetries)
    (by simp [fields, values]) (Json.asBelow?_back hsized.maxRetries).1
  have hstatuses := hset "retry_on_status"
    (fun j => j.asItems?.bind fun items => items.mapM (Json.asBelow? UInt16.size))
    (v := .arr (c.retryOnStatus.map Json.ofNat)) (by simp [fields, values])
    (Json.mapM_map_eq fun n hn => (Json.asBelow?_back (hsized.retryOnStatus n hn)).1)
  have hinitial := hcount "backoff_initial_ms" c.backoffInitialMs (by simp [fields, values])
    (by simp [integers])
  have hmax := hcount "backoff_max_ms" c.backoffMaxMs (by simp [fields, values])
    (by simp [integers])
  have hlimit := hcount "default_limit" c.defaultLimit (by simp [fields, values])
    (by simp [integers])
  have hpolarity := hset "like_polarity" LikePolarity.decode? (by simp [fields, values])
    c.likePolarity.decode?_name
  have hbulk := hset "bulk" BulkConfig.decode? (v := c.bulk.encode) (by simp [fields, values])
    (BulkConfig.decode?_encode fun n hn => h n (by simp [integers, hn]))
  have hlogging := hset "logging" LoggingConfig.decode? (by simp [fields, values])
    c.logging.decode?_encode
  rw [decode?, members_eq, Json.asRecord?, Option.bind_eq_bind, Option.bind_some]
  simp only [hhosts, husername, hpassword, hrequest, hconnect, hretries, hstatuses, hinitial, hmax,
    hlimit, hpolarity, hbulk, hlogging, Option.bind_eq_bind, Option.bind_some, Option.pure_def]

/-- In a document the settings look as they are. -/
theorem ofDocument_members (c : StoreConfig) : ofDocument (.obj c.members) = .obj c.members := by
  have hbulk : shorten BulkConfig.names.length c.bulk.encode = c.bulk.encode := rfl
  have hlogging : shorten LoggingConfig.names.length c.logging.encode = c.logging.encode := rfl
  have hset : ∀ m ∈ c.members, (m.1, ofSetting m.1 m.2) = m := by
    rw [members_eq, Json.forall_mem_present]
    simp [fields, values, ofSetting, nameOfTable, hbulk, hlogging]
  rw [ofDocument]
  exact congrArg Json.obj ((List.map_congr_left hset).trans (List.map_id _))

/-! ## Writing the settings -/

theorem names_members (c : StoreConfig) : Toml.Names (c.members.map Prod.fst) := by
  have hnames : Toml.Names names := by decide
  rw [members_eq]
  exact hnames.sublist (Json.names_present c.fields)

theorem isValue_of_mem : ∀ m ∈ present c.values, Toml.isValue m := by
  rw [Json.forall_mem_present]
  simp [values, Toml.isValue_iff, Json.ofStrings, Json.ofNat]

theorem not_isValue_of_mem :
    ∀ m ∈ [("bulk", c.bulk.encode), ("logging", c.logging.encode)], ¬ Toml.isValue m := by
  simp [Toml.isValue_iff, BulkConfig.encode_eq, LoggingConfig.encode_eq]

theorem arranged_members (c : StoreConfig) : Toml.arranged c.members = c.members := by
  rw [members_eq_append]
  exact Toml.arranged_append isValue_of_mem not_isValue_of_mem

theorem filter_isValue_members (c : StoreConfig) :
    c.members.filter Toml.isValue = present c.values := by
  rw [members_eq_append, List.filter_append, List.filter_eq_self.mpr isValue_of_mem,
    List.filter_eq_nil_iff.mpr not_isValue_of_mem, List.append_nil]

theorem tables_members (c : StoreConfig) : Toml.tables c.members =
    [("bulk", present c.bulk.fields), ("logging", present c.logging.fields)] := by
  rw [members_eq_append, Toml.tables_append isValue_of_mem, BulkConfig.encode_eq,
    LoggingConfig.encode_eq]
  rfl

theorem names_tables {t : String × List (String × Json)} (ht : t ∈ Toml.tables c.members) :
    Toml.Names (t.2.map Prod.fst) := by
  have hbulk : Toml.Names BulkConfig.names := by decide
  have hlogging : Toml.Names LoggingConfig.names := by decide
  rw [tables_members] at ht
  simp only [List.mem_cons, List.not_mem_nil, or_false] at ht
  rcases ht with rfl | rfl
  · exact hbulk.sublist (Json.names_present c.bulk.fields)
  · exact hlogging.sublist (Json.names_present c.logging.fields)

theorem scalar_ofNat {n : Nat} : Toml.Scalar (Json.ofNat n) ↔ n ≤ 2 ^ 63 - 1 := by
  have hmin : Int64.minValue.toInt = -2 ^ 63 := rfl
  have hmax : Int64.maxValue.toInt = 2 ^ 63 - 1 := rfl
  constructor
  · rintro (_ | ⟨-, hle⟩)
    rw [hmax] at hle
    omega
  · intro hle
    refine .int ⟨?_, ?_⟩ <;> omega

theorem value_ofNat {n : Nat} : Toml.Value (Json.ofNat n) ↔ n ≤ 2 ^ 63 - 1 := by
  rw [← scalar_ofNat]
  constructor
  · rintro (h | _)
    exact h
  · exact .scalar

theorem value_counts {ns : List Nat} :
    Toml.Value (.arr (ns.map Json.ofNat)) ↔ ∀ n ∈ ns, n ≤ 2 ^ 63 - 1 := by
  simp only [← scalar_ofNat, ← List.forall_mem_map (f := Json.ofNat) (P := Toml.Scalar)]
  constructor
  · rintro (h | h)
    · cases h
    · exact h
  · exact .arr

theorem value_strings (ss : List String) : Toml.Value (Json.ofStrings ss) :=
  .arr (List.forall_mem_map.mpr fun s _ => .str s)

/-- A configuration can be written if none of its integers is too large. -/
theorem isSome_render?_members :
    (Toml.render? c.members).isSome ↔ ∀ n ∈ c.integers, n ≤ 2 ^ 63 - 1 := by
  have hstr (s : String) : Toml.Value (.str s) := .scalar (.str s)
  rw [Toml.isSome_render?, filter_isValue_members, tables_members, Json.forall_mem_present]
  simp only [integers, BulkConfig.integers, List.forall_mem_append, List.forall_mem_cons,
    Json.forall_mem_present]
  simp [values, BulkConfig.fields, LoggingConfig.fields, hstr, value_ofNat, value_counts,
    value_strings, and_assoc]

theorem lt_size_of_le {n : Nat} (h : n ≤ 2 ^ 63 - 1) : n < UInt64.size := by
  have hsize : UInt64.size = 2 ^ 64 := rfl
  omega

/-- A document that can be written is read as the configuration. -/
theorem ofToml_render? (hsized : c.Sized) (h : ∀ n ∈ c.integers, n ≤ 2 ^ 63 - 1) {text : String}
    (htext : Toml.render? c.members = some text) : ofToml text = .ok c := by
  have hparse := Toml.parse?_render c.names_members (fun t ht => names_tables ht) htext
  rw [arranged_members] at hparse
  have hdecode := decode?_members hsized fun n hn => lt_size_of_le (h n hn)
  rw [ofToml, hparse]
  simp only [ofDocument_members, hdecode]

/-- What is saved is loaded as it was. If an integer is too large for a document nothing is saved
and the file stays as it is. -/
theorem save_load (c : StoreConfig) (file : Option String) (hsized : c.Sized) :
    ((∀ n ∈ c.integers, n ≤ 2 ^ 63 - 1) →
      (c.save file).1 = .ok () ∧ load (c.save file).2 = .ok c) ∧
    ((∃ n ∈ c.integers, 2 ^ 63 - 1 < n) →
      (∃ message, (c.save file).1 = .error (.config message)) ∧ (c.save file).2 = file) := by
  constructor
  · intro h
    obtain ⟨text, htext⟩ := Option.isSome_iff_exists.mp (isSome_render?_members.mpr h)
    have hsave : c.save file = (.ok (), some text) := by
      simp only [save, toToml, htext]
    rw [hsave]
    exact ⟨rfl, ofToml_render? hsized h htext⟩
  · rintro ⟨n, hn, hlarge⟩
    have hnone : Toml.render? c.members = none := by
      rw [← Option.not_isSome_iff_eq_none, isSome_render?_members]
      exact fun h => absurd (h n hn) (Nat.not_le_of_lt hlarge)
    have hsave : c.save file = (.error (.config "a number is too large for a document"), file) := by
      simp only [save, toToml, hnone]
    rw [hsave]
    exact ⟨⟨_, rfl⟩, rfl⟩

/-- No hosts, a password with quotes and a line break in it, and the largest integer there is
room for. -/
def unusual : StoreConfig where
  hosts := []
  password := some "\"'''\n\"\"\""
  likePolarity := .exclude
  bulk := { flushItems := 2 ^ 63 - 1 }
  logging := { level := "", format := "json" }

theorem save_load_unusual : unusual.Sized ∧ load (unusual.save none).2 = .ok unusual ∧
    ({ unusual with defaultLimit := 2 ^ 63 }.save (some "# empty")).2 = some "# empty" := by
  have hsized : unusual.Sized := ⟨by decide, by decide⟩
  have hlarge : { unusual with defaultLimit := 2 ^ 63 }.Sized := ⟨by decide, by decide⟩
  exact ⟨hsized, ((save_load unusual none hsized).1 (by decide)).2,
    ((save_load { unusual with defaultLimit := 2 ^ 63 } _ hlarge).2
      ⟨2 ^ 63, by decide, by decide⟩).2⟩

end StoreConfig

end SearchStore
