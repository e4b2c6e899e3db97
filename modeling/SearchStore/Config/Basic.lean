import SearchStore.Json.Decode
import SearchStore.Query.Selection

/-! # Configuration

The settings of a store, with a default for each, and their JSON.
-/

namespace SearchStore

/-- How bulk writes are cut into requests. -/
structure BulkConfig where
  workers : Nat := 1
  /-- A worker sends what it holds once it holds so many bytes. -/
  flushBytes : Nat := 5 * 1024 * 1024
  /-- A worker sends what it holds once it holds so many items, unless zero. -/
  flushItems : Nat := 0
  /-- A worker sends what it holds at such intervals, in milliseconds. -/
  flushIntervalMs : Nat := 2000
  /-- How many items can wait for the workers. -/
  queueCapacity : Nat := 1024
deriving DecidableEq, Repr

structure LoggingConfig where
  level : String := "info,elastore=debug"
  format : String := "pretty"
deriving DecidableEq, Repr

/-- The settings of a store. -/
structure StoreConfig where
  hosts : List String := ["http://localhost:9200"]
  username : Option String := none
  password : Option String := none
  requestTimeoutMs : Nat := 30000
  connectTimeoutMs : Nat := 5000
  /-- How often a request is sent again after the first time. -/
  maxRetries : Nat := 5
  /-- The statuses after which a request is sent again. -/
  retryOnStatus : List Nat := [502, 503, 504, 429]
  backoffInitialMs : Nat := 500
  backoffMaxMs : Nat := 60000
  /-- How many hits a query asks for unless it says so itself. -/
  defaultLimit : Nat := 100
  likePolarity : LikePolarity := .include
  bulk : BulkConfig := {}
  logging : LoggingConfig := {}
deriving DecidableEq, Repr

namespace BulkConfig

/-- The names of the settings, in order. -/
def names : List String :=
  ["workers", "flush_bytes", "flush_items", "flush_interval_ms", "queue_capacity"]

def decode? (j : Json) : Option BulkConfig := do
  let ms ← j.asRecord? names
  let count (name : String) (default : Nat) := Json.withDefault name default Json.asCount? ms
  return {
    workers := ← count "workers" 1
    flushBytes := ← count "flush_bytes" (5 * 1024 * 1024)
    flushItems := ← count "flush_items" 0
    flushIntervalMs := ← count "flush_interval_ms" 2000
    queueCapacity := ← count "queue_capacity" 1024 }

def encode (c : BulkConfig) : Json :=
  .obj [("workers", Json.ofNat c.workers), ("flush_bytes", Json.ofNat c.flushBytes),
    ("flush_items", Json.ofNat c.flushItems), ("flush_interval_ms", Json.ofNat c.flushIntervalMs),
    ("queue_capacity", Json.ofNat c.queueCapacity)]

end BulkConfig

namespace LoggingConfig

/-- The names of the settings, in order. -/
def names : List String := ["level", "log_format"]

def decode? (j : Json) : Option LoggingConfig := do
  let ms ← j.asRecord? names
  return {
    level := ← Json.withDefault "level" "info,elastore=debug" Json.asString? ms
    format := ← Json.withDefault "log_format" "pretty" Json.asString? ms }

def encode (c : LoggingConfig) : Json :=
  .obj [("level", .str c.level), ("log_format", .str c.format)]

end LoggingConfig

namespace StoreConfig

/-- The names of the settings, in order. -/
def names : List String :=
  ["hosts", "username", "password", "request_timeout_ms", "connect_timeout_ms", "max_retries",
    "retry_on_status", "backoff_initial_ms", "backoff_max_ms", "default_limit", "like_polarity",
    "bulk", "logging"]

def decode? (j : Json) : Option StoreConfig := do
  let ms ← j.asRecord? names
  let count (name : String) (default : Nat) := Json.withDefault name default Json.asCount? ms
  let statuses (j : Json) : Option (List Nat) := do
    (← j.asItems?).mapM (Json.asBelow? UInt16.size)
  return {
    hosts := ← Json.withDefault "hosts" ["http://localhost:9200"] Json.asStrings? ms
    username := ← Json.optional "username" Json.asString? ms
    password := ← Json.optional "password" Json.asString? ms
    requestTimeoutMs := ← count "request_timeout_ms" 30000
    connectTimeoutMs := ← count "connect_timeout_ms" 5000
    maxRetries := ← Json.withDefault "max_retries" 5 (Json.asBelow? UInt32.size) ms
    retryOnStatus := ← Json.withDefault "retry_on_status" [502, 503, 504, 429] statuses ms
    backoffInitialMs := ← count "backoff_initial_ms" 500
    backoffMaxMs := ← count "backoff_max_ms" 60000
    defaultLimit := ← count "default_limit" 100
    likePolarity := ← Json.withDefault "like_polarity" .include LikePolarity.decode? ms
    bulk := ← Json.withDefault "bulk" {} BulkConfig.decode? ms
    logging := ← Json.withDefault "logging" {} LoggingConfig.decode? ms }

/-- The settings with their names in order; those without a value are left
out. -/
def members (c : StoreConfig) : List (String × Json) :=
  [("hosts", Json.ofStrings c.hosts)]
    ++ Json.optionalMember "username" (c.username.map .str)
    ++ Json.optionalMember "password" (c.password.map .str)
    ++ [("request_timeout_ms", Json.ofNat c.requestTimeoutMs),
      ("connect_timeout_ms", Json.ofNat c.connectTimeoutMs),
      ("max_retries", Json.ofNat c.maxRetries),
      ("retry_on_status", .arr (c.retryOnStatus.map Json.ofNat)),
      ("backoff_initial_ms", Json.ofNat c.backoffInitialMs),
      ("backoff_max_ms", Json.ofNat c.backoffMaxMs),
      ("default_limit", Json.ofNat c.defaultLimit),
      ("like_polarity", .str c.likePolarity.name),
      ("bulk", c.bulk.encode), ("logging", c.logging.encode)]

/-- The settings as a JSON value, `null` for missing credentials. -/
def toJson (c : StoreConfig) : Json :=
  let missing (name : String) (value : Option String) : List (String × Json) :=
    if value.isNone then [(name, .null)] else []
  (Json.obj (missing "username" c.username ++ missing "password" c.password ++ c.members)).canonical

end StoreConfig

end SearchStore
