import SearchStore.Config.Basic
import SearchStore.Error
import SearchStore.Toml.Parser
import SearchStore.Toml.Printer

/-! # Configurations in files

A configuration is kept in a TOML document. Saving fails before anything is
written if a number has no place in such a document.
-/

namespace SearchStore.StoreConfig

/-- A name that is written as a table with one empty member. -/
def nameOfTable : Json → Json
  | .obj [(name, .obj [])] | .obj [(name, .arr [])] => .str name
  | j => j

/-- An array cut to a length. In a document, the items of an array beyond the
settings that it stands for are ignored. -/
def shorten (length : Nat) : Json → Json
  | .arr items => .arr (items.take length)
  | j => j

/-- A setting of a document as one of a configuration. -/
def ofSetting (name : String) (j : Json) : Json :=
  if name = "like_polarity" then nameOfTable j
  else if name = "bulk" then shorten BulkConfig.names.length j
  else if name = "logging" then shorten LoggingConfig.names.length j
  else j

/-- The value of a document as that of a configuration. -/
def ofDocument : Json → Json
  | .obj members => .obj (members.map fun (name, j) => (name, ofSetting name j))
  | j => j

/-- The configuration in a document. -/
def ofToml (text : String) : Except Error StoreConfig :=
  match Toml.parse? text with
  | none => .error (.config "the document cannot be read")
  | some document =>
    match decode? (ofDocument document) with
    | some c => .ok c
    | none => .error (.config "the document is no configuration")

/-- The document of a configuration. -/
def toToml (c : StoreConfig) : Except Error String :=
  match Toml.render? c.members with
  | some text => .ok text
  | none => .error (.config "a number is too large for a document")

/-- The configuration in a file, `none` if there is no file. -/
def load (file : Option String) : Except Error StoreConfig :=
  match file with
  | none => .error (.io "no such file")
  | some text => ofToml text

/-- Writes a configuration into a file, and gives the file after that. -/
def save (c : StoreConfig) (file : Option String) : Except Error Unit × Option String :=
  match c.toToml with
  | .ok text => (.ok (), some text)
  | .error e => (.error e, file)

/-- The lengths of time of a configuration, in milliseconds. -/
def durations (c : StoreConfig) : List Nat :=
  [c.requestTimeoutMs, c.connectTimeoutMs, c.backoffInitialMs, c.backoffMaxMs,
    c.bulk.flushIntervalMs]

end SearchStore.StoreConfig
