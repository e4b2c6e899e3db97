import SearchStore.Config.Basic
import SearchStore.Url.Parser

/-! # Where the engine is

The hosts and the credentials of a configuration, from a URI or from a list of
hosts. A list of hosts wins over the host of a URI.
-/

namespace SearchStore

namespace StoreConfig

/-- The URI in the place of an empty one. -/
def defaultUri : String := "elastic://localhost:9200"

/-- The scheme of the hosts for the scheme of a URI. -/
def hostScheme? (scheme : String) : Option String :=
  if scheme = "elastic" || scheme = "http" then some "http"
  else if scheme = "elastics" || scheme = "https" then some "https"
  else none

/-- The text of credentials that are given in encoded form. -/
def decodeCredential (s : String) : Except Error String :=
  match Text.Utf8.decode (Text.Percent.decode s) with
  | .ok text => .ok text
  | .error e => .error (.config ("credentials in URI are not valid UTF-8: " ++ e.message))

/-- A host after a scheme, and the number after the host. -/
def hostText (scheme host : String) (number : Option Nat) : String :=
  scheme ++ "://" ++ host ++
    (match number with
    | some n => ":" ++ toString n
    | none => "")

/-- The URL of a URI. -/
def parseUri (uri : String) : Except Error Url :=
  match Url.parse uri with
  | .ok u => .ok u
  | .error e => .error (.invalidUrl e)

/-- The credentials of a URL, decoded. -/
def credentialsOf (u : Url) : Except Error (Option String × Option String) := do
  let username ← if u.username.isEmpty then pure none else some <$> decodeCredential u.username
  let password ← u.password.mapM decodeCredential
  return (username, password)

/-- The configuration for a URI. The scheme `elastic` means a connection
without, `elastics` one with encryption. -/
def ofUri (uri : String) : Except Error StoreConfig := do
  let trimmed := Text.trim uri
  let uri := if trimmed.isEmpty then defaultUri else trimmed
  let u ← parseUri uri
  match hostScheme? u.scheme with
  | none =>
    .error (.config ("unsupported URI scheme '" ++ u.scheme
      ++ "', expected elastic:// or elastics://"))
  | some scheme =>
    match u.hostText? with
    | none => .error (.config ("missing host in URI '" ++ uri ++ "'"))
    | some host =>
      let (username, password) ← credentialsOf u
      return { hosts := [hostText scheme host u.portNumber], username, password }

/-- A host of a list as a URL: without a scheme it is one without
encryption. -/
def completeHost (cs : List Char) : String :=
  let known := (Text.dropFront? "http://".toList cs).isSome
    || (Text.dropFront? "https://".toList cs).isSome
  if known then String.ofList cs else "http://" ++ String.ofList cs

/-- The hosts between commas. -/
def hostList (s : String) : List String :=
  (((Text.splitOn ',' s.toList).map Text.trimChars).filter fun cs => !cs.isEmpty).map completeHost

/-- The configuration for a list of hosts, if there are any. -/
def ofHostList? (s : String) : Option StoreConfig :=
  match hostList s with
  | [] => none
  | hosts => some { hosts }

/-- The configuration for a URI, with the hosts of a list if there is one. -/
def resolve (uri : String) (hosts : Option String) : Except Error StoreConfig := do
  let config ← ofUri uri
  match hosts.bind ofHostList? with
  | some listed => return { config with hosts := listed.hosts }
  | none => return config

/-- The URLs of the hosts. There has to be one at least. -/
def hostUrls (c : StoreConfig) : Except Error (List Url) :=
  if c.hosts.isEmpty then .error (.config "no hosts configured")
  else c.hosts.mapM parseUri

end StoreConfig

end SearchStore
