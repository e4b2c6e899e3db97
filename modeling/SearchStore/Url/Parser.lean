import SearchStore.Number.Numeral
import SearchStore.Url.File

/-! # Reading URLs

A URL is read from the left: the scheme, the credentials, the host and the
number after it, the path, and what follows `?` and `#`. Characters that a part
cannot hold are encoded on the way. Only a few things make a text no URL at
all: a missing scheme, a bad host, or a bad number after it.
-/

namespace SearchStore.Url

/-! ## Schemes -/

def isSchemeChar (c : Char) : Bool := c.isAlphanum || c = '+' || c = '-' || c = '.'

/-- The scheme in lower case, and what follows its colon. -/
def cutScheme? (cs : List Char) : Option (String × List Char) :=
  match cs.span isSchemeChar with
  | (c :: scheme, ':' :: rest) =>
    if c.isAlpha then some (String.ofList ((c :: scheme).map Char.toLower), rest) else none
  | _ => none

/-! ## Credentials and hosts -/

/-- The characters before the last `@` and those after it. -/
def cutAtLastAt (cs : List Char) : Option (List Char × List Char) :=
  match cs.reverse.span (· ≠ '@') with
  | (after, _ :: before) => some (before.reverse, after.reverse)
  | (_, []) => none

/-- A name and a password as they are written before a host. An empty password
counts as none. -/
def credentials (cs : List Char) : String × Option String :=
  match Text.cutAt? ':' cs with
  | none => (encoded plainInCredentials cs, none)
  | some (name, []) => (encoded plainInCredentials name, none)
  | some (name, password) =>
    (encoded plainInCredentials name, some (encoded plainInCredentials password))

/-- The host and what follows it. Between brackets a colon belongs to the
host. -/
def cutHost (inside : Bool) : List Char → List Char × List Char
  | [] => ([], [])
  | c :: rest =>
    if c = ':' && !inside then ([], c :: rest)
    else
      let inside := if c = '[' then true else if c = ']' then false else inside
      let (host, after) := cutHost inside rest
      (c :: host, after)

/-- The number after a host, unless it is the one that the scheme implies, and
what follows it. Only a backslash can, which then begins the path. -/
def readPortNumber (scheme : String) (cs : List Char) : Except Error (Option Nat × List Char) :=
  let (digits, rest) := Numeral.takeDigits cs
  let number := Numeral.digitsValue digits
  match rest with
  | [] | '\\' :: _ =>
    if UInt16.size ≤ number then .error .invalidPortNumber
    else if digits.isEmpty || some number = defaultPortNumber? scheme then .ok (none, rest)
    else .ok (some number, rest)
  | _ => .error .invalidPortNumber

/-- The host, the number after it, and what follows them. -/
def readHost (scheme : String) (cs : List Char) :
    Except Error (Host × Option Nat × List Char) := do
  let (host, after) := cutHost false cs
  let special := (kindOf scheme).isSpecial
  if host.isEmpty && (special || !after.isEmpty) then .error .emptyHost
  else
    let host ← if special then webHost host else plainHost host
    match after with
    | [] => return (host, none, [])
    | _ :: rest =>
      let (number, rest) ← readPortNumber scheme rest
      return (host, number, rest)

/-! ## Queries and fragments -/

def startsTail (c : Char) : Bool := c = '?' || c = '#'

/-- What follows a path: a query and a fragment. -/
def withTail (k : Kind) (u : Url) (cs : List Char) : Url :=
  match cs with
  | '?' :: rest =>
    let (query, after) := cutBefore (· = '#') rest
    { u with
      query := some (encoded (plainInQuery k) query)
      fragment := match after with
        | _ :: fragment => some (encoded plainInFragment fragment)
        | [] => none }
  | '#' :: rest => { u with fragment := some (encoded plainInFragment rest) }
  | _ => u

/-- A URL of a file, from what follows its scheme, breaks included. -/
def readFile (cs : List Char) : Except Error Url := do
  let (front, tail) := cutBefore startsTail cs
  let (host, path) ← readFileParts front
  return withTail .file { scheme := "file", host := some host, path } (unbroken tail)

/-! ## URLs -/

/-- A URL with a host, from what follows the slashes before it. -/
def readAuthority (scheme : String) (cs : List Char) : Except Error Url := do
  let k := kindOf scheme
  let (authority, after) := cutBefore (endsAuthority k) cs
  let (user, server) := (cutAtLastAt authority).getD ([], authority)
  if server.isEmpty && authority = ['@'] && !after.isEmpty then .error .emptyHost
  else
    let (username, password) := credentials user
    let (host, portNumber, rest) ← readHost scheme server
    if host = .name "" && (!username.isEmpty || password.isSome) then .error .emptyHost
    else
      let (path, tail) := cutBefore startsTail (rest ++ after)
      return withTail k
        { scheme, username, password, host := some host, portNumber, path := pathAfterHost k path }
        tail

/-- A URL of a scheme without a host, from what follows its scheme. -/
def readPlain (scheme : String) (cs : List Char) : Url :=
  let (path, tail) := cutBefore startsTail cs
  let path := match path with
    | '/' :: rest => .segments (segmentsOf .plain rest)
    | _ => .rootless (encoded plainAscii path)
  withTail .plain { scheme, path } tail

/-- The URL of a text. -/
def parse (s : String) : Except Error Url :=
  let cs := unpadded s
  match cutScheme? (unbroken cs) with
  | none => .error .missingScheme
  | some (scheme, rest) =>
    match kindOf scheme with
    | .file => readFile ((cs.dropWhile (· ≠ ':')).drop 1)
    | .web => readAuthority scheme (rest.dropWhile fun c => c = '/' || c = '\\')
    | .plain =>
      match rest with
      | '/' :: '/' :: rest => readAuthority scheme rest
      | _ => .ok (readPlain scheme rest)

end SearchStore.Url
