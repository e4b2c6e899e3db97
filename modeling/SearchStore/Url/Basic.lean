import SearchStore.Text.Blank
import SearchStore.Url.Error

/-! # URLs

A URL in its parts. All texts in it are encoded, as they stand in the text of
the URL.
-/

namespace SearchStore

/-- The host of a URL. -/
inductive Url.Host where
  /-- A name. It may be empty. -/
  | name (s : String)
  /-- An address of 32 bits. -/
  | ipv4 (address : Nat)
  /-- An address of eight pieces of 16 bits. -/
  | ipv6 (pieces : List Nat)
deriving DecidableEq, Repr

/-- The path of a URL. -/
inductive Url.Path where
  /-- A path that does not begin at a root. -/
  | rootless (text : String)
  /-- The segments of a path, each of which follows a slash. -/
  | segments (parts : List String)
deriving DecidableEq, Repr

/-- A URL. -/
structure Url where
  scheme : String
  username : String := ""
  password : Option String := none
  host : Option Url.Host := none
  /-- The number after the host, unless it is the one that the scheme
  implies. -/
  portNumber : Option Nat := none
  path : Url.Path
  query : Option String := none
  fragment : Option String := none
deriving DecidableEq, Repr

namespace Url

/-! ## Schemes -/

/-- Schemes differ in how the rest of a URL is read. -/
inductive Kind where
  /-- Names of files. -/
  | file
  /-- The other schemes of the web: a backslash is a slash, and hosts are
  names of the Internet. -/
  | web
  | plain
deriving DecidableEq, Repr

def kindOf (scheme : String) : Kind :=
  if scheme = "file" then .file
  else if ["http", "https", "ws", "wss", "ftp"].contains scheme then .web
  else .plain

/-- Whether a scheme is one of those of the web, files included. -/
def Kind.isSpecial (k : Kind) : Bool := k ≠ .plain

/-- The number that a scheme implies after a host. -/
def defaultPortNumber? (scheme : String) : Option Nat :=
  if scheme = "http" || scheme = "ws" then some 80
  else if scheme = "https" || scheme = "wss" then some 443
  else if scheme = "ftp" then some 21
  else none

/-! ## Hosts as text -/

/-- An address of 32 bits in four decimal parts. -/
def ipv4Text (address : Nat) : String :=
  String.intercalate "." <| [24, 16, 8, 0].map fun shift =>
    toString (address >>> shift % 256)

/-- A piece of an address in hexadecimal digits. -/
def pieceText (n : Nat) : String := String.ofList (Nat.toDigits 16 n)

/-- How many zeros a list begins with. -/
def leadingZeros (pieces : List Nat) : Nat := (pieces.takeWhile (· = 0)).length

/-- The place and the length of the longest run of zeros, the first one of
several. -/
def longestZeros : List Nat → Nat × Nat
  | [] => (0, 0)
  | n :: rest =>
    let run := leadingZeros (n :: rest)
    let (start, length) := longestZeros rest
    if length ≤ run then (0, run) else (start + 1, length)

/-- An address in pieces. The longest run of at least two zeros is left
out. -/
def ipv6Text (pieces : List Nat) : String :=
  let (start, length) := longestZeros pieces
  let join (ns : List Nat) := String.intercalate ":" (ns.map pieceText)
  if length < 2 then join pieces
  else join (pieces.take start) ++ "::" ++ join (pieces.drop (start + length))

def Host.text : Host → String
  | .name s => s
  | .ipv4 address => ipv4Text address
  | .ipv6 pieces => "[" ++ ipv6Text pieces ++ "]"

/-- The host, unless it is missing or empty. -/
def hostText? (u : Url) : Option String :=
  match u.host with
  | none | some (.name "") => none
  | some h => some h.text

/-! ## URLs as text -/

/-- The credentials before the host. -/
def credentialsText (u : Url) : String :=
  match u.password with
  | some p => u.username ++ ":" ++ p ++ "@"
  | none => if u.username.isEmpty then "" else u.username ++ "@"

/-- Everything between the scheme and the path. -/
def authorityText (u : Url) : String :=
  match u.host with
  | none => ""
  | some h =>
    "//" ++ u.credentialsText ++ h.text
      ++ (match u.portNumber with
        | some n => ":" ++ toString n
        | none => "")

/-- The path. Where no host precedes it, it must not look like one. -/
def pathText (u : Url) : String :=
  match u.path with
  | .rootless text => text
  | .segments parts =>
    let text := String.join (parts.map ("/" ++ ·))
    match u.host, parts with
    | none, "" :: _ :: _ => "/." ++ text
    | _, _ => text

/-- A part with the character that announces it. -/
def partText (mark : String) (part : Option String) : String :=
  match part with
  | some text => mark ++ text
  | none => ""

/-- The text of a URL. -/
def text (u : Url) : String :=
  u.scheme ++ ":" ++ u.authorityText ++ u.pathText ++ partText "?" u.query
    ++ partText "#" u.fragment

end Url

end SearchStore
