import SearchStore.Domain.Name
import SearchStore.Text.Percent
import SearchStore.Url.Address

/-! # Hosts

Hosts of the schemes of the web are names of the Internet in ASCII, except
that a name that ends in a number has to be an address. Hosts of other schemes
stay as they are written.
-/

namespace SearchStore.Url

/-- A name whose encoded form is given, in ASCII. -/
def domainName (cs : List Char) : Except Error (List Char) :=
  match Text.Utf8.decode (Text.Percent.decodeChars cs) with
  | .error _ => .error .invalidInternationalHost
  | .ok s =>
    match Domain.ascii? s.toList with
    | some name => .ok name
    | none => .error .invalidInternationalHost

/-- A host of one of the schemes of the web. -/
def webHost (cs : List Char) : Except Error Host :=
  match bracketed? cs with
  | some inner => do return .ipv6 (← ipv6? (← inner))
  | none => do
    let name ← domainName cs
    if name.isEmpty then .error .emptyHost
    else if endsInNumber name then return .ipv4 (← ipv4? name)
    else return .name (String.ofList name)

/-- Characters that never stand in a host. -/
def forbiddenInHost (c : Char) : Bool :=
  ['\x00', '\t', '\n', '\r', ' ', '#', '/', ':', '<', '>', '?', '@', '[', '\\', ']', '^',
    '|'].contains c

/-- Whether a character is written as it is wherever it may stand. -/
def plainAscii (c : Char) : Bool := 0x20 ≤ c.toNat && c.toNat < 0x7F

/-- A host of any other scheme: only controls and characters beyond ASCII are
encoded. -/
def plainHost (cs : List Char) : Except Error Host :=
  match bracketed? cs with
  | some inner => do return .ipv6 (← ipv6? (← inner))
  | none =>
    if cs.any forbiddenInHost then .error .invalidHostCharacter
    else return .name (Text.Percent.encode plainAscii (String.ofList cs))

end SearchStore.Url
