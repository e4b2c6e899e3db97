import SearchStore.Number.Radix
import SearchStore.Url.Basic

/-! # Addresses as hosts

Numbers that stand for an address of 32 bits, in one to four parts and in
three bases, and addresses in pieces between brackets.
-/

namespace SearchStore.Url

/-! ## Four parts -/

/-- A part of an address: hexadecimal after `0x`, octal after `0`, or else
decimal. No digits after such a beginning are zero. -/
def part? : List Char → Option Nat
  | [] => none
  | '0' :: 'x' :: rest | '0' :: 'X' :: rest => Radix.number? 16 rest
  | '0' :: rest => Radix.number? 8 rest
  | cs => Radix.number? 10 cs

/-- The parts between dots, without an empty one at the end. -/
def dotted (cs : List Char) : List (List Char) :=
  let parts := Text.splitOn '.' cs
  if 1 < parts.length && parts.getLast? = some [] then parts.dropLast else parts

/-- Whether a name has to be read as an address: its last part is a number. -/
def endsInNumber (cs : List Char) : Bool :=
  match (dotted cs).getLast? with
  | some last => (!last.isEmpty && last.all Char.isDigit) || (part? last).isSome
  | none => false

/-- The address of some parts. Each but the last has eight bits, and the last
has all that are left. -/
def addressOf? : List Nat → Option Nat
  | parts =>
    match parts.reverse with
    | [] => none
    | last :: before =>
      let first := before.reverse
      if first.all (· < 256) && last < Nat.pow 256 (4 - first.length) && first.length < 4 then
        some (Radix.valueOf 256 first * Nat.pow 256 (4 - first.length) + last)
      else none

/-- An address in parts. -/
def ipv4? (cs : List Char) : Except Error Nat :=
  match ((dotted cs).mapM part?).bind addressOf? with
  | some address => .ok address
  | none => .error .invalidIpv4

/-! ## Pieces -/

/-- A piece: up to four hexadecimal digits. -/
def piece? (cs : List Char) : Option Nat :=
  if 0 < cs.length && cs.length ≤ 4 then Radix.number? 16 cs else none

/-- A decimal part without superfluous zeros. -/
def strictPart? : List Char → Option Nat
  | [] => none
  | '0' :: _ :: _ => none
  | cs => (Radix.number? 10 cs).filter (· < 256)

/-- Four decimal parts as two pieces. -/
def twoPieces? (cs : List Char) : Option (List Nat) := do
  match ← (Text.splitOn '.' cs).mapM strictPart? with
  | [a, b, c, d] => some [256 * a + b, 256 * c + d]
  | _ => none

/-- Pieces between colons, the last of which may be four decimal parts. -/
def pieces? : List (List Char) → Option (List Nat)
  | [] => some []
  | [cs] => if cs.contains '.' then twoPieces? cs else (piece? cs).map fun n => [n]
  | cs :: rest => do
    let n ← piece? cs
    return n :: (← pieces? rest)

/-- The characters before two colons in a row, and those after them. -/
def cutAtColons : List Char → Option (List Char × List Char)
  | ':' :: ':' :: rest => some ([], rest)
  | c :: rest => (cutAtColons rest).map fun (before, after) => (c :: before, after)
  | [] => none

/-- The pieces of a text, none for an empty one. -/
def piecesOf? (cs : List Char) : Option (List Nat) :=
  if cs.isEmpty then some [] else pieces? (Text.splitOn ':' cs)

/-- The eight pieces of an address. Two colons in a row stand for as many
zeros as are missing, and for at least one. -/
def eightPieces? (cs : List Char) : Option (List Nat) :=
  match cutAtColons cs with
  | none => (piecesOf? cs).filter (·.length = 8)
  | some (before, after) => do
    if before.contains '.' then none
    let first ← piecesOf? before
    let last ← piecesOf? after
    let missing := 8 - (first.length + last.length)
    if missing = 0 then none
    else some (first ++ List.replicate missing 0 ++ last)

/-- An address in pieces. -/
def ipv6? (cs : List Char) : Except Error (List Nat) :=
  match eightPieces? cs with
  | some pieces => .ok pieces
  | none => .error .invalidIpv6

/-- What stands between the brackets of a host that begins with one. -/
def bracketed? : List Char → Option (Except Error (List Char))
  | '[' :: rest =>
    match rest.reverse with
    | ']' :: inner => some (.ok inner.reverse)
    | _ => some (.error .invalidIpv6)
  | _ => none

end SearchStore.Url
