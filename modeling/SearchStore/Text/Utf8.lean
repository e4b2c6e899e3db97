/-! # Reading UTF-8

Bytes are read as a sequence of pieces: characters, and runs of bytes that
belong to no character. A broken run is as long as the bytes could still have
begun a character, so that one damaged character is one piece. From the pieces
come both ways of reading: the strict one, which reports the first piece that
is no character, and the lenient one, which puts U+FFFD in the place of each.
-/

namespace SearchStore.Text.Utf8

/-- A part of a byte sequence. -/
inductive Piece where
  | char (c : Char)
  /-- So many bytes that no character begins with. -/
  | broken (length : Nat)
  /-- The sequence ends in the middle of a character. -/
  | cut
deriving DecidableEq, Repr

/-- A character of which some bytes are read. -/
structure Pending where
  /-- How many bytes are missing. -/
  missing : Nat
  /-- The bits read so far. -/
  code : Nat
  /-- How many bytes are read. -/
  seen : Nat
  /-- The least and the greatest byte that may come next. -/
  low : Nat
  high : Nat
deriving DecidableEq, Repr

/-- What the first byte of a piece begins. -/
inductive Lead where
  | ascii (c : Char)
  | opens (p : Pending)
  | bad

/-- The meaning of a byte between characters. The byte after it is limited
where a longer form than necessary, a surrogate or a code point beyond the
last would begin. -/
def lead (b : Nat) : Lead :=
  if b < 0x80 then .ascii (Char.ofNat b)
  else if 0xC2 ≤ b && b ≤ 0xDF then .opens ⟨1, b - 0xC0, 1, 0x80, 0xBF⟩
  else if b = 0xE0 then .opens ⟨2, 0, 1, 0xA0, 0xBF⟩
  else if b = 0xED then .opens ⟨2, 0xD, 1, 0x80, 0x9F⟩
  else if 0xE1 ≤ b && b ≤ 0xEF then .opens ⟨2, b - 0xE0, 1, 0x80, 0xBF⟩
  else if b = 0xF0 then .opens ⟨3, 0, 1, 0x90, 0xBF⟩
  else if 0xF1 ≤ b && b ≤ 0xF3 then .opens ⟨3, b - 0xF0, 1, 0x80, 0xBF⟩
  else if b = 0xF4 then .opens ⟨3, 4, 1, 0x80, 0x8F⟩
  else .bad

/-- The pieces of a byte sequence, some of a character being read already. -/
def pieces : Option Pending → List UInt8 → List Piece
  | none, [] => []
  | some _, [] => [.cut]
  | none, b :: rest => begin b rest
  | some p, b :: rest =>
    if p.low ≤ b.toNat && b.toNat ≤ p.high then
      let code := p.code * 64 + (b.toNat - 0x80)
      if p.missing ≤ 1 then .char (Char.ofNat code) :: pieces none rest
      else pieces (some ⟨p.missing - 1, code, p.seen + 1, 0x80, 0xBF⟩) rest
    else .broken p.seen :: begin b rest
where
  /-- The pieces from a byte on that begins one. -/
  begin (b : UInt8) (rest : List UInt8) : List Piece :=
    match lead b.toNat with
    | .ascii c => .char c :: pieces none rest
    | .opens p => pieces (some p) rest
    | .bad => .broken 1 :: pieces none rest

/-- The characters of the bytes, `none` for each piece that is no character. -/
def symbols (bytes : List UInt8) : List (Option Char) :=
  (pieces none bytes).map fun
    | .char c => some c
    | _ => none

/-- The text with U+FFFD for each piece that is no character. -/
def lenient (bytes : List UInt8) : String :=
  String.ofList ((symbols bytes).map fun c => c.getD '\uFFFD')

/-- Why bytes are not UTF-8, and from which byte on. -/
inductive Error where
  | invalid (length index : Nat)
  | incomplete (index : Nat)
deriving DecidableEq, Repr

def Error.message : Error → String
  | .invalid length index => s!"invalid utf-8 sequence of {length} bytes from index {index}"
  | .incomplete index => s!"incomplete utf-8 byte sequence from index {index}"

/-- The characters of the pieces, if they are all characters; `index` counts
the bytes before them. -/
def collect (index : Nat) : List Piece → Except Error (List Char)
  | [] => .ok []
  | .char c :: rest => (collect (index + c.utf8Size) rest).map (c :: ·)
  | .broken length :: _ => .error (.invalid length index)
  | .cut :: _ => .error (.incomplete index)

/-- The text that the bytes encode. -/
def decode (bytes : List UInt8) : Except Error String :=
  (collect 0 (pieces none bytes)).map String.ofList

/-- The bytes of a text. -/
def encode (s : String) : List UInt8 := s.toList.flatMap String.utf8EncodeChar

end SearchStore.Text.Utf8
