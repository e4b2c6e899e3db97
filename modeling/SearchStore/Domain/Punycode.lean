/-! # Punycode

Characters beyond ASCII written in ASCII. The characters that are ASCII come
first; after a hyphen follow the others, by rising code point, each as the
number of steps from the last one. A step goes to the next place in the text,
and from its end to its beginning with the next code point. Numbers are
written in digits of base 36 with thresholds that adapt to what was written
before.
-/

namespace SearchStore.Domain.Punycode

/-! ## Digits and thresholds -/

def digitChar (d : Nat) : Char := if d < 26 then Char.ofNat (97 + d) else Char.ofNat (22 + d)

def digitValue? (c : Char) : Option Nat :=
  if 'a' ≤ c && c ≤ 'z' then some (c.toNat - 97)
  else if 'A' ≤ c && c ≤ 'Z' then some (c.toNat - 65)
  else if '0' ≤ c && c ≤ '9' then some (c.toNat - 22)
  else none

/-- The threshold of a digit. The first digit has place `36`, the next `72`,
and so on. -/
def threshold (bias place : Nat) : Nat :=
  if place ≤ bias then 1 else min 26 (place - bias)

/-- Divides until the number is small, and counts the divisions. -/
def shrink (n : Nat) (divisions : Nat) : Nat × Nat :=
  if n ≤ 455 then (n, divisions) else shrink (n / 35) (divisions + 1)
termination_by n
decreasing_by omega

/-- The bias after a number of steps, with so many characters written. -/
def adapt (steps written : Nat) (first : Bool) : Nat :=
  let n := if first then steps / 700 else steps / 2
  let (n, divisions) := shrink (n + n / written) 0
  36 * divisions + 36 * n / (n + 38)

/-! ## Writing -/

/-- The digits of a number. -/
def digitsOf (bias place n : Nat) : List Char :=
  let t := threshold bias place
  if h : n < t then [digitChar n]
  else digitChar (t + (n - t) % (36 - t)) :: digitsOf bias (place + 36) ((n - t) / (36 - t))
termination_by n
decreasing_by
  have positive : 1 ≤ threshold bias place := by unfold threshold; split <;> omega
  have := Nat.div_le_self (n - threshold bias place) (36 - threshold bias place)
  omega

/-- Where the writing stands: the steps since the last character, the
characters that are written, and the digits in reverse. -/
structure Progress where
  steps : Nat := 0
  written : Nat
  bias : Nat := 72
  digits : List Char := []

/-- Passes by a character on the round for a code point, and writes it if it
is the one. -/
def visit (basic point : Nat) (p : Progress) (c : Char) : Progress :=
  if c.toNat < point then { p with steps := p.steps + 1 }
  else if c.toNat = point then
    { steps := 0
      written := p.written + 1
      bias := adapt p.steps (p.written + 1) (p.written = basic)
      digits := p.digits ++ digitsOf p.bias 36 p.steps }
  else p

/-- One round for each code point that occurs; `point` is the next one that
could be. -/
def rounds (cs : List Char) (basic : Nat) : List Nat → Nat → Progress → Progress
  | [], _, p => p
  | m :: rest, point, p =>
    let p := { p with steps := p.steps + (m - point) * (p.written + 1) }
    let p := cs.foldl (visit basic m) p
    rounds cs basic rest (m + 1) { p with steps := p.steps + 1 }

/-- A text in ASCII. -/
def encode (cs : List Char) : List Char :=
  let basic := cs.filter fun c => c.toNat < 0x80
  let points := ((cs.map Char.toNat).filter (0x80 ≤ ·)).mergeSort.eraseDups
  let p := rounds cs basic.length points 0x80 { written := basic.length }
  (if basic.isEmpty then [] else basic ++ ['-']) ++ p.digits

/-! ## Reading -/

/-- Reads a number, and gives what follows it. -/
def readNumber? (bias place weight n : Nat) : List Char → Option (Nat × List Char)
  | [] => none
  | c :: rest => do
    let d ← digitValue? c
    let t := threshold bias place
    if d < t then return (n + d * weight, rest)
    else readNumber? bias (place + 36) (weight * (36 - t)) (n + d * weight) rest

/-- Puts characters into a text, one number for each; `fuel` is at least as
much as there are digits. -/
def insertAll? : Nat → List Char → Nat → Nat → Nat → List Nat → Option (List Nat)
  | _, [], _, _, _, points => some points
  | 0, _ :: _, _, _, _, _ => none
  | fuel + 1, digits, point, place, bias, points => do
    let (steps, rest) ← readNumber? bias 36 1 0 digits
    let size := points.length + 1
    let target := place + steps
    let point := point + target / size
    let place := target % size
    let bias := adapt steps size (points.all (· < 0x80))
    insertAll? fuel rest point (place + 1) bias (points.take place ++ point :: points.drop place)

/-- The characters before the last hyphen, and those after it. Without a
hyphen all are after it. -/
def cutAtLastHyphen (cs : List Char) : List Char × List Char :=
  let after := (cs.reverse.takeWhile (· ≠ '-')).reverse
  (cs.take (cs.length - after.length - 1), after)

/-- The text that is written so. -/
def decode? (cs : List Char) : Option (List Char) := do
  let (basic, digits) := cutAtLastHyphen cs
  if basic.any fun c => 0x80 ≤ c.toNat then none
  let points ← insertAll? digits.length digits 0x80 0 72 (basic.map Char.toNat)
  if points.all (·.isValidChar) then return points.map Char.ofNat
  else none

end SearchStore.Domain.Punycode
