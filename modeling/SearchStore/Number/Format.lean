/-! # Binary floating point formats

A format fixes how many bits a significand has and between which powers of
two it is scaled. Every finite non-negative number of a format is `m · 2 ^ q`
with `m < 2 ^ precision` and `least ≤ q ≤ greatest`; it is *normalised* when
`m` has its top bit set or `q = least`.

`Format.round` takes a non-negative fraction to the number of the format
nearest to it, a tie to the even significand. All of it is integer
arithmetic, so rounding can be evaluated inside a proof. Powers are written
`Nat.pow`, which the kernel evaluates on literals and which does not depend
on the instances in scope.
-/

namespace SearchStore

/-- The nearest integer to `num / den`; a half goes to the even neighbour. -/
def divNearest (num den : Nat) : Nat :=
  let q := num / den
  let r := num % den
  if 2 * r < den then q
  else if den < 2 * r then q + 1
  else if q % 2 = 0 then q else q + 1

/-- A binary floating point format: the width of its significands and the
range of its exponents. -/
structure Format where
  precision : Nat
  least : Int
  greatest : Int
deriving DecidableEq, Repr

/-- A non-negative number of a format: a scaled significand, or more than the
format can hold. -/
inductive Magnitude where
  | finite (significand : Nat) (exponent : Int)
  | infinite
deriving DecidableEq, Repr

namespace Format

/-- The 64-bit format: 53 significant bits. -/
def double : Format := ⟨53, -1074, 971⟩

/-- The 32-bit format: 24 significant bits. -/
def single : Format := ⟨24, -149, 104⟩

/-- The fraction `num / den` divided by `2 ^ q`, again as a fraction. -/
def scale (num den : Nat) (q : Int) : Nat × Nat :=
  if 0 ≤ q then (num, den * Nat.pow 2 q.toNat) else (num * Nat.pow 2 (-q).toNat, den)

/-- The exponent at which a positive fraction has a significand of full
width, but never below the least one.

The two logarithms locate the fraction between two powers of two, which
leaves a choice of two exponents; the larger is needed when the significand
at the smaller one is too wide. -/
def exponentOf (F : Format) (num den : Nat) : Int :=
  let low := max F.least (Int.ofNat num.log2 - Int.ofNat den.log2 - Int.ofNat F.precision)
  let (n, d) := scale num den low
  if n / d < Nat.pow 2 F.precision then low else low + 1

/-- The number of the format nearest to `num / den`. -/
def round (F : Format) (num den : Nat) : Magnitude :=
  if num = 0 then .finite 0 F.least
  else
    let q := F.exponentOf num den
    let (n, d) := scale num den q
    let m := divNearest n d
    let (m, q) := if m = Nat.pow 2 F.precision then (Nat.pow 2 (F.precision - 1), q + 1) else (m, q)
    if F.greatest < q then .infinite else .finite m q

end Format

end SearchStore
