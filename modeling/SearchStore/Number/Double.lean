import SearchStore.Number.Format

/-! # Doubles and singles

A double is its 64 bits, so that the two zeros, the infinities and every
not-a-number are told apart by equality. Arithmetic decodes the bits into a
significand and an exponent, computes exactly on integers and rounds once.
-/

namespace SearchStore

/-- A 64-bit binary floating point number, given by its bits: a sign bit,
eleven exponent bits and fifty-two fraction bits. -/
structure Double where
  bits : UInt64
deriving DecidableEq, Repr, Hashable

/-- A 32-bit binary floating point number, given by its bits: a sign bit,
eight exponent bits and twenty-three fraction bits. -/
structure Single where
  bits : UInt32
deriving DecidableEq, Repr

namespace Double

def negative (x : Double) : Bool := Nat.pow 2 63 ≤ x.bits.toNat

/-- The eleven exponent bits. -/
def exponentField (x : Double) : Nat := x.bits.toNat / Nat.pow 2 52 % Nat.pow 2 11

/-- The fifty-two fraction bits. -/
def fractionField (x : Double) : Nat := x.bits.toNat % Nat.pow 2 52

def isFinite (x : Double) : Bool := x.exponentField != 2047

def isNaN (x : Double) : Bool := x.exponentField == 2047 && x.fractionField != 0

def isInfinite (x : Double) : Bool := x.exponentField == 2047 && x.fractionField == 0

/-- The value without its sign. What is not finite counts as infinite. -/
def magnitude (x : Double) : Magnitude :=
  if x.exponentField = 2047 then .infinite
  else if x.exponentField = 0 then .finite x.fractionField (-1074)
  else .finite (Nat.pow 2 52 + x.fractionField) (Int.ofNat x.exponentField - 1075)

def signBit (negative : Bool) : Nat := if negative then Nat.pow 2 63 else 0

/-- The double with this sign and this magnitude, which has to be normalised. -/
def ofMagnitude (negative : Bool) : Magnitude → Double
  | .infinite => ⟨UInt64.ofNat (signBit negative + 2047 * Nat.pow 2 52)⟩
  | .finite m q =>
    if m < Nat.pow 2 52 then ⟨UInt64.ofNat (signBit negative + m)⟩
    else ⟨UInt64.ofNat (signBit negative + (q + 1075).toNat * Nat.pow 2 52 + (m - Nat.pow 2 52))⟩

/-- The double nearest to `num / den`, or to its negative. -/
def ofFraction (negative : Bool) (num den : Nat) : Double :=
  ofMagnitude negative (Format.double.round num den)

def zero : Double := ⟨0⟩

def infinity (negative : Bool) : Double := ofMagnitude negative .infinite

/-- The quiet not-a-number with an empty payload. -/
def nan (negative : Bool) : Double := ⟨UInt64.ofNat (signBit negative + 4095 * Nat.pow 2 51)⟩

/-- The double nearest to an integer. -/
def ofInt (n : Int) : Double := ofFraction (n < 0) n.natAbs 1

def neg (x : Double) : Double := ⟨x.bits ^^^ UInt64.ofNat (Nat.pow 2 63)⟩

/-- `m · 2 ^ q` as a multiple of `2 ^ least`, the grid on which all doubles
lie. -/
private def onGrid (m : Nat) (q : Int) : Nat := m * Nat.pow 2 (q + 1074).toNat

/-- A finite double as an integer multiple of the smallest positive double. -/
def toGrid (x : Double) : Int :=
  match x.magnitude with
  | .infinite => 0
  | .finite m q => if x.negative then -Int.ofNat (onGrid m q) else Int.ofNat (onGrid m q)

/-- The nearest double to an integer multiple of the smallest positive
double. A zero sum is positive unless `zeroNegative`. -/
private def ofGrid (zeroNegative : Bool) (n : Int) : Double :=
  if n = 0 then ofMagnitude zeroNegative (.finite 0 (-1074))
  else ofFraction (n < 0) n.natAbs (Nat.pow 2 1074)

/-- The sum, rounded once. Infinities of opposite signs have no sum, and two
zeros have a negative sum only if both are negative. -/
def add (x y : Double) : Double :=
  if x.isNaN then x
  else if y.isNaN then y
  else if x.isInfinite then
    if y.isInfinite && x.negative != y.negative then nan false else x
  else if y.isInfinite then y
  else ofGrid (x.negative && y.negative) (x.toGrid + y.toGrid)

/-- The product of two finite doubles, rounded once. -/
def mul (x y : Double) : Double :=
  let negative := x.negative != y.negative
  match x.magnitude, y.magnitude with
  | .finite m p, .finite n q =>
    let (num, den) := Format.scale (m * n) 1 (-(p + q))
    ofFraction negative num den
  | _, _ => infinity negative

/-- The quotient of two finite doubles, the second not zero, rounded once. -/
def div (x y : Double) : Double :=
  let negative := x.negative != y.negative
  match x.magnitude, y.magnitude with
  | .finite m p, .finite n q =>
    let (num, den) := Format.scale m n (q - p)
    ofFraction negative num den
  | _, _ => infinity negative

/-- The place of a double in the total order of all bit patterns: negative
ones first and in reverse, and each not-a-number beyond the infinity of its
sign. -/
def orderKey (x : Double) : Int :=
  if x.negative then Int64.maxValue.toInt - Int.ofNat x.bits.toNat else Int.ofNat x.bits.toNat

/-- The integer part, cut off at the ends of the signed 64-bit range;
a not-a-number counts as zero. -/
def truncate (x : Double) : Int :=
  if x.isNaN then 0
  else
    let whole : Int :=
      match x.magnitude with
      | .infinite => Int.ofNat UInt64.size
      | .finite m q =>
        if 0 ≤ q then Int.ofNat (m * Nat.pow 2 q.toNat) else Int.ofNat (m / Nat.pow 2 (-q).toNat)
    let signed := if x.negative then -whole else whole
    max Int64.minValue.toInt (min Int64.maxValue.toInt signed)

instance : Add Double := ⟨add⟩
instance : Neg Double := ⟨neg⟩

end Double

namespace Single

def negative (x : Single) : Bool := Nat.pow 2 31 ≤ x.bits.toNat

def exponentField (x : Single) : Nat := x.bits.toNat / Nat.pow 2 23 % Nat.pow 2 8

def fractionField (x : Single) : Nat := x.bits.toNat % Nat.pow 2 23

def isFinite (x : Single) : Bool := x.exponentField != 255

def magnitude (x : Single) : Magnitude :=
  if x.exponentField = 255 then .infinite
  else if x.exponentField = 0 then .finite x.fractionField (-149)
  else .finite (Nat.pow 2 23 + x.fractionField) (Int.ofNat x.exponentField - 150)

/-- The single with this sign and this magnitude, which has to be normalised. -/
def ofMagnitude (negative : Bool) (m : Magnitude) : Single :=
  let sign := if negative then Nat.pow 2 31 else 0
  match m with
  | .infinite => ⟨UInt32.ofNat (sign + 255 * Nat.pow 2 23)⟩
  | .finite m q =>
    if m < Nat.pow 2 23 then ⟨UInt32.ofNat (sign + m)⟩
    else ⟨UInt32.ofNat (sign + (q + 150).toNat * Nat.pow 2 23 + (m - Nat.pow 2 23))⟩

/-- The single nearest to `num / den`, or to its negative. -/
def ofFraction (negative : Bool) (num den : Nat) : Single :=
  ofMagnitude negative (Format.single.round num den)

def ofInt (n : Int) : Single := ofFraction (n < 0) n.natAbs 1

/-- The single nearest to a double. -/
def ofDouble (x : Double) : Single :=
  match x.magnitude with
  | .infinite => ofMagnitude x.negative .infinite
  | .finite m q =>
    let (num, den) := Format.scale m 1 (-q)
    ofFraction x.negative num den

/-- The double with the value of a finite single. No rounding takes place: a
double has more bits and a wider range. -/
def toDouble (x : Single) : Double :=
  match x.magnitude with
  | .infinite => Double.ofMagnitude x.negative .infinite
  | .finite m q =>
    let (num, den) := Format.scale m 1 (-q)
    Double.ofFraction x.negative num den

end Single

end SearchStore
