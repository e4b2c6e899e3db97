import SearchStore.Number.Decimal

/-! # Reading decimal numerals

A numeral is a run of digits, perhaps a fraction, perhaps a power of ten.
There are two ways to value one as a double. `Numeral.nearest` rounds the
exact value once. `Numeral.scaled` keeps as many leading digits as fit in 64
bits and multiplies or divides the resulting double by powers of ten that are
themselves doubles, so that long numerals can come out one step away from the
nearest double.
-/

namespace SearchStore

/-- An unsigned decimal numeral, `whole.fraction · 10 ^ exponent`, with the
digits as numbers below ten. -/
structure Numeral where
  whole : List Nat
  fraction : List Nat
  exponent : Int
deriving DecidableEq, Repr

namespace Numeral

/-- The value of a run of digits. -/
def digitsValue (digits : List Nat) : Nat := digits.foldl (fun n d => 10 * n + d) 0

def toDecimal (x : Numeral) : Decimal :=
  ⟨digitsValue (x.whole ++ x.fraction), x.exponent - Int.ofNat x.fraction.length⟩

/-- The double nearest to a numeral. The two tests keep the powers of ten
small: they only catch values far beyond the largest and far below the
smallest double. -/
def nearest (negative : Bool) (x : Numeral) : Double :=
  let d := x.toDecimal
  let digits := Int.ofNat (Nat.toDigits 10 d.coefficient).length
  if d.coefficient = 0 then Double.ofFraction negative 0 1
  else if 400 < d.exponent + digits then Double.infinity negative
  else if d.exponent + digits < -400 then Double.ofFraction negative 0 1
  else Double.ofFraction negative d.toFraction.1 d.toFraction.2

/-! ## Scaling by powers of ten -/

/-- Appends digits to a significand while the result fits in 64 bits, and
gives the digits that are left over. -/
def fillWord (significand : Nat) : List Nat → Nat × List Nat
  | [] => (significand, [])
  | d :: rest =>
    if 10 * significand + d < UInt64.size then fillWord (10 * significand + d) rest
    else (significand, d :: rest)

/-- The leading digits of a numeral that fit in 64 bits, as a significand
and a power of ten. Digits of the whole part that do not fit count as zeros;
digits of the fraction that do not fit count for nothing. -/
def wordPart (x : Numeral) : Nat × Int :=
  let (significand, dropped) := fillWord 0 x.whole
  let (significand', unused) := fillWord significand x.fraction
  (significand', Int.ofNat dropped.length
    - Int.ofNat (x.fraction.length - unused.length) + x.exponent)

/-- The double nearest to a power of ten up to 308. -/
def power (n : Nat) : Double := Double.ofFraction false (Nat.pow 10 n) 1

/-- A double divided by `10 ^ n`, three hundred and eight powers at a time. -/
def divideByPower (x : Double) (n : Nat) : Double :=
  if n ≤ 308 then x.div (power n)
  else if x.fractionField = 0 && x.exponentField = 0 then x
  else divideByPower (x.div (power 308)) (n - 308)
termination_by n

/-- The value of a numeral by scaling its significand; `none` if that leaves
the finite doubles. -/
def scaled (negative : Bool) (x : Numeral) : Option Double :=
  let (significand, exponent) := x.wordPart
  let start := Double.ofInt significand
  let signed (y : Double) := if negative then -y else y
  if exponent < 0 then some (signed (divideByPower start (-exponent).toNat))
  else if significand = 0 then some (signed start)
  else if 308 < exponent then none
  else
    let product := start.mul (power exponent.toNat)
    if product.isFinite then some (signed product) else none

/-! ## Texts -/

/-- The value of an ASCII digit. -/
def digit? (c : Char) : Option Nat :=
  if '0' ≤ c && c ≤ '9' then some (c.toNat - '0'.toNat) else none

/-- The longest run of digits at the front, and what follows it. -/
def takeDigits : List Char → List Nat × List Char
  | [] => ([], [])
  | c :: rest =>
    match digit? c with
    | none => ([], c :: rest)
    | some d => let (ds, rest') := takeDigits rest; (d :: ds, rest')

/-- A sign at the front, true for minus, and what follows it. -/
def takeSign : List Char → Bool × List Char
  | '-' :: rest => (true, rest)
  | '+' :: rest => (false, rest)
  | rest => (false, rest)

/-- The exponent of a numeral that is written to its end. -/
def exponent? : List Char → Option Int
  | [] => some 0
  | c :: rest =>
    if c = 'e' || c = 'E' then
      let (negative, rest) := takeSign rest
      match takeDigits rest with
      | ([], _) => none
      | (ds, []) =>
        let n := Int.ofNat (digitsValue ds)
        some (if negative then -n else n)
      | (_, _ :: _) => none
    else none

/-- A whole text as a numeral. One side of the point may be empty, but not
both, and an exponent needs digits. -/
def ofText? (cs : List Char) : Option Numeral :=
  let (whole, rest) := takeDigits cs
  let (fraction, rest) := match rest with
    | '.' :: rest => takeDigits rest
    | rest => ([], rest)
  if whole.isEmpty && fraction.isEmpty then none
  else (exponent? rest).map fun e => ⟨whole, fraction, e⟩

end Numeral

/-- The names of infinity and of not-a-number, in any case. -/
def Double.named? (negative : Bool) (cs : List Char) : Option Double :=
  let name := String.ofList (cs.map Char.toLower)
  if name = "inf" || name = "infinity" then some (.infinity negative)
  else if name = "nan" then some (.nan negative)
  else none

/-- A double as people write it: an optional sign, then a numeral or a name.
The value is the nearest double. -/
def Double.ofText? (s : String) : Option Double :=
  let (negative, rest) := Numeral.takeSign s.toList
  match Numeral.ofText? rest with
  | some x => some (x.nearest negative)
  | none => Double.named? negative rest

end SearchStore
