import SearchStore.Number.Double

/-! # Decimal texts of binary numbers

A number is written with the fewest digits that read back as the same
number, and of those the ones nearest to its exact value. `Decimal.shortest`
finds them; a `Layout` says where the point goes.
-/

namespace SearchStore

/-- The number `coefficient · 10 ^ exponent`. -/
structure Decimal where
  coefficient : Nat
  exponent : Int
deriving DecidableEq, Repr

namespace Decimal

/-- A decimal as a fraction of natural numbers. -/
def toFraction (d : Decimal) : Nat × Nat :=
  if 0 ≤ d.exponent then (d.coefficient * Nat.pow 10 d.exponent.toNat, 1)
  else (d.coefficient, Nat.pow 10 (-d.exponent).toNat)

/-- Whether reading the decimal in the format gives exactly this magnitude. -/
def readsAs (F : Format) (x : Magnitude) (d : Decimal) : Bool :=
  F.round d.toFraction.1 d.toFraction.2 == x

/-- The exponent `k` of the leading digit of a positive fraction:
`10 ^ k ≤ num / den < 10 ^ (k + 1)`. -/
def leadingExponent (num den : Nat) : Int :=
  let k := Int.ofNat (Nat.toDigits 10 num).length - Int.ofNat (Nat.toDigits 10 den).length
  let bound := toFraction ⟨1, k⟩
  if den * bound.1 ≤ num * bound.2 then k else k - 1

/-- The two neighbours of `num / den` among the multiples of
`10 ^ exponent`, the nearer one first and the even one first on a tie. -/
def neighbours (num den : Nat) (exponent : Int) : List Decimal :=
  let unit := toFraction ⟨1, exponent⟩
  let num := num * unit.2
  let den := den * unit.1
  let below : Decimal := ⟨num / den, exponent⟩
  let above : Decimal := ⟨num / den + 1, exponent⟩
  if divNearest num den = num / den then [below, above] else [above, below]

/-- A coefficient that has come out as a power of ten is one digit. -/
def dropZeros (digits : Nat) (d : Decimal) : Decimal :=
  if d.coefficient = Nat.pow 10 digits then ⟨1, d.exponent + Int.ofNat digits⟩ else d

/-- The exact value of a binary number in decimal. -/
def exact (m : Nat) (q : Int) : Decimal :=
  if 0 ≤ q then ⟨m * Nat.pow 2 q.toNat, 0⟩ else ⟨m * Nat.pow 5 (-q).toNat, q⟩

/-- The shortest decimal that the format reads as `m · 2 ^ q`, and among
those of one length the nearest. Seventeen digits always suffice for the
formats in use; the exact value stands in for longer searches. -/
def shortest (F : Format) (m : Nat) (q : Int) : Decimal :=
  if m = 0 then ⟨0, 0⟩
  else
    let (num, den) := Format.scale m 1 (-q)
    let k := leadingExponent num den
    let found := (List.range 17).findSome? fun i =>
      ((neighbours num den (k - Int.ofNat i)).find? (readsAs F (.finite m q))).map
        (dropZeros (i + 1))
    found.getD (exact m q)

/-! ## Layout -/

/-- Where the decimal point goes. -/
structure Layout where
  /-- The exponents of the leading digit, first and last, that are written
  without an exponent; all of them if there is no such range. -/
  positional : Option (Int × Int)
  /-- Whether a whole number keeps the point and one zero. -/
  pointZero : Bool

/-- Whether the layout writes a leading digit of exponent `k` in place. -/
def Layout.isPositional (L : Layout) (k : Int) : Bool :=
  match L.positional with
  | none => true
  | some (first, last) => first ≤ k && k ≤ last

/-- `digits` with the last one worth `10 ^ exponent`, the point put among
them and zeros where digits are missing. -/
def positionalText (L : Layout) (digits : List Char) (exponent : Int) : List Char :=
  let tail := if L.pointZero then ['.', '0'] else []
  if 0 ≤ exponent then digits ++ List.replicate exponent.toNat '0' ++ tail
  else
    let places := (-exponent).toNat
    if digits.length ≤ places then
      '0' :: '.' :: (List.replicate (places - digits.length) '0' ++ digits)
    else
      let whole := digits.length - places
      digits.take whole ++ '.' :: digits.drop whole

/-- One digit before the point, the rest behind it, and a signed exponent. -/
def scientificText (digits : List Char) (k : Int) : List Char :=
  let fraction := match digits.drop 1 with
    | [] => []
    | rest => '.' :: rest
  let sign := if 0 ≤ k then '+' else '-'
  digits.take 1 ++ fraction ++ 'e' :: sign :: Nat.toDigits 10 k.natAbs

/-- The text of a decimal in a layout. -/
def text (L : Layout) (d : Decimal) : List Char :=
  let digits := Nat.toDigits 10 d.coefficient
  let k := d.exponent + Int.ofNat digits.length - 1
  if d.coefficient = 0 then positionalText L ['0'] 0
  else if L.isPositional k then positionalText L digits d.exponent
  else scientificText digits k

/-- The layout for readers: every digit in its place and no point without
digits behind it. -/
def plain : Layout := ⟨none, false⟩

end Decimal

namespace Double

/-- The shortest decimal that reads as the magnitude of a finite double. -/
def shortest (x : Double) : Decimal :=
  match x.magnitude with
  | .infinite => ⟨0, 0⟩
  | .finite m q => Decimal.shortest .double m q

/-- The text of a finite double in a layout, with its sign. -/
def textIn (L : Decimal.Layout) (x : Double) : String :=
  let digits := String.ofList (x.shortest.text L)
  if x.negative then "-" ++ digits else digits

/-- The text of any double for a reader: `NaN`, `inf`, `-inf`, `-0`, and all
digits of the others. -/
def toPlainText (x : Double) : String :=
  if x.isNaN then "NaN"
  else if x.isInfinite then (if x.negative then "-inf" else "inf")
  else x.textIn Decimal.plain

end Double

/-- The double nearest to the shortest decimal of a finite single. It is
written with the digits that tell the single from other singles. -/
def Single.toShortDouble (x : Single) : Double :=
  match x.magnitude with
  | .infinite => Double.infinity x.negative
  | .finite m q =>
    let (num, den) := (Decimal.shortest .single m q).toFraction
    Double.ofFraction x.negative num den

end SearchStore
