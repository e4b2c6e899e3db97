import SearchStore.Calendar
import SearchStore.Json.Basic
import SearchStore.Number.Numeral
import SearchStore.Number.Radix

/-! # Numbers, truth values and dates of TOML

These values are words: runs of letters, digits and a few signs. A date may be
followed by a blank and a time.
-/

namespace SearchStore.Toml

/-- Whether a character can stand in a word. -/
def isWordChar (c : Char) : Bool :=
  c.isAlphanum || c = '+' || c = '-' || c = '_' || c = '.' || c = ':'

/-! ## Numbers -/

/-- Digits without the underscores between them. An underscore needs a digit
on both sides. -/
def plainDigits? (isDigit : Char → Bool) : List Char → Option (List Char)
  | [] => none
  | [c] => if isDigit c then some [c] else none
  | c :: '_' :: rest =>
    if isDigit c then (plainDigits? isDigit rest).map (c :: ·) else none
  | c :: rest => if isDigit c then (plainDigits? isDigit rest).map (c :: ·) else none

/-- Digits of a decimal number without superfluous zeros. -/
def wholeDigits? (cs : List Char) : Option (List Char) :=
  match plainDigits? Char.isDigit cs with
  | some ('0' :: _ :: _) => none
  | r => r

/-- Integers have 64 bits. -/
def bounded? (n : Int) : Option Json :=
  if Int64.minValue.toInt ≤ n && n ≤ Int64.maxValue.toInt then some (.int n) else none

/-- The sign, if there is one, and the rest. -/
def cutSign : List Char → Bool × List Char
  | '-' :: rest => (true, rest)
  | '+' :: rest => (false, rest)
  | cs => (false, cs)

/-- An integer in base sixteen, eight or two. -/
def basedInteger? (base : Nat) (cs : List Char) : Option Json := do
  let isDigit (c : Char) : Bool := ((Radix.digitValue? c).filter (· < base)).isSome
  bounded? (← Radix.number? base (← plainDigits? isDigit cs))

/-- An integer. -/
def integer? (cs : List Char) : Option Json :=
  match cs with
  | '0' :: 'x' :: rest => basedInteger? 16 rest
  | '0' :: 'o' :: rest => basedInteger? 8 rest
  | '0' :: 'b' :: rest => basedInteger? 2 rest
  | _ => do
    let (negative, digits) := cutSign cs
    let n := Int.ofNat (← Radix.number? 10 (← wholeDigits? digits))
    bounded? (if negative then -n else n)

/-- The exponent after its letter. -/
def exponent? (cs : List Char) : Option Int := do
  let (negative, digits) := cutSign cs
  let n := Int.ofNat (← Radix.number? 10 (← plainDigits? Char.isDigit digits))
  return if negative then -n else n

/-- The digits of a decimal text. -/
def digitsOf (cs : List Char) : List Nat := cs.filterMap Numeral.digit?

/-- A number with a fraction, an exponent or both. -/
def numeral? (cs : List Char) : Option Numeral := do
  let (mantissa, power) := cs.span fun c => c ≠ 'e' && c ≠ 'E'
  let (whole, point) := mantissa.span (· ≠ '.')
  if point.isEmpty && power.isEmpty then none
  else
    let whole ← wholeDigits? whole
    let fraction ← match point with
      | [] => some []
      | _ :: digits => plainDigits? Char.isDigit digits
    let exponent ← match power with
      | [] => some 0
      | _ :: rest => exponent? rest
    return ⟨digitsOf whole, digitsOf fraction, exponent⟩

/-- A double. No number is too large downwards, but some are upwards. -/
def double? (cs : List Char) : Option Json := do
  let (negative, rest) := cutSign cs
  if rest = ['i', 'n', 'f'] then return .real (Double.infinity negative)
  else if rest = ['n', 'a', 'n'] then return .real (Double.nan negative)
  else
    let x := (← numeral? rest).nearest negative
    if x = Double.infinity false then none else return .real x

/-! ## Dates and times -/

/-- Two digits below a bound. -/
def twoDigits? (bound : Nat) : List Char → Option Nat
  | [a, b] => do
    if a.isDigit && b.isDigit then (Radix.number? 10 [a, b]).filter (· < bound) else none
  | _ => none

/-- Whether a text is a date. -/
def isDate (cs : List Char) : Bool :=
  match cs with
  | [a, b, c, d, '-', e, f, '-', g, h] =>
    match Radix.number? 10 [a, b, c, d], twoDigits? 13 [e, f], twoDigits? 32 [g, h] with
    | some year, some month, some day =>
      1 ≤ month && 1 ≤ day && day ≤ Date.daysInMonth year month
    | _, _, _ => false
  | _ => false

/-- Whether a text is a time of day. A minute may have a second too many. -/
def isTime (cs : List Char) : Bool :=
  match cs with
  | a :: b :: ':' :: c :: d :: ':' :: e :: f :: rest =>
    (twoDigits? 24 [a, b]).isSome && (twoDigits? 60 [c, d]).isSome && (twoDigits? 61 [e, f]).isSome
      && (match rest with
        | [] => true
        | '.' :: digits => !digits.isEmpty && digits.all Char.isDigit
        | _ => false)
  | _ => false

/-- Whether a text is the distance of a local time from the universal one. -/
def isOffset (cs : List Char) : Bool :=
  match cs with
  | ['Z'] | ['z'] => true
  | [sign, a, b, ':', c, d] =>
    (sign = '+' || sign = '-') && (twoDigits? 24 [a, b]).isSome && (twoDigits? 60 [c, d]).isSome
  | _ => false

/-- Whether a text is a time of day, perhaps with an offset. -/
def isZonedTime (cs : List Char) : Bool :=
  let (time, offset) := cs.span fun c => c.isDigit || c = ':' || c = '.'
  isTime time && (offset.isEmpty || isOffset offset)

/-- Whether a text is a date, a time, or both. -/
def isMoment (cs : List Char) : Bool :=
  isDate cs || isTime cs ||
    (isDate (cs.take 10) &&
      match cs.drop 10 with
      | 'T' :: time | 't' :: time | ' ' :: time => isZonedTime time
      | _ => false)

/-- A date is an object with one member, which no record asks for. -/
def moment (cs : List Char) : Json := .obj [("$moment", .str (String.ofList cs))]

/-! ## Words -/

/-- The value of a word. -/
def ofWord? (cs : List Char) : Option Json :=
  if cs = ['t', 'r', 'u', 'e'] then some (.bool true)
  else if cs = ['f', 'a', 'l', 's', 'e'] then some (.bool false)
  else if isMoment cs then some (moment cs)
  else (integer? cs).or (double? cs)

/-- The word at the front of a text, and what follows it. After a date a blank
and a time belong to it. -/
def cutWord (cs : List Char) : List Char × List Char :=
  let (word, rest) := cs.span isWordChar
  match rest with
  | ' ' :: a :: b :: ':' :: _ =>
    if isDate word && a.isDigit && b.isDigit then
      let (time, rest) := (rest.drop 1).span isWordChar
      (word ++ ' ' :: time, rest)
    else (word, rest)
  | _ => (word, rest)

end SearchStore.Toml
