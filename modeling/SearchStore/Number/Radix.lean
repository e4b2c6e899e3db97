/-! # Numbers in bases up to sixteen -/

namespace SearchStore.Radix

/-- The value of a digit, a letter in either case. -/
def digitValue? (c : Char) : Option Nat :=
  if '0' ≤ c && c ≤ '9' then some (c.toNat - 48)
  else if 'A' ≤ c && c ≤ 'F' then some (c.toNat - 55)
  else if 'a' ≤ c && c ≤ 'f' then some (c.toNat - 87)
  else none

/-- The number of some digit values. -/
def valueOf (base : Nat) (digits : List Nat) : Nat := digits.foldl (fun n d => base * n + d) 0

/-- The number that digits of a base stand for, if all of them are such. -/
def number? (base : Nat) (cs : List Char) : Option Nat := do
  let digits ← cs.mapM digitValue?
  if digits.all (· < base) then some (valueOf base digits) else none

/-- The character with a code point in hexadecimal digits. -/
def character? (cs : List Char) : Option Char := do
  let n ← number? 16 cs
  if n.isValidChar then some (Char.ofNat n) else none

/-- A digit of base sixteen, a letter as a capital. -/
def capitalDigit (n : Nat) : Char := if n < 10 then Char.ofNat (48 + n) else Char.ofNat (55 + n)

end SearchStore.Radix
