/-! # Dates

Moments are milliseconds since the beginning of 1970, and dates are those of
the Gregorian calendar, carried back without end. A day is counted from the
first of March of the year 0, so that the leap day is the last of its year.
-/

namespace SearchStore

/-- A moment, in milliseconds since the beginning of 1970. -/
abbrev Timestamp := Int

/-- A day of the calendar. -/
structure Date where
  year : Int
  month : Nat
  day : Nat
deriving DecidableEq, Repr

/-- A moment of a day. -/
structure DateTime where
  date : Date
  hour : Nat
  minute : Nat
  second : Nat
  milli : Nat
deriving DecidableEq, Repr

namespace Date

/-- The date of the day so many days after the first of January 1970. Years
are counted from March in cycles of four hundred, which all have 146097
days. -/
def ofDays (days : Int) : Date :=
  let shifted := days + 719468
  let cycle := shifted / 146097
  let dayOfCycle := (shifted % 146097).toNat
  let yearOfCycle :=
    (dayOfCycle - dayOfCycle / 1460 + dayOfCycle / 36524 - dayOfCycle / 146096) / 365
  let dayOfYear := dayOfCycle - (365 * yearOfCycle + yearOfCycle / 4 - yearOfCycle / 100)
  let monthFromMarch := (5 * dayOfYear + 2) / 153
  let day := dayOfYear - (153 * monthFromMarch + 2) / 5 + 1
  let month := if monthFromMarch < 10 then monthFromMarch + 3 else monthFromMarch - 9
  let year := Int.ofNat yearOfCycle + 400 * cycle
  ⟨if month ≤ 2 then year + 1 else year, month, day⟩

def isLeapYear (year : Nat) : Bool := year % 4 = 0 && (year % 100 ≠ 0 || year % 400 = 0)

/-- How many days a month has. -/
def daysInMonth (year month : Nat) : Nat :=
  if month = 2 then (if isLeapYear year then 29 else 28)
  else if [4, 6, 9, 11].contains month then 30
  else 31

end Date

namespace Timestamp

def millisPerDay : Int := 86400000

/-- The first moment of the year -262143. -/
def earliest : Timestamp := -8334601228800000

/-- The last moment of the year 262142. -/
def latest : Timestamp := 8210266876799999

/-- The date and time of a moment, within the years that have dates. -/
def toDateTime? (t : Timestamp) : Option DateTime :=
  if t < earliest || latest < t then none
  else
    let rest := (t % millisPerDay).toNat
    some ⟨Date.ofDays (t / millisPerDay), rest / 3600000, rest / 60000 % 60,
      rest / 1000 % 60, rest % 1000⟩

end Timestamp

end SearchStore
