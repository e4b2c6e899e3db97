/-! # Intervals of time buckets

The engine takes the width of time buckets as a whole number of one unit. An
interval is cut down to the largest unit that it reaches.
-/

namespace SearchStore

/-- A length of time, `seconds` and a fraction of `nanos / 10 ^ 9` below one
second. -/
structure Duration where
  seconds : Nat
  nanos : Nat
deriving DecidableEq, Repr

namespace Duration

/-- Whole seconds among the nanoseconds count as seconds. -/
def ofParts (seconds nanos : Nat) : Duration :=
  ⟨seconds + nanos / 1000000000, nanos % 1000000000⟩

def ofMillis (ms : Nat) : Duration := ⟨ms / 1000, ms % 1000 * 1000000⟩

def isZero (d : Duration) : Bool := d.seconds = 0 && d.nanos = 0

end Duration

/-- A unit of bucket widths. -/
inductive IntervalUnit where
  | second
  | minute
  | hour
  | day
deriving DecidableEq, Repr

namespace IntervalUnit

/-- The length of a unit in seconds. -/
def seconds : IntervalUnit → Nat
  | .second => 1
  | .minute => 60
  | .hour => 3600
  | .day => 86400

def letter : IntervalUnit → Char
  | .second => 's'
  | .minute => 'm'
  | .hour => 'h'
  | .day => 'd'

/-- The largest unit not longer than so many seconds, or else the second. -/
def largest (seconds : Nat) : IntervalUnit :=
  if seconds < 60 then .second
  else if seconds < 3600 then .minute
  else if seconds < 86400 then .hour
  else .day

end IntervalUnit

/-- An interval as the engine reads it: a number and a letter, or nothing
for no time at all. -/
def intervalToken (d : Duration) : String :=
  if d.isZero then ""
  else
    let unit := IntervalUnit.largest d.seconds
    toString (d.seconds / unit.seconds) ++ String.singleton unit.letter

end SearchStore
