/-
Instants of universal time, as far as intervals are concerned with them.

What an instant is and how it is moved is left to a chronology. A chronology shows the date and the
time of day of each of its instants, and moves them by months on the calendar or by seconds on the
clock, unless that leads out of its range. An interval moves an instant in two steps, first by its
years and months and then by the seconds of all shorter components, and each step has to stay in
range.
-/

import Metamodel.Calendar
import Metamodel.Interval

namespace Metamodel

/-- A date, a second of that day, and nanoseconds since the start of that second. A leap second
prolongs the second before it, so that the nanoseconds go on beyond a whole second. -/
structure Reading where
  date : Date
  second : Nat
  nanos : Nat
deriving DecidableEq, Inhabited

namespace Reading

def secondsPerDay : Nat := 86400

def nanosPerSecond : Nat := 1000000000

/-- The seconds from the start of the year 1 without leap seconds. -/
def clock (reading : Reading) : Int := reading.date.dayNumber * secondsPerDay + reading.second

def InLeapSecond (reading : Reading) : Prop := nanosPerSecond ≤ reading.nanos

instance (reading : Reading) : Decidable reading.InLeapSecond :=
  inferInstanceAs (Decidable (nanosPerSecond ≤ reading.nanos))

/-- There is such a date and such a time of day. -/
def Valid (reading : Reading) : Prop :=
  reading.date.Valid ∧ reading.second < secondsPerDay ∧ reading.nanos < 2 * nanosPerSecond

instance (reading : Reading) : Decidable reading.Valid :=
  inferInstanceAs (Decidable (_ ∧ _))

end Reading

/-- Instants that can be read and moved. Months are counted in words of 32 bits, and the seconds of a
duration in words of 64. -/
class Chronology (Instant : Type) extends LE Instant where
  read : Instant → Reading
  addMonths? : Instant → UInt32 → Option Instant
  subMonths? : Instant → UInt32 → Option Instant
  addSeconds? : Instant → Int64 → Option Instant
  subSeconds? : Instant → Int64 → Option Instant

namespace Interval

/-- The largest month count. -/
def monthLimit : Nat := 4294967295

/-- Years and months as months; a count that would pass the limit stops at it. -/
def monthCount (interval : Interval) : UInt32 :=
  UInt32.ofNat (min (min (interval.amount .years * 12) monthLimit + interval.amount .months)
    monthLimit)

/-- Days, hours, minutes and seconds as seconds, computed in words of 64 bits. -/
def secondCount (interval : Interval) : Int64 :=
  (interval.word .days).toInt64 * 86400 + (interval.word .hours).toInt64 * 3600 +
    (interval.word .minutes).toInt64 * 60 + (interval.word .seconds).toInt64

section Moving

variable {Instant : Type} [Chronology Instant]

open Chronology

/-- The instant to which a move has led, unless it has led out of range. -/
def moved (interval : Interval) : Option Instant → Except IntervalError Instant
  | some instant => .ok instant
  | none => .error (.outOfRange interval)

/-- The instant that lies the interval after the given one. -/
def addTo (interval : Interval) (instant : Instant) : Except IntervalError Instant :=
  interval.moved <|
    (addMonths? instant interval.monthCount).bind (addSeconds? · interval.secondCount)

/-- The instant that lies the interval before the given one. -/
def subtractFrom (interval : Interval) (instant : Instant) : Except IntervalError Instant :=
  interval.moved <|
    (subMonths? instant interval.monthCount).bind (subSeconds? · interval.secondCount)

end Moving

end Interval

end Metamodel
