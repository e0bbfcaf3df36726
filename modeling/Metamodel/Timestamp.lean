/-
The timestamps of literals: a chronology of the years from -262143 to 262142, to the nanosecond.

A timestamp is held as what is shown of it. Moving it by months keeps the time of day and cuts the
day to the length of the month. Moving it by seconds pays no regard to leap seconds, except for a
timestamp that lies in one: on the way out of it, the leap second counts as a second of its own.
-/

import Metamodel.Chronology

namespace Metamodel

namespace Reading

/-- What is shown so many seconds from the start of the year 1. -/
def ofClock (clock : Int) (nanos : Nat) : Reading where
  date := .ofDayNumber (clock / secondsPerDay)
  second := (clock % secondsPerDay).toNat
  nanos

def shiftMonths (reading : Reading) (months : Int) : Reading :=
  { reading with date := reading.date.shiftMonths months }

def shiftSeconds (reading : Reading) (seconds : Int) : Reading :=
  if ¬ reading.InLeapSecond then ofClock (reading.clock + seconds) reading.nanos
  else if seconds = 0 then reading
  else
    let next := if seconds < 0 then reading.clock + 1 else reading.clock
    ofClock (next + seconds) (reading.nanos - nanosPerSecond)

/-- The reading lies in one of the years that timestamps have. -/
def InRange (reading : Reading) : Prop :=
  -262143 ≤ reading.date.year ∧ reading.date.year ≤ 262142

instance (reading : Reading) : Decidable reading.InRange := inferInstanceAs (Decidable (_ ∧ _))

end Reading

structure Timestamp where
  reading : Reading
  valid : reading.Valid
  inRange : reading.InRange
deriving DecidableEq

namespace Timestamp

/-- The number of the day that began 1970. -/
def epochDay : Int := 719162

/-- The start of 1970 on the clock. -/
def epochClock : Int := epochDay * Reading.secondsPerDay

/-- The timestamp that shows what is given, if there is one. -/
def ofReading? (reading : Reading) : Option Timestamp :=
  if possible : reading.Valid ∧ reading.InRange then some ⟨reading, possible.1, possible.2⟩ else none

/-- The timestamp so many seconds and nanoseconds from the start of 1970, outside leap seconds. -/
def make? (seconds : Int) (nanos : Nat) : Option Timestamp :=
  if nanos < Reading.nanosPerSecond then ofReading? (.ofClock (epochClock + seconds) nanos) else none

def epoch : Timestamp := ⟨⟨⟨1970, 0, 0⟩, 0, 0⟩, by decide, by decide⟩

instance : Inhabited Timestamp := ⟨epoch⟩

/-- Seconds from the start of 1970; negative before it. -/
def seconds (instant : Timestamp) : Int := instant.reading.clock - epochClock

def nanos (instant : Timestamp) : Nat := instant.reading.nanos

instance : Chronology Timestamp where
  le earlier later :=
    earlier.seconds < later.seconds ∨
      earlier.seconds = later.seconds ∧ earlier.nanos ≤ later.nanos
  read := reading
  addMonths? instant count := ofReading? (instant.reading.shiftMonths count.toNat)
  subMonths? instant count := ofReading? (instant.reading.shiftMonths (-count.toNat))
  addSeconds? instant count := ofReading? (instant.reading.shiftSeconds count.toInt)
  subSeconds? instant count := ofReading? (instant.reading.shiftSeconds (-count.toInt))

end Timestamp

/-! ### Writing -/

namespace Timestamp

/-- A number in at least `width` digits, filled with zeros in front. -/
def padded (width number : Nat) : String :=
  let digits := toString number
  String.ofList (List.replicate (width - digits.length) '0') ++ digits

/-- Four digits, with a sign when four digits are not enough or the year is before the year 0. -/
def writeYear (year : Int) : String :=
  if 0 ≤ year ∧ year ≤ 9999 then padded 4 year.toNat
  else (if year < 0 then "-" else "+") ++ padded 4 year.natAbs

/-- The fraction of a second in as many groups of three digits as it needs. -/
def writeFraction (nanos : Nat) : String :=
  if nanos = 0 then ""
  else if nanos % 1000000 = 0 then "." ++ padded 3 (nanos / 1000000)
  else if nanos % 1000 = 0 then "." ++ padded 6 (nanos / 1000)
  else "." ++ padded 9 nanos

/-- The timestamp as RFC 3339 writes it, with a numeric offset. A leap second goes by the number
after that of the second before it. -/
def write (instant : Timestamp) : String :=
  let ⟨date, second, nanos⟩ := instant.reading
  let leap := nanos / Reading.nanosPerSecond
  writeYear date.year ++ "-" ++ padded 2 (date.month + 1) ++ "-" ++ padded 2 (date.day + 1) ++ "T" ++
    padded 2 (second / 3600) ++ ":" ++ padded 2 (second / 60 % 60) ++ ":" ++
    padded 2 (second % 60 + leap) ++ writeFraction (nanos % Reading.nanosPerSecond) ++ "+00:00"

end Timestamp

end Metamodel
