/-
The Gregorian calendar, reaching back and forward without end.

Days are numbered from the first day of the year 1, which has number 0. A date is found from its
number by guessing the year from the mean length of a year, which is never off by more than one,
and then counting off the months.
-/

namespace Metamodel

namespace Calendar

def isLeap (year : Int) : Bool := year % 4 = 0 && (year % 100 ≠ 0 || year % 400 = 0)

/-- The number of the first day of a year. -/
def daysBeforeYear (year : Int) : Int :=
  let past := year - 1
  365 * past + past / 4 - past / 100 + past / 400

def monthLengths (leap : Bool) : List Nat :=
  [31, if leap then 29 else 28, 31, 30, 31, 30, 31, 31, 30, 31, 30, 31]

/-- The length of a month, the first of which is month 0. -/
def monthLength (leap : Bool) (month : Nat) : Nat := (monthLengths leap).getD month 0

/-- The days of a year before a month, the first of which is month 0. -/
def daysBeforeMonth (leap : Bool) (month : Nat) : Nat :=
  ((monthLengths leap).take month).foldl (· + ·) 0

/-- Count off whole months: how many fit, and the days that are left. -/
def countMonths : List Nat → Nat → Nat × Nat
  | [], days => (0, days)
  | length :: rest, days =>
    if days < length then (0, days)
    else
      let (months, left) := countMonths rest (days - length)
      (months + 1, left)

/-- The year in which a day lies. -/
def yearOfDay (day : Int) : Int :=
  let guess := day * 400 / 146097 + 1
  if day < daysBeforeYear guess then guess - 1
  else if daysBeforeYear (guess + 1) ≤ day then guess + 1
  else guess

end Calendar

open Calendar

/-- A day of the calendar; months and days of the month are counted from 0. -/
structure Date where
  year : Int
  month : Nat
  day : Nat
deriving DecidableEq, Inhabited

namespace Date

/-- The date exists: its month is one of the twelve and its day one of the month's. -/
def Valid (date : Date) : Prop :=
  date.month < 12 ∧ date.day < monthLength (isLeap date.year) date.month

instance (date : Date) : Decidable date.Valid := inferInstanceAs (Decidable (_ ∧ _))

def dayNumber (date : Date) : Int :=
  daysBeforeYear date.year + daysBeforeMonth (isLeap date.year) date.month + date.day

def ofDayNumber (number : Int) : Date :=
  let year := yearOfDay number
  let (month, day) := countMonths (monthLengths (isLeap year)) (number - daysBeforeYear year).toNat
  { year, month, day }

/-- The months from the start of the year 0 to the month of the date. -/
def monthNumber (date : Date) : Int := date.year * 12 + date.month

/-- The same day some months later, or the last day of that month when it is shorter. -/
def shiftMonths (date : Date) (months : Int) : Date :=
  let number := date.monthNumber + months
  let year := number / 12
  let month := (number % 12).toNat
  { year, month, day := min date.day (monthLength (isLeap year) month - 1) }

end Date

end Metamodel
