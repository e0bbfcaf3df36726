/-
What is asked of a chronology.

The laws are those of a calendar and a clock. Months lead to the same time of day on the same day of
another month, or on its last day if it is too short. Seconds are counted without leap seconds,
unless one sets out from within one: this one is then there, as a second of its own. A move is
refused if no instant shows where it leads, and for no other reason, and the instants take up one
stretch of time, which is not as long as a word can count months. Timestamps obey the laws.
-/

import Metamodel.Timestamp
import Metamodel.Proofs.Dates

namespace Metamodel

open Calendar

namespace Reading

/-! ### Moves -/

/-- Readings in the order of time. -/
instance : LE Reading where
  le earlier later :=
    earlier.clock < later.clock ∨ earlier.clock = later.clock ∧ earlier.nanos ≤ later.nanos

/-- Some months later on the calendar it is the same time of the same day of the month, or of the
last one if the month is too short. -/
structure MonthsLater (months : Int) (before after : Reading) : Prop where
  valid : after.Valid
  month : after.date.monthNumber = before.date.monthNumber + months
  day : after.date.day =
    min before.date.day (monthLength (isLeap after.date.year) after.date.month - 1)
  second : after.second = before.second
  nanos : after.nanos = before.nanos

/-- Some seconds later there are so many more on the clock. A leap second is over after the second to
which it belongs, and has not begun before. -/
inductive SecondsLater (seconds : Int) (before after : Reading) : Prop
  | outside (valid : after.Valid) (outside : ¬ before.InLeapSecond)
      (clock : after.clock = before.clock + seconds) (nanos : after.nanos = before.nanos)
  | stay (none : seconds = 0) (same : after = before)
  | leave (valid : after.Valid) (inside : before.InLeapSecond) (forward : 0 < seconds)
      (clock : after.clock = before.clock + seconds)
      (nanos : after.nanos + nanosPerSecond = before.nanos)
  | leaveBack (valid : after.Valid) (inside : before.InLeapSecond) (backward : seconds < 0)
      (clock : after.clock = before.clock + 1 + seconds)
      (nanos : after.nanos + nanosPerSecond = before.nanos)

end Reading

open Reading

/-! ### The laws -/

/-- A duration is held in milliseconds, in a word of 64 bits. -/
def Chronology.IsDuration (seconds : Int64) : Prop := seconds.toInt.natAbs * 1000 < 2 ^ 63

open Chronology in
/-- Instants are read and ordered as the calendar and the clock have it, and each of the four moves
leads to the instant there, if there is one. -/
class Chronology.Lawful (Instant : Type) [Chronology Instant] : Prop where
  valid_read : ∀ instant : Instant, (read instant).Valid
  le_iff : ∀ instant other : Instant, instant ≤ other ↔ read instant ≤ read other
  addMonths?_eq_some_iff : ∀ (instant : Instant) (count : UInt32) (moved : Instant),
    addMonths? instant count = some moved ↔
      MonthsLater count.toNat (read instant) (read moved)
  subMonths?_eq_some_iff : ∀ (instant : Instant) (count : UInt32) (moved : Instant),
    subMonths? instant count = some moved ↔
      MonthsLater (-count.toNat) (read instant) (read moved)
  addSeconds?_eq_some_iff : ∀ (instant : Instant) (seconds : Int64) (moved : Instant),
    IsDuration seconds → (addSeconds? instant seconds = some moved ↔
      SecondsLater seconds.toInt (read instant) (read moved))
  subSeconds?_eq_some_iff : ∀ (instant : Instant) (seconds : Int64) (moved : Instant),
    IsDuration seconds → (subSeconds? instant seconds = some moved ↔
      SecondsLater (-seconds.toInt) (read instant) (read moved))
  /-- Between two instants the time of day of an instant comes up on every date. -/
  exists_between : ∀ (earlier later instant : Instant) (reading : Reading), reading.Valid →
    reading.second = (read instant).second → reading.nanos = (read instant).nanos →
      read earlier ≤ reading → reading ≤ read later → ∃ middle : Instant, read middle = reading
  /-- The instants lie in fewer months than a word can count. -/
  months_lt : ∀ earlier later : Instant,
    (read later).date.monthNumber - (read earlier).date.monthNumber < Interval.monthLimit

namespace Reading

variable {before after reading other : Reading} {months seconds : Int}

/-! ### Readings and the clock -/

/-- A valid reading is known by its clock and its nanoseconds. -/
theorem Valid.eq_of_clock_eq (valid : reading.Valid) (otherValid : other.Valid)
    (clock : reading.clock = other.clock) (nanos : reading.nanos = other.nanos) :
    reading = other := by
  have ⟨date, second, _⟩ := valid
  have ⟨otherDate, otherSecond, _⟩ := otherValid
  unfold Reading.clock at clock
  unfold secondsPerDay at clock second otherSecond
  have sameDate := Date.eq_of_dayNumber_eq date otherDate (by omega)
  have sameSecond : reading.second = other.second := by
    rw [sameDate] at clock
    omega
  cases reading
  cases other
  simp_all

theorem valid_ofClock (clock : Int) {nanos : Nat} (small : nanos < 2 * nanosPerSecond) :
    (ofClock clock nanos).Valid := by
  refine ⟨(Date.ofDayNumber_spec _).1, ?_, small⟩
  show (clock % secondsPerDay).toNat < secondsPerDay
  unfold secondsPerDay
  omega

theorem clock_ofClock (clock : Int) (nanos : Nat) : (ofClock clock nanos).clock = clock := by
  unfold Reading.clock ofClock
  rw [(Date.ofDayNumber_spec _).2]
  show _ + ((clock % secondsPerDay).toNat : Int) = clock
  unfold secondsPerDay
  omega

theorem Valid.dayNumber_le (valid : before.Valid) (otherValid : after.Valid)
    (ordered : before ≤ after) : before.date.dayNumber ≤ after.date.dayNumber := by
  have clock : before.clock ≤ after.clock := by
    rcases ordered with less | ⟨same, -⟩ <;> omega
  have second := valid.2.1
  have otherSecond := otherValid.2.1
  unfold Reading.clock at clock
  unfold secondsPerDay at clock second otherSecond
  omega

theorem le_trans {third : Reading} (first : before ≤ after) (second : after ≤ third) :
    before ≤ third := by
  rcases first with less | ⟨same, nanos⟩ <;> rcases second with later | ⟨also, more⟩
  · exact Or.inl (by omega)
  · exact Or.inl (by omega)
  · exact Or.inl (by omega)
  · exact Or.inr ⟨by omega, by omega⟩

/-! ### Where moves lead -/

theorem Valid.shiftMonths (valid : reading.Valid) (months : Int) :
    (reading.shiftMonths months).Valid :=
  ⟨Date.valid_shiftMonths _ _, valid.2⟩

theorem monthsLater_iff (valid : before.Valid) :
    MonthsLater months before after ↔ after = before.shiftMonths months := by
  constructor
  · intro later
    obtain ⟨afterValid, month, day, second, nanos⟩ := later
    have date := Date.eq_shiftMonths before.date months afterValid.1.1 month day
    obtain ⟨afterDate, afterSecond, afterNanos⟩ := after
    obtain rfl : afterDate = _ := date
    obtain rfl : afterSecond = _ := second
    obtain rfl : afterNanos = _ := nanos
    rfl
  · rintro rfl
    exact ⟨valid.shiftMonths months, Date.monthNumber_shiftMonths _ _, rfl, rfl, rfl⟩

/-- What is shown on the clock, with a known fraction, is shown by one reading. -/
theorem eq_ofClock_iff {clock : Int} {nanos : Nat} (small : nanos < 2 * nanosPerSecond) :
    after = ofClock clock nanos ↔ after.Valid ∧ after.clock = clock ∧ after.nanos = nanos := by
  constructor
  · rintro rfl
    exact ⟨valid_ofClock clock small, clock_ofClock clock nanos, rfl⟩
  · rintro ⟨valid, sameClock, sameNanos⟩
    exact valid.eq_of_clock_eq (valid_ofClock clock small)
      (sameClock.trans (clock_ofClock clock nanos).symm) sameNanos

theorem secondsLater_iff (valid : before.Valid) :
    SecondsLater seconds before after ↔ after = before.shiftSeconds seconds := by
  have small := valid.2.2
  unfold shiftSeconds
  by_cases inside : before.InLeapSecond
  · have enough : nanosPerSecond ≤ before.nanos := inside
    have less : before.nanos - nanosPerSecond < 2 * nanosPerSecond := by omega
    rw [if_neg (not_not.mpr inside)]
    by_cases none : seconds = 0
    · rw [if_pos none]
      refine ⟨fun later => ?_, .stay none⟩
      cases later with
      | outside _ outside => exact absurd inside outside
      | stay _ same => exact same
      | leave | leaveBack => omega
    · rw [if_neg none, eq_ofClock_iff less]
      constructor
      · intro later
        cases later with
        | outside _ outside => exact absurd inside outside
        | stay stays => exact absurd stays none
        | leave afterValid _ forward clock nanos =>
          rw [if_neg (by omega)]
          exact ⟨afterValid, clock, by omega⟩
        | leaveBack afterValid _ backward clock nanos =>
          rw [if_pos backward]
          exact ⟨afterValid, clock, by omega⟩
      · rintro ⟨afterValid, clock, nanos⟩
        split at clock
        · next backward => exact .leaveBack afterValid inside backward clock (by omega)
        · next forward => exact .leave afterValid inside (by omega) clock (by omega)
  · rw [if_pos inside, eq_ofClock_iff small]
    constructor
    · intro later
      cases later with
      | outside afterValid _ clock nanos => exact ⟨afterValid, clock, nanos⟩
      | stay none same =>
        subst same
        exact ⟨valid, by omega, rfl⟩
      | leave _ leap | leaveBack _ leap => exact absurd leap inside
    · rintro ⟨afterValid, clock, nanos⟩
      exact .outside afterValid inside clock nanos

end Reading

/-! ### Timestamps -/

namespace Timestamp

theorem ofReading?_eq_some_iff {reading : Reading} {instant : Timestamp} :
    ofReading? reading = some instant ↔ instant.reading = reading := by
  unfold ofReading?
  constructor
  · intro made
    split at made
    · cases made
      rfl
    · cases made
  · rintro rfl
    rw [dif_pos ⟨instant.valid, instant.inRange⟩]

/-- The years have no gaps. -/
theorem inRange_of_between {earlier later : Timestamp} {reading : Reading} (valid : reading.Valid)
    (after : earlier.reading ≤ reading) (before : reading ≤ later.reading) : reading.InRange := by
  have low := Date.year_le_of_dayNumber_le earlier.valid.1 valid.1
    (earlier.valid.dayNumber_le valid after)
  have high := Date.year_le_of_dayNumber_le valid.1 later.valid.1
    (valid.dayNumber_le later.valid before)
  have ⟨start, _⟩ := earlier.inRange
  have ⟨_, finish⟩ := later.inRange
  exact ⟨Int.le_trans start low, Int.le_trans high finish⟩

theorem le_iff (earlier later : Timestamp) : earlier ≤ later ↔ earlier.reading ≤ later.reading := by
  show earlier.seconds < later.seconds ∨ earlier.seconds = later.seconds ∧ _ ↔
    earlier.reading.clock < later.reading.clock ∨ earlier.reading.clock = later.reading.clock ∧ _
  unfold seconds nanos
  omega

theorem months_lt (earlier later : Timestamp) :
    later.reading.date.monthNumber - earlier.reading.date.monthNumber < Interval.monthLimit := by
  have ⟨start, _⟩ := earlier.inRange
  have ⟨_, finish⟩ := later.inRange
  have known := later.valid.1.1
  unfold Date.monthNumber Interval.monthLimit
  omega

instance : Chronology.Lawful Timestamp where
  valid_read := valid
  le_iff := le_iff
  addMonths?_eq_some_iff instant _ _ :=
    ofReading?_eq_some_iff.trans (monthsLater_iff instant.valid).symm
  subMonths?_eq_some_iff instant _ _ :=
    ofReading?_eq_some_iff.trans (monthsLater_iff instant.valid).symm
  addSeconds?_eq_some_iff instant _ _ _ :=
    ofReading?_eq_some_iff.trans (secondsLater_iff instant.valid).symm
  subSeconds?_eq_some_iff instant _ _ _ :=
    ofReading?_eq_some_iff.trans (secondsLater_iff instant.valid).symm
  exists_between _ _ _ reading possible _ _ after before :=
    ⟨⟨reading, possible, inRange_of_between possible after before⟩, rfl⟩
  months_lt := months_lt

end Timestamp

end Metamodel
