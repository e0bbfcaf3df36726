/-
Where the way back leads to the start.

The way there takes months before seconds, and so does the way back, which thus takes them in the
wrong order, and months cut the day to the length of the month they lead to. Both are harmless if
there is only one of the two to take and, if it is months, the day is one that every month has. A leap
second is left and not entered by seconds, so no way of seconds leads back there. The end of the way
there is an instant, and the start was one, so there is no range to leave on the way back.
-/

import Metamodel.Proofs.Moving

namespace Metamodel

open Calendar

namespace Reading

variable {before after : Reading} {months seconds : Int}

/-- A day that every month has is found again the same number of months in the other direction. -/
theorem MonthsLater.back (valid : before.Valid) (short : before.date.day < 28)
    (later : MonthsLater months before after) : MonthsLater (-months) after before := by
  have month := later.month
  have day := later.day
  have inside := valid.1.2
  have long := (monthLength_bounds (isLeap after.date.year) after.date.month later.valid.1.1).1
  exact ⟨valid, by omega, by omega, later.second.symm, later.nanos.symm⟩

/-- Outside leap seconds as many seconds lead back. -/
theorem SecondsLater.back (valid : before.Valid) (outside : ¬ before.InLeapSecond)
    (later : SecondsLater seconds before after) : SecondsLater (-seconds) after before := by
  cases later with
  | outside _ _ clock nanos =>
    have alsoOutside : ¬ after.InLeapSecond := by rwa [InLeapSecond, nanos]
    exact .outside valid alsoOutside (by omega) nanos.symm
  | stay none same => exact .stay (by omega) same.symm
  | leave _ inside | leaveBack _ inside => exact absurd inside outside

/-- Once a leap second is left, no seconds lead back. -/
theorem SecondsLater.not_back {others : Int} (valid : before.Valid) (inside : before.InLeapSecond)
    (moves : seconds ≠ 0) (later : SecondsLater seconds before after) :
    ¬ SecondsLater others after before := by
  have small := valid.2.2
  have enough : nanosPerSecond ≤ before.nanos := inside
  have left : after.nanos + nanosPerSecond = before.nanos := by
    cases later with
    | outside _ outside => exact absurd inside outside
    | stay none => exact absurd none moves
    | leave _ _ _ _ nanos | leaveBack _ _ _ _ nanos => exact nanos
  intro back
  cases back with
  | outside _ _ _ nanos => omega
  | stay _ same =>
    subst same
    omega
  | leave _ again | leaveBack _ again =>
    have much : nanosPerSecond ≤ after.nanos := again
    omega

theorem secondsLater_zero_iff (valid : before.Valid) :
    SecondsLater 0 before after ↔ after = before := by
  constructor
  · intro later
    cases later with
    | outside afterValid _ clock nanos => exact afterValid.eq_of_clock_eq valid (by omega) nanos
    | stay _ same => exact same
    | leave | leaveBack => omega
  · exact .stay rfl

theorem steps_zero_left (valid : before.Valid) :
    Steps 0 seconds before after ↔ SecondsLater seconds before after := by
  constructor
  · rintro ⟨middle, first, second⟩
    rwa [first.eq_of_zero valid] at second
  · intro later
    exact ⟨before, (monthsLater_iff valid).mpr (by rw [shiftMonths, Date.shiftMonths_zero valid.1]),
      later⟩

theorem steps_zero_right :
    Steps months 0 before after ↔ MonthsLater months before after := by
  constructor
  · rintro ⟨middle, first, second⟩
    rwa [(secondsLater_zero_iff first.valid).mp second]
  · intro later
    exact ⟨after, later, .stay rfl rfl⟩

/-- Months or seconds alone lead back, if the day is one that every month has or the start lies
outside leap seconds. -/
theorem Steps.back (valid : before.Valid) (known : after.Valid)
    (apart : months = 0 ∧ (before.InLeapSecond → seconds = 0) ∨
      seconds = 0 ∧ before.date.day < 28)
    (steps : Steps months seconds before after) : Steps (-months) (-seconds) after before := by
  rcases apart with ⟨rfl, stays⟩ | ⟨rfl, short⟩
  · rw [steps_zero_left valid] at steps
    rw [Int.neg_zero, steps_zero_left known]
    by_cases inside : before.InLeapSecond
    · obtain rfl := stays inside
      exact .stay rfl ((secondsLater_zero_iff valid).mp steps).symm
    · exact steps.back valid inside
  · rw [steps_zero_right] at steps
    rw [Int.neg_zero, steps_zero_right]
    exact steps.back valid short

end Reading

namespace Interval

open Reading Chronology

variable {Instant : Type} [Chronology Instant]

/-- An interval that does not mix months with anything shorter, and an instant from which what there
is can be taken back: it is not by seconds out of a leap second, nor by months on a day that some
month cuts. -/
inductive Invertible (interval : Interval) (instant : Instant) : Prop
  | clock (years : interval.amount .years = 0) (months : interval.amount .months = 0)
      (stays : (read instant).InLeapSecond → interval.clockSeconds = 0)
  | calendar (days : interval.amount .days = 0) (hours : interval.amount .hours = 0)
      (minutes : interval.amount .minutes = 0) (seconds : interval.amount .seconds = 0)
      (day : (read instant).date.day + 1 ≤ 28)

/-- Either way can be gone back. -/
structure Undoes (interval : Interval) (instant : Instant) : Prop where
  subtracted : ∀ moved, interval.addTo instant = .ok moved →
    interval.subtractFrom moved = .ok instant
  added : ∀ moved, interval.subtractFrom instant = .ok moved → interval.addTo moved = .ok instant

variable {interval : Interval} {instant : Instant}

theorem calendarMonths_eq_zero (years : interval.amount .years = 0)
    (months : interval.amount .months = 0) : interval.calendarMonths = 0 := by
  rw [calendarMonths, years, months]

theorem Invertible.apart (invertible : interval.Invertible instant) :
    interval.calendarMonths = 0 ∧ ((read instant).InLeapSecond → interval.clockSeconds = 0) ∨
      interval.clockSeconds = 0 ∧ (read instant).date.day < 28 := by
  cases invertible with
  | clock years months stays => exact Or.inl ⟨calendarMonths_eq_zero years months, stays⟩
  | calendar days hours minutes seconds day =>
    exact Or.inr ⟨by rw [clockSeconds, days, hours, minutes, seconds], day⟩

variable [Lawful Instant]

/-- The steps of an invertible interval lead back from where they led to. -/
theorem Invertible.undoes (invertible : interval.Invertible instant) :
    interval.Undoes instant where
  subtracted moved made := by
    have steps := addTo_eq_ok_iff.mp made
    have back := steps.back (Lawful.valid_read instant) (Lawful.valid_read moved)
      (by simpa only [Int.natCast_eq_zero] using invertible.apart)
    exact subtractFrom_eq_ok_iff.mpr back
  added moved made := by
    have steps := subtractFrom_eq_ok_iff.mp made
    have back := steps.back (Lawful.valid_read instant) (Lawful.valid_read moved)
      (by simpa only [Int.neg_eq_zero, Int.natCast_eq_zero] using invertible.apart)
    rw [Int.neg_neg, Int.neg_neg] at back
    exact addTo_eq_ok_iff.mpr back

/-- Ten in the morning on the 28th of January 2020. -/
def lateJanuary : Timestamp := ⟨⟨⟨2020, 0, 27⟩, 36000, 0⟩, by decide, by decide⟩

/-- Thirteen months later. -/
def lateFebruary : Timestamp := ⟨⟨⟨2021, 1, 27⟩, 36000, 0⟩, by decide, by decide⟩

/-- Thirteen months earlier. -/
def lateDecember : Timestamp := ⟨⟨⟨2018, 11, 27⟩, 36000, 0⟩, by decide, by decide⟩

def thirteenMonths : Interval where
  amount
    | .months => 13
    | _ => 0
  bounded component := by cases component <;> decide

/-- Thirteen months lead across two turns of the year and back again, in either direction. -/
theorem Invertible.undoes_lateJanuary :
    thirteenMonths.Invertible lateJanuary ∧
      thirteenMonths.addTo lateJanuary = .ok lateFebruary ∧
        thirteenMonths.subtractFrom lateFebruary = .ok lateJanuary ∧
      thirteenMonths.subtractFrom lateJanuary = .ok lateDecember ∧
        thirteenMonths.addTo lateDecember = .ok lateJanuary := by
  have invertible : thirteenMonths.Invertible lateJanuary :=
    .calendar rfl rfl rfl rfl (by decide)
  have undoes := Invertible.undoes invertible
  have forth : thirteenMonths.addTo lateJanuary = .ok lateFebruary :=
    addTo_eq_ok_iff.mpr ((steps_iff lateJanuary.valid).mpr (by decide))
  have back : thirteenMonths.subtractFrom lateJanuary = .ok lateDecember :=
    subtractFrom_eq_ok_iff.mpr ((steps_iff lateJanuary.valid).mpr (by decide))
  exact ⟨invertible, forth, undoes.subtracted _ forth, back, undoes.added _ back⟩

/-! ### Leap seconds -/

/-- From a leap second no interval of seconds leads anywhere that it leads back from. -/
theorem not_undone_of_inLeapSecond (years : interval.amount .years = 0)
    (months : interval.amount .months = 0) (moves : interval.clockSeconds ≠ 0)
    (inside : (read instant).InLeapSecond) (moved : Instant) :
    (interval.addTo instant = .ok moved → interval.subtractFrom moved ≠ .ok instant) ∧
      (interval.subtractFrom instant = .ok moved → interval.addTo moved ≠ .ok instant) := by
  have valid := Lawful.valid_read instant
  have known := Lawful.valid_read moved
  rw [Ne, Ne, addTo_eq_ok_iff, addTo_eq_ok_iff, subtractFrom_eq_ok_iff, subtractFrom_eq_ok_iff]
  unfold Reaches ReachesBack
  rw [calendarMonths_eq_zero years months, Int.natCast_zero, Int.neg_zero, steps_zero_left valid,
    steps_zero_left valid, steps_zero_left known, steps_zero_left known]
  exact ⟨fun later => later.not_back valid inside (by omega),
    fun later => later.not_back valid inside (by omega)⟩

def oneSecond : Interval where
  amount
    | .seconds => 1
    | _ => 0
  bounded component := by cases component <;> decide

def newYear : Timestamp := ⟨⟨⟨2017, 0, 0⟩, 0, 500000000⟩, by decide, by decide⟩

/-- A second after the leap second is the new year, and a second before the new year is the second
before the leap second. -/
theorem not_undoes_leapSecond :
    ¬ ∀ (Instant : Type) [Chronology Instant] [Lawful Instant] (interval : Interval)
        (instant : Instant),
      (interval.amount .years = 0 → interval.amount .months = 0 → interval.Undoes instant) ∧
        (interval.amount .days = 0 → interval.amount .hours = 0 → interval.amount .minutes = 0 →
          interval.amount .seconds = 0 → (read instant).date.day + 1 ≤ 28 →
            interval.Undoes instant) := by
  intro undoes
  have forth : oneSecond.addTo leapSecond = .ok newYear :=
    addTo_eq_ok_iff.mpr ((steps_iff leapSecond.valid).mpr (by decide +kernel))
  have back := ((undoes Timestamp oneSecond leapSecond).1 rfl rfl).subtracted _ forth
  exact (not_undone_of_inLeapSecond rfl rfl (by decide) (by decide) newYear).1 forth back

end Interval

end Metamodel
