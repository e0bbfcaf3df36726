/-
Where an interval takes an instant.

Years and months lead to another date, and what is shorter leads from there to another second. Where
this is can be said without a limit for instants or for numbers. The computation has limits of both
sorts and still arrives there, or refuses to when no instant is there. The months stop counting at the
largest word, which is more months than there are instants in, and the seconds are never too many for
theirs. The range is checked after each of the two steps, but as both lead the same way, whoever
leaves it with the first one does not come back with the second.
-/

import Metamodel.Proofs.Amounts
import Metamodel.Proofs.Chronologies

namespace Metamodel

namespace Reading

variable {before after goal : Reading} {months seconds : Int}

/-! ### The direction of a move -/

theorem clock_lt_of_monthNumber_lt (valid : before.Valid) (otherValid : after.Valid)
    (month : before.date.monthNumber < after.date.monthNumber) : before.clock < after.clock := by
  have day := Date.dayNumber_lt_of_monthNumber_lt valid.1 otherValid.1 month
  have second := valid.2.1
  have otherSecond := otherValid.2.1
  unfold clock
  unfold secondsPerDay at second otherSecond ⊢
  omega

theorem le_refl (reading : Reading) : reading ≤ reading := Or.inr ⟨rfl, Nat.le_refl _⟩

theorem MonthsLater.eq_of_zero (valid : before.Valid) (later : MonthsLater 0 before after) :
    after = before := by
  obtain rfl := (monthsLater_iff valid).mp later
  rw [shiftMonths, Date.shiftMonths_zero valid.1]

theorem MonthsLater.ordered (valid : before.Valid) (later : MonthsLater months before after) :
    (0 ≤ months → before ≤ after) ∧ (months ≤ 0 → after ≤ before) := by
  have month := later.month
  rcases Int.lt_trichotomy months 0 with backward | rfl | forward
  · have clock := clock_lt_of_monthNumber_lt later.valid valid (by omega)
    exact ⟨fun forward => by omega, fun _ => Or.inl clock⟩
  · obtain rfl := later.eq_of_zero valid
    exact ⟨fun _ => le_refl _, fun _ => le_refl _⟩
  · have clock := clock_lt_of_monthNumber_lt valid later.valid (by omega)
    exact ⟨fun _ => Or.inl clock, fun backward => by omega⟩

theorem SecondsLater.ordered (later : SecondsLater seconds before after) :
    (0 ≤ seconds → before ≤ after) ∧ (seconds ≤ 0 → after ≤ before) := by
  show (_ → before.clock < after.clock ∨ before.clock = after.clock ∧ before.nanos ≤ after.nanos) ∧
    (_ → after.clock < before.clock ∨ after.clock = before.clock ∧ after.nanos ≤ before.nanos)
  cases later with
  | stay none same =>
    subst same
    omega
  | outside | leave | leaveBack => omega

/-! ### Two steps -/

/-- By months to another date and from there by seconds. -/
def Steps (months seconds : Int) (before goal : Reading) : Prop :=
  ∃ middle, MonthsLater months before middle ∧ SecondsLater seconds middle goal

/-- There is one place to which two steps lead. -/
theorem steps_iff (valid : before.Valid) : Steps months seconds before goal ↔
    goal = (before.shiftMonths months).shiftSeconds seconds := by
  constructor
  · rintro ⟨middle, first, second⟩
    rw [secondsLater_iff first.valid] at second
    rw [second, (monthsLater_iff valid).mp first]
  · intro reached
    exact ⟨_, (monthsLater_iff valid).mpr rfl,
      (secondsLater_iff (valid.shiftMonths months)).mpr reached⟩

theorem Steps.iff_eq {other : Reading} (valid : before.Valid)
    (steps : Steps months seconds before goal) :
    Steps months seconds before other ↔ other = goal := by
  rw [steps_iff valid, (steps_iff valid).mp steps]

theorem Steps.ordered (valid : before.Valid) (steps : Steps months seconds before goal) :
    (0 ≤ months ∧ 0 ≤ seconds → before ≤ goal) ∧
      (months ≤ 0 ∧ seconds ≤ 0 → goal ≤ before) := by
  obtain ⟨middle, first, second⟩ := steps
  have months := first.ordered valid
  have seconds := second.ordered
  exact ⟨fun forward => le_trans (months.1 forward.1) (seconds.1 forward.2),
    fun backward => le_trans (seconds.2 backward.2) (months.2 backward.1)⟩

end Reading

/-! ### Steps within the range -/

namespace Chronology

open Reading

variable {Instant : Type} [Chronology Instant] [Lawful Instant] {instant moved : Instant}
  {months seconds : Int}

/-- Two steps in the same direction stay in range if they end there. -/
theorem exists_middle (direction : 0 ≤ months ∧ 0 ≤ seconds ∨ months ≤ 0 ∧ seconds ≤ 0)
    (steps : Steps months seconds (read instant) (read moved)) :
    ∃ middle : Instant, MonthsLater months (read instant) (read middle) ∧
      SecondsLater seconds (read middle) (read moved) := by
  obtain ⟨middle, first, second⟩ := steps
  have outward := first.ordered (Lawful.valid_read instant)
  have onward := second.ordered
  have passed : ∃ there : Instant, read there = middle := by
    rcases direction with forward | backward
    · exact Lawful.exists_between instant moved instant middle first.valid first.second first.nanos
        (outward.1 forward.1) (onward.1 forward.2)
    · exact Lawful.exists_between moved instant instant middle first.valid first.second first.nanos
        (onward.2 backward.2) (outward.2 backward.1)
  obtain ⟨there, rfl⟩ := passed
  exact ⟨there, first, second⟩

theorem exists_middle_iff (direction : 0 ≤ months ∧ 0 ≤ seconds ∨ months ≤ 0 ∧ seconds ≤ 0) :
    (∃ middle : Instant, MonthsLater months (read instant) (read middle) ∧
      SecondsLater seconds (read middle) (read moved)) ↔
      Steps months seconds (read instant) (read moved) :=
  ⟨fun ⟨middle, steps⟩ => ⟨read middle, steps⟩, exists_middle direction⟩

/-- More months than a word can count lead out of the range. -/
theorem months_lt_of_steps (direction : 0 ≤ months ∧ 0 ≤ seconds ∨ months ≤ 0 ∧ seconds ≤ 0)
    (steps : Steps months seconds (read instant) (read moved)) :
    months.natAbs < Interval.monthLimit := by
  obtain ⟨middle, first, -⟩ := exists_middle direction steps
  have month := first.month
  have forward := Lawful.months_lt instant middle
  have backward := Lawful.months_lt middle instant
  omega

variable {count : UInt32} {duration : Int64}

theorem addMonths?_bind_addSeconds?_eq_some_iff (fits : IsDuration duration)
    (forward : 0 ≤ duration.toInt) :
    (addMonths? instant count).bind (addSeconds? · duration) = some moved ↔
      Steps count.toNat duration.toInt (read instant) (read moved) := by
  rw [Option.bind_eq_some_iff, ← exists_middle_iff (Or.inl ⟨Int.natCast_nonneg _, forward⟩)]
  simp only [Lawful.addMonths?_eq_some_iff, Lawful.addSeconds?_eq_some_iff _ _ _ fits]

theorem subMonths?_bind_subSeconds?_eq_some_iff (fits : IsDuration duration)
    (forward : 0 ≤ duration.toInt) :
    (subMonths? instant count).bind (subSeconds? · duration) = some moved ↔
      Steps (-count.toNat) (-duration.toInt) (read instant) (read moved) := by
  rw [Option.bind_eq_some_iff, ← exists_middle_iff (Or.inr ⟨by omega, by omega⟩)]
  simp only [Lawful.subMonths?_eq_some_iff, Lawful.subSeconds?_eq_some_iff _ _ _ fits]

end Chronology

namespace Interval

open Reading Chronology

variable (interval : Interval)

/-! ### Counting without limits -/

/-- The years and months of an interval in months. -/
def calendarMonths : Nat := 12 * interval.amount .years + interval.amount .months

/-- The rest of an interval in seconds. -/
def clockSeconds : Nat :=
  interval.amount .days * 86400 + interval.amount .hours * 3600 + interval.amount .minutes * 60 +
    interval.amount .seconds

/-- Counting the months stops at the limit and nowhere else. -/
theorem toNat_monthCount : interval.monthCount.toNat = min interval.calendarMonths monthLimit := by
  unfold monthCount calendarMonths
  rw [UInt32.toNat_ofNat_of_lt' (Nat.lt_of_le_of_lt (Nat.min_le_right _ _) (by decide))]
  omega

theorem clockSeconds_lt : interval.clockSeconds < 2 ^ 48 := by
  have days := interval.amount_le .days
  have hours := interval.amount_le .hours
  have minutes := interval.amount_le .minutes
  have seconds := interval.amount_le .seconds
  unfold clockSeconds
  omega

/-- No step of counting the seconds leaves the words of 64 bits. -/
theorem toInt_secondCount : interval.secondCount.toInt = interval.clockSeconds := by
  have days := interval.amount_le .days
  have hours := interval.amount_le .hours
  have minutes := interval.amount_le .minutes
  have seconds := interval.amount_le .seconds
  have day : (86400 : Int64).toInt = 86400 := rfl
  have hour : (3600 : Int64).toInt = 3600 := rfl
  have minute : (60 : Int64).toInt = 60 := rfl
  have fits {number : Int} (low : 0 ≤ number) (high : number < 2 ^ 63) :
      number.bmod (2 ^ 64) = number :=
    Int.bmod_eq_of_le (by omega) (by omega)
  unfold secondCount clockSeconds
  simp (disch := omega) only [Int64.toInt_add, Int64.toInt_mul, Int32.toInt_toInt64, toInt_word,
    day, hour, minute, fits]
  omega

theorem isDuration_secondCount : IsDuration interval.secondCount := by
  have small := interval.clockSeconds_lt
  unfold IsDuration
  rw [toInt_secondCount]
  omega

/-! ### What is asked of a move -/

/-- The interval leads from one reading to another, whether or not there is such an instant. -/
def Reaches : Reading → Reading → Prop := Steps interval.calendarMonths interval.clockSeconds

/-- And back from one reading to another. -/
def ReachesBack : Reading → Reading → Prop :=
  Steps (-interval.calendarMonths) (-interval.clockSeconds)

variable {interval} {Instant : Type}

theorem moved_eq_ok_iff {found : Option Instant} {moved : Instant} :
    interval.moved found = .ok moved ↔ found = some moved := by
  cases found with
  | some there => rw [Interval.moved, Except.ok.injEq, Option.some.injEq]
  | none => exact ⟨fun made => (nomatch made), fun made => (nomatch made)⟩

theorem moved_eq_error_iff {found : Option Instant} :
    interval.moved found = .error (.outOfRange interval) ↔ ∀ there, found ≠ some there := by
  cases found with
  | some there => exact ⟨fun failed => (nomatch failed), fun never => absurd rfl (never there)⟩
  | none => exact ⟨fun _ _ made => (nomatch made), fun _ => rfl⟩

variable [Chronology Instant] (interval)

/-- What becomes of a move to a place: the instant that shows it, or an error if there is none. -/
structure Lands (goal : Reading) (result : Except IntervalError Instant) : Prop where
  ok_iff : ∀ moved, result = .ok moved ↔ read moved = goal
  error_iff : result = .error (.outOfRange interval) ↔ ∀ moved : Instant, read moved ≠ goal

/-- What an interval does to an instant, with and without limits. -/
structure MovesExactly (instant : Instant) : Prop where
  reached : ∃! goal, interval.Reaches (read instant) goal
  reachedBack : ∃! goal, interval.ReachesBack (read instant) goal
  forward : ∀ goal, interval.Reaches (read instant) goal →
    interval.Lands goal (interval.addTo instant)
  backward : ∀ goal, interval.ReachesBack (read instant) goal →
    interval.Lands goal (interval.subtractFrom instant)
  later : ∀ moved, interval.addTo instant = .ok moved → instant ≤ moved
  earlier : ∀ moved, interval.subtractFrom instant = .ok moved → moved ≤ instant
  /-- The months are counted up to the limit of their word, and the seconds without coming near the
  limits of theirs. -/
  counted : interval.monthCount.toNat = min interval.calendarMonths monthLimit ∧
    interval.secondCount.toInt = interval.clockSeconds ∧ interval.clockSeconds < 2 ^ 48 ∧
      IsDuration interval.secondCount

variable {interval}

theorem lands_of_ok_iff {goal : Reading} {found : Option Instant}
    (reaches : ∀ moved, interval.moved found = .ok moved ↔ read moved = goal) :
    interval.Lands goal (interval.moved found) where
  ok_iff := reaches
  error_iff := by
    rw [moved_eq_error_iff]
    exact forall_congr' fun moved => not_congr (moved_eq_ok_iff.symm.trans (reaches moved))

/-! ### Moving by an interval -/

variable [Lawful Instant] {instant moved : Instant}

/-- It makes no difference that months are counted in words: where the count falls short of the
months, no instant is reached by either. -/
theorem steps_monthCount_iff (seconds : Nat) :
    (Steps interval.monthCount.toNat seconds (read instant) (read moved) ↔
        Steps interval.calendarMonths seconds (read instant) (read moved)) ∧
      (Steps (-interval.monthCount.toNat) (-seconds) (read instant) (read moved) ↔
        Steps (-interval.calendarMonths) (-seconds) (read instant) (read moved)) := by
  rcases Nat.lt_or_ge interval.calendarMonths monthLimit with few | many
  · rw [toNat_monthCount, Nat.min_eq_left (Nat.le_of_lt few)]
    exact ⟨Iff.rfl, Iff.rfl⟩
  · have nowhere (months : Nat) (beyond : monthLimit ≤ months) :
        ¬ Steps months seconds (read instant) (read moved) ∧
          ¬ Steps (-months) (-seconds) (read instant) (read moved) := by
      constructor <;> intro steps <;> have short := months_lt_of_steps (by omega) steps <;> omega
    have counted := nowhere monthLimit (Nat.le_refl _)
    have exactly := nowhere interval.calendarMonths many
    rw [toNat_monthCount, Nat.min_eq_right many]
    exact ⟨iff_of_false counted.1 exactly.1, iff_of_false counted.2 exactly.2⟩

theorem addTo_eq_ok_iff :
    interval.addTo instant = .ok moved ↔ interval.Reaches (read instant) (read moved) := by
  have count := interval.toInt_secondCount
  rw [addTo, moved_eq_ok_iff, addMonths?_bind_addSeconds?_eq_some_iff
    interval.isDuration_secondCount (by omega), count]
  exact (steps_monthCount_iff _).1

theorem subtractFrom_eq_ok_iff :
    interval.subtractFrom instant = .ok moved ↔
      interval.ReachesBack (read instant) (read moved) := by
  have count := interval.toInt_secondCount
  rw [subtractFrom, moved_eq_ok_iff, subMonths?_bind_subSeconds?_eq_some_iff
    interval.isDuration_secondCount (by omega), count]
  exact (steps_monthCount_iff _).2

variable (interval) (instant)

theorem existsUnique_steps (months seconds : Int) :
    ∃! goal, Steps months seconds (read instant) goal := by
  simp only [steps_iff (Lawful.valid_read instant), existsUnique_eq]

/-- An interval takes every instant where it leads, and refuses to if there is no instant. -/
theorem movesExactly : interval.MovesExactly instant where
  reached := existsUnique_steps instant _ _
  reachedBack := existsUnique_steps instant _ _
  forward _ reaches := lands_of_ok_iff fun _ =>
    addTo_eq_ok_iff.trans (reaches.iff_eq (Lawful.valid_read instant))
  backward _ reaches := lands_of_ok_iff fun _ =>
    subtractFrom_eq_ok_iff.trans (reaches.iff_eq (Lawful.valid_read instant))
  later moved made := by
    have steps := addTo_eq_ok_iff.mp made
    rw [Lawful.le_iff]
    exact (steps.ordered (Lawful.valid_read instant)).1 ⟨Int.natCast_nonneg _, Int.natCast_nonneg _⟩
  earlier moved made := by
    have steps := subtractFrom_eq_ok_iff.mp made
    rw [Lawful.le_iff]
    exact (steps.ordered (Lawful.valid_read instant)).2 ⟨by omega, by omega⟩
  counted := ⟨interval.toNat_monthCount, interval.toInt_secondCount, interval.clockSeconds_lt,
    interval.isDuration_secondCount⟩

/-- In the leap second at the end of 2016. -/
def leapSecond : Timestamp := ⟨⟨⟨2016, 11, 30⟩, 86399, 1500000000⟩, by decide, by decide⟩

def startOfMarch : Timestamp := ⟨⟨⟨2017, 2, 0⟩, 0, 500000000⟩, by decide, by decide⟩

def endOfOctober : Timestamp := ⟨⟨⟨2016, 9, 30⟩, 86399, 500000000⟩, by decide, by decide⟩

def twoMonthsAndOneSecond : Interval where
  amount
    | .months => 2
    | .seconds => 1
    | _ => 0
  bounded component := by cases component <;> decide

/-- Two months after the leap second ends a shorter month, and one second more leads out of the leap
second into the next one. Two months before it, it is the second before. -/
theorem movesExactly_leapSecond :
    twoMonthsAndOneSecond.MovesExactly leapSecond ∧
      twoMonthsAndOneSecond.addTo leapSecond = .ok startOfMarch ∧
      twoMonthsAndOneSecond.subtractFrom leapSecond = .ok endOfOctober := by
  refine ⟨movesExactly _ _, addTo_eq_ok_iff.mpr ?_, subtractFrom_eq_ok_iff.mpr ?_⟩
  · exact (steps_iff leapSecond.valid).mpr (by decide +kernel)
  · exact (steps_iff leapSecond.valid).mpr (by decide +kernel)

end Interval

end Metamodel
