/-
Days and dates.

Days are numbered without end and dates are made of a year, a month and a day, and either can be had
from the other: a valid date has a number, and the date of that number is the date itself. For the
years this rests on their mean length being close enough to all sums of lengths, and for the months
on nothing but their order. Months have numbers of their own, which run on across the years. The
first day of a month is as many days after that of the month before as the month before is long, so
a date in a later month is a later date.
-/

import Metamodel.Calendar
import Mathlib.Algebra.GroupWithZero.Nat
import Mathlib.Tactic.ByContra

namespace Metamodel

namespace Calendar

/-! ### Years -/

theorem isLeap_eq_true_iff (year : Int) :
    isLeap year = true ↔ year % 4 = 0 ∧ (year % 100 ≠ 0 ∨ year % 400 = 0) := by
  simp [isLeap]

def yearLength (leap : Bool) : Nat := if leap then 366 else 365

theorem daysBeforeYear_eq (year : Int) : daysBeforeYear year =
    365 * (year - 1) + (year - 1) / 4 - (year - 1) / 100 + (year - 1) / 400 := rfl

theorem daysBeforeYear_succ (year : Int) :
    daysBeforeYear (year + 1) = daysBeforeYear year + yearLength (isLeap year) := by
  have rule := isLeap_eq_true_iff year
  rw [daysBeforeYear_eq, daysBeforeYear_eq]
  cases leap : isLeap year with
  | true =>
    have divides := rule.mp leap
    simp only [yearLength, if_true]
    omega
  | false =>
    have common := mt rule.mpr (Bool.eq_false_iff.mp leap)
    simp only [yearLength, Bool.false_eq_true, if_false]
    omega

theorem daysBeforeYear_mono {year other : Int} (before : year ≤ other) :
    daysBeforeYear year ≤ daysBeforeYear other := by
  rw [daysBeforeYear_eq, daysBeforeYear_eq]
  omega

/-- A day lies in one year only. -/
theorem year_unique {day year other : Int} (start : daysBeforeYear year ≤ day)
    (finish : day < daysBeforeYear (year + 1)) (otherStart : daysBeforeYear other ≤ day)
    (otherFinish : day < daysBeforeYear (other + 1)) : year = other := by
  rcases Int.lt_trichotomy year other with before | same | after
  · have passed := daysBeforeYear_mono (Int.add_one_le_of_lt before)
    omega
  · exact same
  · have passed := daysBeforeYear_mono (Int.add_one_le_of_lt after)
    omega

/-- Four hundred years have 146097 days, and no other number of years is off by as much as two days
from that mean. -/
theorem daysBeforeYear_bounds (past : Int) :
    146097 * past - 699 ≤ 400 * daysBeforeYear (past + 1) ∧
      400 * daysBeforeYear (past + 1) ≤ 146097 * past + 396 := by
  rw [daysBeforeYear_eq]
  omega

theorem yearOfDay_spec (day : Int) :
    daysBeforeYear (yearOfDay day) ≤ day ∧ day < daysBeforeYear (yearOfDay day + 1) := by
  obtain ⟨past, guessed⟩ : ∃ past, past = day * 400 / 146097 := ⟨_, rfl⟩
  have before := daysBeforeYear_bounds past
  have after := daysBeforeYear_bounds (past + 2)
  simp only [yearOfDay, ← guessed]
  split
  · next early => omega
  · next reached =>
    split
    · next passed =>
      refine ⟨passed, ?_⟩
      rw [show past + 1 + 1 + 1 = past + 2 + 1 by omega]
      omega
    · next inside => omega

theorem yearOfDay_eq {day year : Int} (start : daysBeforeYear year ≤ day)
    (finish : day < daysBeforeYear (year + 1)) : yearOfDay day = year :=
  year_unique (yearOfDay_spec day).1 (yearOfDay_spec day).2 start finish

/-! ### Months -/

theorem countMonths_add {lengths : List Nat} {month day : Nat}
    (inside : day < lengths.getD month 0) :
    countMonths lengths ((lengths.take month).sum + day) = (month, day) := by
  induction lengths generalizing month with
  | nil => simp at inside
  | cons length rest inductionHypothesis =>
    cases month with
    | zero =>
      have fits : day < length := by simpa using inside
      simp [countMonths, fits]
    | succ month =>
      have later : day < rest.getD month 0 := by simpa using inside
      have passed : ¬ length + (rest.take month).sum + day < length := by omega
      have left : length + (rest.take month).sum + day - length = (rest.take month).sum + day := by
        omega
      rw [List.take_succ_cons, List.sum_cons, countMonths, if_neg passed, left,
        inductionHypothesis later]

theorem countMonths_spec {lengths : List Nat} {days : Nat} (inside : days < lengths.sum) :
    ∃ month day, countMonths lengths days = (month, day) ∧ day < lengths.getD month 0 ∧
      (lengths.take month).sum + day = days := by
  induction lengths generalizing days with
  | nil => simp at inside
  | cons length rest inductionHypothesis =>
    by_cases fits : days < length
    · exact ⟨0, days, by simp [countMonths, fits], by simpa using fits, by simp⟩
    · rw [List.sum_cons] at inside
      have fewer : days - length < rest.sum := by omega
      obtain ⟨month, day, counted, short, total⟩ := inductionHypothesis fewer
      refine ⟨month + 1, day, by simp [countMonths, fits, counted], by simpa using short, ?_⟩
      rw [List.take_succ_cons, List.sum_cons]
      omega

theorem daysBeforeMonth_eq_sum (leap : Bool) (month : Nat) :
    daysBeforeMonth leap month = ((monthLengths leap).take month).sum := List.sum_eq_foldl.symm

theorem sum_monthLengths (leap : Bool) : (monthLengths leap).sum = yearLength leap := by
  cases leap <;> rfl

theorem daysBeforeMonth_succ (leap : Bool) (month : Nat) (known : month < 12) :
    daysBeforeMonth leap (month + 1) = daysBeforeMonth leap month + monthLength leap month := by
  revert month
  cases leap <;> decide

theorem daysBeforeMonth_zero (leap : Bool) : daysBeforeMonth leap 0 = 0 := rfl

theorem daysBeforeMonth_twelve (leap : Bool) : daysBeforeMonth leap 12 = yearLength leap := by
  cases leap <;> rfl

theorem monthLength_bounds (leap : Bool) (month : Nat) (known : month < 12) :
    28 ≤ monthLength leap month ∧ monthLength leap month ≤ 31 := by
  revert month
  cases leap <;> decide

/-- There are only twelve months in which a day can lie. -/
theorem lt_of_lt_monthLength {leap : Bool} {month day : Nat}
    (inside : day < monthLength leap month) : month < 12 := by
  by_contra beyond
  have absent : (monthLengths leap)[month]? = none := by
    rw [List.getElem?_eq_none_iff]
    exact Nat.le_of_not_lt beyond
  rw [monthLength, List.getD_eq_getElem?_getD, absent] at inside
  exact Nat.not_lt_zero _ inside

theorem day_lt_yearLength {leap : Bool} {month day : Nat} (inside : day < monthLength leap month) :
    daysBeforeMonth leap month + day < yearLength leap := by
  have known := lt_of_lt_monthLength inside
  have whole : ∀ month < 12, daysBeforeMonth leap (month + 1) ≤ yearLength leap := by
    cases leap <;> decide
  have bound := whole month known
  rw [daysBeforeMonth_succ leap month known] at bound
  omega

end Calendar

open Calendar

namespace Date

/-! ### Dates and their numbers -/

theorem ofDayNumber_spec (number : Int) :
    (ofDayNumber number).Valid ∧ (ofDayNumber number).dayNumber = number := by
  have ⟨start, finish⟩ := yearOfDay_spec number
  obtain ⟨year, inYear⟩ : ∃ year, year = yearOfDay number := ⟨_, rfl⟩
  rw [← inYear, daysBeforeYear_succ] at finish
  rw [← inYear] at start
  have counts : (number - daysBeforeYear year).toNat < (monthLengths (isLeap year)).sum := by
    rw [sum_monthLengths]
    omega
  obtain ⟨month, day, counted, inside, total⟩ := countMonths_spec counts
  have read : ofDayNumber number = ⟨year, month, day⟩ := by
    simp only [ofDayNumber, ← inYear, counted]
  rw [read]
  refine ⟨⟨lt_of_lt_monthLength inside, inside⟩, ?_⟩
  simp only [dayNumber, daysBeforeMonth_eq_sum]
  omega

/-- A valid date lies in its year. -/
theorem dayNumber_bounds {date : Date} (valid : date.Valid) :
    daysBeforeYear date.year ≤ date.dayNumber ∧
      date.dayNumber < daysBeforeYear (date.year + 1) := by
  have short := day_lt_yearLength valid.2
  rw [daysBeforeYear_succ, dayNumber]
  omega

theorem ofDayNumber_dayNumber {date : Date} (valid : date.Valid) :
    ofDayNumber date.dayNumber = date := by
  have ⟨start, finish⟩ := dayNumber_bounds valid
  have left : (date.dayNumber - daysBeforeYear date.year).toNat =
      ((monthLengths (isLeap date.year)).take date.month).sum + date.day := by
    rw [dayNumber, daysBeforeMonth_eq_sum]
    omega
  simp only [ofDayNumber, yearOfDay_eq start finish, left, countMonths_add valid.2]

/-- A day is the day of one date only. -/
theorem eq_of_dayNumber_eq {date other : Date} (valid : date.Valid) (otherValid : other.Valid)
    (same : date.dayNumber = other.dayNumber) : date = other := by
  rw [← ofDayNumber_dayNumber valid, same, ofDayNumber_dayNumber otherValid]

end Date

/-! ### Months in a row -/

namespace Calendar

/-- The number of the first day of a month, where months are numbered from the start of the
year 0. -/
def daysBeforeMonthNumber (month : Int) : Int :=
  daysBeforeYear (month / 12) + daysBeforeMonth (isLeap (month / 12)) (month % 12).toNat

/-- The length of the month with a number. -/
def lengthOfMonthNumber (month : Int) : Nat :=
  monthLength (isLeap (month / 12)) (month % 12).toNat

theorem lengthOfMonthNumber_bounds (month : Int) :
    28 ≤ lengthOfMonthNumber month ∧ lengthOfMonthNumber month ≤ 31 :=
  monthLength_bounds _ _ (by omega)

theorem daysBeforeMonthNumber_succ (month : Int) : daysBeforeMonthNumber (month + 1) =
    daysBeforeMonthNumber month + lengthOfMonthNumber month := by
  by_cases last : month % 12 = 11
  · have nextYear : (month + 1) / 12 = month / 12 + 1 := by omega
    have first : ((month + 1) % 12).toNat = 0 := by omega
    have eleven : (month % 12).toNat = 11 := by omega
    have whole := daysBeforeMonth_succ (isLeap (month / 12)) 11 (by decide)
    rw [daysBeforeMonth_twelve] at whole
    simp only [daysBeforeMonthNumber, lengthOfMonthNumber, nextYear, first, eleven,
      daysBeforeYear_succ, daysBeforeMonth_zero, whole]
    omega
  · have sameYear : (month + 1) / 12 = month / 12 := by omega
    have next : ((month + 1) % 12).toNat = (month % 12).toNat + 1 := by omega
    simp only [daysBeforeMonthNumber, lengthOfMonthNumber, sameYear, next,
      daysBeforeMonth_succ _ _ (show (month % 12).toNat < 12 by omega)]
    omega

/-- Months follow each other. -/
theorem daysBeforeMonthNumber_mono {month other : Int} (before : month ≤ other) :
    daysBeforeMonthNumber month ≤ daysBeforeMonthNumber other := by
  obtain ⟨count, rfl⟩ := Int.le.dest before
  clear before
  induction count with
  | zero => simp
  | succ count inductionHypothesis =>
    have next := daysBeforeMonthNumber_succ (month + count)
    rw [Int.natCast_succ, ← Int.add_assoc]
    omega

end Calendar

namespace Date

theorem monthNumber_div {date : Date} (known : date.month < 12) :
    date.monthNumber / 12 = date.year := by
  unfold monthNumber
  omega

theorem monthNumber_mod {date : Date} (known : date.month < 12) :
    (date.monthNumber % 12).toNat = date.month := by
  unfold monthNumber
  omega

/-- A date is as many days after the first day of its month as its day says. -/
theorem dayNumber_eq {date : Date} (known : date.month < 12) :
    date.dayNumber = daysBeforeMonthNumber date.monthNumber + date.day := by
  rw [daysBeforeMonthNumber, monthNumber_div known, monthNumber_mod known, dayNumber]

theorem length_eq {date : Date} (known : date.month < 12) :
    lengthOfMonthNumber date.monthNumber = monthLength (isLeap date.year) date.month := by
  rw [lengthOfMonthNumber, monthNumber_div known, monthNumber_mod known]

/-- A date is known by its month and its day. -/
theorem eq_of_monthNumber_eq {date other : Date} (known : date.month < 12)
    (otherKnown : other.month < 12) (month : date.monthNumber = other.monthNumber)
    (day : date.day = other.day) : date = other := by
  have sameYear := monthNumber_div known
  have sameMonth := monthNumber_mod known
  rw [month, monthNumber_div otherKnown] at sameYear
  rw [month, monthNumber_mod otherKnown] at sameMonth
  obtain ⟨year, month, day⟩ := date
  obtain ⟨otherYear, otherMonth, otherDay⟩ := other
  dsimp only at sameYear sameMonth day
  rw [sameYear, sameMonth, day]

/-! ### The order of dates -/

theorem dayNumber_lt_of_monthNumber_lt {date other : Date} (valid : date.Valid)
    (otherValid : other.Valid) (before : date.monthNumber < other.monthNumber) :
    date.dayNumber < other.dayNumber := by
  have inside := valid.2
  have next := daysBeforeMonthNumber_succ date.monthNumber
  have later := daysBeforeMonthNumber_mono (Int.add_one_le_of_lt before)
  rw [← length_eq valid.1] at inside
  rw [dayNumber_eq valid.1, dayNumber_eq otherValid.1]
  omega

theorem monthNumber_le_of_dayNumber_le {date other : Date} (valid : date.Valid)
    (otherValid : other.Valid) (before : date.dayNumber ≤ other.dayNumber) :
    date.monthNumber ≤ other.monthNumber := by
  by_contra after
  have reverse := dayNumber_lt_of_monthNumber_lt otherValid valid (Int.not_le.mp after)
  omega

theorem year_le_of_dayNumber_le {date other : Date} (valid : date.Valid)
    (otherValid : other.Valid) (before : date.dayNumber ≤ other.dayNumber) :
    date.year ≤ other.year := by
  rw [← monthNumber_div valid.1, ← monthNumber_div otherValid.1]
  exact Int.ediv_le_ediv (by decide) (monthNumber_le_of_dayNumber_le valid otherValid before)

/-! ### Shifting months -/

variable (date : Date) (months : Int)

theorem month_shiftMonths : (date.shiftMonths months).month < 12 := by
  simp only [shiftMonths]
  omega

theorem monthNumber_shiftMonths :
    (date.shiftMonths months).monthNumber = date.monthNumber + months := by
  simp only [shiftMonths, monthNumber]
  omega

theorem day_shiftMonths : (date.shiftMonths months).day =
    min date.day (lengthOfMonthNumber (date.monthNumber + months) - 1) := rfl

theorem valid_shiftMonths : (date.shiftMonths months).Valid := by
  refine ⟨date.month_shiftMonths months, ?_⟩
  rw [← length_eq (date.month_shiftMonths months), monthNumber_shiftMonths, day_shiftMonths]
  have long := (lengthOfMonthNumber_bounds (date.monthNumber + months)).1
  omega

/-- The month and the cut of the day say which date it is. -/
theorem eq_shiftMonths {later : Date} (known : later.month < 12)
    (month : later.monthNumber = date.monthNumber + months)
    (day : later.day = min date.day (monthLength (isLeap later.year) later.month - 1)) :
    later = date.shiftMonths months := by
  refine eq_of_monthNumber_eq known (month_shiftMonths _ _) ?_ ?_
  · rw [month, monthNumber_shiftMonths]
  · rw [day, day_shiftMonths, ← month, length_eq known]

variable {date}

theorem shiftMonths_zero (valid : date.Valid) : date.shiftMonths 0 = date := by
  have inside := valid.2
  rw [← length_eq valid.1] at inside
  refine eq_of_monthNumber_eq (date.month_shiftMonths 0) valid.1 ?_ ?_
  · rw [monthNumber_shiftMonths, Int.add_zero]
  · rw [day_shiftMonths, Int.add_zero]
    omega

end Date

end Metamodel
