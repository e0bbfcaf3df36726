/-
Sums and differences of intervals.

The amounts of an interval are never negative, so the difference of two of them is never too large
for the word it is computed in, and it is below zero exactly where there is less to take from than to
take. A sum is different: it may be too large, and then it stays at the largest amount. What was
added to it can be taken away again, but what is left is no longer what there was before. Hence
differences are undone by sums for all intervals, and sums by differences for those only that do not
reach the limit.
-/

import Metamodel.Interval
import Mathlib.Data.List.Basic

namespace Metamodel

namespace Interval

variable (first second : Interval) (component : Component)

/-! ### Words -/

theorem amount_le : first.amount component ≤ 2147483647 := first.bounded component

theorem toInt_word : (first.word component).toInt = first.amount component :=
  Int32.toInt_ofNat_of_lt (Nat.lt_succ_of_le (first.amount_le component))

/-- The difference of two amounts is a word, whichever is larger. -/
theorem toInt_word_sub : (first.word component - second.word component).toInt =
    first.amount component - second.amount component := by
  have bound := first.amount_le component
  have otherBound := second.amount_le component
  rw [Int32.toInt_sub, toInt_word, toInt_word]
  exact Int.bmod_eq_of_le (by omega) (by omega)

theorem word_sub_lt_zero_iff : first.word component - second.word component < 0 ↔
    first.amount component < second.amount component := by
  rw [Int32.lt_iff_toInt_lt, toInt_word_sub, Int32.toInt_zero]
  omega

/-! ### Intervals from words -/

/-- The first of some words that is negative, in the order from the longest component to the
shortest. -/
structure FirstNegative (amounts : Component → Int32) (component : Component) : Prop where
  negative : amounts component < 0
  earlier : ∃ before after, Component.all = before ++ component :: after ∧
    ∀ longer ∈ before, 0 ≤ amounts longer

theorem find?_negative_iff (amounts : Component → Int32) (component : Component) :
    Component.all.find? (fun component => amounts component < 0) = some component ↔
      FirstNegative amounts component := by
  rw [List.find?_eq_some_iff_append]
  constructor
  · rintro ⟨negative, before, after, split, passed⟩
    exact ⟨by simpa using negative, before, after, split, by simpa using passed⟩
  · rintro ⟨negative, before, after, split, passed⟩
    exact ⟨by simpa using negative, before, after, split, by simpa using passed⟩

theorem find?_negative_eq_none_iff (amounts : Component → Int32) :
    Component.all.find? (fun component => amounts component < 0) = none ↔
      ∀ component, 0 ≤ amounts component := by
  rw [List.find?_eq_none]
  constructor
  · intro passed component
    simpa using passed component (Component.mem_all component)
  · intro nonnegative component _
    simpa using nonnegative component

/-- Words make the interval of which they are the amounts, and no other. -/
theorem make_eq_ok_iff (amounts : Component → Int32) (interval : Interval) :
    make amounts = .ok interval ↔
      ∀ component, (amounts component).toInt = interval.amount component := by
  unfold make
  split
  · next component found =>
    refine ⟨fun made => (nomatch made), fun same => ?_⟩
    have negative := ((find?_negative_iff amounts component).mp found).negative
    rw [Int32.lt_iff_toInt_lt, same component, Int32.toInt_zero] at negative
    omega
  · next passed =>
    rw [find?_negative_eq_none_iff] at passed
    constructor
    · rintro ⟨⟩ component
      have nonnegative := passed component
      rw [Int32.le_iff_toInt_le, Int32.toInt_zero] at nonnegative
      exact (Int.toNat_of_nonneg nonnegative).symm
    · intro same
      refine congrArg Except.ok (Interval.ext fun component => ?_)
      show (amounts component).toInt.toNat = _
      rw [same component, Int.toNat_natCast]

/-- The first negative word is what is wrong with words that make no interval. -/
theorem make_eq_error_iff (amounts : Component → Int32) (error : IntervalError) :
    make amounts = .error error ↔ ∃ component, FirstNegative amounts component ∧
      error = .negative component (amounts component).toInt := by
  unfold make
  split
  · next component found =>
    have first := (find?_negative_iff amounts component).mp found
    constructor
    · rintro ⟨⟩
      exact ⟨component, first, rfl⟩
    · rintro ⟨other, otherFirst, rfl⟩
      rw [(find?_negative_iff amounts other).mpr otherFirst] at found
      rw [Option.some.inj found]
  · next passed =>
    refine ⟨fun made => (nomatch made), fun ⟨component, first, _⟩ => ?_⟩
    rw [(find?_negative_iff amounts component).mpr first] at passed
    exact nomatch passed

/-! ### Differences -/

theorem subtract_eq_ok_iff (difference : Interval) : first.subtract second = .ok difference ↔
    ∀ component, first.amount component =
      difference.amount component + second.amount component := by
  unfold subtract
  rw [make_eq_ok_iff]
  refine forall_congr' fun component => ?_
  rw [toInt_word_sub]
  omega

/-- The first component in which there is less to take from than to take. -/
structure FirstShort (first second : Interval) (component : Component) : Prop where
  short : first.amount component < second.amount component
  earlier : ∃ before after, Component.all = before ++ component :: after ∧
    ∀ longer ∈ before, second.amount longer ≤ first.amount longer

theorem firstNegative_word_sub_iff :
    FirstNegative (fun component => first.word component - second.word component) component ↔
      FirstShort first second component := by
  have nonnegative (longer : Component) : 0 ≤ first.word longer - second.word longer ↔
      second.amount longer ≤ first.amount longer := by
    rw [← Int32.not_lt, word_sub_lt_zero_iff, Nat.not_lt]
  constructor
  · rintro ⟨negative, before, after, split, passed⟩
    exact ⟨(word_sub_lt_zero_iff _ _ _).mp negative, before, after, split,
      fun longer member => (nonnegative longer).mp (passed longer member)⟩
  · rintro ⟨short, before, after, split, passed⟩
    exact ⟨(word_sub_lt_zero_iff _ _ _).mpr short, before, after, split,
      fun longer member => (nonnegative longer).mpr (passed longer member)⟩

theorem subtract_eq_error_iff (error : IntervalError) :
    first.subtract second = .error error ↔ ∃ component, FirstShort first second component ∧
      error = .negative component (first.amount component - second.amount component) := by
  unfold subtract
  rw [make_eq_error_iff]
  refine exists_congr fun component => ?_
  rw [firstNegative_word_sub_iff, toInt_word_sub]

/-! ### Sums -/

theorem amount_add : (first.add second).amount component =
    min (first.amount component + second.amount component) limit := rfl

/-- The sum of two words; one that is no word stays at the nearest one. -/
def saturatedSum (first second : Int32) : Int32 :=
  Int32.ofInt (max (-2147483648) (min (first.toInt + second.toInt) 2147483647))

theorem toInt_saturatedSum (first second : Int32) : (saturatedSum first second).toInt =
    max (-2147483648) (min (first.toInt + second.toInt) 2147483647) := by
  unfold saturatedSum
  exact Int32.toInt_ofInt_of_le (by omega) (by omega)

theorem make_saturatedSum :
    make (fun component => saturatedSum (first.word component) (second.word component)) =
      .ok (first.add second) := by
  rw [make_eq_ok_iff]
  intro component
  rw [toInt_saturatedSum, toInt_word, toInt_word, amount_add]
  unfold limit
  omega

/-- What is left of a sum that stayed at the limit. -/
def takenBack (first second : Interval) : Interval where
  amount component := min (first.amount component) (limit - second.amount component)
  bounded component := Nat.le_trans (Nat.min_le_left _ _) (first.bounded component)

theorem subtract_add : (first.add second).subtract second = .ok (first.takenBack second) := by
  rw [subtract_eq_ok_iff]
  intro component
  have bound := second.bounded component
  simp only [amount_add, takenBack]
  omega

theorem takenBack_eq_iff : first.takenBack second = first ↔
    ∀ component, first.amount component + second.amount component ≤ limit := by
  constructor
  · intro same component
    have kept : (first.takenBack second).amount component = first.amount component := by rw [same]
    have bound := second.bounded component
    simp only [takenBack] at kept
    omega
  · intro small
    refine Interval.ext fun component => ?_
    have bound := small component
    simp only [takenBack]
    omega

/-! ### Sums and differences -/

/-- How sums and differences of two intervals are related. -/
structure Balances (first second : Interval) : Prop where
  /-- A sum is made of words that stay at the largest one. -/
  summed : make (fun component =>
    saturatedSum (first.word component) (second.word component)) = .ok (first.add second)
  /-- The words of a difference are exact. -/
  exact : ∀ component, (first.word component - second.word component).toInt =
    first.amount component - second.amount component
  added_back : ∀ difference, first.subtract second = .ok difference →
    difference.add second = first
  /-- What was added can be taken away again, but nothing beyond the limit comes back. -/
  taken_back : ∃ rest, (first.add second).subtract second = .ok rest ∧
    ∀ component, rest.amount component =
      min (first.amount component) (limit - second.amount component)
  taken_back_iff : (first.add second).subtract second = .ok first ↔
    ∀ component, first.amount component + second.amount component ≤ limit
  fails_iff : (∃ error, first.subtract second = .error error) ↔
    ∃ component, first.amount component < second.amount component
  reported : ∀ error, first.subtract second = .error error ↔
    ∃ component, FirstShort first second component ∧
      error = .negative component (first.amount component - second.amount component)

/-- Any two intervals balance. -/
theorem balances : Balances first second where
  summed := make_saturatedSum first second
  exact := toInt_word_sub first second
  added_back difference taken := by
    rw [subtract_eq_ok_iff] at taken
    refine Interval.ext fun component => ?_
    have bound := first.bounded component
    rw [amount_add, ← taken component]
    omega
  taken_back := ⟨first.takenBack second, subtract_add first second, fun _ => rfl⟩
  taken_back_iff := by
    rw [subtract_add, Except.ok.injEq, takenBack_eq_iff]
  fails_iff := by
    constructor
    · rintro ⟨error, failed⟩
      obtain ⟨component, firstShort, -⟩ := (subtract_eq_error_iff first second error).mp failed
      exact ⟨component, firstShort.short⟩
    · rintro ⟨component, short⟩
      cases taken : first.subtract second with
      | error error => exact ⟨error, rfl⟩
      | ok difference =>
        have total := (subtract_eq_ok_iff first second difference).mp taken component
        omega
  reported := subtract_eq_error_iff first second

/-- It is not true that a difference undoes every sum. -/
theorem not_subtract_add :
    ¬ ∀ first second : Interval, (first.add second).subtract second = .ok first := by
  intro undoes
  have same := undoes ⟨fun _ => limit, fun _ => Nat.le_refl _⟩ ⟨fun _ => 1, fun _ => by decide⟩
  rw [subtract_add, Except.ok.injEq, takenBack_eq_iff] at same
  exact absurd (same .years) (by decide)

end Interval

end Metamodel
