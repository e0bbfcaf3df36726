/-
Written intervals, and reading them.

An interval is written as words with single blanks between them: for every component that is shown,
its amount in digits and then its label. Neither has a blank in it, so the words of a text can be told
apart, and no two components have the same label, so an amount is found before the label of its
component. A component that is not shown has the amount zero. Hence all amounts can be read off the
text, whichever components were left out of it, and different intervals are written differently.
-/

import Metamodel.Interval

namespace Metamodel

/-- The labels tell the components apart. -/
theorem Component.label_injective : Function.Injective Component.label := by
  intro first second same
  have apart : ∀ first ∈ all, ∀ second ∈ all, first.label = second.label → first = second := by
    decide
  exact apart first (mem_all first) second (mem_all second) same

namespace Interval

/-! ### Words -/

/-- The components that a written interval shows. -/
def shown (interval : Interval) : List Component :=
  Component.all.filter fun component => component = .seconds ∨ interval.amount component ≠ 0

/-- The words for one component. -/
def wordsFor (interval : Interval) (component : Component) : List (List Char) :=
  [Nat.toDigits 10 (interval.amount component), component.label.toList]

/-- The words of a written interval. -/
def words (interval : Interval) : List (List Char) := interval.shown.flatMap interval.wordsFor

variable (interval : Interval) (component : Component)

theorem mem_shown_iff :
    component ∈ interval.shown ↔ component = .seconds ∨ interval.amount component ≠ 0 := by
  unfold shown
  rw [List.mem_filter, decide_eq_true_eq]
  exact and_iff_right (Component.mem_all component)

/-- Pairs of words with blanks in the pairs and between them are words with blanks between them. -/
theorem intercalate_flatMap_wordsFor (components : List Component) :
    [' '].intercalate (components.map fun component =>
        Nat.toDigits 10 (interval.amount component) ++ [' '] ++ component.label.toList) =
      [' '].intercalate (components.flatMap interval.wordsFor) := by
  induction components with
  | nil => rfl
  | cons first rest inductionHypothesis =>
    cases rest with
    | nil => simp [wordsFor]
    | cons second rest =>
      rw [List.map_cons] at inductionHypothesis
      rw [List.map_cons, List.map_cons, List.intercalate_cons_cons, inductionHypothesis]
      simp [wordsFor]

theorem toList_display : interval.display.toList = [' '].intercalate interval.words := by
  unfold words
  rw [← intercalate_flatMap_wordsFor]
  unfold display shown
  rw [String.toList_intercalate, List.map_map]
  congr 1
  refine List.map_congr_left fun component _ => ?_
  simp [Nat.toString_eq_repr]

theorem blank_not_mem_words : ∀ word ∈ interval.words, ' ' ∉ word := by
  intro word member
  obtain ⟨component, -, inWords⟩ := List.mem_flatMap.mp member
  rcases List.mem_cons.mp inWords with rfl | inWords
  · intro blank
    exact absurd (Nat.isDigit_of_mem_toDigits (by decide) (by decide) blank) (by decide)
  · rw [List.mem_singleton.mp inWords]
    cases component <;> decide

theorem words_ne_nil : interval.words ≠ [] := by
  intro none
  have seconds : Component.seconds ∈ interval.shown := (mem_shown_iff _ _).mpr (Or.inl rfl)
  have empty := List.flatMap_eq_nil_iff.mp none _ seconds
  exact List.cons_ne_nil _ _ empty

/-- The words of a written interval can be told apart. -/
theorem splitOn_display : interval.display.toList.splitOn ' ' = interval.words := by
  rw [toList_display]
  exact List.splitOn_intercalate ' ' interval.blank_not_mem_words interval.words_ne_nil

/-! ### Reading -/

/-- The number before a label, which is zero if the label does not occur. -/
def numberBefore (label : List Char) : List (List Char) → Nat
  | digits :: name :: rest =>
    if name = label then Nat.ofDigitChars 10 digits 0 else numberBefore label rest
  | _ => 0

/-- The amount of a component in a written interval. -/
def readAmount (text : String) (component : Component) : Nat :=
  numberBefore component.label.toList (text.toList.splitOn ' ')

theorem numberBefore_flatMap_wordsFor (components : List Component) :
    numberBefore component.label.toList (components.flatMap interval.wordsFor) =
      if component ∈ components then interval.amount component else 0 := by
  induction components with
  | nil => rfl
  | cons head rest inductionHypothesis =>
    rw [List.flatMap_cons]
    show (if head.label.toList = component.label.toList then
      Nat.ofDigitChars 10 (Nat.toDigits 10 (interval.amount head)) 0
        else numberBefore component.label.toList (rest.flatMap interval.wordsFor)) = _
    by_cases same : head = component
    · subst same
      rw [if_pos rfl, if_pos List.mem_cons_self, Nat.ofDigitChars_ten_toDigits]
    · have apart : head.label.toList ≠ component.label.toList := fun equal =>
        same (Component.label_injective (String.toList_injective equal))
      rw [if_neg apart, inductionHypothesis]
      simp only [List.mem_cons, Ne.symm same, false_or]

/-- What was written is what is read. -/
theorem readAmount_display : readAmount interval.display component = interval.amount component := by
  unfold readAmount
  rw [splitOn_display]
  unfold words
  rw [numberBefore_flatMap_wordsFor]
  by_cases visible : component ∈ interval.shown
  · rw [if_pos visible]
  · rw [if_neg visible]
    rw [mem_shown_iff, not_or, Decidable.not_not] at visible
    exact visible.2.symm

example : readAmount "1 YEARS 3 DAYS 0 SECONDS" .days = 3 := by decide

/-- Intervals are written alike only if they are the same. -/
theorem display_eq_display_iff (first second : Interval) :
    first.display = second.display ↔ first = second := by
  constructor
  · intro alike
    refine Interval.ext fun component => ?_
    rw [← readAmount_display first, alike, readAmount_display]
  · rintro rfl
    rfl

end Interval

end Metamodel
