/-
What an export tells about the number of arguments of a function.

The least number of arguments is exported as it is. The largest one is exported as a signed number
of 64 bits, so that -1 can stand for there being none. But a declaration may pin any number that the
host can count to, and half of these are too large for a signed number: from 2^63 on the exported
number is negative, and thus below the least one, and the very last number of all comes out as the
-1 of the functions that take any number of arguments.
-/

import Metamodel.Proofs.Calls
import Metamodel.Proofs.Exporting
import Mathlib.Algebra.Group.Int.Defs
import Mathlib.Algebra.Group.Nat.Defs

namespace Metamodel

/-! ### Reading numbers -/

namespace Json

def integer? : Json → Option Int
  | integer value => some value
  | _ => none

def integerAt? (name : String) : Json → Option Int := readAt name integer? none

theorem integerAt?_eq {json : Json} {name : String} {value : Int}
    (there : json.valuesAt name = [.integer value]) : json.integerAt? name = some value := by
  unfold integerAt? readAt
  rw [there]
  rfl

end Json

namespace Export

open Json

/-! ### Signed numbers -/

/-- The numbers of a signed word are exported as they are. -/
theorem countCode_of_lt {count : Nat} (small : count < 2 ^ 63) :
    countCode (some count) = count := by
  unfold countCode
  exact Int.bmod_eq_of_le (by omega) (by omega)

/-- The numbers beyond are exported as negative ones. -/
theorem countCode_of_le {count : Nat} (large : 2 ^ 63 ≤ count) (fits : count < 2 ^ 64) :
    countCode (some count) = count - 2 ^ 64 :=
  -- The remainder of the count and of the count less a word are the same, and the latter is small.
  calc countCode (some count)
    _ = Int.bmod (count - 18446744073709551616) 18446744073709551616 :=
      (Int.sub_bmod_right count 18446744073709551616).symm
    _ = count - 2 ^ 64 := Int.bmod_eq_of_le (by omega) (by omega)

theorem countCode_eq_self_iff {count : Nat} (fits : count < 2 ^ 64) :
    countCode (some count) = count ↔ count < 2 ^ 63 := by
  refine ⟨fun same => ?_, countCode_of_lt⟩
  by_contra large
  rw [countCode_of_le (Nat.le_of_not_lt large) fits] at same
  omega

theorem countCode_eq_neg_one_iff {count : Nat} (fits : count < 2 ^ 64) :
    countCode (some count) = -1 ↔ count = 2 ^ 64 - 1 := by
  by_cases small : count < 2 ^ 63
  · rw [countCode_of_lt small]
    omega
  · rw [countCode_of_le (Nat.le_of_not_lt small) fits]
    omega

/-- Only numbers that are exported as they are do not fall below a least number. -/
theorem le_countCode_iff {least count : Nat} (bounds : least ≤ count) (fits : count < 2 ^ 64) :
    (least : Int) ≤ countCode (some count) ↔ count < 2 ^ 63 := by
  by_cases small : count < 2 ^ 63
  · rw [countCode_of_lt small]
    omega
  · rw [countCode_of_le (Nat.le_of_not_lt small) fits]
    omega

end Export

/-! ### Counts in a document -/

namespace FunctionInfo

/-- The host can count to the largest number of arguments. -/
def Countable (function : FunctionInfo) : Prop :=
  ∀ maximum, function.maximum = some maximum → maximum < 2 ^ 64

/-- What an entry of a document tells about the number of arguments of a function. -/
structure ReportsCounts (function : FunctionInfo) (entry : Json) : Prop where
  minimum : entry.integerAt? "minArgCount" = some (function.minimum : Int)
  /-- The mark of functions without a largest number is also that of one number. -/
  unbounded_iff : entry.integerAt? "argCount" = some (-1) ↔
    function.isVariadic = true ∨ function.maximum = some (2 ^ 64 - 1)
  exact_iff : ∀ maximum, function.maximum = some maximum →
    (entry.integerAt? "argCount" = some (maximum : Int) ↔ maximum < 2 ^ 63)
  wrapped : ∀ maximum, function.maximum = some maximum → 2 ^ 63 ≤ maximum →
    entry.integerAt? "argCount" = some ((maximum : Int) - 2 ^ 64)
  /-- What is wrong is also below the least number. -/
  ordered_iff : ∀ maximum, function.maximum = some maximum →
    ((∃ least count, entry.integerAt? "minArgCount" = some least ∧
      entry.integerAt? "argCount" = some count ∧ least ≤ count) ↔ maximum < 2 ^ 63)

variable (model : Model) (function : FunctionInfo)

theorem minArgCount_functionDocument :
    (Export.functionDocument model function).integerAt? "minArgCount" =
      some (function.minimum : Int) :=
  Json.integerAt?_eq (by simp [Export.functionDocument, Export.documentation])

theorem argCount_functionDocument :
    (Export.functionDocument model function).integerAt? "argCount" =
      some (Export.countCode function.maximum) :=
  Json.integerAt?_eq (by simp [Export.functionDocument, Export.documentation])

variable {function}

theorem reportsCounts_functionDocument (bounds : function.TakesCount function.minimum)
    (countable : function.Countable) :
    function.ReportsCounts (Export.functionDocument model function) where
  minimum := minArgCount_functionDocument model function
  unbounded_iff := by
    rw [argCount_functionDocument, Option.some.injEq]
    unfold isVariadic
    cases bounded : function.maximum with
    | none => exact iff_of_true rfl (Or.inl rfl)
    | some maximum =>
      rw [Export.countCode_eq_neg_one_iff (countable maximum bounded)]
      simp
  exact_iff maximum bounded := by
    rw [argCount_functionDocument, Option.some.injEq, bounded]
    exact Export.countCode_eq_self_iff (countable maximum bounded)
  wrapped maximum bounded large := by
    rw [argCount_functionDocument, bounded,
      Export.countCode_of_le large (countable maximum bounded)]
  ordered_iff maximum bounded := by
    rw [minArgCount_functionDocument, argCount_functionDocument, bounded,
      ← Export.le_countCode_iff (bounds.2 maximum bounded) (countable maximum bounded)]
    simp

end FunctionInfo

/-- A document has an entry for each function, in their order, which gives the least number of
arguments, and the largest one if that is less than 2^63. Other numbers are given as negative ones,
and one of these as if there were no largest number. -/
theorem Model.Built.reportsCounts {model : Model} (built : model.Built) :
    List.Forall₂ (fun function entry => function.Countable → function.ReportsCounts entry)
      model.functions.values ((Export.document model).elementsAt "funcs") := by
  rw [Export.elementsAt_funcs, List.forall₂_map_right_iff, List.forall₂_same]
  intro function member countable
  exact FunctionInfo.reportsCounts_functionDocument model
    (built.takesCount_minimum function member) countable

/-! ### A sum of as many terms as can be counted -/

namespace Draft

/-- A sum that is to have the largest number of terms that the host can count to. -/
def addingMachine : Draft :=
  said ((upon none).declareAll [.bareType { name := "Integer" },
    .function "sum" [.argument { type := some (.named "Integer") }, .count (2 ^ 64 - 1)]])

theorem grounded_addingMachine : addingMachine.Grounded := by rintro _ ⟨⟩

theorem built_addingMachine : addingMachine.assemble.Built :=
  .build grounded_addingMachine (build_of_faults (by decide))

/-- The only function of the machine has a largest number of terms. -/
theorem exists_sum_addingMachine : ∃ sum, addingMachine.assemble.functions.values = [sum] ∧
    sum.isVariadic = false ∧ sum.maximum = some (2 ^ 64 - 1) ∧ sum.Countable := by
  have sums : addingMachine.assemble.functions.values.map FunctionInfo.maximum =
      [some (2 ^ 64 - 1)] := by
    decide
  obtain ⟨sum, only, maximum⟩ := List.map_eq_singleton_iff.mp sums
  refine ⟨sum, only, ?_, maximum, fun other bounded => ?_⟩
  · unfold FunctionInfo.isVariadic
    rw [maximum]
    rfl
  · cases maximum.symm.trans bounded
    decide

end Draft

namespace Model

/-- The sum looks as if it took any number of terms, although there is a largest one. -/
theorem Built.reportsCounts_sum :
    Draft.addingMachine.assemble.Built ∧ ∃ sum entry,
      Draft.addingMachine.assemble.functions.values = [sum] ∧
        (Export.document Draft.addingMachine.assemble).elementsAt "funcs" = [entry] ∧
          sum.Countable ∧ sum.ReportsCounts entry ∧ sum.isVariadic = false ∧
            entry.integerAt? "argCount" = some (-1) := by
  obtain ⟨sum, only, limited, maximum, countable⟩ := Draft.exists_sum_addingMachine
  have reports := Built.reportsCounts Draft.built_addingMachine
  rw [only] at reports
  obtain ⟨entry, rest, tells, nothing, listed⟩ := List.forall₂_cons_left_iff.mp reports
  obtain rfl := List.forall₂_nil_left_iff.mp nothing
  have counts := tells countable
  exact ⟨Draft.built_addingMachine, sum, entry, only, listed, countable, counts, limited,
    counts.unbounded_iff.mpr (Or.inr maximum)⟩

/-- It is not true that -1 stands for functions without a largest number of arguments only and that
all other numbers are exported as they are. -/
theorem not_reports_exact_counts :
    ¬ ∀ model : Model, model.Built → List.Forall₂ (fun function entry => function.Countable →
      (entry.integerAt? "argCount" = some (-1) ↔ function.isVariadic = true) ∧
        ∀ maximum, function.maximum = some maximum →
          entry.integerAt? "argCount" = some (maximum : Int))
      model.functions.values ((Export.document model).elementsAt "funcs") := by
  intro exact
  obtain ⟨sum, only, limited, maximum, countable⟩ := Draft.exists_sum_addingMachine
  have claimed := exact _ Draft.built_addingMachine
  rw [Export.elementsAt_funcs, only, List.map_singleton] at claimed
  obtain ⟨marked_iff, -⟩ := (List.forall₂_cons.mp claimed).1 countable
  rw [FunctionInfo.argCount_functionDocument, maximum, limited] at marked_iff
  have marked := marked_iff.mp (congrArg some
    ((Export.countCode_eq_neg_one_iff (by decide)).mpr rfl))
  cases marked

end Model

end Metamodel
