/-
What filling in defaults leaves in a row.

Defaults are filled in type by type, and whether one is missing is looked up in a table that grows
meanwhile. In the end this does not show. A default is missing for a type in the growing table only
if it is missing in the table one began with, so the rows of the types that lack nothing there stay
as they were. And the row of a type that does lack a rule gets the default of its name, whichever of
the types with the name comes first, as long as those that lack the rule too and share a name or a
tag with it are told apart by neither.
-/

import Metamodel.Proofs.Dispatch
import Metamodel.Proofs.Newest

namespace Metamodel

namespace Draft

open RuleTable

/-- The type enables the capability, and no rule is filed for it under the name of the type. -/
def Lacks (table : RuleTable) (type : TypeInfo) (capability : Capability) : Prop :=
  type.enables capability = true ∧ table.row? (.named type.name) capability = none

/-- Defaults depend on nothing but the name of the type. -/
theorem defaultRule_congr {type other : TypeInfo} (same : type.name = other.name)
    (capability : Capability) : defaultRule type capability = defaultRule other capability := by
  unfold defaultRule
  rw [same]

theorem answersTo_congr {type other : TypeInfo} (name : type.name = other.name)
    (tag : type.tag = other.tag) (reference : Reference) :
    type.AnswersTo reference ↔ other.AnswersTo reference := by
  cases reference with
  | named _ => exact iff_of_eq (congrArg (· = _) name)
  | tagged _ => exact iff_of_eq (congrArg (· = _) tag)

/-- A rule that is filed for another capability, or for a type that does not answer to the
reference, is filed in another row. -/
theorem row?_insert_of_not (table : RuleTable) {type : TypeInfo} {capability : Capability}
    (rule : OperandRule) {reference : Reference} {wanted : Capability}
    (elsewhere : wanted = capability → ¬ type.AnswersTo reference) :
    (table.insert type capability rule).row? reference wanted = table.row? reference wanted := by
  rw [row?_insert, if_neg fun both => elsewhere both.2 both.1]

variable {table : RuleTable} {types : List TypeInfo} {capability : Capability}

/-- A row that is empty after an insertion was empty before. -/
theorem row?_eq_none_of_insert {type : TypeInfo} {filed : Capability} {rule : OperandRule}
    {reference : Reference} {wanted : Capability}
    (empty : (table.insert type filed rule).row? reference wanted = none) :
    table.row? reference wanted = none := by
  rw [row?_insert] at empty
  split at empty
  · cases empty
  · exact empty

/-- If no type that lacks the rule answers to a reference, the row of the reference is left
alone. -/
theorem row?_fillRules_of_not_lacks {reference : Reference}
    (spared : ∀ type ∈ types, Lacks table type capability → ¬ type.AnswersTo reference) :
    (fillRules table types).row? reference capability = table.row? reference capability := by
  -- Along with the row it has to be carried that no rule has come to be missing.
  refine (fillRules_induction (motive := fun filled =>
    filled.row? reference capability = table.row? reference capability ∧
      ∀ name, filled.row? (.named name) capability = none →
        table.row? (.named name) capability = none) ⟨rfl, fun _ empty => empty⟩ ?_).1
  intro filled type member filed enabled missing kept
  refine ⟨?_, fun name empty => kept.2 name (row?_eq_none_of_insert empty)⟩
  rw [row?_insert_of_not, kept.1]
  rintro rfl
  exact spared type member ⟨enabled, kept.2 type.name missing⟩

/-- A type that lacks a rule gets its default, under its name and under its tag. -/
theorem row?_fillRules_of_lacks {type : TypeInfo} (member : type ∈ types)
    (lacks : Lacks table type capability)
    (alike : ∀ other ∈ types, Lacks table other capability →
      (∃ shared, type.AnswersTo shared ∧ other.AnswersTo shared) →
        other.name = type.name ∧ other.tag = type.tag)
    {reference : Reference} (answers : type.AnswersTo reference) :
    (fillRules table types).row? reference capability =
      some (defaultRule type capability) := by
  -- Until the row of the name is filled nothing is said, and once it is all rows of the type are.
  refine Or.resolve_left (fillRules_induction (motive := fun filled =>
    (filled.row? (.named type.name) capability = none ∨
      filled.row? reference capability = some (defaultRule type capability)) ∧
        ∀ name, filled.row? (.named name) capability = none →
          table.row? (.named name) capability = none)
    ⟨Or.inl lacks.2, fun _ empty => empty⟩ ?_).1 ?_
  · intro filled other otherMember filed enabled missing kept
    refine ⟨?_, fun name empty => kept.2 name (row?_eq_none_of_insert empty)⟩
    by_cases same : capability = filed
    · obtain rfl := same
      have otherLacks : Lacks table other capability := ⟨enabled, kept.2 other.name missing⟩
      by_cases otherAnswers : other.AnswersTo reference
      · obtain ⟨name, -⟩ := alike other otherMember otherLacks ⟨reference, answers, otherAnswers⟩
        refine Or.inr ?_
        rw [row?_insert, if_pos ⟨otherAnswers, rfl⟩, defaultRule_congr name]
      · have apart : ¬ other.AnswersTo (.named type.name) := by
          intro named
          obtain ⟨name, tag⟩ :=
            alike other otherMember otherLacks ⟨.named type.name, rfl, named⟩
          exact otherAnswers ((answersTo_congr name tag reference).mpr answers)
        rw [row?_insert_of_not _ _ fun _ => apart, row?_insert_of_not _ _ fun _ => otherAnswers]
        exact kept.1
    · rw [row?_insert_of_not _ _ fun equal => absurd equal same,
        row?_insert_of_not _ _ fun equal => absurd equal same]
      exact kept.1
  · intro empty
    have covered := fillRules_covers table member lacks.1
    rw [empty] at covered
    cases covered

/-! ### The defaults of a draft -/

variable {draft : Draft}

/-- The rules of a draft before defaults are filled in. -/
def filedRules (draft : Draft) : RuleTable :=
  draft.registrations.foldl (fileRule draft.skeleton) draft.ground.rules

/-- The types for which defaults are filled in. -/
def ruledTypes (draft : Draft) : List TypeInfo :=
  draft.skeleton.types ++ draft.skeleton.collectionTypes

theorem sealedRules_eq (draft : Draft) :
    draft.sealedRules = fillRules draft.filedRules draft.ruledTypes := rfl

/-- Filing registrations takes a rule out of no row. -/
theorem filedRules_isSome {reference : Reference}
    (filled : (draft.ground.rules.row? reference capability).isSome = true) :
    (draft.filedRules.row? reference capability).isSome = true :=
  foldl_fileRule_induction
    (motive := fun table => (table.row? reference capability).isSome = true) filled
    fun _ _ _ _ _ kept => row?_insert_isSome kept _ _ _

/-- Of all types in a new model only those that come with the draft can lack a rule. -/
theorem lacks_cases (ground : draft.ground.WellFormed) (covered : draft.ground.Covered)
    {type : TypeInfo} (member : type ∈ draft.skeleton.arena)
    (lacks : Lacks draft.filedRules type capability) :
    (∃ (index : Nat) (decl : TypeDecl) (handle : TypeHandle),
        draft.types.items[index]? = some decl ∧ type = draft.sealType decl handle) ∨
      ∃ handle element name, type = .collectionOf handle element name := by
  obtain ⟨handle, found⟩ := List.getElem?_of_mem member
  cases origin ground found with
  | inherited below =>
    have filled := filedRules_isSome
      (covered type (List.mem_of_getElem? below) capability lacks.1)
    rw [lacks.2] at filled
    cases filled
  | own there place made => exact Or.inl ⟨_, _, _, there, made⟩
  | collection there place made => exact Or.inr ⟨_, _, _, made⟩

/-- Types that lack a rule are told apart by their names and by their tags, or not at all. -/
theorem alike_of_lacks (ground : draft.ground.WellFormed) (covered : draft.ground.Covered)
    (buildable : draft.Buildable) {type other : TypeInfo} (member : type ∈ draft.skeleton.arena)
    (otherMember : other ∈ draft.skeleton.arena) (lacks : Lacks draft.filedRules type capability)
    (otherLacks : Lacks draft.filedRules other capability) {shared : Reference}
    (answers : type.AnswersTo shared) (otherAnswers : other.AnswersTo shared) :
    other.name = type.name ∧ other.tag = type.tag := by
  have sound := wellFormed_skeleton ground buildable.tags
  have apart : ∀ {decl : TypeDecl} {index : Nat}, draft.types.items[index]? = some decl →
      decl.AnswersTo shared → ∀ collection ∈ draft.skeleton.arena,
        collection.isCollection = true → ¬ collection.AnswersTo shared :=
    fun there declAnswers _ collectionMember collection =>
      not_answers_of_collection sound collectionMember collection
        (buildable.names _ (List.mem_of_getElem? there)) declAnswers
  rcases lacks_cases ground covered member lacks with
    ⟨index, decl, handle, there, rfl⟩ | ⟨handle, element, name, rfl⟩ <;>
  rcases lacks_cases ground covered otherMember otherLacks with
    ⟨otherIndex, otherDecl, otherHandle, otherThere, rfl⟩ |
      ⟨otherHandle, otherElement, otherName, rfl⟩
  · rw [answersTo_sealType] at answers otherAnswers
    obtain rfl := buildable.tags.answers_unique there otherThere answers otherAnswers
    obtain rfl := Option.some.inj (there.symm.trans otherThere)
    exact ⟨rfl, rfl⟩
  · rw [answersTo_sealType] at answers
    exact absurd otherAnswers (apart there answers _ otherMember rfl)
  · rw [answersTo_sealType] at otherAnswers
    exact absurd answers (apart otherThere otherAnswers _ member rfl)
  · exact ⟨rfl, rfl⟩

end Draft

end Metamodel
