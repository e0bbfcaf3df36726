/-
When the two indexes of a rule table say the same.

A rule is filed for a type, under its name and under its tag. The two rows keep telling the same as
long as every type that has the name and enables the capability has the tag as well, and the other
way round, in whatever model of the chain it was declared: then no rule goes into one row without
going into the other.

Otherwise they may part. A type that takes over a name takes over the rules filed under it, and its
tag does not. Since a default is filled in only where the row of the name is empty, the tag is then
left without a rule for a capability that the type enables.
-/

import Metamodel.Proofs.Dispatch

namespace Metamodel

namespace Model

/-- Of the types that enable a capability, those that have a name are those that carry a tag. -/
def Couples (model : Model) (name : String) (tag : HostTag) (capability : Capability) : Prop :=
  ∀ type ∈ model.arena, type.enables capability = true → (type.name = name ↔ type.tag = some tag)

end Model

namespace Draft

variable {draft : Draft}

/-- One build keeps the rows of a name and of a tag alike. -/
theorem rows_eq_assemble {name : String} {tag : HostTag} {capability : Capability}
    (coupled : draft.assemble.Couples name tag capability)
    (below : draft.ground.rule? name capability = draft.ground.ruleByTag? tag capability) :
    draft.assemble.rule? name capability = draft.assemble.ruleByTag? tag capability := by
  show draft.sealedRules.row? (.named name) capability =
    draft.sealedRules.row? (.tagged tag) capability
  refine sealedRules_induction (motive := fun table =>
    table.row? (.named name) capability = table.row? (.tagged tag) capability) below ?_
  intro table type filed rule member enabled same
  rw [RuleTable.row?_insert, RuleTable.row?_insert]
  by_cases wanted : capability = filed
  · obtain rfl := wanted
    have alike : type.AnswersTo (.named name) ↔ type.AnswersTo (.tagged tag) :=
      coupled type member enabled
    simp only [alike, same]
  · rw [if_neg fun both => wanted both.2, if_neg fun both => wanted both.2, same]

end Draft

namespace Model

/-- A name and a tag that belong together in all models of a chain have the same rules. -/
theorem Built.rule?_eq_ruleByTag? {model : Model} (built : model.Built) {name : String}
    {tag : HostTag} {capability : Capability} (coupled : model.Couples name tag capability) :
    model.rule? name capability = model.ruleByTag? tag capability := by
  refine built.invariant (motive := fun model => model.Couples name tag capability →
    model.rule? name capability = model.ruleByTag? tag capability) (fun _ => rfl) ?_ coupled
  intro draft _ _ below coupled
  refine Draft.rows_eq_assemble coupled (below fun type member => ?_)
  exact coupled type (draft.ground_begins.subset member)

theorem Built.rule?_eq_ruleByTag?_text :
    Draft.shelter.assemble.Built ∧ Draft.shelter.assemble.Couples "String" .text (.operator .plus) ∧
      Draft.shelter.assemble.rule? "String" (.operator .plus) =
        Draft.shelter.assemble.ruleByTag? .text (.operator .plus) := by
  have built : Draft.shelter.assemble.Built := .build Draft.grounded_shelter Draft.build_shelter
  have coupled : Draft.shelter.assemble.Couples "String" .text (.operator .plus) := by
    unfold Couples
    decide
  exact ⟨built, coupled, Built.rule?_eq_ruleByTag? built coupled⟩

end Model

/-! ### A name taken over by a type with a tag -/

namespace Draft

/-- Amounts that can be added. -/
def ledger : Draft :=
  standalone.declareType (.addAll (.ofBody "Amount" .basic) [.operators [.plus]])

/-- The same amounts, now said to be the decimal numbers of the host program. -/
def statement : Draft :=
  (extending ledger.assemble).declareType
    (.addAll (.ofBody "Amount" .basic) [.tag .decimal, .operators [.plus]])

theorem built_statement : statement.assemble.Built := by
  have below : ledger.assemble.Built :=
    .build (by rintro _ ⟨⟩) (build_of_faults (by decide))
  exact .build (grounded_of_standing rfl below) (build_of_faults (by decide))

end Draft

namespace Model

/-- It is not so that a type that is found by its name and by its tag has the same rules under
both. -/
theorem not_rule?_eq_ruleByTag? :
    ¬ ∀ model : Model, model.Built → ∀ type ∈ model.types, ∀ tag, type.tag = some tag →
      model.typeByTag? tag = some type → ∀ capability,
        model.rule? type.name capability = model.ruleByTag? tag capability := by
  intro agree
  have shown : (Draft.statement.assemble.typeByTag? .decimal).map (fun type =>
      (type.name, type.tag)) = some ("Amount", some .decimal) := by
    decide
  have together : Draft.statement.assemble.handle? (.named "Amount") =
      Draft.statement.assemble.handle? (.tagged .decimal) := by
    decide
  have apart : Draft.statement.assemble.rule? "Amount" (.operator .plus) =
        some (.fixed (.named "Amount")) ∧
      Draft.statement.assemble.ruleByTag? .decimal (.operator .plus) = none := by
    decide
  obtain ⟨amount, found, same⟩ := Option.map_eq_some_iff.mp shown
  obtain ⟨name, tag⟩ := Prod.mk.inj same
  have named : Draft.statement.assemble.type? "Amount" = some amount :=
    (congrArg (·.bind Draft.statement.assemble.typeAt?) together).trans found
  have alike := agree _ Draft.built_statement amount (mem_types_of_type? named) .decimal tag found
    (.operator .plus)
  rw [name, apart.1, apart.2] at alike
  cases alike

end Model

end Metamodel
