/-
Models without rules of the users' own.

What a user's own rule does is for the user to say, so whatever depends on how rules settle on types
can only be said of stock rules. A model holds no others if no layer of it registered any: a rule of
a new model is a rule of the model below, or was registered, or is a default, and defaults are in
stock.
-/

import Metamodel.Proofs.Functions
import Metamodel.Proofs.RuleRows

namespace Metamodel

open RuleTable

/-- All rules of the model are stock rules. -/
structure Model.HoldsStock (model : Model) : Prop where
  operands : ∀ reference capability rule, model.rules.row? reference capability = some rule →
    rule.isStock = true
  functions : ∀ entry ∈ model.functionRules.toList, entry.2.isStock = true

/-- All rules that the draft registers are stock rules. -/
structure Draft.RegistersStock (draft : Draft) : Prop where
  operands : ∀ registration ∈ draft.registrations, registration.rule.isStock = true
  functions : ∀ entry ∈ draft.functionRules.items, entry.2.isStock = true

namespace Draft

variable {draft : Draft}

theorem isStock_defaultRule (type : TypeInfo) (capability : Capability) :
    (defaultRule type capability).isStock = true := by
  cases capability <;> rfl

/-- Filing a stock rule leaves only stock rules where there were no others. -/
theorem isStock_insert {table : RuleTable}
    (stock : ∀ reference capability rule, table.row? reference capability = some rule →
      rule.isStock = true)
    (type : TypeInfo) (capability : Capability) {rule : OperandRule} (filed : rule.isStock = true) :
    ∀ reference wanted other,
      (table.insert type capability rule).row? reference wanted = some other →
        other.isStock = true := by
  intro reference wanted other found
  rw [row?_insert] at found
  split at found
  · cases found
    exact filed
  · exact stock reference wanted other found

/-- One build without rules of the users' own brings none into the model. -/
theorem holdsStock_assemble (below : draft.ground.HoldsStock) (registers : draft.RegistersStock) :
    draft.assemble.HoldsStock where
  operands := by
    refine fillRules_induction (motive := fun table => ∀ reference capability rule,
      table.row? reference capability = some rule → rule.isStock = true) ?_
      fun table type _ capability _ _ stock =>
        isStock_insert stock type capability (isStock_defaultRule type capability)
    exact foldl_fileRule_induction (motive := fun table => ∀ reference capability rule,
      table.row? reference capability = some rule → rule.isStock = true) below.operands
      fun table registration member type _ stock =>
        isStock_insert stock type registration.capability (registers.operands registration member)
  functions entry member := by
    rcases List.mem_append.mp (NameTable.mem_of_mem_ofList member) with inherited | own
    · exact below.functions entry inherited
    · exact registers.functions entry own

end Draft

namespace Model

theorem holdsStock_empty : HoldsStock empty where
  operands reference _ _ found := by cases reference <;> cases found
  functions _ member := nomatch member

/-- Layers that register stock rules only make a model that holds no others. -/
theorem Layers.holdsStock {model : Model} {drafts : List Draft} (layers : model.Layers drafts)
    (registers : ∀ draft ∈ drafts, draft.RegistersStock) : model.HoldsStock := by
  refine layers.invariant (motive := fun drafts model =>
    (∀ draft ∈ drafts, draft.RegistersStock) → model.HoldsStock) (fun _ => holdsStock_empty) ?_
    registers
  intro draft drafts _ _ below registers
  exact Draft.holdsStock_assemble
    (below fun other member => registers other (List.mem_cons_of_mem draft member))
    (registers draft List.mem_cons_self)

theorem layers_shelter :
    Draft.shelter.assemble.Layers [Draft.shelter, Draft.household] :=
  .upon (.alone rfl Draft.build_household) rfl Draft.build_shelter

theorem holdsStock_shelter : Draft.shelter.assemble.HoldsStock := by
  refine layers_shelter.holdsStock fun draft listed => ?_
  rcases List.mem_pair.mp listed with rfl | rfl
  · exact ⟨by decide, by decide⟩
  · exact ⟨by decide, by decide⟩

variable {model : Model}

theorem HoldsStock.isStock_of_rule? (stock : model.HoldsStock) {name : String}
    {capability : Capability} {rule : OperandRule} (found : model.rule? name capability = some rule) :
    rule.isStock = true :=
  stock.operands (.named name) capability rule found

theorem HoldsStock.isStock_of_functionRule? (stock : model.HoldsStock) {name : String}
    {rule : FunctionRule} (found : model.functionRule? name = some rule) : rule.isStock = true := by
  obtain ⟨entry, there, rfl⟩ := Option.map_eq_some_iff.mp found
  exact stock.functions entry (Keyed.mem_of_find? there)

end Model

end Metamodel
