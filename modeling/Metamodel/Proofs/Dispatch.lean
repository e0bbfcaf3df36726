/-
An operator or a predicate that a type enables can always be decided.

What decides is the rule that is filed under the name of the first operand, and there is nothing to
fall back on if the row is empty. Defaults are filled in for the types that have a name in the new
model and for the collections. A type of the model below of which the name was given away is no
longer among them, and neither is the name's new owner obliged to enable what the old one did. The
old type can decide because its row was filled when it was new, and rows are never emptied. So this
is a property of the whole chain of models and cannot be seen from the last one.
-/

import Metamodel.Proofs.Binding
import Metamodel.Proofs.Choosing
import Metamodel.Proofs.Layers
import Metamodel.Proofs.RuleRows

namespace Metamodel

namespace Model

/-- The rule that decides a capability for a first operand. -/
def decidingRule? (model : Model) (capability : Capability) (first : TypeInfo) :
    Option OperandRule :=
  (model.rule? first.name capability).filter fun _ => first.enables capability

/-- What an operator or a predicate yields is up to the deciding rule; without one the first operand
is not supported. -/
theorem capabilityResult_cons [CustomRules] (model : Model) (capability : Capability)
    (first : TypeInfo) (rest : List TypeInfo) :
    model.capabilityResult capability (first :: rest) =
      match model.decidingRule? capability first with
      | some rule => model.applyOperandRule rule (first :: rest)
      | none => .error (.unsupportedOperand 0 first []) := rfl

/-- A rule that is filed under the name of the first operand decides what the operand enables. -/
theorem capabilityResult_of_rule? [CustomRules] {model : Model} {capability : Capability}
    {first : TypeInfo} {rule : OperandRule} (filed : model.rule? first.name capability = some rule)
    (enabled : first.enables capability = true) (rest : List TypeInfo) :
    model.capabilityResult capability (first :: rest) =
      model.applyOperandRule rule (first :: rest) := by
  have decides : model.decidingRule? capability first = some rule := by
    unfold decidingRule?
    rw [filed]
    exact if_pos enabled
  rw [capabilityResult_cons, decides]

/-- Every type has a rule for each capability that it enables. -/
def Covered (model : Model) : Prop :=
  ∀ type ∈ model.arena, ∀ capability, type.enables capability = true →
    (model.rules.row? (.named type.name) capability).isSome = true

theorem mem_types_of_type? {model : Model} {name : String} {type : TypeInfo}
    (found : model.type? name = some type) : type ∈ model.types := by
  obtain ⟨handle, listed, there⟩ := Option.bind_eq_some_iff.mp found
  have member := (Table.get?_eq_some_iff model.named).mp listed
  exact List.mem_filterMap.mpr ⟨handle, List.mem_map_of_mem member, there⟩

/-- A type with a name of its own is what the name finds. -/
theorem WellFormed.type?_of_mem_types {model : Model} (sound : model.WellFormed) {type : TypeInfo}
    (member : type ∈ model.types) : model.type? type.name = some type := by
  obtain ⟨handle, listed, there⟩ := List.mem_filterMap.mp member
  obtain ⟨name, found⟩ := Table.get?_of_mem_values model.named listed
  obtain ⟨other, otherThere, rfl, -⟩ := sound.named found
  obtain rfl := Option.some.inj (there.symm.trans otherThere)
  exact Option.bind_eq_some_iff.mpr ⟨handle, found, there⟩

theorem mem_collectionTypes_of_handle? {model : Model} {element handle : TypeHandle}
    {type : TypeInfo} (listed : model.collectionHandle? element = some handle)
    (there : model.typeAt? handle = some type) : type ∈ model.collectionTypes := by
  have member := (Table.get?_eq_some_iff model.collections).mp listed
  exact List.mem_filterMap.mpr ⟨handle, List.mem_map_of_mem member, there⟩

end Model

namespace Draft

variable {draft : Draft}

/-- One build keeps types and their rules together. -/
theorem covered_assemble (ground : draft.ground.WellFormed) (unique : draft.UniqueTags)
    (below : draft.ground.Covered) : draft.assemble.Covered := by
  intro type member capability enabled
  show (draft.sealedRules.row? _ _).isSome = true
  obtain ⟨handle, found⟩ := List.getElem?_of_mem member
  have filled : type ∈ draft.skeleton.types ++ draft.skeleton.collectionTypes →
      (draft.sealedRules.row? (.named type.name) capability).isSome = true :=
    fun listed => fillRules_covers _ listed enabled
  cases origin ground found with
  | inherited there =>
    exact sealedRules_isSome (below type (List.mem_of_getElem? there) capability enabled)
  | own there place made =>
    refine filled (List.mem_append_left _ ?_)
    rw [made, place]
    exact Model.mem_types_of_type? (type?_own unique there)
  | collection there place made =>
    refine filled (List.mem_append_right _ ?_)
    have bound := (List.getElem?_eq_some_iff.mp there).1
    rw [place] at found
    exact Model.mem_collectionTypes_of_handle? (collectionHandle?_own ground bound) found

end Draft

namespace Model

theorem covered_empty : Covered empty := fun _ member => nomatch member

theorem Built.covered {model : Model} (built : model.Built) : model.Covered :=
  built.invariant covered_empty fun _ grounded buildable below =>
    Draft.covered_assemble grounded.wellFormed buildable.tags below

end Model

theorem Draft.Grounded.covered {draft : Draft} (grounded : draft.Grounded) :
    draft.ground.Covered := by
  rcases grounded.ground_cases with empty | built
  · rw [empty]
    exact Model.covered_empty
  · exact built.covered

namespace Model

/-- In every model that is ever built, whatever type stands first among the operands, there is a
rule to decide exactly the capabilities that the type enables. With the others the operand is
refused. -/
theorem Built.decides_enabled [CustomRules] {model : Model} (built : model.Built)
    {type : TypeInfo} (member : type ∈ model.arena) (capability : Capability) :
    ((∃ rule, model.decidingRule? capability type = some rule) ↔
        type.enables capability = true) ∧
      (type.enables capability = true → ∃ rule, model.rule? type.name capability = some rule ∧
        ∀ rest, model.capabilityResult capability (type :: rest) =
          model.applyOperandRule rule (type :: rest)) ∧
      (type.enables capability = false → ∀ rest,
        model.capabilityResult capability (type :: rest) =
          .error (.unsupportedOperand 0 type [])) := by
  have decides : type.enables capability = true → ∃ rule,
      model.rule? type.name capability = some rule ∧
        model.decidingRule? capability type = some rule := by
    intro enabled
    obtain ⟨rule, filed⟩ := Option.isSome_iff_exists.mp
      (built.covered type member capability enabled)
    have known : model.rule? type.name capability = some rule := filed
    refine ⟨rule, known, ?_⟩
    unfold decidingRule?
    rw [known]
    exact if_pos enabled
  refine ⟨⟨?_, ?_⟩, ?_, ?_⟩
  · intro ⟨rule, deciding⟩
    exact (Option.filter_eq_some_iff.mp deciding).2
  · intro enabled
    obtain ⟨rule, -, deciding⟩ := decides enabled
    exact ⟨rule, deciding⟩
  · intro enabled
    obtain ⟨rule, known, deciding⟩ := decides enabled
    refine ⟨rule, known, fun rest => ?_⟩
    rw [capabilityResult_cons, deciding]
  · intro disabled rest
    have undecided : model.decidingRule? capability type = none :=
      Option.filter_eq_none_iff.mpr fun rule _ => by rw [disabled]; exact Bool.false_ne_true
    rw [capabilityResult_cons, undecided]

/-- The texts of the household were given another owner for their name, and still can be joined. -/
theorem Built.decides_enabled_text :
    Draft.shelter.assemble.Built ∧ ∃ text ∈ Draft.shelter.assemble.arena,
      text.enables (.operator .plus) = true ∧
        Draft.shelter.assemble.type? text.name ≠ some text ∧
          ∃ rule, Draft.shelter.assemble.decidingRule? (.operator .plus) text = some rule := by
  have built : Draft.shelter.assemble.Built := .build Draft.grounded_shelter Draft.build_shelter
  have old : (Draft.shelter.assemble.typeAt? 2).map (fun type =>
      (type.name, type.handle, type.enables (.operator .plus))) = some ("String", 2, true) := by
    decide
  have new : (Draft.shelter.assemble.type? "String").map TypeInfo.handle = some 7 := by
    decide
  obtain ⟨text, there, shown⟩ := Option.map_eq_some_iff.mp old
  obtain ⟨name, handle, enabled⟩ : text.name = "String" ∧ text.handle = 2 ∧
      text.enables (.operator .plus) = true := by simpa using shown
  have member : text ∈ Draft.shelter.assemble.arena := List.mem_of_getElem? there
  refine ⟨built, text, member, enabled, ?_, ?_⟩
  · intro found
    rw [name] at found
    rw [found, Option.map_some, handle] at new
    cases new
  · exact (Built.decides_enabled built member (.operator .plus)).1.mpr enabled

end Model

end Metamodel
