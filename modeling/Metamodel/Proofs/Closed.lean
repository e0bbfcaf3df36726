/-
No result leaves the model.

Results are found in three ways. Rules speak of types by name or by tag, declared results are kept
as places, and one rule hands back what it was given. Names, tags and places may all come from other
models of the chain, and rules outlive the meaning that their names had when they were registered.
Yet whatever stock rules yield for types of a model is a type of this model and stands at its own
place, and if a rule has settled on it then this is what the model has now for what the rule says.
-/

import Metamodel.Proofs.Dispatch
import Metamodel.Proofs.Stock

namespace Metamodel

namespace Model

/-- Where the result type of a function comes from. -/
inductive ResultSource (model : Model) (name : String) (arguments : List TypeInfo)
    (type : TypeInfo) : Prop
  | rule {rule : FunctionRule} {reference : Reference}
      (ruled : model.functionRule? name = some rule) (held : reference ∈ rule.references)
      (chosen : rule.Chooses arguments reference) (found : model.resolve? reference = some type) :
      ResultSource model name arguments type
  | firstArgument (ruled : model.functionRule? name = some .firstArgument)
      (first : arguments.head? = some type) : ResultSource model name arguments type
  | declared {function : FunctionInfo} (bare : model.functionRule? name = none)
      (found : model.function? name = some function)
      (result : function.result = some type.handle) : ResultSource model name arguments type

section Results

variable [CustomRules]

/-- An operator or a predicate yields what the model has for the choice of the deciding rule. -/
theorem HoldsStock.exists_choice {model : Model} (stock : model.HoldsStock)
    {capability : Capability} {operands : List TypeInfo} {type : TypeInfo}
    (yields : model.capabilityResult capability operands = .ok type) :
    ∃ first rule reference, operands.head? = some first ∧
      model.decidingRule? capability first = some rule ∧ rule.Chooses operands reference ∧
        model.resolve? reference = some type := by
  cases operands with
  | nil => cases yields
  | cons first rest =>
    rw [capabilityResult_cons] at yields
    cases decides : model.decidingRule? capability first with
    | none =>
      rw [decides] at yields
      cases yields
    | some rule =>
      rw [decides] at yields
      have inStock := stock.isStock_of_rule? (Option.filter_eq_some_iff.mp decides).1
      obtain ⟨reference, chosen, found⟩ := (applyOperandRule_eq_ok_iff model inStock).mp yields
      exact ⟨first, rule, reference, rfl, decides, chosen, found⟩

theorem WellFormed.resultSource {model : Model} (sound : model.WellFormed)
    (stock : model.HoldsStock) {name : String} {arguments : List TypeInfo} {type : TypeInfo}
    (yields : model.functionResult name arguments = .ok (some type)) :
    model.ResultSource name arguments type := by
  cases found : model.function? name with
  | none =>
    unfold functionResult at yields
    rw [found] at yields
    cases yields
  | some function =>
    cases ruled : model.functionRule? name with
    | some rule =>
      rw [functionResult_of_rule found ruled, map_eq_ok_iff] at yields
      obtain ⟨_, applied, ⟨⟩⟩ := yields
      obtain ⟨-, ⟨rfl, first⟩ | ⟨reference, chosen, resolved⟩⟩ :=
        (applyFunctionRule_eq_ok_iff model (stock.isStock_of_functionRule? ruled)).mp applied
      · exact .firstArgument ruled first
      · exact .rule ruled chosen.mem_references chosen resolved
    | none =>
      rw [functionResult_of_no_rule found ruled, map_eq_ok_iff] at yields
      obtain ⟨-, -, declared⟩ := yields
      obtain ⟨handle, result, there⟩ := Option.bind_eq_some_iff.mp declared
      exact .declared ruled found (result.trans (congrArg some (sound.handle_eq there).symm))

/-- In every model that is built with stock rules, whatever an operator, a predicate or a function
yields for types of the model is what the model has at the place of the result. Unless it is the type
of the first argument or the declared result type of the function, it is also what the model has for
a name or a tag that the rule holds which produced it. -/
theorem Built.closed {model : Model} (built : model.Built) (stock : model.HoldsStock)
    {operands : List TypeInfo} (inside : ∀ operand ∈ operands, operand ∈ model.arena) :
    (∀ capability type, model.capabilityResult capability operands = .ok type →
        model.typeAt? type.handle = some type ∧
          ∃ first rule reference, operands.head? = some first ∧
            model.decidingRule? capability first = some rule ∧ reference ∈ rule.references ∧
              rule.Chooses operands reference ∧ model.resolve? reference = some type) ∧
      ∀ name type, model.functionResult name operands = .ok (some type) →
        model.typeAt? type.handle = some type ∧ model.ResultSource name operands type := by
  have sound := built.wellFormed
  constructor
  · intro capability type yields
    obtain ⟨first, rule, reference, head, decides, chosen, found⟩ :=
      stock.exists_choice yields
    exact ⟨sound.typeAt?_of_resolve? found, first, rule, reference, head, decides,
      chosen.mem_references, chosen, found⟩
  · intro name type yields
    have source := sound.resultSource stock yields
    refine ⟨?_, source⟩
    cases source with
    | rule _ _ _ found => exact sound.typeAt?_of_resolve? found
    | firstArgument _ first =>
      exact sound.typeAt?_of_mem (inside type (List.mem_of_mem_head? first))
    | @declared function bare found result =>
      -- The result is read off the place, so the type there has just been seen.
      rw [functionResult_of_no_rule found bare, map_eq_ok_iff] at yields
      obtain ⟨-, -, declared⟩ := yields
      rw [result] at declared
      exact declared

end Results

/-- In the shelter the texts of the household are joined to a text of the shelter, which the rule
finds by name, and the keepers of a cage are persons of the household, as declared. -/
theorem Built.closed_shelter :
    Draft.shelter.assemble.Built ∧ Draft.shelter.assemble.HoldsStock ∧
      (∃ text ∈ Draft.shelter.assemble.arena, ∃ joined rule reference,
        text.handle = 2 ∧ joined.handle = 7 ∧
          Draft.shelter.assemble.capabilityResult (.operator .plus) [text, text] = .ok joined ∧
            Draft.shelter.assemble.typeAt? joined.handle = some joined ∧
              Draft.shelter.assemble.decidingRule? (.operator .plus) text = some rule ∧
                reference ∈ rule.references ∧
                  Draft.shelter.assemble.resolve? reference = some joined) ∧
        ∃ cage ∈ Draft.shelter.assemble.arena, ∃ keepers, keepers.handle = 3 ∧
          Draft.shelter.assemble.functionResult "keepers" [cage] = .ok (some keepers) ∧
            Draft.shelter.assemble.typeAt? keepers.handle = some keepers ∧
              Draft.shelter.assemble.ResultSource "keepers" [cage] keepers := by
  have built : Draft.shelter.assemble.Built := .build Draft.grounded_shelter Draft.build_shelter
  have texts : (Draft.shelter.assemble.typeAt? 2).map (fun text => (text.handle,
      (Draft.shelter.assemble.capabilityResult (.operator .plus) [text, text]).toOption.map
        TypeInfo.handle)) = some (2, some 7) := by
    decide +kernel
  have cages : (Draft.shelter.assemble.type? "Cage").bind (fun cage =>
      (Draft.shelter.assemble.functionResult "keepers" [cage]).toOption.join.map
        TypeInfo.handle) = some 3 := by
    decide
  refine ⟨built, holdsStock_shelter, ?_, ?_⟩
  · obtain ⟨text, there, shown⟩ := Option.map_eq_some_iff.mp texts
    obtain ⟨place, yields⟩ := Prod.mk.inj shown
    obtain ⟨joined, yields, joinedPlace⟩ := Option.map_eq_some_iff.mp yields
    have yields := toOption_eq_some_iff.mp yields
    have member : text ∈ Draft.shelter.assemble.arena := List.mem_of_getElem? there
    have inside : ∀ operand ∈ [text, text], operand ∈ Draft.shelter.assemble.arena := by
      simp [member]
    obtain ⟨closed, first, rule, reference, head, decides, held, -, found⟩ :=
      (Built.closed built holdsStock_shelter inside).1 _ _ yields
    obtain rfl := Option.some.inj head
    exact ⟨text, member, joined, rule, reference, place, joinedPlace, yields, closed, decides, held,
      found⟩
  · obtain ⟨cage, found, yields⟩ := Option.bind_eq_some_iff.mp cages
    obtain ⟨keepers, yields, place⟩ := Option.map_eq_some_iff.mp yields
    have yields := toOption_eq_some_iff.mp (Option.join_eq_some_iff.mp yields)
    have member := Draft.mem_arena_of_mem_types (List.mem_append_left _ (mem_types_of_type? found))
    have inside : ∀ operand ∈ [cage], operand ∈ Draft.shelter.assemble.arena := by
      simp [member]
    obtain ⟨closed, source⟩ := (Built.closed built holdsStock_shelter inside).2 _ _ yields
    exact ⟨cage, member, keepers, place, yields, closed, source⟩

end Model

end Metamodel
