/-
Which of several registrations counts.

Rules are registered among other declarations, in any number and in any order. For a capability of a
target a draft holds the rule that was registered last, and which declarations stood in between does
not show. Rules for functions are kept in the order in which their names first came up. A draft does
not take two spellings of a name for one, however it will compare names in the end.
-/

import Metamodel.Proofs.Declaring

namespace Metamodel

namespace Declaration

/-- The rule that a declaration registers for a capability of a target. -/
def rule? (declaration : Declaration) (target : Reference) (capability : Capability) :
    Option OperandRule :=
  match declaration with
  | .rule registration =>
    if registration.target = target ∧ registration.capability = capability then
      some registration.rule
    else none
  | _ => none

/-- The rule that a declaration registers for a function, under the name as it is spelled there. -/
def functionRule? : Declaration → Option (String × FunctionRule)
  | .functionRule name filed => some (name, filed)
  | _ => none

/-- The rule that is registered last for a capability of a target. -/
def lastRule? (declarations : List Declaration) (target : Reference) (capability : Capability) :
    Option OperandRule :=
  declarations.reverse.findSome? (rule? · target capability)

theorem lastRule?_cons (head : Declaration) (rest : List Declaration) (target : Reference)
    (capability : Capability) :
    lastRule? (head :: rest) target capability =
      (lastRule? rest target capability).or (head.rule? target capability) := by
  unfold lastRule?
  rw [List.reverse_cons, List.findSome?_append, List.findSome?_singleton]

/-- The rules that are registered for functions, in the order of the declarations. -/
def functionRules (declarations : List Declaration) : List (String × FunctionRule) :=
  declarations.filterMap functionRule?

end Declaration

/-! ### Rules for operators and predicates -/

namespace Registrations

variable {α : Type} [DecidableEq α]

theorem getD_addRule {κ : Type} [DecidableEq κ] (table : Table κ (Table α OperandRule))
    (target : κ) (capability : α) (rule : OperandRule) (wanted : κ) :
    ((addRule table target capability rule).get? wanted).getD Keyed.empty =
      if target = wanted then ((table.get? wanted).getD Keyed.empty).set capability rule
      else (table.get? wanted).getD Keyed.empty := by
  unfold addRule
  by_cases same : target = wanted
  · rw [← same, Table.get?_set_self, if_pos rfl]
    rfl
  · rw [Table.get?_set_other _ _ (Ne.symm same), if_neg same]

/-- A registration is added to the rules for its target. -/
theorem under_register (registrations : Registrations α) (target : Reference) (capability : α)
    (rule : OperandRule) (wanted : Reference) :
    (registrations.register target capability rule).under wanted =
      if target = wanted then (registrations.under wanted).set capability rule
      else registrations.under wanted := by
  cases target with
  | named name =>
    cases wanted with
    | tagged tag => rfl
    | named other =>
      simp only [Reference.named.injEq]
      exact getD_addRule registrations.byName name capability rule other
  | tagged tag =>
    cases wanted with
    | named name => rfl
    | tagged other =>
      simp only [Reference.tagged.injEq]
      exact getD_addRule registrations.byTag tag capability rule other

theorem get?_under_register (registrations : Registrations α) (target : Reference)
    (capability : α) (rule : OperandRule) (wanted : Reference) (asked : α) :
    ((registrations.register target capability rule).under wanted).get? asked =
      if target = wanted ∧ capability = asked then some rule
      else (registrations.under wanted).get? asked := by
  rw [under_register]
  by_cases same : target = wanted
  · rw [if_pos same]
    by_cases equal : capability = asked
    · rw [if_pos ⟨same, equal⟩, equal, Table.get?_set_self]
    · rw [if_neg fun both => equal both.2, Table.get?_set_other _ _ (Ne.symm equal)]
  · rw [if_neg same, if_neg fun both => same both.1]

end Registrations

namespace Draft

/-- The rule that the draft holds for a capability of a target. -/
def registered? (draft : Draft) (target : Reference) : Capability → Option OperandRule
  | .operator operator => (draft.operatorRules.under target).get? operator
  | .predicate predicate => (draft.predicateRules.under target).get? predicate

variable {draft : Draft}

theorem registered?_congr {next : Draft} (operators : next.operatorRules = draft.operatorRules)
    (predicates : next.predicateRules = draft.predicateRules) (target : Reference)
    (capability : Capability) :
    next.registered? target capability = draft.registered? target capability := by
  cases capability with
  | operator operator =>
    exact congrArg (fun rules => (rules.under target).get? operator) operators
  | predicate predicate =>
    exact congrArg (fun rules => (rules.under target).get? predicate) predicates

theorem registered?_registerRule (draft : Draft) (registration : Registration)
    (target : Reference) (capability : Capability) :
    (draft.registerRule registration).registered? target capability =
      ((Declaration.rule registration).rule? target capability).or
        (draft.registered? target capability) := by
  obtain ⟨about, filed, rule⟩ := registration
  dsimp only [Declaration.rule?]
  cases filed with
  | operator operator =>
    cases capability with
    | predicate predicate =>
      rw [if_neg (by simp)]
      rfl
    | operator asked =>
      show ((draft.operatorRules.register about operator rule).under target).get? asked = _
      rw [Registrations.get?_under_register]
      simp only [Capability.operator.injEq]
      split <;> rfl
  | predicate predicate =>
    cases capability with
    | operator operator =>
      rw [if_neg (by simp)]
      rfl
    | predicate asked =>
      show ((draft.predicateRules.register about predicate rule).under target).get? asked = _
      rw [Registrations.get?_under_register]
      simp only [Capability.predicate.injEq]
      split <;> rfl

/-- Registrations apart, a declaration leaves all rules as they are. -/
theorem declare_rules {declaration : Declaration} {next : Draft}
    (accepted : draft.declare declaration = .ok next) :
    (∀ target capability, next.registered? target capability =
        (declaration.rule? target capability).or (draft.registered? target capability)) ∧
      next.functionRules =
        Keyed.insertAll draft.functionRules declaration.functionRule?.toList := by
  cases declaration with
  | extension name source clauses =>
    obtain ⟨entity, -, rfl⟩ := declareExtension_eq_ok_iff.mp accepted
    exact ⟨registered?_congr rfl rfl, rfl⟩
  | function name clauses =>
    obtain ⟨decl, -, rfl⟩ := declareFunction_eq_ok_iff.mp accepted
    exact ⟨registered?_congr rfl rfl, rfl⟩
  | wholeFunction decl =>
    obtain ⟨-, rfl⟩ := registerFunction_eq_ok_iff.mp accepted
    exact ⟨registered?_congr rfl rfl, rfl⟩
  | rule registration =>
    cases accepted
    refine ⟨draft.registered?_registerRule registration, ?_⟩
    obtain ⟨target, capability, rule⟩ := registration
    cases capability <;> rfl
  | type | bareType | functionCasing | operators | predicates | functionRule | literals
    | serializer =>
    cases accepted
    exact ⟨registered?_congr rfl rfl, rfl⟩

theorem declareAll_rules {declarations : List Declaration} {last : Draft}
    (accepted : draft.declareAll declarations = .ok last) :
    (∀ target capability, last.registered? target capability =
        (Declaration.lastRule? declarations target capability).or
          (draft.registered? target capability)) ∧
      last.functionRules =
        Keyed.insertAll draft.functionRules (Declaration.functionRules declarations) := by
  induction declarations generalizing draft with
  | nil =>
    cases accepted
    exact ⟨fun _ _ => rfl, rfl⟩
  | cons head rest inductionHypothesis =>
    obtain ⟨next, first, later⟩ := declareAll_cons_eq_ok_iff.mp accepted
    obtain ⟨headRules, headFunctionRules⟩ := declare_rules first
    obtain ⟨restRules, restFunctionRules⟩ := inductionHypothesis later
    constructor
    · intro target capability
      rw [restRules, headRules, Declaration.lastRule?_cons, Option.or_assoc]
    · rw [restFunctionRules, headFunctionRules]
      unfold Declaration.functionRules
      rw [List.filterMap_cons]
      cases head.functionRule? <;> rfl

/-! ### All that was ever said to a draft -/

/-- The draft is what came of some declarations, on a model or on none. -/
def ComesOf (draft : Draft) (declarations : List Declaration) : Prop :=
  (upon draft.base).declareAll declarations = .ok draft

namespace ComesOf

variable {declarations : List Declaration}

/-- What counts is the last registration for the target. -/
theorem registered?_eq (made : draft.ComesOf declarations) (target : Reference)
    (capability : Capability) :
    draft.registered? target capability =
      Declaration.lastRule? declarations target capability := by
  have empty : (upon draft.base).registered? target capability = none := by
    cases draft.base <;> cases target <;> cases capability <;> rfl
  rw [(declareAll_rules made).1, empty, Option.or_none]

/-- The rules for functions are kept by their spelling. -/
theorem functionRules_eq (made : draft.ComesOf declarations) :
    draft.functionRules = Keyed.ofList (Declaration.functionRules declarations) := by
  have empty : (upon draft.base).functionRules = Keyed.empty := by
    cases draft.base <;> rfl
  rw [(declareAll_rules made).2, empty]
  rfl

end ComesOf

end Draft

end Metamodel
