/-
What a rule settles on.

A stock rule looks at the names of its operands. If it accepts them it settles on one of the types
it knows by name or by tag, and this choice is the same in every model. Only then is the model asked
for the type. The one rule that does without the model is the rule that hands back the type of the
first argument. Nothing of this need be so for rules of the users' own.
-/

import Metamodel.Model.Resolution

namespace Metamodel

/-! ### Choices -/

/-- Every operand has one of the names supported at its place. -/
def Supported (supported : Nat → List String) (operands : List TypeInfo) : Prop :=
  ∀ index operand, operands[index]? = some operand → operand.name ∈ supported index

/-- A name stands where the first of the operands stands in a list of names, or at its beginning if
there are no operands. -/
def Leads (precedence : List String) (operands : List TypeInfo) (name : String) : Prop :=
  precedence[((operands.map fun operand => precedence.idxOf operand.name).min?).getD 0]? = some name

/-- A stock rule accepts its operands and settles on a reference. -/
inductive OperandRule.Chooses (operands : List TypeInfo) : OperandRule → Reference → Prop
  | fixed {target : Reference} : Chooses operands (.fixed target) target
  | restricted {result : Reference} {names : List String}
      (supported : Supported (fun _ => names) operands) :
      Chooses operands (.restricted result names) result
  | operandRestricted {result : Reference} {names : List (List String)}
      (supported : Supported (fun index => names.getD index []) operands) :
      Chooses operands (.operandRestricted result names) result
  | widest {precedence : List String} {name : String}
      (supported : Supported (fun _ => precedence) operands)
      (leads : Leads precedence operands name) :
      Chooses operands (.widest precedence) (.named name)

/-- A stock rule for functions accepts the arguments and settles on a reference. -/
inductive FunctionRule.Chooses (arguments : List TypeInfo) : FunctionRule → Reference → Prop
  | fixed {target : Reference} : Chooses arguments (.fixed target) target
  | widest {precedence : List String} {name : String}
      (supported : Supported (fun _ => precedence) arguments)
      (leads : Leads precedence arguments name) :
      Chooses arguments (.widest precedence) (.named name)

/-- The types that a stock rule may settle on. -/
def OperandRule.references : OperandRule → List Reference
  | .fixed target => [target]
  | .restricted result _ => [result]
  | .operandRestricted result _ => [result]
  | .widest precedence => precedence.map .named
  | .custom _ => []

/-- The types that a stock rule for functions may settle on. -/
def FunctionRule.references : FunctionRule → List Reference
  | .fixed target => [target]
  | .widest precedence => precedence.map .named
  | .firstArgument | .custom _ => []

theorem OperandRule.Chooses.mem_references {rule : OperandRule} {operands : List TypeInfo}
    {reference : Reference} (chosen : rule.Chooses operands reference) :
    reference ∈ rule.references := by
  cases chosen with
  | fixed => exact List.mem_singleton_self _
  | restricted => exact List.mem_singleton_self _
  | operandRestricted => exact List.mem_singleton_self _
  | widest supported leads => exact List.mem_map_of_mem (List.mem_of_getElem? leads)

theorem FunctionRule.Chooses.mem_references {rule : FunctionRule} {arguments : List TypeInfo}
    {reference : Reference} (chosen : rule.Chooses arguments reference) :
    reference ∈ rule.references := by
  cases chosen with
  | fixed => exact List.mem_singleton_self _
  | widest supported leads => exact List.mem_map_of_mem (List.mem_of_getElem? leads)

namespace Model

/-! ### What rules yield -/

theorem checkSupported_eq_ok_iff (supported : Nat → List String) (operands : List TypeInfo) :
    checkSupported supported operands = .ok () ↔ Supported supported operands := by
  unfold checkSupported
  split
  · next operand index refused =>
    refine ⟨fun accepted => (nomatch accepted), fun named => ?_⟩
    have there := List.mem_zipIdx_iff_getElem?.mp (List.mem_of_find?_eq_some refused)
    have foreign := List.find?_some refused
    simp [named index operand there] at foreign
  · next passed =>
    refine ⟨fun _ index operand there => ?_, fun _ => rfl⟩
    have accepted := List.find?_eq_none.mp passed (operand, index)
      (List.mem_zipIdx_iff_getElem?.mpr there)
    simpa using accepted

theorem lookup_eq_ok_iff (model : Model) (target : Reference) (type : TypeInfo) :
    model.lookup target = .ok type ↔ model.resolve? target = some type := by
  unfold lookup
  cases model.resolve? target <;> simp

theorem map_eq_ok_iff {fault α β : Type} {f : α → β} {result : Except fault α} {value : β} :
    result.map f = .ok value ↔ ∃ given, result = .ok given ∧ f given = value := by
  cases result <;> simp [Except.map]

theorem toOption_eq_some_iff {fault α : Type} {result : Except fault α} {value : α} :
    result.toOption = some value ↔ result = .ok value := by
  cases result <;> simp [Except.toOption]

variable (model : Model)

/-- What comes after a check comes of it if the check is passed. -/
theorem check_bind_eq_ok_iff {fault α : Type} {check : Except fault Unit}
    {next : Unit → Except fault α} {value : α} :
    (check >>= next) = .ok value ↔ check = .ok () ∧ next () = .ok value := by
  cases check with
  | error fault => exact ⟨fun yields => (nomatch yields), fun both => (nomatch both.1)⟩
  | ok => exact ⟨fun yields => ⟨rfl, yields⟩, fun both => both.2⟩

theorem widest_eq_ok_iff {precedence : List String} {operands : List TypeInfo} {type : TypeInfo} :
    model.widest precedence operands = .ok type ↔
      Supported (fun _ => precedence) operands ∧
        ∃ name, Leads precedence operands name ∧ model.resolve? (.named name) = some type := by
  unfold widest
  rw [check_bind_eq_ok_iff, checkSupported_eq_ok_iff]
  refine and_congr_right fun _ => ?_
  unfold Leads
  dsimp only
  split
  · next name leads =>
    rw [lookup_eq_ok_iff, leads]
    constructor
    · intro resolved
      exact ⟨name, rfl, resolved⟩
    · rintro ⟨_, ⟨⟩, resolved⟩
      exact resolved
  · next nothing =>
    rw [nothing]
    exact ⟨fun yields => (nomatch yields), fun ⟨_, leads, _⟩ => (nomatch leads)⟩

variable [CustomRules]

/-- A stock rule yields the type that the model has for its choice. -/
theorem applyOperandRule_eq_ok_iff {rule : OperandRule} (stock : rule.isStock = true)
    {operands : List TypeInfo} {type : TypeInfo} :
    model.applyOperandRule rule operands = .ok type ↔
      ∃ reference, rule.Chooses operands reference ∧ model.resolve? reference = some type := by
  constructor
  · intro yields
    cases rule with
    | fixed target => exact ⟨target, .fixed, (lookup_eq_ok_iff model target type).mp yields⟩
    | restricted result names =>
      obtain ⟨passed, found⟩ := check_bind_eq_ok_iff.mp yields
      exact ⟨result, .restricted ((checkSupported_eq_ok_iff _ _).mp passed),
        (lookup_eq_ok_iff model result type).mp found⟩
    | operandRestricted result names =>
      obtain ⟨passed, found⟩ := check_bind_eq_ok_iff.mp yields
      exact ⟨result, .operandRestricted ((checkSupported_eq_ok_iff _ _).mp passed),
        (lookup_eq_ok_iff model result type).mp found⟩
    | widest precedence =>
      obtain ⟨supported, name, leads, resolved⟩ := (widest_eq_ok_iff model).mp yields
      exact ⟨.named name, .widest supported leads, resolved⟩
    | custom rule => cases stock
  · rintro ⟨reference, chosen, resolved⟩
    have found := (lookup_eq_ok_iff model reference type).mpr resolved
    cases chosen with
    | fixed => exact found
    | restricted supported =>
      exact check_bind_eq_ok_iff.mpr ⟨(checkSupported_eq_ok_iff _ _).mpr supported, found⟩
    | operandRestricted supported =>
      exact check_bind_eq_ok_iff.mpr ⟨(checkSupported_eq_ok_iff _ _).mpr supported, found⟩
    | widest supported leads =>
      exact (widest_eq_ok_iff model).mpr ⟨supported, _, leads, resolved⟩

/-- A stock rule for functions yields the type that the model has for its choice, or else the type
of the first argument, and in either case the arguments are in order. -/
theorem applyFunctionRule_eq_ok_iff {rule : FunctionRule} (stock : rule.isStock = true)
    {function : FunctionInfo} {arguments : List TypeInfo} {type : TypeInfo} :
    model.applyFunctionRule rule function arguments = .ok type ↔
      function.checkArguments arguments = .ok () ∧
        ((rule = .firstArgument ∧ arguments.head? = some type) ∨
          ∃ reference, rule.Chooses arguments reference ∧
            model.resolve? reference = some type) := by
  cases rule with
  | fixed target =>
    refine check_bind_eq_ok_iff.trans (and_congr_right fun _ => ?_)
    rw [lookup_eq_ok_iff]
    constructor
    · intro resolved
      exact Or.inr ⟨target, .fixed, resolved⟩
    · rintro (⟨⟨⟩, -⟩ | ⟨_, ⟨⟩, resolved⟩)
      exact resolved
  | widest precedence =>
    refine check_bind_eq_ok_iff.trans (and_congr_right fun _ => ?_)
    rw [widest_eq_ok_iff]
    constructor
    · rintro ⟨supported, name, leads, resolved⟩
      exact Or.inr ⟨.named name, .widest supported leads, resolved⟩
    · rintro (⟨⟨⟩, -⟩ | ⟨_, chosen, resolved⟩)
      cases chosen with
      | widest supported leads => exact ⟨supported, _, leads, resolved⟩
  | firstArgument =>
    refine check_bind_eq_ok_iff.trans (and_congr_right fun _ => ?_)
    have unchosen {reference : Reference} :
        ¬ FunctionRule.Chooses arguments .firstArgument reference := fun chosen => nomatch chosen
    cases arguments with
    | nil => simp [unchosen]
    | cons first rest => simp [unchosen]
  | custom rule => cases stock

/-- A stock rule for functions has nothing to say to arguments that are not in order. -/
theorem applyFunctionRule_of_checkArguments {rule : FunctionRule} (stock : rule.isStock = true)
    {function : FunctionInfo} {arguments : List TypeInfo} {error : ResolveError}
    (refused : function.checkArguments arguments = .error error) :
    model.applyFunctionRule rule function arguments = .error error := by
  unfold applyFunctionRule
  rw [refused]
  cases rule with
  | custom rule => cases stock
  | fixed | widest | firstArgument => rfl

/-! ### What functions yield -/

section Functions

variable {model} {name : String} {function : FunctionInfo}
  (found : model.function? name = some function)
include found

/-- What a function yields is up to its rule. -/
theorem functionResult_of_rule {rule : FunctionRule}
    (ruled : model.functionRule? name = some rule) (arguments : List TypeInfo) :
    model.functionResult name arguments =
      (model.applyFunctionRule rule function arguments).map some := by
  simp only [functionResult, found, ruled]

/-- Without a rule, what a function yields is up to its declaration. -/
theorem functionResult_of_no_rule (bare : model.functionRule? name = none)
    (arguments : List TypeInfo) :
    model.functionResult name arguments = (function.checkArguments arguments).map fun _ =>
      function.result.bind model.typeAt? := by
  simp only [functionResult, found, bare]
  cases function.checkArguments arguments with
  | error fault => rfl
  | ok => rfl

end Functions

end Model

end Metamodel
