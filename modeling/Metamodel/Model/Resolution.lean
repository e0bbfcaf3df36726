/-
What an operator, a predicate or a function yields in a model.

An operator or a predicate is decided by the rule of its first operand. A function is decided by
its own rule or, when it has none, by its declared result type. Rules look their types up in the
model that is asked, which may be a later one than the one they were registered in. What rules that
users brought along make of a model is for them to say.
-/

import Metamodel.Model

namespace Metamodel

/-- Why a result type, or the type of a literal, is not to be had. -/
inductive ResolveError where
  | unknownType (shown : String)
  | unknownFunction (name : String)
  | missingOperand (expected actual : Nat)
  | unsupportedOperand (index : Nat) (actual : TypeInfo) (expected : List String)
  | argumentCount (function : FunctionInfo) (actual : Nat)
  | argumentMismatch (function : FunctionInfo) (argument : ArgumentInfo) (actual : TypeInfo)
  | noCommonType (types : List TypeInfo)
  | invalidLiteral (literal reason : String)

def ResolveError.message : ResolveError → String
  | unknownType shown => "Unknown type: " ++ shown
  | unknownFunction name => "Unknown function: " ++ name
  | missingOperand expected actual =>
    "Expected at least " ++ toString expected ++ " operand(s) but got " ++ toString actual
  | unsupportedOperand index actual expected =>
    "Unsupported operand type '" ++ actual.display ++ "' at position " ++ toString index ++
      ", expected one of " ++ Text.quotedList expected
  | argumentCount function actual =>
    "Function '" ++ function.name ++ "' accepts " ++ function.countDisplay ++
      " argument(s) but got " ++ toString actual
  | argumentMismatch function argument actual =>
    "The argument '" ++ argument.display ++ "' of function '" ++ function.name ++
      "' expects type '" ++ argument.typeName.getD collectionTypeName ++ "' but got '" ++
      actual.display ++ "'"
  | noCommonType types => "No common type for " ++ Text.quotedList (types.map TypeInfo.display)
  | invalidLiteral literal reason => "Invalid literal '" ++ literal ++ "': " ++ reason

/-! ### Arguments -/

/-- Whether an argument takes values of a type: the declared type and no other, any collection if
declared as a collection of nothing in particular, and otherwise anything. -/
def ArgumentInfo.admits (argument : ArgumentInfo) (type : TypeInfo) : Bool :=
  match argument.handle with
  | some handle => handle = type.handle
  | none => !argument.collection || type.isCollection

/-- Check the number of arguments, and then the types of those that are declared. -/
def FunctionInfo.checkArguments (function : FunctionInfo) (arguments : List TypeInfo) :
    Except ResolveError Unit :=
  if function.accepts arguments.length then
    match (function.arguments.zip arguments).find? (fun pair => !pair.1.admits pair.2) with
    | some (argument, actual) => .error (.argumentMismatch function argument actual)
    | none => .ok ()
  else .error (.argumentCount function arguments.length)

/-! ### Rules -/

/-- What the rules of the users' own yield. -/
class CustomRules where
  operandResult : CustomRule → Model → List TypeInfo → Except ResolveError TypeInfo
  functionResult : CustomRule → Model → FunctionInfo → List TypeInfo → Except ResolveError TypeInfo

/-- Unless users say what their rules yield, it is nothing. -/
instance (priority := low) : CustomRules where
  operandResult rule _ _ := .error (.unknownType rule.text)
  functionResult rule _ _ _ := .error (.unknownType rule.text)

namespace Model

/-- The type that a rule names. -/
def lookup (model : Model) (target : Reference) : Except ResolveError TypeInfo :=
  match model.resolve? target with
  | some type => .ok type
  | none => .error (.unknownType target.display)

/-- Check that every operand has one of the types supported at its place, by name. -/
def checkSupported (supported : Nat → List String) (operands : List TypeInfo) :
    Except ResolveError Unit :=
  match operands.zipIdx.find? (fun (operand, index) => !(supported index).contains operand.name) with
  | some (operand, index) => .error (.unsupportedOperand index operand (supported index))
  | none => .ok ()

/-- The type of the widest operand, as a list of names from the widest to the narrowest orders them;
with no operands, the widest type of the list. -/
def widest (model : Model) (precedence : List String) (operands : List TypeInfo) :
    Except ResolveError TypeInfo := do
  checkSupported (fun _ => precedence) operands
  let places := operands.map (fun operand => precedence.idxOf operand.name)
  match precedence[places.min?.getD 0]? with
  | some name => model.lookup (.named name)
  | none => .error (.noCommonType [])

variable [CustomRules]

def applyOperandRule (model : Model) (rule : OperandRule) (operands : List TypeInfo) :
    Except ResolveError TypeInfo :=
  match rule with
  | .fixed target => model.lookup target
  | .restricted result supported => do
    checkSupported (fun _ => supported) operands
    model.lookup result
  | .operandRestricted result supported => do
    checkSupported (fun index => supported.getD index []) operands
    model.lookup result
  | .widest precedence => model.widest precedence operands
  | .custom rule => CustomRules.operandResult rule model operands

/-- The stock rules for functions check the arguments first. -/
def applyFunctionRule (model : Model) (rule : FunctionRule) (function : FunctionInfo)
    (arguments : List TypeInfo) : Except ResolveError TypeInfo :=
  match rule with
  | .fixed target => do
    function.checkArguments arguments
    model.lookup target
  | .widest precedence => do
    function.checkArguments arguments
    model.widest precedence arguments
  | .firstArgument => do
    function.checkArguments arguments
    match arguments with
    | first :: _ => .ok first
    | [] => .error (.missingOperand 1 0)
  | .custom rule => CustomRules.functionResult rule model function arguments

/-! ### Results -/

/-- The type that an operator or a predicate yields on operands, by the rule of the first one. A
type that does not enable the capability has no say, whatever is filed under its name. -/
def capabilityResult (model : Model) (capability : Capability) (operands : List TypeInfo) :
    Except ResolveError TypeInfo :=
  match operands with
  | [] => .error (.missingOperand 1 0)
  | first :: _ =>
    match (model.rule? first.name capability).filter (fun _ => first.enables capability) with
    | some rule => model.applyOperandRule rule operands
    | none => .error (.unsupportedOperand 0 first [])

/-- The type that a function yields on arguments; none if the function does not declare one. -/
def functionResult (model : Model) (name : String) (arguments : List TypeInfo) :
    Except ResolveError (Option TypeInfo) :=
  match model.function? name with
  | none => .error (.unknownFunction name)
  | some function =>
    match model.functionRule? name with
    | some rule => (model.applyFunctionRule rule function arguments).map some
    | none => do
      function.checkArguments arguments
      return function.result.bind model.typeAt?

end Model

end Metamodel
