/-
What can be wrong with a draft, and building it: the outcome is either a model or everything that
is wrong.

Faults are looked for in three rounds, and a round is only held if the one before it found nothing:
references that denote nothing and tags claimed twice, then names that count as the same, then rules
registered for what is not there. All faults of a round are reported together, in the order of the
declarations.
-/

import Metamodel.Draft.Assembly

namespace Metamodel

inductive Fault where
  | reservedName (name : String)
  | unknownAttributeType (entity info : String) (type : Reference)
  | unknownArgumentType (function argument : String) (type : Reference)
  | unknownResultType (function : String) (type : Reference)
  | duplicateAttribute (entity first second : String)
  | duplicateValue (enum first second : String)
  | duplicateFunction (first second : String)
  | ambiguousTag (tag : HostTag) (first second : String)
  | unknownFunctionRuleTarget (function : String) (rule : FunctionRule)
  | unknownRuleTarget (registration : Registration)
  /-- A rule for a capability that the type does not enable. -/
  | disabledCapability (type : String) (registration : Registration)
deriving DecidableEq

namespace Fault

def message : Fault → String
  | reservedName name => "The type name '" ++ name ++ "' is reserved for collection types"
  | unknownAttributeType entity info type =>
    "The type " ++ type.display ++ " defined for the attribute '" ++ info ++ "' of entity '" ++
      entity ++ "' is unknown"
  | unknownArgumentType function argument type =>
    "The type " ++ type.display ++ " defined for the argument '" ++ argument ++
      "' of function '" ++ function ++ "' is unknown"
  | unknownResultType function type =>
    "The result type " ++ type.display ++ " defined for the function '" ++ function ++
      "' is unknown"
  | duplicateAttribute entity first second =>
    "Duplicate attribute definition due to case insensitivity in entity '" ++ entity ++ "': [" ++
      first ++ ", " ++ second ++ "]"
  | duplicateValue enum first second =>
    "Duplicate enum value definition due to case insensitivity in enum '" ++ enum ++ "': [" ++
      first ++ ", " ++ second ++ "]"
  | duplicateFunction first second =>
    "Duplicate function definition due to case insensitivity: [" ++ first ++ ", " ++ second ++ "]"
  | ambiguousTag tag first second =>
    "The host type '" ++ tag.id ++ "' is claimed by multiple types: [" ++ first ++ ", " ++
      second ++ "]"
  | unknownFunctionRuleTarget function rule =>
    "A function type resolver was registered but no function with the name '" ++ function ++
      "' was found: " ++ rule.describe
  | unknownRuleTarget ⟨target, capability, rule⟩ =>
    "A " ++ capability.usage ++ " type resolver was registered but no type " ++ target.display ++
      " was found: " ++ rule.describe
  | disabledCapability type ⟨_, capability, rule⟩ =>
    "A " ++ capability.usage ++ " type resolver was registered for a non enabled " ++
      capability.noun ++ " '" ++ capability.name ++ "' on the type '" ++ type ++ "': " ++
      rule.describe

end Fault

namespace Draft

/-! ### References and tags -/

/-- Tags claimed more than once, each against the claim before. -/
def tagFaults (draft : Draft) : List Fault :=
  (Keyed.clashes TypeDecl.tag draft.types.items).filterMap fun (first, second) =>
    second.tag.map fun tag => .ambiguousTag tag first.name second.name

/-- Whether a reference denotes nothing. -/
def isUnknown (draft : Draft) (reference : Reference) : Bool := (draft.denote? reference).isNone

def typeFaults (draft : Draft) (decl : TypeDecl) : List Fault :=
  let reserved := if decl.name = collectionTypeName then [.reservedName decl.name] else []
  let unknown := decl.attributes.filter (fun info => draft.isUnknown info.type)
  reserved ++ unknown.map fun info => .unknownAttributeType decl.name info.name info.type

/-- The argument at an index by its name, or by its position if it has none. -/
def argumentName (argument : ArgumentDecl) (index : Nat) : String :=
  argument.name.getD (positionalName index)

/-- The reference in a slot, if there is one and it denotes nothing. -/
def unknown? (draft : Draft) (type : Option Reference) : Option Reference :=
  type.filter draft.isUnknown

def functionFaults (draft : Draft) (decl : FunctionDecl) : List Fault :=
  let arguments := decl.arguments.zipIdx.filterMap fun (argument, index) =>
    (draft.unknown? argument.type).map fun type =>
      .unknownArgumentType decl.name (argumentName argument index) type
  let result := (draft.unknown? decl.result).map fun type => .unknownResultType decl.name type
  arguments ++ result.toList

/-- The first round. -/
def referenceFaults (draft : Draft) : List Fault :=
  draft.tagFaults ++ draft.types.items.flatMap draft.typeFaults ++
    draft.functions.items.flatMap draft.functionFaults

/-! ### Names that count as the same -/

def memberFaults (decl : TypeDecl) : List Fault :=
  match decl.body with
  | .basic => []
  | .entity entity =>
    (entity.casing.nameClashes (entity.attributes.items.map AttributeDecl.name)).map
      fun (first, second) => .duplicateAttribute decl.name first second
  | .enum enum =>
    (enum.casing.nameClashes (enum.values.items.map ValueDecl.name)).map
      fun (first, second) => .duplicateValue decl.name first second

/-- The functions of the model below may clash too, when the draft compares names otherwise. -/
def functionNameFaults (draft : Draft) : List Fault :=
  (draft.functionCasing.nameClashes (draft.ground.functions.values.map FunctionInfo.name) ++
      draft.functionCasing.nameClashes (draft.functions.items.map FunctionDecl.name)).map
    fun (first, second) => .duplicateFunction first second

/-- The second round. -/
def nameFaults (draft : Draft) : List Fault :=
  draft.types.items.flatMap memberFaults ++ draft.functionNameFaults

/-! ### Rules -/

def functionRuleFaults (draft : Draft) : List Fault :=
  let functions := draft.sealedFunctions
  draft.functionRules.items.filterMap fun (name, rule) =>
    if functions.contains name then none
    else some (.unknownFunctionRuleTarget name rule)

/-- What is wrong with a registration, if anything. -/
def registrationFault? (model : Model) (registration : Registration) : Option Fault :=
  match (typeIndex model).resolve? registration.target with
  | none => some (.unknownRuleTarget registration)
  | some type =>
    if type.enables registration.capability then none
    else some (.disabledCapability type.name registration)

/-- The third round. -/
def ruleFaults (draft : Draft) : List Fault :=
  let model := draft.skeleton
  draft.functionRuleFaults ++ draft.registrations.filterMap (registrationFault? model)

/-! ### All rounds -/

/-- The faults of the first round that finds any. -/
def faults (draft : Draft) : List Fault :=
  if draft.referenceFaults ≠ [] then draft.referenceFaults
  else if draft.nameFaults ≠ [] then draft.nameFaults
  else draft.ruleFaults

end Draft

/-! ### Building -/

/-- Why a draft was not built. -/
structure BuildFailure where
  faults : List Fault
deriving DecidableEq

def BuildFailure.message (failure : BuildFailure) : String :=
  "Couldn't build the domain model because of " ++ toString failure.faults.length ++ " error(s):" ++
    String.join (failure.faults.map fun fault => "\n" ++ fault.message)

/-- The model that a draft describes, if there is nothing wrong with the draft. -/
def Draft.build (draft : Draft) : Except BuildFailure Model :=
  match draft.faults with
  | [] => .ok draft.assemble
  | faults => .error ⟨faults⟩

end Metamodel
