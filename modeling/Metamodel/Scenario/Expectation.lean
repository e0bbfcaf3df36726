/-
What is expected of the outcome of a build.

An expectation lists what should hold: of the model, or of the failure if it speaks of faults at
all. What does not hold is stated as a complaint, and the complaints of an expectation come in a
fixed order, whatever the order in which its parts were written down.
-/

import Metamodel.Draft.Fault
import Metamodel.Model.Resolution

namespace Metamodel

/-- Whether some characters stand next to each other, in their order, among others. -/
def Text.occursAmong (part : List Char) : List Char → Bool
  | [] => part.isEmpty
  | char :: rest => part.isPrefixOf (char :: rest) || occursAmong part rest

def Text.occursIn (part whole : String) : Bool := occursAmong part.toList whole.toList

/-- What comes of building a draft. -/
abbrev Outcome := Except BuildFailure Model

/-- The type that a capability should yield on operands of one type. -/
structure CapabilityCheck (α : Type) where
  type : String
  capability : α
  result : String

structure Expectation where
  types : List String := []
  absentTypes : List String := []
  kinds : List (String × Kind) := []
  tags : List (String × String) := []
  /-- Entity, attribute and the name of its type. -/
  attributes : List (String × String × String) := []
  attributeCounts : List (String × Nat) := []
  enumValues : List (String × List String) := []
  functions : List String := []
  functionResults : List (String × Option String) := []
  signatures : List (String × String) := []
  operations : List (CapabilityCheck Operator) := []
  predicates : List (CapabilityCheck Predicate) := []
  unsupported : List (String × Operator) := []
  /-- The number of faults. -/
  errors : Option Nat := none
  /-- Texts that the failure should contain. -/
  errorFragments : List String := []
  custom : Option (Model → Bool) := none

/-- One part of an expectation. -/
inductive Check where
  | hasType (name : String)
  | lacksType (name : String)
  | kind (name : String) (kind : Kind)
  | tagged (name tag : String)
  | attribute (entity info type : String)
  | attributeCount (entity : String) (count : Nat)
  | enumValues (name : String) (values : List String)
  | hasFunction (name : String)
  /-- The declared result type of a function, or none. -/
  | returns (name : String) (type : Option String)
  | signature (name signature : String)
  | operation (check : CapabilityCheck Operator)
  | predicate (check : CapabilityCheck Predicate)
  | unsupported (type : String) (operator : Operator)
  | errors (count : Nat)
  | errorFragment (fragment : String)
  | custom (test : Model → Bool)

namespace Expectation

/-- The expectation with a part added. There is one number of faults and one test of a kind not
foreseen here; both are replaced when given again. -/
def add (expected : Expectation) : Check → Expectation
  | .hasType name => { expected with types := expected.types ++ [name] }
  | .lacksType name => { expected with absentTypes := expected.absentTypes ++ [name] }
  | .kind name kind => { expected with kinds := expected.kinds ++ [(name, kind)] }
  | .tagged name tag => { expected with tags := expected.tags ++ [(name, tag)] }
  | .attribute entity info type =>
    { expected with attributes := expected.attributes ++ [(entity, info, type)] }
  | .attributeCount entity count =>
    { expected with attributeCounts := expected.attributeCounts ++ [(entity, count)] }
  | .enumValues name values =>
    { expected with enumValues := expected.enumValues ++ [(name, values)] }
  | .hasFunction name => { expected with functions := expected.functions ++ [name] }
  | .returns name type =>
    { expected with functionResults := expected.functionResults ++ [(name, type)] }
  | .signature name signature =>
    { expected with signatures := expected.signatures ++ [(name, signature)] }
  | .operation check => { expected with operations := expected.operations ++ [check] }
  | .predicate check => { expected with predicates := expected.predicates ++ [check] }
  | .unsupported type operator =>
    { expected with unsupported := expected.unsupported ++ [(type, operator)] }
  | .errors count => { expected with errors := some count }
  | .errorFragment fragment =>
    { expected with errorFragments := expected.errorFragments ++ [fragment] }
  | .custom test => { expected with custom := some test }

def ofChecks (checks : List Check) : Expectation := checks.foldl add {}

/-- The build is expected to fail. -/
def expectsFailure (expected : Expectation) : Bool :=
  expected.errors.isSome || !expected.errorFragments.isEmpty

/-- The parts of both; of two numbers of faults, or two tests, the later one counts. -/
def union (first second : Expectation) : Expectation where
  types := first.types ++ second.types
  absentTypes := first.absentTypes ++ second.absentTypes
  kinds := first.kinds ++ second.kinds
  tags := first.tags ++ second.tags
  attributes := first.attributes ++ second.attributes
  attributeCounts := first.attributeCounts ++ second.attributeCounts
  enumValues := first.enumValues ++ second.enumValues
  functions := first.functions ++ second.functions
  functionResults := first.functionResults ++ second.functionResults
  signatures := first.signatures ++ second.signatures
  operations := first.operations ++ second.operations
  predicates := first.predicates ++ second.predicates
  unsupported := first.unsupported ++ second.unsupported
  errors := second.errors.or first.errors
  errorFragments := first.errorFragments ++ second.errorFragments
  custom := second.custom.or first.custom

/-! ### Complaints about a model -/

open Text

/-- A complaint, unless a condition holds. -/
def require (holds : Bool) (complaint : String) : Option String :=
  if holds then none else some complaint

def quotedName (name : String) : String := "'" ++ name ++ "'"

def typeComplaint? (model : Model) (name : String) : Option String :=
  require (model.type? name).isSome ("expected type " ++ quotedName name ++ " to exist")

def absentTypeComplaint? (model : Model) (name : String) : Option String :=
  require (model.type? name).isNone ("expected type " ++ quotedName name ++ " to be absent")

def kindComplaint? (model : Model) (check : String × Kind) : Option String :=
  let actual := (model.type? check.1).map TypeInfo.kind
  require (actual = some check.2)
    ("expected type " ++ quotedName check.1 ++ " to be " ++ check.2.title ++ ", got " ++
      presence (actual.map Kind.title))

def tagComplaint? (model : Model) (check : String × String) : Option String :=
  let actual := (model.type? check.1).bind fun type => type.tag.map HostTag.id
  require (actual = some check.2)
    ("expected type " ++ quotedName check.1 ++ " to be tagged " ++ quotedName check.2 ++
      ", got " ++ presence (actual.map quoted))

def attributeComplaint? (model : Model) (check : String × String × String) : Option String :=
  let (entity, name, wanted) := check
  match model.entityType? entity with
  | none => some ("entity " ++ quotedName entity ++ " not found")
  | some type =>
    let actual := (type.attribute? name).map AttributeInfo.typeName
    require (actual = some wanted)
      ("expected " ++ entity ++ "." ++ name ++ " to have type " ++ quotedName wanted ++
        ", got " ++ presence (actual.map quoted))

def attributeCountComplaint? (model : Model) (check : String × Nat) : Option String :=
  let actual := (model.entityType? check.1).map fun type => type.attributes.length
  require (actual = some check.2)
    ("expected entity " ++ quotedName check.1 ++ " to have " ++ toString check.2 ++
      " attribute(s), got " ++ presence (actual.map toString))

def enumValuesComplaint? (model : Model) (check : String × List String) : Option String :=
  let actual := (model.enumType? check.1).map fun type => type.enumValues.map ValueInfo.name
  require (actual = some check.2)
    ("expected enum " ++ quotedName check.1 ++ " values " ++ quotedList check.2 ++ ", got " ++
      presence (actual.map quotedList))

def functionComplaint? (model : Model) (name : String) : Option String :=
  require (model.function? name).isSome ("expected function " ++ quotedName name ++ " to exist")

def functionResultComplaint? (model : Model) (check : String × Option String) : Option String :=
  match model.function? check.1 with
  | none => some ("function " ++ quotedName check.1 ++ " not found")
  | some function =>
    require (function.resultName = check.2)
      ("expected function " ++ quotedName check.1 ++ " to return " ++
        presence (check.2.map quoted) ++ ", got " ++ presence (function.resultName.map quoted))

def signatureComplaint? (model : Model) (check : String × String) : Option String :=
  let actual := (model.function? check.1).map FunctionInfo.display
  require (actual = some check.2)
    ("expected signature " ++ quotedName check.2 ++ ", got " ++ presence (actual.map quoted))

variable [CustomRules]

/-- What a type yields under a capability: operands of that type, one if the capability is an
operator on one operand and two otherwise. -/
def resultOn (model : Model) (capability : Capability) (type : TypeInfo) :
    Except ResolveError TypeInfo :=
  let single :=
    match capability with
    | .operator operator => operator.isUnary
    | .predicate _ => false
  model.capabilityResult capability (if single then [type] else [type, type])

def missingType (name : String) : String := "type " ++ quotedName name ++ " not found"

def capabilityComplaint? (model : Model) (type : String) (capability : Capability)
    (wanted : String) : Option String :=
  match model.type? type with
  | none => some (missingType type)
  | some operand =>
    match resultOn model capability operand with
    | .error error =>
      some (capability.name ++ " on " ++ quotedName type ++ " failed: " ++ error.message)
    | .ok actual =>
      require (actual.name = wanted)
        ("expected " ++ capability.name ++ " on " ++ quotedName type ++ " to yield " ++
          quotedName wanted ++ ", got " ++ quotedName actual.name)

def unsupportedComplaint? (model : Model) (check : String × Operator) : Option String :=
  match model.type? check.1 with
  | none => some (missingType check.1)
  | some operand =>
    match resultOn model (.operator check.2) operand with
    | .error _ => none
    | .ok _ =>
      some ("expected " ++ check.2.name ++ " on " ++ quotedName check.1 ++ " to be unsupported")

/-- All complaints about a model, in order. -/
def modelComplaints (expected : Expectation) (model : Model) : List String :=
  expected.types.filterMap (typeComplaint? model) ++
    expected.absentTypes.filterMap (absentTypeComplaint? model) ++
    expected.kinds.filterMap (kindComplaint? model) ++
    expected.tags.filterMap (tagComplaint? model) ++
    expected.attributes.filterMap (attributeComplaint? model) ++
    expected.attributeCounts.filterMap (attributeCountComplaint? model) ++
    expected.enumValues.filterMap (enumValuesComplaint? model) ++
    expected.functions.filterMap (functionComplaint? model) ++
    expected.functionResults.filterMap (functionResultComplaint? model) ++
    expected.signatures.filterMap (signatureComplaint? model) ++
    expected.operations.filterMap (fun check =>
      capabilityComplaint? model check.type (.operator check.capability) check.result) ++
    expected.predicates.filterMap (fun check =>
      capabilityComplaint? model check.type (.predicate check.capability) check.result) ++
    expected.unsupported.filterMap (unsupportedComplaint? model) ++
    expected.custom.toList.filterMap (fun test => require (test model) "custom assertion failed")

/-! ### Complaints about an outcome -/

def countComplaint? (failure : BuildFailure) (count : Nat) : Option String :=
  require (failure.faults.length = count)
    ("expected " ++ toString count ++ " error(s), got " ++ toString failure.faults.length ++ ": " ++
      failure.message)

def fragmentComplaint? (failure : BuildFailure) (fragment : String) : Option String :=
  require (occursIn fragment failure.message)
    ("expected error containing " ++ quotedName fragment ++ ", got: " ++ failure.message)

/-- All complaints about a failure, in order. -/
def failureComplaints (expected : Expectation) (failure : BuildFailure) : List String :=
  expected.errors.toList.filterMap (countComplaint? failure) ++
    expected.errorFragments.filterMap (fragmentComplaint? failure)

/-- All complaints about an outcome, in order. -/
def complaints (expected : Expectation) (outcome : Outcome) : List String :=
  if expected.expectsFailure then
    match outcome with
    | .ok _ => ["expected the build to fail, but it succeeded"]
    | .error failure => expected.failureComplaints failure
  else
    match outcome with
    | .ok model => expected.modelComplaints model
    | .error failure => ["build failed: " ++ failure.message]

/-! ### Expectations in words -/

def tuple (parts : List String) : String := "(" ++ String.intercalate ", " parts ++ ")"

def describeCheck {α : Type} (title : α → String) (check : CapabilityCheck α) : String :=
  described "CapabilityCheck"
    [("type_name", quoted check.type), ("capability", title check.capability),
      ("result", quoted check.result)]

/-- The expectation in words, as far as it is usually of interest. -/
def describe (expected : Expectation) : String :=
  described "Assertion" [
    ("types", quotedList expected.types),
    ("absent_types", quotedList expected.absentTypes),
    ("kinds", bracketed (expected.kinds.map fun (name, kind) => tuple [quoted name, kind.title])),
    ("attributes", bracketed (expected.attributes.map fun (entity, name, type) =>
      tuple [quoted entity, quoted name, quoted type])),
    ("functions", quotedList expected.functions),
    ("function_results", bracketed (expected.functionResults.map fun (name, type) =>
      tuple [quoted name, presence (type.map quoted)])),
    ("operations", bracketed (expected.operations.map (describeCheck Operator.title))),
    ("predicates", bracketed (expected.predicates.map (describeCheck Predicate.title))),
    ("errors", presence (expected.errors.map toString)),
    ("error_contains", quotedList expected.errorFragments),
    ("custom", presence (expected.custom.map fun _ => quoted "<fn>"))]

end Expectation

end Metamodel
