/-
Drafts: collections of declarations on their way to a model.

A draft stands alone or on a sealed model. It takes declarations in any order and checks almost
nothing until it is built; declaring a name again replaces the earlier declaration where it stands.
Building does not use a draft up: it can grow further and be built again.
-/

import Metamodel.Declaration
import Metamodel.Model

namespace Metamodel

structure Draft where
  /-- The model that the draft extends, if any. -/
  base : Option Model := none
  types : Keyed TypeDecl.name := .empty
  functions : Keyed FunctionDecl.name := .empty
  /-- How function names will be compared in the model. -/
  functionCasing : Casing := .sensitive
  operators : Table String (CapabilitySet Operator) := Keyed.empty
  predicates : Table String (CapabilitySet Predicate) := Keyed.empty
  /-- Rules by the very name they were registered for. -/
  functionRules : Table String FunctionRule := Keyed.empty
  operatorRules : Registrations Operator := .empty
  predicateRules : Registrations Predicate := .empty
  literals : LiteralFamilies := {}
  serializers : List Serializer := []

namespace Draft

/-- A draft of a model on its own. -/
def standalone : Draft := {}

instance : Inhabited Draft := ⟨standalone⟩

/-- A draft on top of a model, from which it takes over how function names are compared, the
families of literals and the serializers. -/
def extending (base : Model) : Draft where
  base := some base
  functionCasing := base.functionCasing
  literals := base.literals
  serializers := base.serializers

/-- The model that the draft stands on, which is empty for a draft that stands alone. -/
def ground (draft : Draft) : Model := draft.base.getD .empty

/-! ### Declaring -/

def registerType (draft : Draft) (decl : TypeDecl) : Draft :=
  { draft with types := draft.types.insert decl }

def enableOperators (draft : Draft) (type : String) (set : CapabilitySet Operator) : Draft :=
  let known := (draft.operators.get? type).getD .empty
  { draft with operators := draft.operators.set type (known.union set) }

def enablePredicates (draft : Draft) (type : String) (set : CapabilitySet Predicate) : Draft :=
  let known := (draft.predicates.get? type).getD .empty
  { draft with predicates := draft.predicates.set type (known.union set) }

/-- Register a type and enable the capabilities of its sketch, in addition to those that are enabled
for its name already. -/
def declareType (draft : Draft) (sketch : TypeSketch) : Draft :=
  ((draft.enableOperators sketch.decl.name sketch.operators).enablePredicates
    sketch.decl.name sketch.predicates).registerType sketch.decl

/-- An attribute of a sealed entity as a declaration, which speaks of the type by name. -/
def attributeOf (info : AttributeInfo) : AttributeDecl where
  name := info.name
  type := .named (info.elementName.getD info.typeName)
  collection := info.isCollection
  metadata := info.metadata

/-- A sealed entity as a declaration. -/
def entityOf (type : TypeInfo) : EntityDecl where
  casing :=
    match type.shape with
    | .entity attributes => attributes.casing
    | _ => .sensitive
  attributes := .ofList (type.attributes.map attributeOf)

/-- The entity of a name: the one that the draft declares or else the one in the model it stands
on. -/
def entitySource (draft : Draft) (name : String) : Except DeclarationError EntityDecl :=
  match (draft.types.find? name).bind TypeDecl.entity? with
  | some entity => .ok entity
  | none =>
    match draft.ground.entityType? name with
    | some type => .ok (entityOf type)
    | none => .error (.unknownEntity name)

/-- Declare an entity that begins with the attributes of another one. -/
def declareExtension (draft : Draft) (name source : String) (clauses : List TypeClause) :
    Except DeclarationError Draft := do
  let entity ← draft.entitySource source
  return draft.declareType ((TypeSketch.ofBody name (.entity entity)).addAll clauses)

/-- Put a function among the others without a further look at it. -/
def putFunction (draft : Draft) (decl : FunctionDecl) : Draft :=
  { draft with functions := draft.functions.insert decl }

/-- Register a function whose arguments are given all at once. -/
def registerFunction (draft : Draft) (decl : FunctionDecl) : Except DeclarationError Draft :=
  if decl.isUniform then .ok (draft.putFunction decl) else .error (.mixedArguments decl.name)

/-- Declare a function clause by clause. -/
def declareFunction (draft : Draft) (name : String) (clauses : List FunctionClause) :
    Except DeclarationError Draft := do
  let decl ← ({ name } : FunctionDecl).addAll clauses
  return draft.putFunction decl

def registerRule (draft : Draft) (registration : Registration) : Draft :=
  match registration.capability with
  | .operator operator =>
    { draft with operatorRules :=
        draft.operatorRules.register registration.target operator registration.rule }
  | .predicate predicate =>
    { draft with predicateRules :=
        draft.predicateRules.register registration.target predicate registration.rule }

def registerFunctionRule (draft : Draft) (function : String) (rule : FunctionRule) : Draft :=
  { draft with functionRules := draft.functionRules.set function rule }

/-! ### Looking into a draft -/

/-- The declaration registered last among those that carry a tag, in the order of the names. -/
def typeDeclByTag? (draft : Draft) (tag : HostTag) : Option TypeDecl :=
  draft.types.items.reverse.find? (fun decl => decl.tag = some tag)

/-- The last declaration whose name counts as the given one. -/
def functionDecl? (draft : Draft) (name : String) : Option FunctionDecl :=
  draft.functions.items.reverse.find? fun decl =>
    draft.functionCasing.key decl.name = draft.functionCasing.key name

/-- The rule registered for a capability of a type by the name of the type. -/
def rule? (draft : Draft) (type : String) : Capability → Option OperandRule
  | .operator operator => draft.operatorRules.get? type operator
  | .predicate predicate => draft.predicateRules.get? type predicate

/-- All registered rules, those for operators before those for predicates. -/
def registrations (draft : Draft) : List Registration :=
  draft.operatorRules.toList .operator ++ draft.predicateRules.toList .predicate

end Draft

/-! ### Declarations as data -/

/-- Something said to a draft. -/
inductive Declaration where
  | type (sketch : TypeSketch)
  /-- An entity that begins with the attributes of another one. -/
  | extension (name source : String) (clauses : List TypeClause)
  /-- A type whose capabilities are left alone. -/
  | bareType (decl : TypeDecl)
  | function (name : String) (clauses : List FunctionClause)
  /-- A function whose arguments are given all at once. -/
  | wholeFunction (decl : FunctionDecl)
  | functionCasing (casing : Casing)
  | operators (type : String) (operators : List Operator)
  | predicates (type : String) (predicates : List Predicate)
  | rule (registration : Registration)
  | functionRule (function : String) (rule : FunctionRule)
  /-- Families of literals to which the model assigns types, besides those already set. -/
  | literals (families : LiteralFamilies)
  | serializer (serializer : Serializer)

/-- The draft after a declaration, unless the declaration is refused. -/
def Draft.declare (draft : Draft) : Declaration → Except DeclarationError Draft
  | .type sketch => .ok (draft.declareType sketch)
  | .extension name source clauses => draft.declareExtension name source clauses
  | .bareType decl => .ok (draft.registerType decl)
  | .function name clauses => draft.declareFunction name clauses
  | .wholeFunction decl => draft.registerFunction decl
  | .functionCasing casing => .ok { draft with functionCasing := casing }
  | .operators type operators => .ok (draft.enableOperators type (.ofList operators))
  | .predicates type predicates => .ok (draft.enablePredicates type (.ofList predicates))
  | .rule registration => .ok (draft.registerRule registration)
  | .functionRule function rule => .ok (draft.registerFunctionRule function rule)
  | .literals families => .ok { draft with literals := draft.literals.union families }
  | .serializer serializer => .ok { draft with serializers := draft.serializers ++ [serializer] }

end Metamodel
