/-
Sealed models.

A model is a closed universe of types and functions with the rules for their results. Its types
stand in one list, the arena, and speak of each other by their places in it; everything else that a
model holds is an index into that list. A model that extends another one begins with the other's
arena, so a place, once given, keeps its type for good, even where a later model gives the name or
the tag of that type to another one.
-/

import Metamodel.FunctionInfo
import Metamodel.Literal
import Metamodel.RuleTable

namespace Metamodel

/-- The ways in which a model can be exported. -/
inductive Serializer where
  /-- Exports to JSON, as a value or as text. -/
  | json
  /-- Claims the format "bad" and then has nothing of the requested kind to give; it is there to
  show what becomes of such an answer. -/
  | misfit
deriving DecidableEq, Inhabited

structure Model where
  /-- All types, each at the place its handle names. -/
  arena : List TypeInfo
  /-- The types that have a name of their own, which is all but the collections. -/
  named : Table String TypeHandle
  tagged : Table HostTag TypeHandle
  /-- From an element type to its collection type. -/
  collections : Table TypeHandle TypeHandle
  functions : NameTable FunctionInfo
  functionRules : NameTable FunctionRule
  rules : RuleTable
  literals : LiteralFamilies
  serializers : List Serializer

namespace Model

/-- The model with nothing in it, which is what a draft stands on that extends no other model. -/
def empty : Model where
  arena := []
  named := Keyed.empty
  tagged := Keyed.empty
  collections := Keyed.empty
  functions := .empty .sensitive
  functionRules := .empty .sensitive
  rules := .empty
  literals := {}
  serializers := []

instance : Inhabited Model := ⟨empty⟩

/-! ### Types -/

def typeAt? (model : Model) (handle : TypeHandle) : Option TypeInfo := model.arena[handle]?

def handle? (model : Model) : Reference → Option TypeHandle
  | .named name => model.named.get? name
  | .tagged tag => model.tagged.get? tag

/-- The type that a reference denotes. -/
def resolve? (model : Model) (reference : Reference) : Option TypeInfo :=
  (model.handle? reference).bind model.typeAt?

def type? (model : Model) (name : String) : Option TypeInfo := model.resolve? (.named name)

def typeByTag? (model : Model) (tag : HostTag) : Option TypeInfo := model.resolve? (.tagged tag)

def entityType? (model : Model) (name : String) : Option TypeInfo :=
  (model.type? name).filter (fun type => type.kind = .entity)

def enumType? (model : Model) (name : String) : Option TypeInfo :=
  (model.type? name).filter (fun type => type.kind = .enum)

def collectionHandle? (model : Model) (element : TypeHandle) : Option TypeHandle :=
  model.collections.get? element

/-- The collection type whose elements are of a type. -/
def collectionType? (model : Model) (element : TypeInfo) : Option TypeInfo :=
  (model.collectionHandle? element.handle).bind model.typeAt?

/-- All types with a name of their own, in the order in which their names first arrived. -/
def types (model : Model) : List TypeInfo := model.named.values.filterMap model.typeAt?

def collectionTypes (model : Model) : List TypeInfo :=
  model.collections.values.filterMap model.typeAt?

/-! ### Functions -/

/-- How function names are compared. -/
def functionCasing (model : Model) : Casing := model.functions.casing

def function? (model : Model) (name : String) : Option FunctionInfo := model.functions.get? name

def functionRule? (model : Model) (name : String) : Option FunctionRule :=
  model.functionRules.get? name

/-! ### Rules -/

/-- The rule filed under the name of a type. -/
def rule? (model : Model) (name : String) (capability : Capability) : Option OperandRule :=
  model.rules.get? name capability

/-- The rule filed under a tag. -/
def ruleByTag? (model : Model) (tag : HostTag) (capability : Capability) : Option OperandRule :=
  model.rules.getByTag? tag capability

end Model

end Metamodel
