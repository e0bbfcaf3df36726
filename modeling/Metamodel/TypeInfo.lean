/-
The types of a sealed model.

A type refers to other types by their places in the model, so entities may refer to each other and
to themselves freely. Every type that is not itself a collection has one collection type.
-/

import Metamodel.Capability
import Metamodel.Metadata
import Metamodel.Name
import Metamodel.Reference

namespace Metamodel

/-- The place of a type in its model. It is the same in every model that extends this one. -/
abbrev TypeHandle := Nat

/-- The name that all collection types share. -/
def collectionTypeName : String := "Collection"

/-- A collection type as messages show it. -/
def collectionDisplay (elementName : String) : String :=
  collectionTypeName ++ "[" ++ elementName ++ "]"

structure AttributeInfo where
  name : String
  handle : TypeHandle
  typeName : String
  /-- The name of the element type, when the attribute holds a collection. -/
  elementName : Option String
  metadata : Metadata

def AttributeInfo.isCollection (info : AttributeInfo) : Bool := info.elementName.isSome

structure ValueInfo where
  name : String
  metadata : Metadata

inductive Kind where
  | basic
  | entity
  | enum
  | collection
deriving DecidableEq, Inhabited

def Kind.title : Kind → String
  | basic => "Basic"
  | entity => "Entity"
  | enum => "Enum"
  | collection => "Collection"

/-- What a type is made of. -/
inductive Shape where
  | basic
  | entity (attributes : NameTable AttributeInfo)
  | enum (values : NameTable ValueInfo)
  | collection (element : TypeHandle) (elementName : String)

def Shape.kind : Shape → Kind
  | basic => .basic
  | entity _ => .entity
  | enum _ => .enum
  | collection _ _ => .collection

structure TypeInfo where
  handle : TypeHandle
  name : String
  tag : Option HostTag
  operators : CapabilitySet Operator
  predicates : CapabilitySet Predicate
  metadata : Metadata
  shape : Shape

namespace TypeInfo

def kind (type : TypeInfo) : Kind := type.shape.kind

def isCollection (type : TypeInfo) : Bool := type.kind = .collection

def enables (type : TypeInfo) : Capability → Bool
  | .operator operator => type.operators.has operator
  | .predicate predicate => type.predicates.has predicate

/-- The collection type of an element type. It answers nothing but whether something is in it. -/
def collectionOf (handle element : TypeHandle) (elementName : String) : TypeInfo where
  handle
  name := collectionTypeName
  tag := none
  operators := .empty
  predicates := .ofList [.collection]
  metadata := .empty
  shape := .collection element elementName

/-- The type as messages show it. -/
def display (type : TypeInfo) : String :=
  match type.shape with
  | .collection _ elementName => type.name ++ "[" ++ elementName ++ "]"
  | _ => type.name

/-- The attributes in order of declaration; a type that is no entity has none. -/
def attributes (type : TypeInfo) : List AttributeInfo :=
  match type.shape with
  | .entity attributes => attributes.values
  | _ => []

/-- An attribute by name, as the entity compares names. -/
def attribute? (type : TypeInfo) (name : String) : Option AttributeInfo :=
  match type.shape with
  | .entity attributes => attributes.get? name
  | _ => none

/-- The values in order of declaration; a type that is no enum has none. -/
def enumValues (type : TypeInfo) : List ValueInfo :=
  match type.shape with
  | .enum values => values.values
  | _ => []

/-- An enum value by name, as the enum compares names. -/
def enumValue? (type : TypeInfo) (name : String) : Option ValueInfo :=
  match type.shape with
  | .enum values => values.get? name
  | _ => none

def elementHandle? (type : TypeInfo) : Option TypeHandle :=
  match type.shape with
  | .collection element _ => some element
  | _ => none

/-- The name of the element type of a collection, and of any other type its own name. -/
def elementOrOwnName (type : TypeInfo) : String :=
  match type.shape with
  | .collection _ elementName => elementName
  | _ => type.name

end TypeInfo

end Metamodel
