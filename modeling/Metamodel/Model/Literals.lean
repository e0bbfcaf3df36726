/-
The types of literals in a model.

A model assigns types to the families of literals it was set up for and has no opinion on the
others. Numbers, truth values, texts and points in time have the types that carry the tags of the
standard types; an enum literal, an entity literal and a collection literal have to fit the type
they are given or the types of their parts.
-/

import Metamodel.Model.Resolution
import Metamodel.Text.Number

namespace Metamodel.Model

/-- The type that carries a tag. -/
def hostType (model : Model) (tag : HostTag) : Except ResolveError TypeInfo :=
  match model.typeByTag? tag with
  | some type => .ok type
  | none => .error (.unknownType tag.id)

/-- An answer, if the family is one the model was set up for. -/
def whenSet (flag : Bool) (answer : Except ResolveError Literal) :
    Option (Except ResolveError Literal) :=
  if flag then some answer else none

/-- A number with a point is a decimal fraction, any other an integer. -/
def numericType (model : Model) (text : String) : Except ResolveError TypeInfo :=
  if text.toList.contains '.' then
    if Text.isDecimal text.toList then model.hostType .decimal
    else .error (.invalidLiteral text Text.NumberFault.notDecimal.message)
  else
    match Text.readInteger text.toList with
    | .ok _ => model.hostType .integer
    | .error fault => .error (.invalidLiteral text fault.message)

def numericLiteral? (model : Model) (text : String) : Option (Except ResolveError Literal) :=
  whenSet model.literals.numeric do
    return .mk (← model.numericType text) (.numeric text)

def booleanLiteral? (model : Model) (value : Bool) : Option (Except ResolveError Literal) :=
  whenSet model.literals.boolean do
    return .mk (← model.hostType .boolean) (.boolean value)

def textLiteral? (model : Model) (value : String) : Option (Except ResolveError Literal) :=
  whenSet model.literals.text do
    return .mk (← model.hostType .text) (.text value)

def timestampLiteral? (model : Model) (instant : Timestamp) :
    Option (Except ResolveError Literal) :=
  whenSet model.literals.temporal do
    return .mk (← model.hostType .timestamp) (.timestamp instant)

def intervalLiteral? (model : Model) (interval : Interval) :
    Option (Except ResolveError Literal) :=
  whenSet model.literals.temporal do
    return .mk (← model.hostType .interval) (.interval interval)

/-- An enum literal has the name that its type declares for it. -/
def enumLiteral? (model : Model) (type : TypeInfo) (name : String) :
    Option (Except ResolveError Literal) :=
  whenSet model.literals.enum <|
    match type.enumValue? name with
    | some value => .ok (.mk type (.enum value.name))
    | none => .error (.invalidLiteral name "unknown enum value")

/-- What is wrong with a value for an attribute of a type, if anything. -/
def attributeFault? (type : TypeInfo) (name : String) (literal : Literal) : Option String :=
  match type.attribute? name with
  | none => some "unknown attribute"
  | some info =>
    if info.handle = literal.type.handle then none else some "attribute type mismatch"

/-- An entity literal takes values of the declared types for attributes of its type. -/
def entityLiteral? (model : Model) (type : TypeInfo) (attributes : List (String × Literal)) :
    Option (Except ResolveError Literal) :=
  whenSet model.literals.entity <|
    let fault := attributes.findSome? fun (name, literal) =>
      (attributeFault? type name literal).map (name, ·)
    match fault with
    | some (name, reason) => .error (.invalidLiteral name reason)
    | none => .ok (.mk type (.entity attributes))

/-- The elements of a collection literal are all of one type, and the type of the literal is the
collection of that. -/
def collectionLiteral? (model : Model) (elements : List Literal) :
    Option (Except ResolveError Literal) :=
  whenSet model.literals.collection <|
    match elements with
    | [] => .error (.noCommonType [])
    | first :: _ =>
      if elements.all (fun element => element.type.handle = first.type.handle) then
        match model.collectionType? first.type with
        | some type => .ok (.mk type (.collection elements))
        | none => .error (.unknownType (collectionDisplay first.type.display))
      else .error (.noCommonType (elements.map Literal.type))

end Metamodel.Model
