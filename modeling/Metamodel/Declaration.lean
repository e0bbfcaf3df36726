/-
Declarations: types and functions before they are checked.

A declaration speaks of other types by reference, and a reference need not denote anything until the
draft that holds the declaration is built. Declarations are written clause by clause; a function may
be refused at that stage already, since its arguments are either all named or all positional.
-/

import Metamodel.FunctionInfo
import Metamodel.Reference

namespace Metamodel

/-! ### Types -/

structure AttributeDecl where
  name : String
  type : Reference
  /-- The attribute holds a collection of the type. -/
  collection : Bool := false
  metadata : Metadata := .empty

structure ValueDecl where
  name : String
  metadata : Metadata := .empty

/-- The attributes of an entity. They are kept by name, but one that is registered as a whole may
keep them under any keys. -/
structure EntityDecl where
  /-- How the attribute names will be compared in a model. -/
  casing : Casing := .sensitive
  attributes : Members AttributeDecl.name := .empty

/-- The values of an enum, kept like the attributes of an entity. -/
structure EnumDecl where
  /-- How the value names will be compared in a model. -/
  casing : Casing := .sensitive
  values : Members ValueDecl.name := .empty

inductive TypeBody where
  | basic
  | entity (entity : EntityDecl)
  | enum (enum : EnumDecl)

namespace TypeBody

/-- The names of the attributes or values in order. -/
def memberNames : TypeBody → List String
  | .basic => []
  | .entity decl => decl.attributes.names
  | .enum decl => decl.values.names

/-- The attributes or values are kept under their names. -/
def KeepsNames : TypeBody → Prop
  | .basic => True
  | .entity decl => decl.attributes.KeepsNames
  | .enum decl => decl.values.KeepsNames

instance : (body : TypeBody) → Decidable body.KeepsNames
  | .basic => isTrue trivial
  | .entity decl => inferInstanceAs (Decidable decl.attributes.KeepsNames)
  | .enum decl => inferInstanceAs (Decidable decl.values.KeepsNames)

end TypeBody

structure TypeDecl where
  name : String
  tag : Option HostTag := none
  metadata : Metadata := .empty
  body : TypeBody := .basic

namespace TypeDecl

def kind (decl : TypeDecl) : Kind :=
  match decl.body with
  | .basic => .basic
  | .entity _ => .entity
  | .enum _ => .enum

def entity? (decl : TypeDecl) : Option EntityDecl :=
  match decl.body with
  | .entity entity => some entity
  | _ => none

/-- The declared attributes in order; a type that is no entity declares none. -/
def attributes (decl : TypeDecl) : List AttributeDecl :=
  match decl.body with
  | .entity entity => entity.attributes.items
  | _ => []

end TypeDecl

/-! ### Writing a type -/

/-- A type as it is being declared, with the capabilities that its declaration will enable. -/
structure TypeSketch where
  decl : TypeDecl
  operators : CapabilitySet Operator := .empty
  predicates : CapabilitySet Predicate := .empty

/-- One clause of the declaration of a type. -/
inductive TypeClause where
  | tag (tag : HostTag)
  | operators (operators : List Operator)
  | predicates (predicates : List Predicate)
  | metadata (metadata : Metadata)
  /-- How attribute names, or value names, are compared. -/
  | casing (casing : Casing)
  | attribute (decl : AttributeDecl)
  | value (decl : ValueDecl)

namespace TypeSketch

def ofBody (name : String) (body : TypeBody) : TypeSketch := { decl := { name, body } }

/-- The sketch with a clause added. Clauses on the parts of entities and enums say nothing about
other types. -/
def add (sketch : TypeSketch) : TypeClause → TypeSketch
  | .tag tag => { sketch with decl := { sketch.decl with tag := some tag } }
  | .operators operators =>
    { sketch with operators := sketch.operators.union (.ofList operators) }
  | .predicates predicates =>
    { sketch with predicates := sketch.predicates.union (.ofList predicates) }
  | .metadata metadata =>
    { sketch with decl := { sketch.decl with metadata := sketch.decl.metadata.extend metadata } }
  | .casing casing =>
    match sketch.decl.body with
    | .basic => sketch
    | .entity entity =>
      { sketch with decl := { sketch.decl with body := .entity { entity with casing } } }
    | .enum enum => { sketch with decl := { sketch.decl with body := .enum { enum with casing } } }
  | .attribute decl =>
    match sketch.decl.body with
    | .entity entity =>
      { sketch with decl := { sketch.decl with
          body := .entity { entity with attributes := entity.attributes.insert decl } } }
    | _ => sketch
  | .value decl =>
    match sketch.decl.body with
    | .enum enum =>
      { sketch with decl := { sketch.decl with
          body := .enum { enum with values := enum.values.insert decl } } }
    | _ => sketch

def addAll (sketch : TypeSketch) (clauses : List TypeClause) : TypeSketch :=
  clauses.foldl add sketch

end TypeSketch

/-! ### Functions -/

structure ArgumentDecl where
  /-- Absent for positional arguments. -/
  name : Option String := none
  /-- Absent for arguments that take any type, or any collection if declared as one. -/
  type : Option Reference := none
  collection : Bool := false
  metadata : Metadata := .empty

def ArgumentDecl.isPositional (decl : ArgumentDecl) : Bool := decl.name.isNone

structure FunctionDecl where
  name : String
  arguments : List ArgumentDecl := []
  /-- The least number of arguments, where it is not that of the declared ones. -/
  pinnedMinimum : Option Nat := none
  /-- The largest number of arguments, where it is not that of the declared ones. -/
  pinnedMaximum : Option Nat := none
  /-- Takes any number of arguments beyond the least. -/
  variadic : Bool := false
  result : Option Reference := none
  resultCollection : Bool := false
  volatility : Volatility := .volatile
  metadata : Metadata := .empty

/-- Why a declaration is refused on the spot. -/
inductive DeclarationError where
  | mixedArguments (function : String)
  | unknownEntity (name : String)
deriving DecidableEq

def DeclarationError.message : DeclarationError → String
  | mixedArguments function =>
    "Can't mix positional and named parameters in function '" ++ function ++ "'"
  | unknownEntity name => "Unknown entity type to extend: " ++ name

namespace FunctionDecl

def minimum (decl : FunctionDecl) : Nat := decl.pinnedMinimum.getD decl.arguments.length

/-- The largest number of arguments, which is never below the least; none if variadic. -/
def maximum (decl : FunctionDecl) : Option Nat :=
  if decl.variadic then none
  else some (max (decl.pinnedMaximum.getD decl.arguments.length) decl.minimum)

/-- Whether the arguments are positional; undecided until there is one. -/
def isPositional? (decl : FunctionDecl) : Option Bool := decl.arguments.head?.map (·.isPositional)

/-- Every argument is of the kind of the first one. -/
def isUniform (decl : FunctionDecl) : Bool :=
  decl.arguments.all (fun argument => some argument.isPositional = decl.isPositional?)

/-- The declaration with one more argument, which has to be of the kind of the first one. -/
def addArgument (decl : FunctionDecl) (argument : ArgumentDecl) :
    Except DeclarationError FunctionDecl :=
  if decl.isPositional?.all (fun positional => positional = argument.isPositional) then
    .ok { decl with arguments := decl.arguments ++ [argument] }
  else .error (.mixedArguments decl.name)

end FunctionDecl

/-! ### Writing a function -/

/-- One clause of the declaration of a function. -/
inductive FunctionClause where
  | argument (decl : ArgumentDecl)
  | minimum (count : Nat)
  /-- Pins both bounds on the number of arguments. -/
  | count (count : Nat)
  | variadic
  | result (type : Reference)
  | collectionResult (element : Reference)
  | volatility (volatility : Volatility)
  | metadata (metadata : Metadata)

namespace FunctionDecl

def add (decl : FunctionDecl) : FunctionClause → Except DeclarationError FunctionDecl
  | .argument argument => decl.addArgument argument
  | .minimum count => .ok { decl with pinnedMinimum := some count }
  | .count count => .ok { decl with pinnedMinimum := some count, pinnedMaximum := some count }
  | .variadic => .ok { decl with variadic := true }
  | .result type => .ok { decl with result := some type, resultCollection := false }
  | .collectionResult element => .ok { decl with result := some element, resultCollection := true }
  | .volatility volatility => .ok { decl with volatility }
  | .metadata metadata => .ok { decl with metadata := decl.metadata.extend metadata }

/-- The declaration after all clauses, unless one of them is refused. -/
def addAll (decl : FunctionDecl) (clauses : List FunctionClause) :
    Except DeclarationError FunctionDecl :=
  clauses.foldlM add decl

end FunctionDecl

end Metamodel
