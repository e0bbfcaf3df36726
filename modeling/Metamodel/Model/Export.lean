/-
Exports of a model.

A model is shown as a JSON document that lists its types and its functions. What is empty, absent or
not the case is left out of it. Types are spoken of by name, and a collection by the name of its
element type and a flag. A serializer may decline a format or a kind of result; the first one that
does not is the one that answers.
-/

import Metamodel.Json
import Metamodel.Model

namespace Metamodel

/-- The kind of result that an export is asked for. -/
inductive ExportTarget where
  | text
  | document
  | bytes
deriving DecidableEq, Inhabited

inductive Exported where
  | text (content : String)
  | document (content : Json)

inductive ExportError where
  /-- A serializer claimed the format and then gave a result of another kind. -/
  | targetMismatch (format : String)
  | invalidProperty (name reason : String)
deriving DecidableEq

def ExportError.message : ExportError → String
  | targetMismatch format =>
    "Serializer for format '" ++ format ++ "' produced a value of a different target type"
  | invalidProperty name reason => "Invalid serializer property '" ++ name ++ "': " ++ reason

/-! ### The document -/

namespace Export

open Json

/-- The one-character code of a kind. -/
def kindCode : Kind → String
  | .basic => "B"
  | .entity => "E"
  | .enum => "N"
  | .collection => "C"

def documentation (metadata : Metadata) : List (String × Json) :=
  memberOf "doc" (metadata.documentation.map .text)

def attributeDocument (info : AttributeInfo) : Json :=
  .object ([("name", .text info.name), ("type", .text (info.elementName.getD info.typeName))] ++
    memberOfFlag "collection" info.isCollection ++ documentation info.metadata)

def valueDocument (info : ValueInfo) : Json :=
  .object ([("name", .text info.name)] ++ documentation info.metadata)

def codes (codes : List Char) : List Json := codes.map fun code => .text (String.singleton code)

def typeDocument (type : TypeInfo) : Json :=
  .object ([("name", .text type.name), ("kind", .text (kindCode type.kind))] ++
    memberOfList "ops" (codes ((type.operators.toList Operator.all).map Operator.code)) ++
    memberOfList "preds" (codes ((type.predicates.toList Predicate.all).map Predicate.code)) ++
    memberOfList "attrs" (type.attributes.map attributeDocument) ++
    memberOfList "vals" (type.enumValues.map valueDocument) ++
    documentation type.metadata)

/-- The name of the type at a place, or of its elements when it is a collection. -/
def shownType (model : Model) (handle : Option TypeHandle) : Option Json :=
  (handle.bind model.typeAt?).map fun type => .text type.elementOrOwnName

def argumentDocument (model : Model) (argument : ArgumentInfo) : Json :=
  .object (memberOf "name" (argument.name.map .text) ++
    memberOf "type" (shownType model argument.handle) ++
    memberOfFlag "collection" argument.collection ++ documentation argument.metadata)

/-- The largest number of arguments as a signed 64-bit number, which is -1 when there is none. -/
def countCode (maximum : Option Nat) : Int :=
  match maximum with
  | none => -1
  | some count => Int.bmod count 18446744073709551616

def functionDocument (model : Model) (function : FunctionInfo) : Json :=
  .object ([("name", .text function.name),
      ("args", .array (function.arguments.map (argumentDocument model))),
      ("minArgCount", .integer function.minimum),
      ("argCount", .integer (countCode function.maximum))] ++
    memberOf "type" (shownType model function.result) ++
    memberOfFlag "collection" function.resultCollection ++
    [("volatility", .text function.volatility.name)] ++ documentation function.metadata)

/-- The model as a JSON document. -/
def document (model : Model) : Json :=
  .object [("types", .array (model.types.map typeDocument)),
    ("funcs", .array (model.functions.values.map (functionDocument model)))]

end Export

/-! ### Serializers -/

/-- Properties that tune an export, by name. -/
abbrev ExportProperties := List (String × Json)

namespace Serializer

/-- Whether text is to be spread over several lines. -/
def prettyFlag (properties : ExportProperties) : Except ExportError Bool :=
  match properties.lookup "pretty" with
  | none => .ok false
  | some (.boolean flag) => .ok flag
  | some other =>
    .error (.invalidProperty "pretty" ("expected a boolean, got " ++ other.write))

/-- The answer of a serializer, or nothing if it declines. -/
def export? (serializer : Serializer) (model : Model) (format : String) (target : ExportTarget)
    (properties : ExportProperties) : Option (Except ExportError Exported) :=
  match serializer with
  | json =>
    if format = "json" then
      match target with
      | .document => some (.ok (.document (Export.document model)))
      | .text => some do
        let content := Export.document model
        return .text (if ← prettyFlag properties then content.writePretty else content.write)
      | .bytes => none
    else none
  | misfit => if format = "bad" then some (.error (.targetMismatch format)) else none

end Serializer

/-- The answer of the first serializer that does not decline. -/
def Model.serialize (model : Model) (format : String) (target : ExportTarget)
    (properties : ExportProperties) : Except ExportError (Option Exported) :=
  match model.serializers.findSome? (fun serializer =>
      serializer.export? model format target properties) with
  | some answer => answer.map some
  | none => .ok none

end Metamodel
