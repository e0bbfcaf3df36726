/-
Full views of drafts and models, as JSON values.

An export shows what users of a model need. A view shows everything: places, rules and metadata, and
with an explicit null where something is absent. Views are read by tools that look into a model.
-/

import Metamodel.Draft
import Metamodel.Json

namespace Metamodel

namespace Json

def ofText? (value : Option String) : Json := value.elim null text

def ofNat? (value : Option Nat) : Json := value.elim null fun value => integer value

def ofFlag? (value : Option Bool) : Json := value.elim null boolean

def ofTexts (values : List String) : Json := array (values.map text)

end Json

open Json

/-! ### Parts -/

def Metadata.view (metadata : Metadata) : Json :=
  .object <| memberOf "doc" (metadata.documentation.map .text) ++
    memberOf "string" ((metadata.get? .string).map .text) ++
    memberOf "int" ((metadata.get? .integer).map .integer) ++
    memberOf "bool" ((metadata.get? .flag).map .boolean)

def Interval.view (interval : Interval) : Json :=
  .object [
    ("parts", .array (Component.all.map fun component => .integer (interval.amount component))),
    ("display", .text interval.display)]

def Timestamp.view (instant : Timestamp) : Json :=
  .object [
    ("at", .array [.integer instant.seconds, .integer instant.nanos]),
    ("rfc3339", .text instant.write)]

def operatorsView (set : CapabilitySet Operator) : Json :=
  .ofTexts ((set.toList Operator.all).map Operator.name)

def predicatesView (set : CapabilitySet Predicate) : Json :=
  .ofTexts ((set.toList Predicate.all).map Predicate.name)

def LiteralFamilies.view (families : LiteralFamilies) : Json :=
  .array <| [families.numeric, families.boolean, families.text, families.temporal, families.enum,
    families.entity, families.collection].map .boolean

def Serializer.name : Serializer → String
  | json => "JsonModelSerializer"
  | misfit => "MismatchSerializer"

/-! ### Declarations -/

def AttributeDecl.view (decl : AttributeDecl) : Json :=
  .object [
    ("name", .text decl.name), ("type", .text decl.type.display),
    ("collection", .boolean decl.collection), ("meta", decl.metadata.view)]

def ValueDecl.view (decl : ValueDecl) : Json :=
  .object [("name", .text decl.name), ("meta", decl.metadata.view)]

def TypeBody.view : TypeBody → List (String × Json)
  | basic => []
  | entity decl => [
    ("case_sensitive", .boolean decl.casing.isSensitive),
    ("attributes", .array (decl.attributes.items.map AttributeDecl.view))]
  | enum decl => [
    ("case_sensitive", .boolean decl.casing.isSensitive),
    ("values", .array (decl.values.items.map ValueDecl.view))]

/-- A declared type, with the capabilities that the draft enables for its name. -/
def Draft.viewType (draft : Draft) (decl : TypeDecl) : Json :=
  .object <| [
    ("name", .text decl.name), ("tag", .ofText? (decl.tag.map HostTag.id)),
    ("kind", .text decl.kind.title), ("meta", decl.metadata.view),
    ("operators", (draft.operators.get? decl.name).elim .null operatorsView),
    ("predicates", (draft.predicates.get? decl.name).elim .null predicatesView)] ++ decl.body.view

def ArgumentDecl.view (decl : ArgumentDecl) : Json :=
  .object [
    ("name", .ofText? decl.name), ("type", .ofText? (decl.type.map Reference.display)),
    ("collection", .boolean decl.collection), ("positional", .boolean decl.isPositional),
    ("meta", decl.metadata.view)]

def FunctionDecl.view (decl : FunctionDecl) : Json :=
  .object [
    ("name", .text decl.name), ("arguments", .array (decl.arguments.map ArgumentDecl.view)),
    ("pinned_min", .ofNat? decl.pinnedMinimum), ("pinned_count", .ofNat? decl.pinnedMaximum),
    ("min", .integer decl.minimum), ("max", .ofNat? decl.maximum),
    ("variadic", .boolean decl.variadic), ("positional", .ofFlag? decl.isPositional?),
    ("result", .ofText? (decl.result.map Reference.display)),
    ("result_collection", .boolean decl.resultCollection),
    ("volatility", .text decl.volatility.name), ("meta", decl.metadata.view)]

def Draft.view (draft : Draft) : Json :=
  .object [
    ("base", .boolean draft.base.isSome),
    ("function_case_sensitive", .boolean draft.functionCasing.isSensitive),
    ("types", .array (draft.types.items.map draft.viewType)),
    ("functions", .array (draft.functions.items.map FunctionDecl.view)),
    ("literals", draft.literals.view),
    ("serializers", .ofTexts (draft.serializers.map Serializer.name))]

/-! ### Models -/

def AttributeInfo.view (info : AttributeInfo) : Json :=
  .object [
    ("name", .text info.name), ("handle", .integer info.handle),
    ("type_name", .text info.typeName), ("element", .ofText? info.elementName),
    ("collection", .boolean info.isCollection), ("meta", info.metadata.view)]

def ValueInfo.view (info : ValueInfo) : Json :=
  .object [("name", .text info.name), ("meta", info.metadata.view)]

def Shape.view : Shape → List (String × Json)
  | basic => []
  | entity attributes => [
    ("case_sensitive", .boolean attributes.casing.isSensitive),
    ("attributes", .array (attributes.values.map AttributeInfo.view))]
  | enum values => [
    ("case_sensitive", .boolean values.casing.isSensitive),
    ("values", .array (values.values.map ValueInfo.view))]
  | collection element elementName => [
    ("element", .integer element), ("element_name", .text elementName)]

/-- A type, with the place of its collection in the model. -/
def Model.viewType (model : Model) (type : TypeInfo) : Json :=
  .object <| [
    ("handle", .integer type.handle), ("id", .text ("t" ++ toString type.handle)),
    ("name", .text type.name), ("display", .text type.display),
    ("tag", .ofText? (type.tag.map HostTag.id)), ("kind", .text type.kind.title),
    ("operators", operatorsView type.operators), ("predicates", predicatesView type.predicates),
    ("meta", type.metadata.view),
    ("collection", .ofNat? ((model.collectionType? type).map TypeInfo.handle))] ++ type.shape.view

/-- A type in short: where it stands and what it is called. -/
def TypeInfo.brief (type : TypeInfo) : Json := .array [.integer type.handle, .text type.display]

def ArgumentInfo.view (argument : ArgumentInfo) : Json :=
  .object [
    ("name", .ofText? argument.name), ("display", .text argument.display),
    ("index", .integer argument.index), ("handle", .ofNat? argument.handle),
    ("type_name", .ofText? argument.typeName), ("collection", .boolean argument.collection),
    ("meta", argument.metadata.view)]

def FunctionInfo.view (function : FunctionInfo) : Json :=
  .object [
    ("name", .text function.name), ("display", .text function.display),
    ("arguments", .array (function.arguments.map ArgumentInfo.view)),
    ("min", .integer function.minimum), ("max", .ofNat? function.maximum),
    ("variadic", .boolean function.isVariadic), ("result", .ofNat? function.result),
    ("result_name", .ofText? function.resultName),
    ("result_collection", .boolean function.resultCollection),
    ("volatility", .text function.volatility.name), ("meta", function.metadata.view)]

/-- Rules by capability, under a key; nothing if there are none. -/
def rulesUnder (key : String) (capabilities : List Capability)
    (find : Capability → Option OperandRule) : List (String × Json) :=
  let rules := capabilities.filterMap fun capability =>
    (find capability).map fun rule => (capability.name, Json.text rule.describe)
  if rules.isEmpty then [] else [(key, .object rules)]

/-- The tags of all types of the model, each of them once. -/
def Model.tags (model : Model) : List HostTag := (model.arena.filterMap TypeInfo.tag).eraseDups

/-- The rules for some of the capabilities, by the names and by the tags of all types. -/
def Model.viewRules (model : Model) (capabilities : List Capability) : Json :=
  let names := (model.arena.map TypeInfo.name).eraseDups
  let count := (model.rules.byName.keys.filter fun key => capabilities.contains key.2).length
  .object [
    ("by_name", .object (names.flatMap fun name => rulesUnder name capabilities (model.rule? name))),
    ("by_tag", .object (model.tags.flatMap fun tag =>
      rulesUnder tag.id capabilities (model.ruleByTag? tag))),
    ("len", .integer count), ("empty", .boolean (count = 0))]

def Model.view (model : Model) : Json :=
  let places := fun (types : List TypeInfo) => types.map TypeInfo.handle
  let tags := model.tags.filterMap fun tag =>
    (model.typeByTag? tag).map fun type => (tag.id, Json.integer type.handle)
  let rules := model.functions.values.filterMap fun function =>
    (model.functionRule? function.name).map fun rule => (function.name, Json.text rule.describe)
  .object [
    ("arena", .array (model.arena.map model.viewType)),
    ("types", .array ((places model.types).map fun (handle : Nat) => .integer handle)),
    ("collections", .array (((places model.collectionTypes).mergeSort (· ≤ ·)).map
      fun (handle : Nat) => .integer handle)),
    ("by_tag", .object tags),
    ("functions", .array (model.functions.values.map FunctionInfo.view)),
    ("function_case_sensitive", .boolean model.functionCasing.isSensitive),
    ("function_resolvers", .object rules),
    ("operation_resolvers", model.viewRules (Operator.all.map .operator)),
    ("predicate_resolvers", model.viewRules (Predicate.all.map .predicate)),
    ("literals", model.literals.view), ("serializers", .integer model.serializers.length)]

/-! ### Literals -/

mutual

def Literal.view : Literal → Json
  | .mk type value =>
    .object [
      ("type", type.brief), ("value", LiteralValue.view value),
      ("display", .text (Literal.mk type value).display)]

def LiteralValue.view : LiteralValue → Json
  | .numeric digits => .object [("numeric", .text digits)]
  | .boolean value => .object [("boolean", .boolean value)]
  | .text value => .object [("string", .text value)]
  | .timestamp instant => .object [("timestamp", instant.view)]
  | .interval interval => .object [("interval", interval.view)]
  | .enum name => .object [("enum", .text name)]
  | .entity attributes => .object [("entity", .array (LiteralValue.viewAttributes attributes))]
  | .collection elements => .object [("collection", .array (LiteralValue.viewElements elements))]

def LiteralValue.viewAttributes : List (String × Literal) → List Json
  | [] => []
  | (name, literal) :: rest =>
    .array [.text name, Literal.view literal] :: LiteralValue.viewAttributes rest

def LiteralValue.viewElements : List Literal → List Json
  | [] => []
  | literal :: rest => Literal.view literal :: LiteralValue.viewElements rest

end

end Metamodel
