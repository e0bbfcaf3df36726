/-
The model that a draft describes.

Assembling a model takes no decisions of its own and cannot fail: what a reference denotes is known,
and where a draft contradicts itself something is left out. Whether a draft may be built at all is
a separate question, which has to be asked first.
-/

import Metamodel.Draft.Layout

namespace Metamodel

namespace Draft

/-! ### Types -/

def sealAttribute? (draft : Draft) (decl : AttributeDecl) : Option AttributeInfo :=
  (draft.slot? decl.type decl.collection).map fun slot =>
    { name := decl.name
      handle := slot.handle
      typeName := slot.typeName
      elementName := slot.elementName
      metadata := decl.metadata }

def sealBody (draft : Draft) : TypeBody → Shape
  | .basic => .basic
  | .entity entity =>
    .entity <| .ofList entity.casing <|
      (entity.attributes.items.filterMap draft.sealAttribute?).map fun info => (info.name, info)
  | .enum enum =>
    .enum <| .ofList enum.casing <|
      enum.values.items.map fun decl => (decl.name, ⟨decl.name, decl.metadata⟩)

/-- The type that a declaration describes, given its place. -/
def sealType (draft : Draft) (decl : TypeDecl) (handle : TypeHandle) : TypeInfo where
  handle
  name := decl.name
  tag := decl.tag
  operators := (draft.operators.get? decl.name).getD .empty
  predicates := (draft.predicates.get? decl.name).getD .empty
  metadata := decl.metadata
  shape := draft.sealBody decl.body

/-- The draft's own types in order of declaration. -/
def ownTypes (draft : Draft) : List TypeInfo :=
  draft.types.items.zipIdx.map fun (decl, index) => draft.sealType decl (draft.ownHandle index)

/-- The types whose collections come with the draft. -/
def collected (draft : Draft) : List Denotation :=
  (List.range draft.types.size).map .own ++ draft.uncollected.map .inherited

/-- The collections that come with the draft: one for each of its own types, and those that the model
below was found to lack. -/
def ownCollections (draft : Draft) : List TypeInfo :=
  draft.collected.map fun element =>
    .collectionOf (draft.collectionHandleOf element) (draft.handleOf element) (draft.nameOf element)

def arena (draft : Draft) : List TypeInfo :=
  draft.ground.arena ++ draft.ownTypes ++ draft.ownCollections

/-- Names, those of the model below first; a name of the draft's own takes over. -/
def named (draft : Draft) : Table String TypeHandle :=
  draft.ownTypes.foldl (fun table type => table.set type.name type.handle) draft.ground.named

/-- Tags, of which those of the draft's own types take over. -/
def tagged (draft : Draft) : Table HostTag TypeHandle :=
  draft.ownTypes.foldl (fun table type =>
    match type.tag with
    | some tag => table.set tag type.handle
    | none => table) draft.ground.tagged

def collections (draft : Draft) : Table TypeHandle TypeHandle :=
  draft.collected.foldl (fun table element =>
    table.set (draft.handleOf element) (draft.collectionHandleOf element)) draft.ground.collections

/-! ### Functions -/

def argumentSlot? (draft : Draft) (type : Option Reference) (collection : Bool) : Option Slot :=
  type.bind fun reference => draft.slot? reference collection

def sealArgument (draft : Draft) (decl : ArgumentDecl) (index : Nat) : ArgumentInfo :=
  let slot := draft.argumentSlot? decl.type decl.collection
  { name := decl.name
    index
    handle := slot.map Slot.handle
    typeName := slot.map Slot.typeName
    collection := decl.collection
    metadata := decl.metadata }

def sealFunction (draft : Draft) (decl : FunctionDecl) : FunctionInfo :=
  let result := draft.argumentSlot? decl.result decl.resultCollection
  { name := decl.name
    arguments := decl.arguments.zipIdx.map fun (argument, index) => draft.sealArgument argument index
    minimum := decl.minimum
    maximum := decl.maximum
    result := result.map Slot.handle
    resultName := result.map Slot.typeName
    resultCollection := decl.resultCollection
    volatility := decl.volatility
    metadata := decl.metadata }

/-- The functions of the model below under the draft's casing, and then the draft's own, which take
the places of those whose names count as theirs. -/
def sealedFunctions (draft : Draft) : NameTable FunctionInfo :=
  .ofList draft.functionCasing <|
    (draft.ground.functions.values ++ draft.functions.items.map draft.sealFunction).map
      fun function => (function.name, function)

def sealedFunctionRules (draft : Draft) : NameTable FunctionRule :=
  .ofList draft.functionCasing (draft.ground.functionRules.toList ++ draft.functionRules.items)

/-! ### The model without its rules -/

/-- Everything but the rules of operators and predicates, for which the types have to be there. -/
def skeleton (draft : Draft) : Model where
  arena := draft.arena
  named := draft.named
  tagged := draft.tagged
  collections := draft.collections
  functions := draft.sealedFunctions
  functionRules := draft.sealedFunctionRules
  rules := draft.ground.rules
  literals := draft.literals
  serializers := draft.serializers

/-! ### Rules -/

/-- The tables of types alone, which is what registrations are looked up in while there is no model
yet. -/
structure TypeIndex where
  arena : List TypeInfo
  named : Table String TypeHandle
  tagged : Table HostTag TypeHandle

def TypeIndex.resolve? (types : TypeIndex) : Reference → Option TypeInfo
  | .named name => do
    let handle ← types.named.get? name
    types.arena[handle]?
  | .tagged tag => do
    let handle ← types.tagged.get? tag
    types.arena[handle]?

def typeIndex (model : Model) : TypeIndex where
  arena := model.arena
  named := model.named
  tagged := model.tagged

/-- What is found in the tables alone is what the model has for the reference. -/
theorem resolve?_typeIndex (model : Model) (reference : Reference) :
    (typeIndex model).resolve? reference = model.resolve? reference := by
  cases reference <;> rfl

/-- The type that a registration is about, if there is one and it enables the capability. -/
def registeredType? (model : Model) (registration : Registration) : Option TypeInfo :=
  ((typeIndex model).resolve? registration.target).filter fun type =>
    type.enables registration.capability

theorem registeredType?_eq (model : Model) (registration : Registration) :
    registeredType? model registration = (model.resolve? registration.target).filter fun type =>
      type.enables registration.capability := by
  unfold registeredType?
  rw [resolve?_typeIndex]

theorem registeredType?_eq_some_iff (model : Model) (registration : Registration)
    (type : TypeInfo) :
    registeredType? model registration = some type ↔
      model.resolve? registration.target = some type ∧
        type.enables registration.capability = true := by
  rw [registeredType?_eq, Option.filter_eq_some_iff]

/-- File a registration, in the place of an inherited rule if there is one. -/
def fileRule (model : Model) (rules : RuleTable) (registration : Registration) : RuleTable :=
  match registeredType? model registration with
  | some type => rules.insert type registration.capability registration.rule
  | none => rules

/-- The rule of a capability for which nothing was registered: an operator yields the type itself, a
predicate the type that stands for truth values. -/
def defaultRule (type : TypeInfo) : Capability → OperandRule
  | .operator _ => .fixed (.named type.name)
  | .predicate _ => .fixed (.tagged .boolean)

/-- Give a capability of a type its default rule, if the type enables it and has no rule for it. -/
def fillRule (type : TypeInfo) (rules : RuleTable) (capability : Capability) : RuleTable :=
  if type.enables capability ∧ rules.get? type.name capability = none then
    rules.insert type capability (defaultRule type capability)
  else rules

/-- Default rules for all capabilities of the given types. -/
def fillRules (rules : RuleTable) (types : List TypeInfo) : RuleTable :=
  types.foldl (fun rules type => Capability.all.foldl (fillRule type) rules) rules

/-- The inherited rules, the registered ones over them, and defaults where neither is. -/
def sealedRules (draft : Draft) : RuleTable :=
  let model := draft.skeleton
  fillRules (draft.registrations.foldl (fileRule model) draft.ground.rules)
    (model.types ++ model.collectionTypes)

/-- The model that the draft describes. -/
def assemble (draft : Draft) : Model := { draft.skeleton with rules := draft.sealedRules }

end Draft

end Metamodel
