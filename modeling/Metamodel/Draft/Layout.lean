/-
Where the types of a draft will stand in its model.

Every place is known before the first type is made: after the types of the model below come the
draft's own types in order of declaration, then the collection of each of them in the same order. A
type of the model below has its collection there already; should one be asked for that is missing,
it comes last. Since places do not depend on what the types are made of, types may refer to each
other in circles.
-/

import Metamodel.Draft

namespace Metamodel

/-- What a reference denotes while a draft is being built. -/
inductive Denotation where
  /-- A type that the draft declares, by the place of its declaration. -/
  | own (index : Nat)
  /-- A type of the model below. -/
  | inherited (handle : TypeHandle)
deriving DecidableEq

/-- What a model will say about the type of an attribute, an argument or a result. -/
structure Slot where
  handle : TypeHandle
  typeName : String
  elementName : Option String
deriving DecidableEq

namespace Draft

/-! ### References -/

def ownIndex? (draft : Draft) : Reference → Option Nat
  | .named name => draft.types.index? name
  | .tagged tag => draft.types.items.findIdx? (fun decl => decl.tag = some tag)

/-- A reference denotes one of the draft's own types, or failing that one of the model below. -/
def denote? (draft : Draft) (reference : Reference) : Option Denotation :=
  match draft.ownIndex? reference with
  | some index => some (.own index)
  | none => (draft.ground.handle? reference).map .inherited

/-- The references that ask for a collection of a type: those of the attributes in order, and then
those of the arguments and the result of each function. -/
def collectionReferences (draft : Draft) : List Reference :=
  let asked := fun (type : Option Reference) (collection : Bool) =>
    if collection then type.toList else []
  draft.types.items.flatMap (fun decl =>
      decl.attributes.flatMap fun info => asked (some info.type) info.collection) ++
    draft.functions.items.flatMap fun decl =>
      decl.arguments.flatMap (fun argument => asked argument.type argument.collection) ++
        asked decl.result decl.resultCollection

/-- The types of the model below that lack the collection they are asked for, each of them once. -/
def uncollected (draft : Draft) : List TypeHandle :=
  (draft.collectionReferences.filterMap fun reference =>
    match draft.denote? reference with
    | some (.inherited handle) =>
      if (draft.ground.collectionHandle? handle).isNone then some handle else none
    | _ => none).eraseDups

/-! ### Places -/

def ownHandle (draft : Draft) (index : Nat) : TypeHandle := draft.ground.arena.length + index

def handleOf (draft : Draft) : Denotation → TypeHandle
  | .own index => draft.ownHandle index
  | .inherited handle => handle

/-- The place of the collection of a type. -/
def collectionHandleOf (draft : Draft) : Denotation → TypeHandle
  | .own index => draft.ownHandle (draft.types.size + index)
  | .inherited handle =>
    match draft.ground.collectionHandle? handle with
    | some collection => collection
    | none => draft.ownHandle (2 * draft.types.size + draft.uncollected.idxOf handle)

def nameOf (draft : Draft) : Denotation → String
  | .own index => (draft.types.items[index]?).elim "" TypeDecl.name
  | .inherited handle => (draft.ground.typeAt? handle).elim "" TypeInfo.display

/-- What a reference will come to, or nothing if it denotes nothing. -/
def slot? (draft : Draft) (reference : Reference) (collection : Bool) : Option Slot :=
  (draft.denote? reference).map fun target =>
    if collection then
      { handle := draft.collectionHandleOf target
        typeName := collectionDisplay (draft.nameOf target)
        elementName := some (draft.nameOf target) }
    else
      { handle := draft.handleOf target, typeName := draft.nameOf target, elementName := none }

end Draft

end Metamodel
