/-
How collections come by their places.

The declarations are read from the first to the last, and a collection that is asked for and not
there gets the next free slot, which it keeps. The draft's own types are asked for beforehand, so
that their collections have the first slots. No place is known while this goes on: what is found is
bound to the place of a declaration, to a place of the model below or to a slot.
-/

import Metamodel.Draft.Layout

namespace Metamodel

/-- What stands for a place before there are places. -/
inductive Binding where
  /-- A type that the draft declares, by the place of its declaration. -/
  | own (index : Nat)
  /-- A type of the model below. -/
  | inherited (handle : TypeHandle)
  /-- A new collection. -/
  | collection (slot : Nat)
deriving DecidableEq, Inhabited

def Denotation.binding : Denotation → Binding
  | own index => .own index
  | inherited handle => .inherited handle

/-- The types whose collections are new, in the order in which they were asked for, and their
slots. -/
structure CollectionSlots where
  elements : List Denotation := []
  slots : Table Denotation Nat := Keyed.empty

abbrev Allocating (α : Type) := StateM CollectionSlots α

namespace Draft

/-- The collection of a type that the model below has. -/
def inheritedCollection? (draft : Draft) : Denotation → Option TypeHandle
  | .own _ => none
  | .inherited handle => draft.ground.collectionHandle? handle

/-- The collection of a type, which gets a slot when it is first asked for. -/
def collectionOf (draft : Draft) (element : Denotation) : Allocating Binding := fun held =>
  match draft.inheritedCollection? element with
  | some handle => (.inherited handle, held)
  | none =>
    match held.slots.get? element with
    | some slot => (.collection slot, held)
    | none =>
      let slot := held.elements.length
      (.collection slot, ⟨held.elements ++ [element], held.slots.set element slot⟩)

def bindReference (draft : Draft) (reference : Reference) (collection : Bool) :
    Allocating (Option Binding) :=
  match draft.denote? reference with
  | none => return none
  | some target =>
    if collection then return some (← draft.collectionOf target) else return some target.binding

/-- An argument or a result need not have a type. -/
def bindArgument (draft : Draft) (type : Option Reference) (collection : Bool) :
    Allocating (Option Binding) :=
  match type with
  | none => return none
  | some reference => draft.bindReference reference collection

def bindTypes (draft : Draft) : Allocating (List (List (Option Binding))) := do
  let _ ← (List.range draft.types.size).mapM fun index => draft.collectionOf (.own index)
  draft.types.items.mapM fun decl =>
    decl.attributes.mapM fun info => draft.bindReference info.type info.collection

/-- The arguments of each function and its result. -/
def bindFunctions (draft : Draft) : Allocating (List (List (Option Binding) × Option Binding)) :=
  draft.functions.items.mapM fun decl => do
    let arguments ← decl.arguments.mapM fun argument =>
      draft.bindArgument argument.type argument.collection
    let result ← draft.bindArgument decl.result decl.resultCollection
    return (arguments, result)

/-- What the types are bound to, and then what the functions are bound to. -/
def bindDeclarations (draft : Draft) : Allocating
    (List (List (Option Binding)) × List (List (Option Binding) × Option Binding)) := do
  let types ← draft.bindTypes
  let functions ← draft.bindFunctions
  return (types, functions)

/-- The place that a binding comes to, once all declarations have been read. -/
def placeOf (draft : Draft) : Binding → TypeHandle
  | .own index => draft.ownHandle index
  | .inherited handle => handle
  | .collection slot => draft.ownHandle (draft.types.size + slot)

end Draft

end Metamodel
