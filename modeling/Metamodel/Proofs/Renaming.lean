/-
Models that differ in nothing but the places of their types.

A place is arbitrary: nobody sees it except by asking whether two types are the same. When the
places of a model are renamed, everything that keeps a place has to follow, which is the types
themselves, the attributes of entities, the elements of collections, and the signatures of
functions. Two models are the same up to such a renaming if renaming the one gives the types, the
functions and the tables of the other, in the same order, with the same rules.
-/

import Metamodel.Proofs.RuleRows
import Mathlib.Logic.Equiv.Defs

namespace Metamodel

/-! ### Tables under a map -/

namespace Keyed

variable {α β κ : Type} {key : α → κ} {other : β → κ}

/-- Items that are replaced by others with the same keys. -/
def map (f : α → β) (same : ∀ item, other (f item) = key item) (table : Keyed key) :
    Keyed other where
  items := table.items.map f
  distinct := by
    rw [List.map_map, show other ∘ f = key from funext same]
    exact table.distinct

variable [DecidableEq κ]

theorem map_insert (f : α → β) (same : ∀ item, other (f item) = key item) (table : Keyed key)
    (item : α) : (table.insert item).map f same = (table.map f same).insert (f item) := by
  refine ext ?_
  show (insertItem key item table.items).map f = insertItem other (f item) (table.items.map f)
  unfold insertItem
  rw [List.any_map]
  simp only [Function.comp_def, same]
  split
  · rw [List.map_map, List.map_map]
    refine List.map_congr_left fun next _ => ?_
    rw [Function.comp_apply, Function.comp_apply, same, apply_ite f]
  · rw [List.map_append, List.map_singleton]

theorem map_insertAll (f : α → β) (same : ∀ item, other (f item) = key item) (table : Keyed key)
    (items : List α) :
    (table.insertAll items).map f same = (table.map f same).insertAll (items.map f) := by
  induction items generalizing table with
  | nil => rfl
  | cons head rest inductionHypothesis =>
    rw [insertAll_cons, inductionHypothesis, map_insert, List.map_cons, insertAll_cons]

end Keyed

namespace Members

variable {α : Type} {name : α → String}

/-- Members that are replaced by others under the same keys. -/
def map (f : α → α) (members : Members name) : Members name :=
  ⟨members.table.map (Prod.map id f) fun _ => rfl⟩

theorem items_map (f : α → α) (members : Members name) :
    (members.map f).items = members.items.map f := by
  show (members.table.items.map _).map Prod.snd = (members.table.items.map Prod.snd).map f
  rw [List.map_map, List.map_map]
  rfl

variable {f : α → α} (same : ∀ member, name (f member) = name member)
include same

theorem names_map (members : Members name) : (members.map f).names = members.names := by
  unfold names
  rw [items_map, List.map_map]
  exact List.map_congr_left fun member _ => same member

theorem map_insert (members : Members name) (member : α) :
    (members.insert member).map f = (members.map f).insert (f member) := by
  refine congrArg Members.mk ((Keyed.map_insert _ _ _ _).trans ?_)
  rw [same]
  rfl

theorem KeepsNames.map {members : Members name} (keeps : members.KeepsNames) :
    (members.map f).KeepsNames := by
  intro entry listed
  obtain ⟨other, before, rfl⟩ := List.mem_map.mp listed
  exact (keeps other before).trans (same other.2).symm

end Members

namespace NameTable

variable {α β : Type}

/-- The table with other values under the same names. -/
def map (f : α → β) (table : NameTable α) : NameTable β where
  casing := table.casing
  entries := table.entries.map (Prod.map id f) fun _ => rfl

theorem map_ofList (f : α → β) (casing : Casing) (entries : List (String × α)) :
    (ofList casing entries).map f = ofList casing (entries.map (Prod.map id f)) := by
  rw [ofList_eq, ofList_eq]
  exact congrArg (NameTable.mk casing) (Keyed.map_insertAll _ _ _ _)

theorem map_eq_self {f : α → α} {table : NameTable α}
    (fixed : ∀ entry ∈ table.toList, f entry.2 = entry.2) : table.map f = table := by
  refine congrArg (NameTable.mk table.casing) (Keyed.ext ?_)
  refine (List.map_congr_left fun entry member => ?_).trans (List.map_id _)
  exact Prod.ext rfl (fixed entry member)

/-- More entries may be added to a table at once or after a first part of them. -/
theorem ofList_append_toList (casing : Casing) (entries more : List (String × α)) :
    ofList casing ((ofList casing entries).toList ++ more) = ofList casing (entries ++ more) := by
  rw [ofList_eq, ofList_eq, ofList_eq]
  refine congrArg (NameTable.mk casing) ?_
  show Keyed.insertAll _ ((Keyed.ofList entries).items ++ more) =
    Keyed.insertAll _ (entries ++ more)
  unfold Keyed.insertAll
  rw [List.foldl_append, List.foldl_append]
  refine congrArg (List.foldl _ · more) (Keyed.ext ?_)
  exact Keyed.items_ofList (Keyed.ofList entries).distinct

end NameTable

/-! ### Renamed places -/

variable (move : TypeHandle → TypeHandle)

def Slot.rename (slot : Slot) : Slot := { slot with handle := move slot.handle }

def AttributeInfo.rename (info : AttributeInfo) : AttributeInfo :=
  { info with handle := move info.handle }

def Shape.rename : Shape → Shape
  | .entity attributes => .entity (attributes.map (AttributeInfo.rename move))
  | .collection element elementName => .collection (move element) elementName
  | other => other

def TypeInfo.rename (type : TypeInfo) : TypeInfo :=
  { type with handle := move type.handle, shape := type.shape.rename move }

def ArgumentInfo.rename (argument : ArgumentInfo) : ArgumentInfo :=
  { argument with handle := argument.handle.map move }

def FunctionInfo.rename (function : FunctionInfo) : FunctionInfo :=
  { function with
    arguments := function.arguments.map (ArgumentInfo.rename move)
    result := function.result.map move }

variable {move}

theorem TypeInfo.rename_collectionOf (handle element : TypeHandle) (elementName : String) :
    (collectionOf handle element elementName).rename move =
      collectionOf (move handle) (move element) elementName := rfl

theorem TypeInfo.isCollection_rename (type : TypeInfo) :
    (type.rename move).isCollection = type.isCollection := by
  unfold isCollection kind TypeInfo.rename
  cases type.shape <;> rfl

theorem TypeInfo.attributes_rename (type : TypeInfo) :
    (type.rename move).attributes = type.attributes.map (AttributeInfo.rename move) := by
  unfold attributes TypeInfo.rename
  cases type.shape with
  | entity attributes =>
    show ((attributes.entries.items.map _).map _) = (attributes.entries.items.map _).map _
    rw [List.map_map, List.map_map]
    rfl
  | basic | enum | collection => rfl

theorem TypeInfo.enables_rename (type : TypeInfo) :
    (type.rename move).enables = type.enables := by
  funext capability
  cases capability <;> rfl

/-- A type of which all places stay where they are stays as it is. -/
theorem TypeInfo.rename_eq_self {type : TypeInfo} (itself : move type.handle = type.handle)
    (fixed : ∀ handle ∈ type.handles, move handle = handle) : type.rename move = type := by
  have shape : type.shape.rename move = type.shape := by
    unfold handles elementHandle? attributes at fixed
    cases made : type.shape with
    | basic => rfl
    | enum values => rfl
    | collection element elementName =>
      rw [made] at fixed
      exact congrArg (Shape.collection · elementName) (fixed element (by simp))
    | entity attributes =>
      rw [made] at fixed
      refine congrArg Shape.entity (NameTable.map_eq_self fun entry member => ?_)
      have inside : entry.2.handle ∈ attributes.values.map AttributeInfo.handle :=
        List.mem_map_of_mem (List.mem_map_of_mem member)
      unfold AttributeInfo.rename
      rw [fixed _ (List.mem_append_right _ inside)]
  unfold TypeInfo.rename
  rw [itself, shape]

/-- A function of which all places stay where they are stays as it is. -/
theorem FunctionInfo.rename_eq_self {function : FunctionInfo}
    (fixed : ∀ handle ∈ function.handles, move handle = handle) :
    function.rename move = function := by
  have option : ∀ declared : Option TypeHandle, (∀ handle, declared = some handle →
      move handle = handle) → declared.map move = declared := by
    intro declared stays
    cases declared with
    | none => rfl
    | some handle => exact congrArg some (stays handle rfl)
  have arguments : function.arguments.map (ArgumentInfo.rename move) = function.arguments := by
    refine (List.map_congr_left fun argument member => ?_).trans (List.map_id _)
    unfold ArgumentInfo.rename
    rw [option argument.handle fun handle declared => fixed handle ?_]
    · rfl
    · exact List.mem_append_left _ (List.mem_filterMap.mpr ⟨argument, member, declared⟩)
  unfold FunctionInfo.rename
  rw [arguments, option function.result fun handle declared => fixed handle ?_]
  exact List.mem_append_right _ (Option.mem_toList.mpr declared)

/-! ### Models up to a renaming -/

namespace Model

/-- Renaming the places of the first model gives the second one. -/
structure SameUpTo (move : Equiv.Perm TypeHandle) (first second : Model) : Prop where
  typeAt? : ∀ handle,
    second.typeAt? (move handle) = (first.typeAt? handle).map (TypeInfo.rename move)
  types : second.types = first.types.map (TypeInfo.rename move)
  collectionTypes : second.collectionTypes = first.collectionTypes.map (TypeInfo.rename move)
  /-- Names and tags denote the same types. -/
  handle? : ∀ reference, second.handle? reference = (first.handle? reference).map move
  collectionHandle? : ∀ element,
    second.collectionHandle? (move element) = (first.collectionHandle? element).map move
  functions : second.functions = first.functions.map (FunctionInfo.rename move)
  functionRules : second.functionRules = first.functionRules
  rules : ∀ reference capability,
    second.rules.row? reference capability = first.rules.row? reference capability
  literals : second.literals = first.literals
  serializers : second.serializers = first.serializers

section Renamed

variable {first second : Model} {move : TypeHandle → TypeHandle}

/-- What a reference finds is renamed with the places. -/
theorem resolve?_rename (typeAt? : ∀ handle,
      second.typeAt? (move handle) = (first.typeAt? handle).map (TypeInfo.rename move))
    (handle? : ∀ reference, second.handle? reference = (first.handle? reference).map move)
    (reference : Reference) :
    second.resolve? reference = (first.resolve? reference).map (TypeInfo.rename move) := by
  unfold resolve?
  rw [handle?]
  cases first.handle? reference with
  | none => rfl
  | some handle => exact typeAt? handle

variable (fixed : ∀ handle < first.arena.length, move handle = handle)
include fixed

/-- Where the places of a model stay, its types stay as they are. -/
theorem WellFormed.rename_eq_self (sound : first.WellFormed) {type : TypeInfo}
    (member : type ∈ first.arena) : type.rename move = type := by
  obtain ⟨handle, found⟩ := List.getElem?_of_mem member
  have place : type.handle = handle := sound.handle_eq found
  refine TypeInfo.rename_eq_self ?_ fun kept inside => fixed kept ?_
  · rw [place]
    exact fixed handle (List.getElem?_eq_some_iff.mp found).1
  · obtain ⟨other, there⟩ := sound.typeAt?_of_mem_type member inside
    exact (List.getElem?_eq_some_iff.mp there).1

/-- Where the places of a model stay, its functions stay as they are. -/
theorem WellFormed.rename_function_eq_self (sound : first.WellFormed) {function : FunctionInfo}
    (member : function ∈ first.functions.values) : function.rename move = function := by
  refine FunctionInfo.rename_eq_self fun handle kept => fixed handle ?_
  obtain ⟨type, there⟩ := sound.typeAt?_of_mem_function member kept
  exact (List.getElem?_eq_some_iff.mp there).1

end Renamed

/-- In well-formed models the collections are where their types say they are. -/
theorem collectionHandle?_rename {first second : Model} (sound : first.WellFormed)
    (otherSound : second.WellFormed) {move : Equiv.Perm TypeHandle}
    (typeAt? : ∀ handle,
      second.typeAt? (move handle) = (first.typeAt? handle).map (TypeInfo.rename move))
    (element : TypeHandle) :
    second.collectionHandle? (move element) = (first.collectionHandle? element).map move := by
  cases listed : first.collectionHandle? element with
  | some collection =>
    obtain ⟨type, -, -, there⟩ := sound.paired listed
    have renamed := typeAt? collection
    rw [there] at renamed
    exact otherSound.listed renamed rfl
  | none =>
    refine Option.eq_none_iff_forall_ne_some.mpr fun collection otherListed => ?_
    obtain ⟨type, there, plain, -⟩ := otherSound.paired otherListed
    rw [typeAt?, Option.map_eq_some_iff] at there
    obtain ⟨type, found, rfl⟩ := there
    rw [TypeInfo.isCollection_rename] at plain
    obtain ⟨other, known⟩ := sound.collected found plain
    rw [listed] at known
    cases known

end Model

/-! ### Two blocks of places in the other order -/

/-- The place that a place is moved to when two neighbouring blocks change places. -/
def swapPlace (start first second place : Nat) : Nat :=
  if place < start then place
  else if place < start + first then place + second
  else if place < start + first + second then place - first
  else place

theorem swapPlace_swapPlace (start first second place : Nat) :
    swapPlace start second first (swapPlace start first second place) = place := by
  unfold swapPlace
  split_ifs <;> omega

/-- The exchange of two neighbouring blocks of places, of which the first begins at `start`. -/
def swapBlocks (start first second : Nat) : Equiv.Perm TypeHandle where
  toFun := swapPlace start first second
  invFun := swapPlace start second first
  left_inv := swapPlace_swapPlace start first second
  right_inv := swapPlace_swapPlace start second first

section Swap

variable {start first second : Nat}

theorem swapBlocks_before {place : Nat} (before : place < start) :
    swapBlocks start first second place = place := if_pos before

theorem swapBlocks_first (start second : Nat) {index : Nat} (bound : index < first) :
    swapBlocks start first second (start + index) = start + second + index := by
  show swapPlace start first second _ = _
  unfold swapPlace
  split_ifs <;> omega

theorem swapBlocks_second (start first : Nat) {index : Nat} (bound : index < second) :
    swapBlocks start first second (start + first + index) = start + index := by
  show swapPlace start first second _ = _
  unfold swapPlace
  split_ifs <;> omega

theorem swapBlocks_after {place : Nat} (after : start + first + second ≤ place) :
    swapBlocks start first second place = place := by
  show swapPlace start first second _ = _
  unfold swapPlace
  split_ifs <;> omega

end Swap

end Metamodel
