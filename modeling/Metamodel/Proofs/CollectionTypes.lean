/-
Every type has one collection type, and no model ever has another.

Two attributes that hold collections of the same type hold values of the same type only if there is
one collection type to which both of them point. The table of collections is asked for it wherever a
collection is spoken of, so it has to list each collection in the arena, and no element twice. An
extension asks the table of the model below before it makes a collection. It follows that it makes
them for its own types only, and that a type keeps its collection when another type takes over its
name.
-/

import Metamodel.Proofs.Built
import Mathlib.Data.Set.Function

namespace Metamodel

namespace Model

/-- The types that are no collections, whether or not a name still denotes them. -/
def elementTypes (model : Model) : Set TypeInfo :=
  {type | type ∈ model.arena ∧ type.isCollection = false}

/-- The collection types, whether or not the table of collections lists them. -/
def collectiveTypes (model : Model) : Set TypeInfo :=
  {type | type ∈ model.arena ∧ type.isCollection = true}

/-- The table of collections pairs elements and collections off. -/
structure PairsCollections (model : Model) : Prop where
  bijective : Set.BijOn model.collectionType? model.elementTypes (some '' model.collectiveTypes)
  /-- The collection type of a type is the one with that type as its element. -/
  element : ∀ type collection, model.collectionType? type = some collection ↔
    collection ∈ model.arena ∧ collection.elementHandle? = some type.handle
  /-- There are no two collections of one type. -/
  single : ∀ type ∈ model.elementTypes, ∃! collection,
    collection ∈ model.arena ∧ collection.elementHandle? = some type.handle
  /-- No collection is without an element or has a collection as its element. -/
  inner : ∀ collection ∈ model.collectiveTypes, ∃! type,
    type ∈ model.elementTypes ∧ collection.elementHandle? = some type.handle
  /-- The table lists nothing else. -/
  listed : ∀ element collection, model.collectionHandle? element = some collection →
    (∃ type ∈ model.elementTypes, type.handle = element) ∧
      ∃ type ∈ model.collectiveTypes, type.handle = collection

/-! ### In one model -/

namespace WellFormed

variable {model : Model}

theorem collectionType?_eq_some_iff (sound : model.WellFormed) (type collection : TypeInfo) :
    model.collectionType? type = some collection ↔
      collection ∈ model.arena ∧ collection.elementHandle? = some type.handle := by
  unfold collectionType?
  rw [Option.bind_eq_some_iff]
  constructor
  · intro ⟨handle, listed, found⟩
    obtain ⟨inner, -, -, there⟩ := sound.paired listed
    obtain rfl := Option.some.inj (there.symm.trans found)
    exact ⟨List.mem_of_getElem? found, rfl⟩
  · intro ⟨collectionMember, holds⟩
    have found := sound.typeAt?_of_mem collectionMember
    exact ⟨collection.handle, sound.listed found holds, found⟩

theorem exists_collectionType? (sound : model.WellFormed) {type : TypeInfo}
    (member : type ∈ model.elementTypes) :
    ∃ collection ∈ model.collectiveTypes, model.collectionType? type = some collection := by
  obtain ⟨handle, listed⟩ := sound.collected (sound.typeAt?_of_mem member.1) member.2
  obtain ⟨inner, -, -, there⟩ := sound.paired listed
  refine ⟨_, ⟨List.mem_of_getElem? there, rfl⟩, ?_⟩
  unfold collectionType?
  rw [listed]
  exact there

theorem exists_element (sound : model.WellFormed) {collection : TypeInfo}
    (member : collection ∈ model.collectiveTypes) :
    ∃ type ∈ model.elementTypes, collection.elementHandle? = some type.handle := by
  obtain ⟨element, holds⟩ := collection.isCollection_eq_true_iff.mp member.2
  obtain ⟨inner, inside, plain, -⟩ := sound.eq_collectionOf (sound.typeAt?_of_mem member.1) holds
  refine ⟨inner, ⟨List.mem_of_getElem? inside, plain⟩, ?_⟩
  rw [sound.handle_eq inside]
  exact holds

/-- A handle belongs to one type. -/
theorem eq_of_handle_eq (sound : model.WellFormed) {type other : TypeInfo}
    (member : type ∈ model.arena) (otherMember : other ∈ model.arena)
    (same : type.handle = other.handle) : type = other := by
  have found := sound.typeAt?_of_mem member
  rw [same, sound.typeAt?_of_mem otherMember] at found
  exact (Option.some.inj found).symm

theorem mapsTo_collectionType? (sound : model.WellFormed) :
    Set.MapsTo model.collectionType? model.elementTypes (some '' model.collectiveTypes) := by
  intro type member
  obtain ⟨collection, collective, found⟩ := sound.exists_collectionType? member
  exact ⟨collection, collective, found.symm⟩

theorem injOn_collectionType? (sound : model.WellFormed) :
    Set.InjOn model.collectionType? model.elementTypes := by
  intro type member other otherMember same
  obtain ⟨collection, -, found⟩ := sound.exists_collectionType? member
  have holds := ((sound.collectionType?_eq_some_iff type collection).mp found).2
  have otherHolds :=
    ((sound.collectionType?_eq_some_iff other collection).mp (same.symm.trans found)).2
  exact sound.eq_of_handle_eq member.1 otherMember.1 (Option.some.inj (holds.symm.trans otherHolds))

theorem surjOn_collectionType? (sound : model.WellFormed) :
    Set.SurjOn model.collectionType? model.elementTypes (some '' model.collectiveTypes) := by
  intro found image
  obtain ⟨collection, collective, rfl⟩ := image
  obtain ⟨type, member, holds⟩ := sound.exists_element collective
  refine ⟨type, member, ?_⟩
  exact (sound.collectionType?_eq_some_iff type collection).mpr ⟨collective.1, holds⟩

theorem pairsCollections (sound : model.WellFormed) : model.PairsCollections where
  bijective :=
    ⟨sound.mapsTo_collectionType?, sound.injOn_collectionType?, sound.surjOn_collectionType?⟩
  element := sound.collectionType?_eq_some_iff
  single type member := by
    obtain ⟨collection, -, found⟩ := sound.exists_collectionType? member
    refine ⟨collection, (sound.collectionType?_eq_some_iff type collection).mp found, ?_⟩
    intro other holds
    have otherFound := (sound.collectionType?_eq_some_iff type other).mpr holds
    exact Option.some.inj (otherFound.symm.trans found)
  inner collection member := by
    obtain ⟨type, typeMember, holds⟩ := sound.exists_element member
    refine ⟨type, ⟨typeMember, holds⟩, ?_⟩
    intro other ⟨otherMember, otherHolds⟩
    exact sound.eq_of_handle_eq otherMember.1 typeMember.1
      (Option.some.inj (otherHolds.symm.trans holds))
  listed element collection found := by
    obtain ⟨type, there, plain, collectionThere⟩ := sound.paired found
    exact ⟨⟨type, ⟨List.mem_of_getElem? there, plain⟩, sound.handle_eq there⟩,
      ⟨_, ⟨List.mem_of_getElem? collectionThere, rfl⟩, rfl⟩⟩

end WellFormed

end Model

/-! ### In an extension -/

namespace Draft

/-- The later model has the types of the earlier one with the collections they had, and after them
those that the draft declares, each with a collection of its own. -/
structure ExtendsCollections (draft : Draft) (earlier later : Model) : Prop where
  arena : later.arena = earlier.arena ++ draft.ownTypes ++ draft.ownCollections
  names : draft.ownTypes.map TypeInfo.name = draft.types.items.map TypeDecl.name
  added : List.Forall₂ (fun type collection => later.collectionType? type = some collection)
    draft.ownTypes draft.ownCollections
  kept : ∀ type ∈ earlier.arena, later.collectionType? type = earlier.collectionType? type

variable {draft : Draft}

theorem getElem?_ownCollections (ground : draft.ground.WellFormed) (index : Nat) :
    draft.ownCollections[index]? = (draft.types.items[index]?).map fun decl =>
      .collectionOf (draft.ownHandle (draft.types.size + index)) (draft.ownHandle index)
        decl.name := by
  unfold ownCollections
  rw [List.getElem?_map]
  cases there : draft.types.items[index]? with
  | none =>
    have past : draft.types.size ≤ index := List.getElem?_eq_none_iff.mp there
    rw [collected_eq ground, List.getElem?_map, List.getElem?_eq_none (by simpa using past)]
    rfl
  | some decl =>
    rw [collected_own (List.getElem?_eq_some_iff.mp there).1 ground, Option.map_some,
      nameOf_own there]
    rfl

theorem collectionType?_own (ground : draft.ground.WellFormed) {index : Nat} {decl : TypeDecl}
    (there : draft.types.items[index]? = some decl) :
    draft.skeleton.collectionType? (draft.sealType decl (draft.ownHandle index)) =
      some (.collectionOf (draft.ownHandle (draft.types.size + index)) (draft.ownHandle index)
        decl.name) := by
  show (draft.skeleton.collectionHandle? (draft.ownHandle index)).bind _ = _
  rw [collectionHandle?_own ground (List.getElem?_eq_some_iff.mp there).1]
  exact typeAt?_ownCollection ground there

theorem collectionType?_below (ground : draft.ground.WellFormed) {type : TypeInfo}
    (member : type ∈ draft.ground.arena) :
    draft.skeleton.collectionType? type = draft.ground.collectionType? type := by
  have found := ground.typeAt?_of_mem member
  unfold Model.collectionType?
  rw [collectionHandle?_below ground (List.getElem?_eq_some_iff.mp found).1]
  cases listed : draft.ground.collectionHandle? type.handle with
  | none => rfl
  | some collection =>
    obtain ⟨inner, -, -, there⟩ := ground.paired listed
    exact (Model.typeAt?_of_begins draft.ground_begins there).trans there.symm

theorem extendsCollections_skeleton (ground : draft.ground.WellFormed) :
    draft.ExtendsCollections draft.ground draft.skeleton where
  arena := rfl
  names := map_ownTypes TypeInfo.name TypeDecl.name fun _ _ => rfl
  added := by
    refine List.forall₂_iff_get.mpr ⟨?_, ?_⟩
    · rw [length_ownTypes, length_ownCollections ground]
    · intro index bound collectionBound
      rw [length_ownTypes] at bound
      have there := List.getElem?_eq_getElem bound
      have type := draft.getElem?_ownTypes index
      have collection := getElem?_ownCollections ground index
      rw [there, Option.map_some] at type collection
      obtain ⟨_, typeThere⟩ := List.getElem?_eq_some_iff.mp type
      obtain ⟨_, collectionThere⟩ := List.getElem?_eq_some_iff.mp collection
      rw [List.get_eq_getElem, List.get_eq_getElem, typeThere, collectionThere]
      exact collectionType?_own ground there
  kept _ member := collectionType?_below ground member

end Draft

/-! ### In all models -/

/-- In every model that is ever built, types and their collections are paired off, and every model
built on it keeps the pairs and adds one for each type of its own. -/
theorem Model.Built.collections_single {model : Model} (built : model.Built) :
    model.PairsCollections ∧
      ∀ (draft : Draft) (later : Model), draft.base = some model → draft.build = .ok later →
        draft.ExtendsCollections model later := by
  refine ⟨built.wellFormed.pairsCollections, ?_⟩
  intro draft later standing laterBuilt
  have same : draft.ground = model := Draft.ground_of_standing standing
  have ground : draft.ground.WellFormed := same ▸ built.wellFormed
  obtain ⟨-, rfl⟩ := (Draft.build_eq_ok_iff ground later).mp laterBuilt
  obtain ⟨arena, names, added, kept⟩ := Draft.extendsCollections_skeleton ground
  rw [same] at arena kept
  exact ⟨arena, names, added, kept⟩

theorem Model.Built.household_collections_single :
    Draft.household.assemble.Built ∧ Draft.household.assemble.PairsCollections ∧
      Draft.shelter.ExtendsCollections Draft.household.assemble Draft.shelter.assemble :=
  have single := Model.Built.collections_single Draft.built_household
  ⟨Draft.built_household, single.1, single.2 Draft.shelter _ rfl Draft.build_shelter⟩

end Metamodel
