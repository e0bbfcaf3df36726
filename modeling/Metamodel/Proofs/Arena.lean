/-
The places of a draft's types hold what they were computed for.

The layout computes the place of every type and of every collection before there are any types, and
the assembly then lists the types one after the other. That a type ends up at its place is the
content of this file. Over a well-formed model it is simpler than the layout allows for: every
inherited type has its collection already, so what is added is exactly one collection for each of
the draft's own types, and every place of the new model is an inherited one, that of an own type or
that of the collection of an own type.

The tables are read in the same way: a name, a tag or an element is looked up among the draft's own
types first and else below, which is how references were looked up when they were bound.
-/

import Metamodel.Proofs.Denotation

namespace Metamodel

namespace Draft

variable {draft : Draft}

/-! ### Own types -/

theorem getElem?_ownTypes (index : Nat) :
    draft.ownTypes[index]? =
      draft.types.items[index]?.map fun decl => draft.sealType decl (draft.ownHandle index) := by
  unfold ownTypes
  rw [List.getElem?_map, List.getElem?_zipIdx, Option.map_map, Nat.zero_add]
  rfl

theorem length_ownTypes : draft.ownTypes.length = draft.types.items.length := by
  unfold ownTypes
  rw [List.length_map, List.length_zipIdx]

theorem mem_ownTypes {type : TypeInfo} (member : type ∈ draft.ownTypes) :
    ∃ index decl, draft.types.items[index]? = some decl ∧
      type = draft.sealType decl (draft.ownHandle index) := by
  obtain ⟨index, there⟩ := List.getElem?_of_mem member
  rw [getElem?_ownTypes, Option.map_eq_some_iff] at there
  obtain ⟨decl, declThere, described⟩ := there
  exact ⟨index, decl, declThere, described.symm⟩

theorem ownTypes_mem {index : Nat} {decl : TypeDecl}
    (there : draft.types.items[index]? = some decl) :
    draft.sealType decl (draft.ownHandle index) ∈ draft.ownTypes := by
  refine List.mem_of_getElem? (i := index) ?_
  rw [getElem?_ownTypes, there]
  rfl

/-- What does not depend on the places of the types can be read off their declarations. -/
theorem map_ownTypes {α : Type} (read : TypeInfo → α) (readDecl : TypeDecl → α)
    (same : ∀ decl handle, read (draft.sealType decl handle) = readDecl decl) :
    draft.ownTypes.map read = draft.types.items.map readDecl := by
  refine List.ext_getElem? fun index => ?_
  rw [List.getElem?_map, getElem?_ownTypes, List.getElem?_map, Option.map_map]
  exact congrArg (Option.map · _) (funext fun decl => same decl (draft.ownHandle index))

theorem filterMap_tag_ownTypes :
    draft.ownTypes.filterMap TypeInfo.tag = draft.types.items.filterMap TypeDecl.tag :=
  calc draft.ownTypes.filterMap TypeInfo.tag
    _ = (draft.ownTypes.map TypeInfo.tag).filterMap id := by rw [List.filterMap_map]; rfl
    _ = (draft.types.items.map TypeDecl.tag).filterMap id := by
      rw [map_ownTypes TypeInfo.tag TypeDecl.tag fun decl handle => rfl]
    _ = draft.types.items.filterMap TypeDecl.tag := by rw [List.filterMap_map]; rfl

theorem isCollection_sealType (decl : TypeDecl) (handle : TypeHandle) :
    (draft.sealType decl handle).isCollection = false := by
  unfold TypeInfo.isCollection TypeInfo.kind sealType sealBody
  cases decl.body <;> rfl

theorem enables_sealType (decl : TypeDecl) (handle : TypeHandle) :
    (draft.sealType decl handle).enables = draft.enables decl.name := by
  funext capability
  cases capability <;> rfl

/-! ### Collections that come with the draft -/

/-- The model below has the collections of all its types. -/
theorem uncollected_eq_nil (ground : draft.ground.WellFormed) : draft.uncollected = [] := by
  unfold uncollected
  rw [List.filterMap_eq_nil_iff.mpr]
  · rfl
  · intro reference _
    cases denoted : draft.denote? reference with
    | none => rfl
    | some target =>
      cases holds_of_denote? ground denoted with
      | own bound => rfl
      | inherited found plain =>
        obtain ⟨collection, below⟩ := ground.collected found plain
        simp [below]

theorem collected_eq (ground : draft.ground.WellFormed) :
    draft.collected = (List.range draft.types.size).map .own := by
  unfold collected
  rw [uncollected_eq_nil ground, List.map_nil, List.append_nil]

theorem collected_own {index : Nat} (bound : index < draft.types.items.length)
    (ground : draft.ground.WellFormed) : draft.collected[index]? = some (.own index) := by
  have inRange : index < draft.types.size := bound
  rw [collected_eq ground, List.getElem?_map, List.getElem?_range inRange]
  rfl

theorem length_ownCollections (ground : draft.ground.WellFormed) :
    draft.ownCollections.length = draft.types.items.length := by
  unfold ownCollections
  rw [List.length_map, collected_eq ground, List.length_map, List.length_range]
  rfl

theorem nameOf_own {index : Nat} {decl : TypeDecl}
    (there : draft.types.items[index]? = some decl) : draft.nameOf (.own index) = decl.name := by
  show (draft.types.items[index]?).elim "" TypeDecl.name = decl.name
  rw [there]
  rfl

/-! ### The types of the new model -/

theorem ground_begins : draft.ground.arena <+: draft.skeleton.arena :=
  ⟨draft.ownTypes ++ draft.ownCollections, (List.append_assoc _ _ _).symm⟩

theorem typeAt?_own {index : Nat} {decl : TypeDecl}
    (there : draft.types.items[index]? = some decl) :
    draft.skeleton.typeAt? (draft.ownHandle index) =
      some (draft.sealType decl (draft.ownHandle index)) := by
  have bound : index < draft.ownTypes.length := by
    rw [length_ownTypes]
    exact (List.getElem?_eq_some_iff.mp there).1
  show (draft.ground.arena ++ draft.ownTypes ++ draft.ownCollections)[draft.ownHandle index]? = _
  rw [List.append_assoc, ownHandle, List.getElem?_append_right (Nat.le_add_right _ _),
    Nat.add_sub_cancel_left, List.getElem?_append_left bound, getElem?_ownTypes, there]
  rfl

theorem typeAt?_ownCollection (ground : draft.ground.WellFormed) {index : Nat} {decl : TypeDecl}
    (there : draft.types.items[index]? = some decl) :
    draft.skeleton.typeAt? (draft.ownHandle (draft.types.size + index)) =
      some (.collectionOf (draft.ownHandle (draft.types.size + index)) (draft.ownHandle index)
        decl.name) := by
  have bound : index < draft.types.items.length := (List.getElem?_eq_some_iff.mp there).1
  have place : draft.ownHandle (draft.types.size + index) =
      (draft.ground.arena ++ draft.ownTypes).length + index := by
    rw [List.length_append, length_ownTypes, ownHandle, Keyed.size, Nat.add_assoc]
  show (draft.ground.arena ++ draft.ownTypes ++ draft.ownCollections)[
    draft.ownHandle (draft.types.size + index)]? = _
  rw [place, List.getElem?_append_right (Nat.le_add_right _ _), Nat.add_sub_cancel_left, ← place,
    ownCollections, List.getElem?_map, collected_own bound ground, Option.map_some,
    nameOf_own there]
  rfl

/-- The three ways for a type to be in the new model. -/
inductive Origin (draft : Draft) (handle : TypeHandle) (type : TypeInfo) : Prop
  | inherited (found : draft.ground.typeAt? handle = some type)
  | own {index : Nat} {decl : TypeDecl} (there : draft.types.items[index]? = some decl)
      (place : handle = draft.ownHandle index) (sealed : type = draft.sealType decl handle)
  | collection {index : Nat} {decl : TypeDecl} (there : draft.types.items[index]? = some decl)
      (place : handle = draft.ownHandle (draft.types.size + index))
      (sealed : type = .collectionOf handle (draft.ownHandle index) decl.name)

theorem origin (ground : draft.ground.WellFormed) {handle : TypeHandle} {type : TypeInfo}
    (found : draft.skeleton.typeAt? handle = some type) : draft.Origin handle type := by
  by_cases below : handle < draft.ground.arena.length
  · refine .inherited ?_
    obtain ⟨rest, extended⟩ := draft.ground_begins
    unfold Model.typeAt? at found ⊢
    rwa [← extended, List.getElem?_append_left below] at found
  -- Past the model below come the own types, and past those their collections in the same order.
  obtain ⟨offset, rfl⟩ := Nat.exists_eq_add_of_le (Nat.le_of_not_lt below)
  by_cases own : offset < draft.types.items.length
  · have there := List.getElem?_eq_getElem own
    have same := (typeAt?_own there).symm.trans found
    exact .own there rfl (Option.some.inj same).symm
  obtain ⟨index, rfl⟩ := Nat.exists_eq_add_of_le (Nat.le_of_not_lt own)
  have bound : index < draft.types.items.length := by
    have inside := (List.getElem?_eq_some_iff.mp found).1
    have total : draft.skeleton.arena.length = draft.ground.arena.length +
        draft.types.items.length + draft.types.items.length := by
      show (draft.ground.arena ++ draft.ownTypes ++ draft.ownCollections).length = _
      rw [List.length_append, List.length_append, length_ownTypes, length_ownCollections ground]
    omega
  have there := List.getElem?_eq_getElem bound
  have same := (typeAt?_ownCollection ground there).symm.trans found
  exact .collection there rfl (Option.some.inj same).symm

/-! ### The tables of the new model -/

theorem named_eq : draft.named =
    Keyed.insertAll draft.ground.named
      (draft.ownTypes.map fun type => (type.name, type.handle)) := by
  unfold named Keyed.insertAll
  rw [List.foldl_map]
  rfl

theorem tagged_eq : draft.tagged =
    Keyed.insertAll draft.ground.tagged
      (draft.ownTypes.filterMap fun type => type.tag.map fun tag => (tag, type.handle)) := by
  unfold tagged Keyed.insertAll
  rw [List.foldl_filterMap]
  congr 1
  funext table type
  cases type.tag <;> rfl

theorem collections_eq (ground : draft.ground.WellFormed) : draft.collections =
    Keyed.insertAll draft.ground.collections
      ((List.range draft.types.size).map fun index =>
        (draft.ownHandle index, draft.ownHandle (draft.types.size + index))) := by
  unfold collections Keyed.insertAll
  rw [collected_eq ground, List.foldl_map, List.foldl_map]
  rfl

/-- Looking a name up in the new model is finding what it denotes in the draft. -/
theorem named_get? (name : String) :
    draft.named.get? name = (draft.denote? (.named name)).map draft.handleOf := by
  rw [named_eq]
  cases found : draft.ownIndex? (.named name) with
  | some index =>
    obtain ⟨decl, there, answers⟩ := answers_of_ownIndex? found
    rw [denote?_of_ownIndex? found]
    refine Table.get?_insertAll_of_mem _ ?_ ?_
    · rw [List.map_map, map_ownTypes _ TypeDecl.name fun decl handle => rfl]
      exact draft.types.distinct
    · exact List.mem_map.mpr ⟨_, ownTypes_mem there, congrArg (·, _) answers⟩
  | none =>
    have absent := (ownIndex?_eq_none_iff _).mp found
    rw [denote?_of_absent found, Option.map_map]
    refine (Table.get?_insertAll_of_absent _ ?_).trans Option.map_id'.symm
    intro entry member
    obtain ⟨type, typeMember, rfl⟩ := List.mem_map.mp member
    obtain ⟨index, decl, there, rfl⟩ := mem_ownTypes typeMember
    exact absent decl (List.mem_of_getElem? there)

/-- Looking a tag up in the new model is finding what it denotes in the draft. -/
theorem tagged_get? (unique : draft.UniqueTags) (tag : HostTag) :
    draft.tagged.get? tag = (draft.denote? (.tagged tag)).map draft.handleOf := by
  rw [tagged_eq]
  cases found : draft.ownIndex? (.tagged tag) with
  | some index =>
    obtain ⟨decl, there, answers⟩ := answers_of_ownIndex? found
    have carries : decl.tag = some tag := answers
    rw [denote?_of_ownIndex? found]
    refine Table.get?_insertAll_of_mem _ ?_ ?_
    · have tags : (fun type : TypeInfo => (type.tag.map fun tag => (tag, type.handle)).map
          Prod.fst) = TypeInfo.tag := by
        funext type
        cases type.tag <;> rfl
      rw [List.map_filterMap, tags, filterMap_tag_ownTypes]
      exact unique
    · refine List.mem_filterMap.mpr ⟨_, ownTypes_mem there, ?_⟩
      show decl.tag.map _ = _
      rw [carries]
      rfl
  | none =>
    have absent := (ownIndex?_eq_none_iff _).mp found
    rw [denote?_of_absent found, Option.map_map]
    refine (Table.get?_insertAll_of_absent _ ?_).trans Option.map_id'.symm
    intro entry member same
    obtain ⟨type, typeMember, listed⟩ := List.mem_filterMap.mp member
    obtain ⟨index, decl, there, rfl⟩ := mem_ownTypes typeMember
    obtain ⟨other, carries, rfl⟩ := Option.map_eq_some_iff.mp listed
    exact absent decl (List.mem_of_getElem? there) (same ▸ carries)

theorem handle?_skeleton (unique : draft.UniqueTags) (reference : Reference) :
    draft.skeleton.handle? reference = (draft.denote? reference).map draft.handleOf := by
  cases reference with
  | named name => exact named_get? name
  | tagged tag => exact tagged_get? unique tag

/-- What the tables of the new model list under a reference is an own type that answers to it, or
what the model below has there. -/
theorem handle?_cases (unique : draft.UniqueTags) {reference : Reference} {handle : TypeHandle}
    (found : draft.skeleton.handle? reference = some handle) :
    draft.ground.handle? reference = some handle ∨
      ∃ index decl, draft.types.items[index]? = some decl ∧ decl.AnswersTo reference ∧
        handle = draft.ownHandle index := by
  rw [handle?_skeleton unique] at found
  cases ownIndex : draft.ownIndex? reference with
  | some index =>
    obtain ⟨decl, there, answers⟩ := answers_of_ownIndex? ownIndex
    rw [denote?_of_ownIndex? ownIndex] at found
    exact Or.inr ⟨index, decl, there, answers, (Option.some.inj found).symm⟩
  | none =>
    rw [denote?_of_absent ownIndex, Option.map_map] at found
    obtain ⟨other, below, rfl⟩ := Option.map_eq_some_iff.mp found
    exact Or.inl below

theorem collectionHandle?_own (ground : draft.ground.WellFormed) {index : Nat}
    (bound : index < draft.types.items.length) :
    draft.skeleton.collectionHandle? (draft.ownHandle index) =
      some (draft.ownHandle (draft.types.size + index)) := by
  show draft.collections.get? _ = _
  rw [collections_eq ground]
  refine Table.get?_insertAll_of_mem _ ?_ (List.mem_map.mpr ⟨index, List.mem_range.mpr bound, rfl⟩)
  rw [List.map_map]
  exact List.nodup_range.map fun first second same => Nat.add_left_cancel same

theorem collectionHandle?_below (ground : draft.ground.WellFormed) {handle : TypeHandle}
    (below : handle < draft.ground.arena.length) :
    draft.skeleton.collectionHandle? handle = draft.ground.collectionHandle? handle := by
  show draft.collections.get? _ = _
  rw [collections_eq ground]
  refine Table.get?_insertAll_of_absent _ ?_
  intro entry member same
  obtain ⟨index, -, rfl⟩ := List.mem_map.mp member
  have place : draft.ground.arena.length + index = handle := same
  exact absurd below (Nat.not_lt.mpr (place ▸ Nat.le_add_right _ _))

/-- An element of the new model is an own type, or it had its collection below. -/
theorem collectionHandle?_cases (ground : draft.ground.WellFormed) {element collection : TypeHandle}
    (found : draft.skeleton.collectionHandle? element = some collection) :
    draft.ground.collectionHandle? element = some collection ∨
      ∃ index decl, draft.types.items[index]? = some decl ∧ element = draft.ownHandle index ∧
        collection = draft.ownHandle (draft.types.size + index) := by
  by_cases own : ∃ index < draft.types.items.length, element = draft.ownHandle index
  · obtain ⟨index, bound, rfl⟩ := own
    rw [collectionHandle?_own ground bound] at found
    exact Or.inr ⟨index, _, List.getElem?_eq_getElem bound, rfl, (Option.some.inj found).symm⟩
  · refine Or.inl ?_
    rw [← found]
    symm
    show draft.collections.get? _ = _
    rw [collections_eq ground]
    refine Table.get?_insertAll_of_absent _ ?_
    intro entry member same
    obtain ⟨index, bound, rfl⟩ := List.mem_map.mp member
    exact own ⟨index, List.mem_range.mp bound, same.symm⟩

/-! ### What is at the place of a denotation -/

theorem typeAt?_handleOf {target : Denotation} (holds : draft.Holds target) :
    ∃ type, draft.skeleton.typeAt? (draft.handleOf target) = some type ∧
      type.isCollection = false ∧ type.name = draft.nameOf target := by
  cases holds with
  | own bound =>
    have there := List.getElem?_eq_getElem bound
    exact ⟨_, typeAt?_own there, isCollection_sealType _ _, (nameOf_own there).symm⟩
  | @inherited handle type found plain =>
    refine ⟨type, Model.typeAt?_of_begins draft.ground_begins found, plain, ?_⟩
    show _ = (draft.ground.typeAt? handle).elim "" TypeInfo.display
    rw [found]
    exact (TypeInfo.display_of_plain plain).symm

theorem collectionHandle?_handleOf (ground : draft.ground.WellFormed) {target : Denotation}
    (holds : draft.Holds target) :
    draft.skeleton.collectionHandle? (draft.handleOf target) =
      some (draft.collectionHandleOf target) := by
  cases holds with
  | own bound => exact collectionHandle?_own ground bound
  | @inherited handle type found plain =>
    obtain ⟨collection, below⟩ := ground.collected found plain
    show draft.skeleton.collectionHandle? handle = some (draft.collectionHandleOf _)
    rw [collectionHandle?_below ground (List.getElem?_eq_some_iff.mp found).1, collectionHandleOf,
      below]

/-! ### What the new model resolves -/

theorem resolve?_eq_none_iff (ground : draft.ground.WellFormed) (unique : draft.UniqueTags)
    (reference : Reference) :
    draft.skeleton.resolve? reference = none ↔ ¬ draft.Knows reference := by
  rw [← denote?_eq_none_iff ground]
  unfold Model.resolve?
  rw [handle?_skeleton unique]
  cases denoted : draft.denote? reference with
  | none => simp
  | some target =>
    obtain ⟨type, found, -⟩ := typeAt?_handleOf (holds_of_denote? ground denoted)
    simp [found]

/-- What the new model resolves a reference to is what the draft has to offer under it. -/
theorem offers_of_resolve? (ground : draft.ground.WellFormed) (unique : draft.UniqueTags)
    {reference : Reference} {type : TypeInfo}
    (resolved : draft.skeleton.resolve? reference = some type) :
    draft.Offers reference type.name type.enables := by
  unfold Model.resolve? at resolved
  rw [handle?_skeleton unique] at resolved
  cases found : draft.ownIndex? reference with
  | some index =>
    obtain ⟨decl, there, answers⟩ := answers_of_ownIndex? found
    rw [denote?_of_ownIndex? found] at resolved
    obtain rfl := Option.some.inj ((typeAt?_own there).symm.trans resolved)
    rw [enables_sealType]
    exact .own (List.mem_of_getElem? there) answers
  | none =>
    rw [denote?_of_absent found] at resolved
    refine .inherited ((ownIndex?_eq_none_iff reference).mp found) ?_
    unfold Model.resolve?
    cases below : draft.ground.handle? reference with
    | none => rw [below] at resolved; cases resolved
    | some handle =>
      obtain ⟨other, there, -⟩ := ground.typeAt?_of_handle? below
      rw [below] at resolved
      have later := Model.typeAt?_of_begins draft.ground_begins there
      exact there.trans (later.symm.trans resolved)

end Draft

end Metamodel
