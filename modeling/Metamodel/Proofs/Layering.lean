/-
The types and functions of a model do not depend on how it was built up.

When a draft is built on the model of another one, its types stand after those of the other one and
after their collections. When the two are built as one draft, the types of both come first and the
collections of both come after them. So the second draft's types and the first draft's collections
have changed places, and that is all. A reference in the second draft finds the type above or the
type below, a reference in the first one finds what it found, and the slots made of them differ in
places only.
-/

import Metamodel.Proofs.CollectionTypes
import Metamodel.Proofs.Renaming
import Metamodel.Proofs.Together

namespace Metamodel

namespace Draft

/-! ### Sealing under a renaming -/

section Sealing

variable {draft other : Draft} {move : TypeHandle → TypeHandle}

theorem sealAttribute?_rename {decl : AttributeDecl}
    (slot : other.slot? decl.type decl.collection =
      (draft.slot? decl.type decl.collection).map (Slot.rename move)) :
    other.sealAttribute? decl =
      (draft.sealAttribute? decl).map (AttributeInfo.rename move) := by
  unfold sealAttribute?
  rw [slot, Option.map_map, Option.map_map]
  rfl

theorem sealType_rename {decl : TypeDecl} (slots : ∀ info ∈ decl.attributes,
      other.slot? info.type info.collection =
        (draft.slot? info.type info.collection).map (Slot.rename move))
    (enables : other.enables decl.name = draft.enables decl.name) (handle : TypeHandle) :
    other.sealType decl (move handle) = (draft.sealType decl handle).rename move := by
  have operators : (other.operators.get? decl.name).getD .empty =
      (draft.operators.get? decl.name).getD .empty :=
    congrArg CapabilitySet.mk (funext fun operator => congrFun enables (.operator operator))
  have predicates : (other.predicates.get? decl.name).getD .empty =
      (draft.predicates.get? decl.name).getD .empty :=
    congrArg CapabilitySet.mk (funext fun predicate => congrFun enables (.predicate predicate))
  have body : other.sealBody decl.body = (draft.sealBody decl.body).rename move := by
    unfold sealBody
    unfold TypeDecl.attributes at slots
    cases made : decl.body with
    | basic => rfl
    | enum enum => rfl
    | entity entity =>
      rw [made] at slots
      refine congrArg Shape.entity ?_
      rw [NameTable.map_ofList, List.map_map]
      refine congrArg (NameTable.ofList entity.casing) ?_
      have renamed : entity.attributes.items.filterMap other.sealAttribute? =
          (entity.attributes.items.filterMap draft.sealAttribute?).map
            (AttributeInfo.rename move) := by
        rw [List.map_filterMap]
        exact List.filterMap_congr fun info inside => sealAttribute?_rename (slots info inside)
      rw [renamed, List.map_map]
      rfl
  unfold sealType TypeInfo.rename
  rw [operators, predicates, body]

theorem sealFunction_rename {decl : FunctionDecl}
    (arguments : ∀ argument ∈ decl.arguments,
      other.argumentSlot? argument.type argument.collection =
        (draft.argumentSlot? argument.type argument.collection).map (Slot.rename move))
    (result : other.argumentSlot? decl.result decl.resultCollection =
      (draft.argumentSlot? decl.result decl.resultCollection).map (Slot.rename move)) :
    other.sealFunction decl = (draft.sealFunction decl).rename move := by
  have sealed : (decl.arguments.zipIdx.map fun pair => other.sealArgument pair.1 pair.2) =
      (decl.arguments.zipIdx.map fun pair =>
        draft.sealArgument pair.1 pair.2).map (ArgumentInfo.rename move) := by
    rw [List.map_map]
    refine List.map_congr_left fun pair member => ?_
    have slot := arguments pair.1 (List.fst_mem_of_mem_zipIdx member)
    unfold Function.comp sealArgument ArgumentInfo.rename
    simp only [slot, Option.map_map]
    rfl
  unfold sealFunction FunctionInfo.rename
  simp only [sealed, result, Option.map_map]
  rfl

theorem argumentSlot?_rename {declared : Option Reference} {collection : Bool}
    (slot : ∀ reference, declared = some reference → other.slot? reference collection =
      (draft.slot? reference collection).map (Slot.rename move)) :
    other.argumentSlot? declared collection =
      (draft.argumentSlot? declared collection).map (Slot.rename move) := by
  cases declared with
  | none => rfl
  | some reference => exact slot reference rfl

/-- The tables of names and tags are seen from the slots. -/
theorem handle?_rename (unique : draft.UniqueTags) (otherUnique : other.UniqueTags)
    {reference : Reference} (slot : other.slot? reference false =
      (draft.slot? reference false).map (Slot.rename move)) :
    other.skeleton.handle? reference = (draft.skeleton.handle? reference).map move := by
  have handles := congrArg (Option.map Slot.handle) slot
  unfold slot? at handles
  rw [Option.map_map, Option.map_map, Option.map_map] at handles
  rw [handle?_skeleton unique, handle?_skeleton otherUnique, Option.map_map]
  exact handles

end Sealing

/-! ### Places -/

theorem collectionHandleOf_inherited {draft : Draft} {handle collection : TypeHandle}
    (listed : draft.ground.collectionHandle? handle = some collection) :
    draft.collectionHandleOf (.inherited handle) = collection := by
  unfold collectionHandleOf
  dsimp only
  rw [listed]

theorem nameOf_inherited {draft : Draft} {handle : TypeHandle} {type : TypeInfo}
    (found : draft.ground.typeAt? handle = some type) (plain : type.isCollection = false) :
    draft.nameOf (.inherited handle) = type.name := by
  show (draft.ground.typeAt? handle).elim "" TypeInfo.display = type.name
  rw [found]
  exact TypeInfo.display_of_plain plain

theorem length_arena (draft : Draft) (ground : draft.ground.WellFormed) :
    draft.assemble.arena.length =
      draft.ground.arena.length + draft.types.size + draft.types.size := by
  show (draft.ground.arena ++ draft.ownTypes ++ draft.ownCollections).length = _
  rw [List.length_append, List.length_append, length_ownTypes, length_ownCollections ground]
  rfl

/-- The collections of the first draft change places with the types of the second one. -/
def exchange (first second : Draft) : Equiv.Perm TypeHandle :=
  swapBlocks (first.ownHandle first.types.size) first.types.size second.types.size

namespace Layered

variable {first second : Draft}

theorem size_together (layered : Layered first second) :
    (first.together second).types.size = first.types.size + second.types.size := by
  unfold Keyed.size
  rw [layered.types_together, List.length_append]

theorem getElem?_types_together (layered : Layered first second) {index : Nat} {decl : TypeDecl}
    (there : first.types.items[index]? = some decl) :
    (first.together second).types.items[index]? = some decl := by
  rw [layered.types_together, List.getElem?_append_left (List.getElem?_eq_some_iff.mp there).1]
  exact there

theorem getElem?_types_above (layered : Layered first second) (index : Nat) :
    (first.together second).types.items[first.types.size + index]? =
      second.types.items[index]? := by
  rw [layered.types_together, Keyed.size, List.getElem?_append_right (Nat.le_add_right _ _),
    Nat.add_sub_cancel_left]

theorem ownHandle_together (first second : Draft) (index : Nat) :
    (first.together second).ownHandle index = first.ownHandle index := by
  unfold ownHandle
  rw [ground_together]

theorem ownHandle_above (layered : Layered first second) (index : Nat) :
    second.ownHandle index = first.ownHandle (first.types.size + first.types.size + index) := by
  unfold ownHandle
  rw [layered.ground_eq, length_arena first layered.wellFormed]
  simp only [Nat.add_assoc]

theorem exchange_ground {handle : TypeHandle} (below : handle < first.ground.arena.length) :
    first.exchange second handle = handle :=
  swapBlocks_before (Nat.lt_add_right _ below)

theorem exchange_own {index : Nat} (bound : index < first.types.size) :
    first.exchange second (first.ownHandle index) =
      (first.together second).ownHandle index := by
  rw [ownHandle_together]
  exact swapBlocks_before (Nat.add_lt_add_left bound _)

theorem exchange_collection (layered : Layered first second) {index : Nat}
    (bound : index < first.types.size) :
    first.exchange second (first.ownHandle (first.types.size + index)) =
      (first.together second).ownHandle ((first.together second).types.size + index) := by
  rw [ownHandle_together, layered.size_together]
  unfold ownHandle
  have moved := swapBlocks_first (first.ownHandle first.types.size) second.types.size bound
  simp only [ownHandle, Nat.add_assoc] at moved ⊢
  exact moved

theorem exchange_above (layered : Layered first second) {index : Nat}
    (bound : index < second.types.size) :
    first.exchange second (second.ownHandle index) =
      (first.together second).ownHandle (first.types.size + index) := by
  rw [ownHandle_together, layered.ownHandle_above]
  have moved := swapBlocks_second (first.ownHandle first.types.size) first.types.size bound
  simp only [exchange, ownHandle, Nat.add_assoc] at moved ⊢
  exact moved

theorem exchange_collectionAbove (layered : Layered first second) (index : Nat) :
    first.exchange second (second.ownHandle (second.types.size + index)) =
      (first.together second).ownHandle
        ((first.together second).types.size + (first.types.size + index)) := by
  rw [ownHandle_together, layered.ownHandle_above, layered.size_together]
  refine (swapBlocks_after ?_).trans ?_
  · simp only [ownHandle, Nat.add_assoc, Nat.add_le_add_iff_left, Nat.le_add_right]
  · unfold ownHandle
    congr 1
    omega

/-! ### References -/

theorem ownIndex?_together (layered : Layered first second) (reference : Reference) :
    (first.together second).ownIndex? reference = (first.ownIndex? reference).or
      ((second.ownIndex? reference).map fun index => first.types.size + index) := by
  have appended : ∀ wanted : TypeDecl → Bool,
      (first.together second).types.items.findIdx? wanted =
        (first.types.items.findIdx? wanted).or
          ((second.types.items.findIdx? wanted).map fun index => first.types.size + index) := by
    intro wanted
    rw [layered.types_together, List.findIdx?_append]
    simp only [Nat.add_comm, Keyed.size]
  cases reference <;> exact appended _

theorem denote?_together_of_foreign (layered : Layered first second) {reference : Reference}
    (foreign : ¬ second.Owns reference) :
    (first.together second).denote? reference = first.denote? reference := by
  have above := (ownIndex?_eq_none_iff reference).mpr fun decl member answers =>
    foreign ⟨decl, member, answers⟩
  unfold denote?
  rw [layered.ownIndex?_together, above, Option.map_none, Option.or_none, ground_together]

theorem denote?_above_of_foreign (layered : Layered first second) {reference : Reference}
    (foreign : ¬ second.Owns reference) :
    second.denote? reference =
      (first.denote? reference).map fun target => .inherited (first.handleOf target) := by
  have above := (ownIndex?_eq_none_iff reference).mpr fun decl member answers =>
    foreign ⟨decl, member, answers⟩
  rw [denote?_of_absent above, layered.ground_eq]
  show (first.skeleton.handle? reference).map _ = _
  rw [handle?_skeleton layered.buildable.tags, Option.map_map]
  rfl

/-! ### Slots -/

/-- Seen from above, a type of the first draft is an inherited one. -/
theorem collectionHandleOf_above (layered : Layered first second) {target : Denotation}
    (holds : first.Holds target) :
    second.collectionHandleOf (.inherited (first.handleOf target)) =
      first.collectionHandleOf target := by
  refine collectionHandleOf_inherited ?_
  rw [layered.ground_eq]
  exact collectionHandle?_handleOf layered.wellFormed holds

theorem nameOf_above (layered : Layered first second) {target : Denotation}
    (holds : first.Holds target) :
    second.nameOf (.inherited (first.handleOf target)) = first.nameOf target := by
  obtain ⟨type, found, plain, name⟩ := typeAt?_handleOf holds
  rw [← name]
  refine nameOf_inherited ?_ plain
  rw [layered.ground_eq]
  exact found

theorem slot?_above (layered : Layered first second) {reference : Reference}
    (foreign : ¬ second.Owns reference) (collection : Bool) :
    second.slot? reference collection = first.slot? reference collection := by
  unfold slot?
  rw [layered.denote?_above_of_foreign foreign, Option.map_map]
  cases denoted : first.denote? reference with
  | none => rfl
  | some target =>
    have holds := holds_of_denote? layered.wellFormed denoted
    rw [Option.map_some, Option.map_some, Function.comp_apply,
      layered.collectionHandleOf_above holds, layered.nameOf_above holds]
    rfl

/-- In the one draft, a type of the first draft or below has the place it had, and its collection
the place that is exchanged for it. -/
theorem places_together (layered : Layered first second) {target : Denotation}
    (holds : first.Holds target) :
    (first.together second).handleOf target =
        first.exchange second (first.handleOf target) ∧
      (first.together second).collectionHandleOf target =
        first.exchange second (first.collectionHandleOf target) ∧
      (first.together second).nameOf target = first.nameOf target := by
  cases holds with
  | @own index bound =>
    have there := List.getElem?_eq_getElem bound
    refine ⟨(exchange_own bound).symm, (layered.exchange_collection bound).symm, ?_⟩
    rw [nameOf_own there, nameOf_own (layered.getElem?_types_together there)]
  | @inherited handle type found plain =>
    obtain ⟨collection, below⟩ := layered.wellFormed.collected found plain
    obtain ⟨_, -, -, there⟩ := layered.wellFormed.paired below
    refine ⟨(exchange_ground (List.getElem?_eq_some_iff.mp found).1).symm, ?_, ?_⟩
    · rw [collectionHandleOf_inherited below,
        exchange_ground (List.getElem?_eq_some_iff.mp there).1]
      refine collectionHandleOf_inherited ?_
      rw [ground_together]
      exact below
    · rw [nameOf_inherited found plain]
      refine nameOf_inherited ?_ plain
      rw [ground_together]
      exact found

theorem slot?_together_of_foreign (layered : Layered first second) {reference : Reference}
    (foreign : ¬ second.Owns reference) (collection : Bool) :
    (first.together second).slot? reference collection =
      (first.slot? reference collection).map (Slot.rename (first.exchange second)) := by
  unfold slot?
  rw [layered.denote?_together_of_foreign foreign, Option.map_map]
  cases denoted : first.denote? reference with
  | none => rfl
  | some target =>
    obtain ⟨handle, collectionHandle, name⟩ :=
      layered.places_together (holds_of_denote? layered.wellFormed denoted)
    rw [Option.map_some, Option.map_some, handle, collectionHandle, name]
    cases collection <;> rfl

theorem slot?_together_of_owns (layered : Layered first second) {reference : Reference}
    (own : second.Owns reference) (collection : Bool) :
    (first.together second).slot? reference collection =
      (second.slot? reference collection).map (Slot.rename (first.exchange second)) := by
  have below := (ownIndex?_eq_none_iff reference).mpr fun decl member answers =>
    layered.not_owns reference own ⟨decl, member, answers⟩
  have together := layered.ownIndex?_together reference
  rw [below, Option.none_or] at together
  cases above : second.ownIndex? reference with
  | none =>
    obtain ⟨decl, member, answers⟩ := own
    exact absurd answers ((ownIndex?_eq_none_iff reference).mp above decl member)
  | some index =>
    rw [above, Option.map_some] at together
    obtain ⟨decl, there, -⟩ := answers_of_ownIndex? above
    have bound : index < second.types.size := (List.getElem?_eq_some_iff.mp there).1
    have name : (first.together second).nameOf (.own (first.types.size + index)) =
        second.nameOf (.own index) := by
      rw [nameOf_own there, nameOf_own ((layered.getElem?_types_above index).trans there)]
    unfold slot?
    rw [denote?_of_ownIndex? above, denote?_of_ownIndex? together, Option.map_some,
      Option.map_some, Option.map_some, name]
    cases collection with
    | false =>
      exact congrArg (fun handle => some (Slot.mk handle _ _)) (layered.exchange_above bound).symm
    | true =>
      exact congrArg (fun handle => some (Slot.mk handle _ _))
        (layered.exchange_collectionAbove index).symm

/-- Whatever a reference comes to above, it comes to the same in the one draft. -/
theorem slot?_together (layered : Layered first second) (reference : Reference)
    (collection : Bool) :
    (first.together second).slot? reference collection =
      (second.slot? reference collection).map (Slot.rename (first.exchange second)) := by
  by_cases own : second.Owns reference
  · exact layered.slot?_together_of_owns own collection
  · rw [layered.slot?_above own, layered.slot?_together_of_foreign own]

/-- Whatever a reference of the first draft comes to below, it comes to the same in the one draft.
-/
theorem slot?_together_of_knows (layered : Layered first second) {reference : Reference}
    (known : first.Knows reference) (collection : Bool) :
    (first.together second).slot? reference collection =
      (first.slot? reference collection).map (Slot.rename (first.exchange second)) :=
  layered.slot?_together_of_foreign (fun own => layered.apart reference own known) collection

theorem handle?_together (layered : Layered first second) (unique : second.UniqueTags)
    (reference : Reference) :
    (first.together second).skeleton.handle? reference =
      (second.skeleton.handle? reference).map (first.exchange second) :=
  handle?_rename unique (layered.uniqueTags_together_iff.mpr unique)
    (layered.slot?_together reference false)

/-! ### Types -/

theorem sealType_below (layered : Layered first second) {decl : TypeDecl}
    (member : decl ∈ first.types.items) (handle : TypeHandle) :
    (first.together second).sealType decl (first.exchange second handle) =
      (first.sealType decl handle).rename (first.exchange second) :=
  sealType_rename (fun info inside => layered.slot?_together_of_knows
    (layered.buildable.attributeTypes decl member info inside) info.collection)
    (layered.enables_below member) handle

theorem sealType_above (layered : Layered first second) {decl : TypeDecl}
    (member : decl ∈ second.types.items) (handle : TypeHandle) :
    (first.together second).sealType decl (first.exchange second handle) =
      (second.sealType decl handle).rename (first.exchange second) :=
  sealType_rename (fun info _ => layered.slot?_together info.type info.collection)
    (layered.enables_own member) handle

theorem rename_ground (layered : Layered first second) {type : TypeInfo}
    (member : type ∈ first.ground.arena) : type.rename (first.exchange second) = type :=
  layered.wellFormed.rename_eq_self (fun _ => exchange_ground) member

/-- The types of the model above stand, renamed, at the exchanged places of the one model. -/
theorem typeAt?_exchange (layered : Layered first second) {handle : TypeHandle} {type : TypeInfo}
    (found : second.skeleton.typeAt? handle = some type) :
    (first.together second).skeleton.typeAt? (first.exchange second handle) =
      some (type.rename (first.exchange second)) := by
  have ground := layered.wellFormed_together
  cases origin layered.wellFormed_above found with
  | inherited below =>
    rw [layered.ground_eq] at below
    cases origin layered.wellFormed below with
    | inherited ground =>
      rw [exchange_ground (List.getElem?_eq_some_iff.mp ground).1,
        layered.rename_ground (List.mem_of_getElem? ground)]
      rw [← ground_together first second] at ground
      exact Model.typeAt?_of_begins (first.together second).ground_begins ground
    | own there place made =>
      have bound := (List.getElem?_eq_some_iff.mp there).1
      rw [made, ← layered.sealType_below (List.mem_of_getElem? there), place, exchange_own bound]
      exact typeAt?_own (layered.getElem?_types_together there)
    | collection there place made =>
      have bound := (List.getElem?_eq_some_iff.mp there).1
      rw [made, place, TypeInfo.rename_collectionOf, layered.exchange_collection bound,
        exchange_own bound]
      exact typeAt?_ownCollection ground (layered.getElem?_types_together there)
  | own there place made =>
    have bound := (List.getElem?_eq_some_iff.mp there).1
    rw [made, ← layered.sealType_above (List.mem_of_getElem? there), place,
      layered.exchange_above bound]
    exact typeAt?_own ((layered.getElem?_types_above _).trans there)
  | collection there place made =>
    have bound := (List.getElem?_eq_some_iff.mp there).1
    rw [made, place, TypeInfo.rename_collectionOf, layered.exchange_collectionAbove,
      layered.exchange_above bound]
    exact typeAt?_ownCollection ground ((layered.getElem?_types_above _).trans there)

theorem typeAt?_together (layered : Layered first second) (handle : TypeHandle) :
    (first.together second).skeleton.typeAt? (first.exchange second handle) =
      (second.skeleton.typeAt? handle).map (TypeInfo.rename (first.exchange second)) := by
  cases found : second.skeleton.typeAt? handle with
  | some type => exact layered.typeAt?_exchange found
  | none =>
    have above : second.skeleton.arena.length = _ := length_arena second layered.wellFormed_above
    have together : (first.together second).skeleton.arena.length = _ :=
      length_arena _ layered.wellFormed_together
    rw [layered.ground_eq, length_arena first layered.wellFormed] at above
    rw [ground_together, layered.size_together] at together
    have past : second.skeleton.arena.length ≤ handle := List.getElem?_eq_none_iff.mp found
    have stays : first.exchange second handle = handle :=
      swapBlocks_after (by simp only [ownHandle]; omega)
    rw [stays]
    exact List.getElem?_eq_none_iff.mpr (by omega)

/-- A list that lists one thing after another. -/
theorem eq_map_append {α β : Type} {f : α → β} {below above : List α} {together : List β}
    (before : ∀ index < below.length, together[index]? = below[index]?.map f)
    (after : ∀ index, together[below.length + index]? = above[index]?.map f) :
    together = (below ++ above).map f := by
  refine List.ext_getElem? fun index => ?_
  rw [List.getElem?_map]
  by_cases inside : index < below.length
  · rw [List.getElem?_append_left inside, before index inside]
  · obtain ⟨rest, rfl⟩ := Nat.exists_eq_add_of_le (Nat.le_of_not_lt inside)
    rw [List.getElem?_append_right (Nat.le_add_right _ _), Nat.add_sub_cancel_left, after]

theorem ownTypes_together (layered : Layered first second) : (first.together second).ownTypes =
    (first.ownTypes ++ second.ownTypes).map (TypeInfo.rename (first.exchange second)) := by
  refine eq_map_append ?_ ?_ <;> rw [length_ownTypes]
  · intro index bound
    have there := List.getElem?_eq_getElem bound
    rw [getElem?_ownTypes, getElem?_ownTypes, there, layered.getElem?_types_together there,
      Option.map_some, Option.map_some, Option.map_some,
      ← layered.sealType_below (List.getElem_mem bound), exchange_own bound]
  · intro index
    rw [getElem?_ownTypes, getElem?_ownTypes, ← Keyed.size, layered.getElem?_types_above,
      Option.map_map]
    cases there : second.types.items[index]? with
    | none => rfl
    | some decl =>
      have bound := (List.getElem?_eq_some_iff.mp there).1
      rw [Option.map_some, Option.map_some, Function.comp_apply,
        ← layered.sealType_above (List.mem_of_getElem? there), layered.exchange_above bound]

theorem ownCollections_together (layered : Layered first second) :
    (first.together second).ownCollections =
      (first.ownCollections ++ second.ownCollections).map
        (TypeInfo.rename (first.exchange second)) := by
  refine eq_map_append ?_ ?_ <;> rw [length_ownCollections layered.wellFormed]
  · intro index bound
    have there := List.getElem?_eq_getElem bound
    rw [getElem?_ownCollections layered.wellFormed_together,
      getElem?_ownCollections layered.wellFormed, there, layered.getElem?_types_together there,
      Option.map_some, Option.map_some, Option.map_some, TypeInfo.rename_collectionOf,
      layered.exchange_collection bound, exchange_own bound]
  · intro index
    rw [getElem?_ownCollections layered.wellFormed_together,
      getElem?_ownCollections layered.wellFormed_above, ← Keyed.size,
      layered.getElem?_types_above, Option.map_map]
    cases there : second.types.items[index]? with
    | none => rfl
    | some decl =>
      have bound := (List.getElem?_eq_some_iff.mp there).1
      rw [Option.map_some, Option.map_some, Function.comp_apply, TypeInfo.rename_collectionOf,
        layered.exchange_collectionAbove, layered.exchange_above bound]

end Layered

/-! ### Tables -/

/-- The collections of a model are those below and then the draft's own. -/
theorem collectionTypes_skeleton {draft : Draft} (ground : draft.ground.WellFormed) :
    draft.skeleton.collectionTypes = draft.ground.collectionTypes ++ draft.ownCollections := by
  have fresh : ((draft.ground.collections.items ++ (List.range draft.types.size).map fun index =>
      (draft.ownHandle index, draft.ownHandle (draft.types.size + index))).map Prod.fst).Nodup := by
    rw [List.map_append, List.map_map]
    refine List.nodup_append.mpr ⟨draft.ground.collections.distinct,
      List.nodup_range.map fun _ _ same => Nat.add_left_cancel same, ?_⟩
    intro element below other above same
    obtain ⟨collection, listed⟩ := draft.ground.collections.get?_of_mem_keys below
    obtain ⟨type, found, -⟩ := ground.paired listed
    obtain ⟨index, -, rfl⟩ := List.mem_map.mp above
    have bound := (List.getElem?_eq_some_iff.mp found).1
    rw [same] at bound
    exact absurd bound (Nat.not_lt.mpr (Nat.le_add_right _ index))
  have items := (congrArg Keyed.items (collections_eq ground)).trans
    (Keyed.items_insertAll _ fresh)
  show (draft.collections.items.map Prod.snd).filterMap draft.skeleton.typeAt? = _
  rw [items, List.map_append, List.filterMap_append, List.map_map]
  congr 1
  · refine List.filterMap_congr fun collection member => ?_
    obtain ⟨element, listed⟩ := draft.ground.collections.get?_of_mem_values member
    obtain ⟨_, -, -, there⟩ := ground.paired listed
    exact (Model.typeAt?_of_begins draft.ground_begins there).trans there.symm
  · rw [List.filterMap_map]
    unfold ownCollections
    rw [collected_eq ground, List.map_map, ← List.filterMap_eq_map]
    refine List.filterMap_congr fun index inRange => ?_
    have there := List.getElem?_eq_getElem (List.mem_range.mp inRange)
    show draft.skeleton.typeAt? (draft.ownHandle (draft.types.size + index)) = _
    rw [typeAt?_ownCollection ground there, ← nameOf_own there]
    rfl

namespace Layered

variable {first second : Draft}

theorem collectionTypes_together (layered : Layered first second) :
    (first.together second).skeleton.collectionTypes =
      second.skeleton.collectionTypes.map (TypeInfo.rename (first.exchange second)) := by
  have stay : first.ground.collectionTypes.map (TypeInfo.rename (first.exchange second)) =
      first.ground.collectionTypes := by
    refine (List.map_congr_left fun type member => ?_).trans (List.map_id _)
    exact layered.rename_ground (mem_arena_of_mem_types (List.mem_append_right _ member))
  rw [collectionTypes_skeleton layered.wellFormed_together, ground_together,
    layered.ownCollections_together, collectionTypes_skeleton layered.wellFormed_above,
    layered.ground_eq]
  show _ = (first.skeleton.collectionTypes ++ _).map _
  rw [collectionTypes_skeleton layered.wellFormed, List.map_append, List.map_append,
    List.map_append, stay, List.append_assoc]

/-- The types of the second draft come after those below and take no place of theirs. -/
theorem types_above (layered : Layered first second) :
    second.skeleton.types = first.skeleton.types ++ second.ownTypes := by
  have names : second.ownTypes.map TypeInfo.name = second.types.items.map TypeDecl.name :=
    map_ownTypes TypeInfo.name TypeDecl.name fun _ _ => rfl
  have fresh : ((first.named.items ++ second.ownTypes.map fun type =>
      (type.name, type.handle)).map Prod.fst).Nodup := by
    rw [List.map_append, List.map_map, show Prod.fst ∘ (fun type : TypeInfo =>
      (type.name, type.handle)) = TypeInfo.name from rfl, names]
    refine List.nodup_append.mpr ⟨first.named.distinct, second.types.distinct, ?_⟩
    intro name below other above same
    obtain ⟨decl, member, rfl⟩ := List.mem_map.mp above
    obtain ⟨handle, listed⟩ := first.named.get?_of_mem_keys below
    refine layered.apart (.named decl.name) ⟨decl, member, rfl⟩ (by_contra fun unknown => ?_)
    have denoted := (denote?_eq_none_iff layered.wellFormed _).mpr unknown
    rw [same, named_get?, denoted] at listed
    cases listed
  have items : second.named.items = first.named.items ++ second.ownTypes.map fun type =>
      (type.name, type.handle) := by
    rw [named_eq, layered.ground_eq]
    exact Keyed.items_insertAll _ fresh
  show (second.named.items.map Prod.snd).filterMap second.skeleton.typeAt? = _
  rw [items, List.map_append, List.filterMap_append, List.map_map]
  congr 1
  · refine List.filterMap_congr fun handle member => ?_
    obtain ⟨name, listed⟩ := first.named.get?_of_mem_values member
    obtain ⟨type, there, -⟩ := layered.built_below.wellFormed.named listed
    have begins := second.ground_begins
    rw [layered.ground_eq] at begins
    exact (Model.typeAt?_of_begins begins there).trans there.symm
  · rw [List.filterMap_map]
    refine (List.filterMap_congr (g := some) fun type member => ?_).trans List.filterMap_some
    obtain ⟨index, decl, there, rfl⟩ := mem_ownTypes member
    exact typeAt?_own there

theorem types_together_eq (layered : Layered first second) :
    (first.together second).skeleton.types =
      second.skeleton.types.map (TypeInfo.rename (first.exchange second)) := by
  let entry := fun type : TypeInfo => (type.name, type.handle)
  let moved : String × TypeHandle → String × TypeHandle := Prod.map id (first.exchange second)
  have stay : first.ground.named.map moved (fun _ => rfl) = first.ground.named := by
    refine Keyed.ext ((List.map_congr_left fun listed member => ?_).trans (List.map_id _))
    have found := (Table.get?_eq_some_iff first.ground.named).mpr member
    obtain ⟨type, there, -⟩ := layered.wellFormed.named found
    exact Prod.ext rfl (exchange_ground (List.getElem?_eq_some_iff.mp there).1)
  have above : second.named =
      Keyed.insertAll first.ground.named ((first.ownTypes ++ second.ownTypes).map entry) := by
    rw [named_eq, layered.ground_eq, List.map_append]
    show Keyed.insertAll first.named _ = _
    rw [named_eq]
    exact List.foldl_append.symm
  have together : (first.together second).named = second.named.map moved fun _ => rfl := by
    rw [named_eq, ground_together, layered.ownTypes_together, above, Keyed.map_insertAll, stay,
      List.map_map, List.map_map]
    rfl
  show ((first.together second).named.items.map Prod.snd).filterMap _ =
    ((second.named.items.map Prod.snd).filterMap _).map _
  rw [together]
  show ((second.named.items.map moved).map Prod.snd).filterMap _ = _
  rw [List.map_map, List.filterMap_map, List.filterMap_map, List.map_filterMap]
  exact List.filterMap_congr fun listed _ => layered.typeAt?_together listed.2

/-! ### Functions -/

theorem argumentSlot?_below (layered : Layered first second) {declared : Option Reference}
    (known : ∀ type, declared = some type → first.Knows type) (collection : Bool) :
    (first.together second).argumentSlot? declared collection =
      (first.argumentSlot? declared collection).map (Slot.rename (first.exchange second)) :=
  argumentSlot?_rename fun reference typed =>
    layered.slot?_together_of_knows (known reference typed) collection

theorem argumentSlot?_above (layered : Layered first second) (declared : Option Reference)
    (collection : Bool) :
    (first.together second).argumentSlot? declared collection =
      (second.argumentSlot? declared collection).map (Slot.rename (first.exchange second)) :=
  argumentSlot?_rename fun reference _ => layered.slot?_together reference collection

theorem sealFunction_below (layered : Layered first second) {decl : FunctionDecl}
    (member : decl ∈ first.functions.items) :
    (first.together second).sealFunction decl =
      (first.sealFunction decl).rename (first.exchange second) :=
  sealFunction_rename
    (fun argument inside => layered.argumentSlot?_below
      (layered.buildable.argumentTypes decl member argument inside) argument.collection)
    (layered.argumentSlot?_below (layered.buildable.resultTypes decl member)
      decl.resultCollection)

theorem sealFunction_above (layered : Layered first second) (decl : FunctionDecl) :
    (first.together second).sealFunction decl =
      (second.sealFunction decl).rename (first.exchange second) :=
  sealFunction_rename (fun argument _ => layered.argumentSlot?_above argument.type _)
    (layered.argumentSlot?_above decl.result _)

theorem rename_groundFunction (layered : Layered first second) {function : FunctionInfo}
    (member : function ∈ first.ground.functions.values) :
    function.rename (first.exchange second) = function :=
  layered.wellFormed.rename_function_eq_self (fun _ => exchange_ground) member

/-- The functions of a model are listed under their names. -/
theorem toList_sealedFunctions (draft : Draft) :
    draft.sealedFunctions.toList =
      draft.sealedFunctions.values.map fun function => (function.name, function) := by
  unfold NameTable.values
  rw [List.map_map]
  refine (List.map_id _).symm.trans (List.map_congr_left fun entry member => ?_)
  obtain ⟨function, -, rfl⟩ := List.mem_map.mp (NameTable.mem_of_mem_ofList member)
  rfl

theorem sealedFunctions_above (layered : Layered first second) :
    second.sealedFunctions = .ofList first.functionCasing
      ((first.ground.functions.values ++ first.functions.items.map first.sealFunction ++
        second.functions.items.map second.sealFunction).map
          fun function => (function.name, function)) := by
  have below : first.assemble.functions = first.sealedFunctions := rfl
  unfold sealedFunctions
  rw [layered.casing, layered.ground_eq, below, List.map_append, ← toList_sealedFunctions]
  refine (NameTable.ofList_append_toList _ _ _).trans ?_
  rw [← List.map_append]

theorem sealedFunctions_together (layered : Layered first second) :
    (first.together second).sealedFunctions =
      second.sealedFunctions.map (FunctionInfo.rename (first.exchange second)) := by
  have functions : first.ground.functions.values ++
        (first.together second).functions.items.map (first.together second).sealFunction =
      (first.ground.functions.values ++ first.functions.items.map first.sealFunction ++
        second.functions.items.map second.sealFunction).map
          (FunctionInfo.rename (first.exchange second)) := by
    rw [layered.functions_together, List.map_append, List.map_append, List.map_append,
      List.append_assoc, List.map_map, List.map_map]
    congr 1
    · exact (List.map_id _).symm.trans
        (List.map_congr_left fun function member => (layered.rename_groundFunction member).symm)
    · congr 1
      · exact List.map_congr_left fun decl member => layered.sealFunction_below member
      · exact List.map_congr_left fun decl _ => layered.sealFunction_above decl
  rw [layered.sealedFunctions_above, NameTable.map_ofList]
  unfold sealedFunctions
  rw [functionCasing_together, layered.casing, ground_together, functions, List.map_map,
    List.map_map]
  rfl

theorem sealedFunctionRules_together (layered : Layered first second) :
    (first.together second).sealedFunctionRules = second.sealedFunctionRules := by
  have below : first.assemble.functionRules = first.sealedFunctionRules := rfl
  unfold sealedFunctionRules
  rw [functionCasing_together, layered.casing, ground_together, layered.functionRules_together,
    layered.ground_eq, below, ← List.append_assoc]
  exact (NameTable.ofList_append_toList _ _ _).symm

end Layered

end Draft

end Metamodel
