/-
Types and functions do not depend on the order in which they were declared.

Two drafts may declare the same types and the same functions in different orders. The places of the
types, and of their collections behind them, are then rearranged, and both blocks in the same way.
Nothing else that a reference finds depends on the order. A name is declared once, and if a draft
can be built at all, so is a tag; so whoever answers to a reference is the same in both drafts, and
what is made of a reference differs in places only.
-/

import Metamodel.Proofs.Functions

namespace Metamodel

/-! ### Two blocks of places, rearranged alike -/

/-- The place that a place is moved to when the places of a block are rearranged, and those of the
block of the same size behind it in the same way. -/
def movePlace (start size : Nat) (rearrange : Nat → Nat) (place : Nat) : Nat :=
  if place < start then place
  else if place < start + size then start + rearrange (place - start)
  else if place < start + size + size then
    start + size + rearrange (place - (start + size))
  else place

section Move

variable {start size place index : Nat} {rearrange restore : Nat → Nat}

theorem movePlace_before (before : place < start) :
    movePlace start size rearrange place = place := if_pos before

theorem movePlace_first (start : Nat) (rearrange : Nat → Nat) (bound : index < size) :
    movePlace start size rearrange (start + index) = start + rearrange index := by
  rw [movePlace, if_neg (by omega), if_pos (by omega), Nat.add_sub_cancel_left]

theorem movePlace_second (start : Nat) (rearrange : Nat → Nat) (bound : index < size) :
    movePlace start size rearrange (start + size + index) = start + size + rearrange index := by
  rw [movePlace, if_neg (by omega), if_neg (by omega), if_pos (by omega),
    Nat.add_sub_cancel_left]

theorem movePlace_after (after : start + size + size ≤ place) :
    movePlace start size rearrange place = place := by
  rw [movePlace, if_neg (by omega), if_neg (by omega), if_neg (by omega)]

/-- What is rearranged within a block can be put back. -/
theorem movePlace_movePlace
    (restored : ∀ index < size, rearrange index < size ∧ restore (rearrange index) = index)
    (place : Nat) :
    movePlace start size restore (movePlace start size rearrange place) = place := by
  by_cases before : place < start
  · rw [movePlace_before before, movePlace_before before]
  obtain ⟨offset, rfl⟩ := Nat.exists_eq_add_of_le (Nat.le_of_not_lt before)
  by_cases first : offset < size
  · obtain ⟨bound, back⟩ := restored offset first
    rw [movePlace_first start rearrange first, movePlace_first start restore bound, back]
  obtain ⟨index, rfl⟩ := Nat.exists_eq_add_of_le (Nat.le_of_not_lt first)
  rw [← Nat.add_assoc]
  by_cases second : index < size
  · obtain ⟨bound, back⟩ := restored index second
    rw [movePlace_second start rearrange second, movePlace_second start restore bound, back]
  · have after : start + size + size ≤ start + size + index :=
      Nat.add_le_add_left (Nat.le_of_not_lt second) _
    rw [movePlace_after after, movePlace_after after]

end Move

namespace Draft

/-! ### Drafts in another order -/

/-- Two drafts that declare the same types and functions, in whatever order, and agree in everything
else that counts: what they stand on, how they compare the names of functions, which capabilities
they enable, and which rules they register. -/
structure Reordered (first second : Draft) : Prop where
  base : second.base = first.base
  functionCasing : second.functionCasing = first.functionCasing
  types : second.types.items.Perm first.types.items
  functions : second.functions.items.Perm first.functions.items
  enables : second.enables = first.enables
  functionRules : second.functionRules = first.functionRules
  operatorRules : second.operatorRules = first.operatorRules
  predicateRules : second.predicateRules = first.predicateRules

/-- The place of a declaration of the first draft in the second one. -/
def placeIn (first second : Draft) (index : Nat) : Nat :=
  ((first.types.items[index]?).bind fun decl => second.types.index? decl.name).getD index

/-- Types and collections follow their declarations. -/
def reorder (first second : Draft) : TypeHandle → TypeHandle :=
  movePlace first.ground.arena.length first.types.size (first.placeIn second)

/-- What the first draft denotes, as the second one has it. -/
def relocate (first second : Draft) : Denotation → Denotation
  | .own index => .own (first.placeIn second index)
  | .inherited handle => .inherited handle

namespace Reordered

variable {first second : Draft}

theorem symm (reordered : first.Reordered second) : second.Reordered first where
  base := reordered.base.symm
  functionCasing := reordered.functionCasing.symm
  types := reordered.types.symm
  functions := reordered.functions.symm
  enables := reordered.enables.symm
  functionRules := reordered.functionRules.symm
  operatorRules := reordered.operatorRules.symm
  predicateRules := reordered.predicateRules.symm

theorem ground_eq (reordered : first.Reordered second) : second.ground = first.ground :=
  congrArg (Option.getD · Model.empty) reordered.base

theorem registrations_eq (reordered : first.Reordered second) :
    second.registrations = first.registrations := by
  rw [registrations, reordered.operatorRules, reordered.predicateRules]
  rfl

theorem size_eq (reordered : first.Reordered second) : second.types.size = first.types.size :=
  reordered.types.length_eq

/-! ### What is asked before a draft is built -/

theorem offers (reordered : first.Reordered second) {reference : Reference} {name : String}
    {enabled : Capability → Bool} (offer : first.Offers reference name enabled) :
    second.Offers reference name enabled := by
  cases offer with
  | own member answers =>
    rw [← reordered.enables]
    exact .own (reordered.types.mem_iff.mpr member) answers
  | inherited absent found =>
    refine .inherited (fun decl member => absent decl (reordered.types.mem_iff.mp member)) ?_
    rw [reordered.ground_eq]
    exact found

theorem knows (reordered : first.Reordered second) {reference : Reference}
    (known : first.Knows reference) : second.Knows reference := by
  obtain ⟨name, enabled, offer⟩ := known
  exact ⟨name, enabled, reordered.offers offer⟩

theorem hasFunction (reordered : first.Reordered second) {name : String}
    (has : first.HasFunction name) : second.HasFunction name := by
  unfold HasFunction at has ⊢
  rw [reordered.functionCasing, reordered.ground_eq]
  refine has.imp_left fun own => ?_
  obtain ⟨decl, member, same⟩ := own
  exact ⟨decl, reordered.functions.mem_iff.mpr member, same⟩

theorem buildable (reordered : first.Reordered second) (buildable : first.Buildable) :
    second.Buildable where
  tags := (reordered.types.filterMap TypeDecl.tag).nodup_iff.mpr buildable.tags
  names decl member := buildable.names decl (reordered.types.mem_iff.mp member)
  attributeTypes decl member info inside :=
    reordered.knows (buildable.attributeTypes decl (reordered.types.mem_iff.mp member) info inside)
  argumentTypes decl member argument inside type typed :=
    reordered.knows (buildable.argumentTypes decl (reordered.functions.mem_iff.mp member) argument
      inside type typed)
  resultTypes decl member type typed :=
    reordered.knows
      (buildable.resultTypes decl (reordered.functions.mem_iff.mp member) type typed)
  attributeNames decl member :=
    buildable.attributeNames decl (reordered.types.mem_iff.mp member)
  valueNames decl member := buildable.valueNames decl (reordered.types.mem_iff.mp member)
  functionNames := by
    rw [reordered.functionCasing]
    exact (reordered.functions.map _).nodup_iff.mpr buildable.functionNames
  inheritedNames := by
    rw [reordered.functionCasing, reordered.ground_eq]
    exact buildable.inheritedNames
  functionRules := by
    rw [reordered.functionRules]
    exact fun entry member => reordered.hasFunction (buildable.functionRules entry member)
  registrations := by
    rw [reordered.registrations_eq]
    intro registration member
    obtain ⟨name, enabled, offer, has⟩ := buildable.registrations registration member
    exact ⟨name, enabled, reordered.offers offer, has⟩
  memberNames decl member := buildable.memberNames decl (reordered.types.mem_iff.mp member)

/-! ### Places -/

theorem getElem?_placeIn (reordered : first.Reordered second) {index : Nat} {decl : TypeDecl}
    (there : first.types.items[index]? = some decl) :
    second.types.items[first.placeIn second index]? = some decl := by
  obtain ⟨place, found⟩ :=
    List.getElem?_of_mem (reordered.types.mem_iff.mpr (List.mem_of_getElem? there))
  have listed : second.types.index? decl.name = some place :=
    second.types.index?_eq_some_iff.mpr ⟨decl, found, rfl⟩
  rw [placeIn, there, Option.bind_some, listed]
  exact found

theorem placeIn_placeIn (reordered : first.Reordered second) {index : Nat}
    (bound : index < first.types.size) :
    first.placeIn second index < first.types.size ∧
      second.placeIn first (first.placeIn second index) = index := by
  have there := List.getElem?_eq_getElem bound
  have moved := reordered.getElem?_placeIn there
  refine ⟨reordered.size_eq ▸ (List.getElem?_eq_some_iff.mp moved).1, ?_⟩
  exact first.types.place_unique (reordered.symm.getElem?_placeIn moved) there rfl

/-- The rearrangement of all places. -/
def perm (reordered : first.Reordered second) : Equiv.Perm TypeHandle where
  toFun := first.reorder second
  invFun := second.reorder first
  left_inv place := by
    rw [reorder, reorder, reordered.ground_eq, reordered.size_eq]
    exact movePlace_movePlace (fun _ bound => reordered.placeIn_placeIn bound) place
  right_inv place := by
    rw [reorder, reorder, reordered.ground_eq, ← reordered.size_eq]
    exact movePlace_movePlace (fun _ bound => reordered.symm.placeIn_placeIn bound) place

theorem reorder_ground {handle : TypeHandle} (below : handle < first.ground.arena.length) :
    first.reorder second handle = handle :=
  movePlace_before below

theorem reorder_own (reordered : first.Reordered second) {index : Nat}
    (bound : index < first.types.size) :
    first.reorder second (first.ownHandle index) =
      second.ownHandle (first.placeIn second index) := by
  rw [ownHandle, ownHandle, reordered.ground_eq]
  exact movePlace_first _ _ bound

theorem reorder_collection (reordered : first.Reordered second) {index : Nat}
    (bound : index < first.types.size) :
    first.reorder second (first.ownHandle (first.types.size + index)) =
      second.ownHandle (second.types.size + first.placeIn second index) := by
  rw [ownHandle, ownHandle, reordered.ground_eq, reordered.size_eq, ← Nat.add_assoc,
    ← Nat.add_assoc]
  exact movePlace_second _ _ bound

/-! ### References -/

theorem denote?_reorder (reordered : first.Reordered second) (unique : second.UniqueTags)
    (reference : Reference) :
    second.denote? reference = (first.denote? reference).map (first.relocate second) := by
  cases found : first.ownIndex? reference with
  | some index =>
    obtain ⟨decl, there, answers⟩ := answers_of_ownIndex? found
    rw [denote?_of_ownIndex? found,
      denote?_of_ownIndex? (unique.ownIndex?_eq_some (reordered.getElem?_placeIn there) answers)]
    rfl
  | none =>
    have absent := (ownIndex?_eq_none_iff reference).mp found
    have otherAbsent : second.ownIndex? reference = none :=
      (ownIndex?_eq_none_iff reference).mpr fun decl member =>
        absent decl (reordered.types.mem_iff.mp member)
    rw [denote?_of_absent found, denote?_of_absent otherAbsent, reordered.ground_eq,
      Option.map_map]
    rfl

theorem places_reorder (reordered : first.Reordered second) (ground : first.ground.WellFormed)
    {target : Denotation} (holds : first.Holds target) :
    second.handleOf (first.relocate second target) =
        first.reorder second (first.handleOf target) ∧
      second.collectionHandleOf (first.relocate second target) =
        first.reorder second (first.collectionHandleOf target) ∧
      second.nameOf (first.relocate second target) = first.nameOf target := by
  cases holds with
  | own bound =>
    have there := List.getElem?_eq_getElem bound
    refine ⟨(reordered.reorder_own bound).symm, (reordered.reorder_collection bound).symm, ?_⟩
    rw [nameOf_own there]
    exact nameOf_own (reordered.getElem?_placeIn there)
  | @inherited handle type found plain =>
    obtain ⟨collection, below⟩ := ground.collected found plain
    obtain ⟨_, -, -, there⟩ := ground.paired below
    refine ⟨(reorder_ground (List.getElem?_eq_some_iff.mp found).1).symm, ?_, ?_⟩
    · rw [collectionHandleOf_inherited below,
        reorder_ground (List.getElem?_eq_some_iff.mp there).1]
      refine collectionHandleOf_inherited ?_
      rw [reordered.ground_eq]
      exact below
    · rw [nameOf_inherited found plain]
      refine nameOf_inherited ?_ plain
      rw [reordered.ground_eq]
      exact found

theorem slot?_reorder (reordered : first.Reordered second) (ground : first.ground.WellFormed)
    (unique : second.UniqueTags) (reference : Reference) (collection : Bool) :
    second.slot? reference collection =
      (first.slot? reference collection).map (Slot.rename (first.reorder second)) := by
  rw [slot?, slot?, reordered.denote?_reorder unique, Option.map_map]
  cases denoted : first.denote? reference with
  | none => rfl
  | some target =>
    obtain ⟨handle, collectionHandle, name⟩ :=
      reordered.places_reorder ground (holds_of_denote? ground denoted)
    rw [Option.map_some, Option.map_some, Option.map_some, Function.comp_apply, handle,
      collectionHandle, name]
    cases collection <;> rfl

theorem handle?_reorder (reordered : first.Reordered second) (ground : first.ground.WellFormed)
    (unique : first.UniqueTags) (otherUnique : second.UniqueTags) (reference : Reference) :
    second.skeleton.handle? reference =
      (first.skeleton.handle? reference).map (first.reorder second) :=
  handle?_rename unique otherUnique (reordered.slot?_reorder ground otherUnique reference false)

/-! ### Types -/

theorem sealType_reorder (reordered : first.Reordered second) (ground : first.ground.WellFormed)
    (unique : second.UniqueTags) (decl : TypeDecl) (handle : TypeHandle) :
    second.sealType decl (first.reorder second handle) =
      (first.sealType decl handle).rename (first.reorder second) :=
  sealType_rename (fun info _ => reordered.slot?_reorder ground unique info.type info.collection)
    (congrFun reordered.enables decl.name) handle

/-- A type of the one model stands, renamed, at the new place in the other one. -/
theorem typeAt?_of_some (reordered : first.Reordered second) (ground : first.ground.WellFormed)
    (unique : second.UniqueTags) {handle : TypeHandle} {type : TypeInfo}
    (found : first.skeleton.typeAt? handle = some type) :
    second.skeleton.typeAt? (first.reorder second handle) =
      some (type.rename (first.reorder second)) := by
  cases origin ground found with
  | inherited below =>
    rw [reorder_ground (List.getElem?_eq_some_iff.mp below).1,
      ground.rename_eq_self (fun _ => reorder_ground) (List.mem_of_getElem? below)]
    rw [← reordered.ground_eq] at below
    exact Model.typeAt?_of_begins second.ground_begins below
  | own there place made =>
    have bound := (List.getElem?_eq_some_iff.mp there).1
    rw [made, ← reordered.sealType_reorder ground unique, place, reordered.reorder_own bound]
    exact typeAt?_own (reordered.getElem?_placeIn there)
  | collection there place made =>
    have bound := (List.getElem?_eq_some_iff.mp there).1
    rw [made, place, TypeInfo.rename_collectionOf, reordered.reorder_collection bound,
      reordered.reorder_own bound]
    exact typeAt?_ownCollection (reordered.ground_eq ▸ ground) (reordered.getElem?_placeIn there)

theorem typeAt?_reorder (reordered : first.Reordered second) (ground : first.ground.WellFormed)
    (unique : second.UniqueTags) (handle : TypeHandle) :
    second.skeleton.typeAt? (first.reorder second handle) =
      (first.skeleton.typeAt? handle).map (TypeInfo.rename (first.reorder second)) := by
  cases found : first.skeleton.typeAt? handle with
  | some type => exact reordered.typeAt?_of_some ground unique found
  | none =>
    have length : first.skeleton.arena.length = _ := length_arena first ground
    have otherLength : second.skeleton.arena.length = _ :=
      length_arena second (reordered.ground_eq ▸ ground)
    rw [reordered.ground_eq, reordered.size_eq, ← length] at otherLength
    have past : first.skeleton.arena.length ≤ handle := List.getElem?_eq_none_iff.mp found
    have stays : first.reorder second handle = handle := movePlace_after (length ▸ past)
    rw [stays]
    exact List.getElem?_eq_none_iff.mpr (otherLength ▸ past)

/-! ### Functions -/

theorem sealFunction_reorder (reordered : first.Reordered second)
    (ground : first.ground.WellFormed) (unique : second.UniqueTags) (decl : FunctionDecl) :
    second.sealFunction decl = (first.sealFunction decl).rename (first.reorder second) :=
  sealFunction_rename
    (fun argument _ => argumentSlot?_rename fun reference _ =>
      reordered.slot?_reorder ground unique reference argument.collection)
    (argumentSlot?_rename fun reference _ =>
      reordered.slot?_reorder ground unique reference decl.resultCollection)

theorem function?_reorder (reordered : first.Reordered second) (ground : first.ground.WellFormed)
    (buildable : first.Buildable) (name : String) :
    second.assemble.function? name =
      (first.assemble.function? name).map (FunctionInfo.rename (first.reorder second)) := by
  have otherBuildable := reordered.buildable buildable
  by_cases own : ∃ decl ∈ first.functions.items,
      first.functionCasing.key decl.name = first.functionCasing.key name
  · obtain ⟨decl, member, same⟩ := own
    have otherSame : second.functionCasing.key decl.name = second.functionCasing.key name := by
      rw [reordered.functionCasing]
      exact same
    rw [function?_of_own buildable member same,
      function?_of_own otherBuildable (reordered.functions.mem_iff.mpr member) otherSame,
      reordered.sealFunction_reorder ground otherBuildable.tags]
    rfl
  · have foreign : ∀ decl ∈ first.functions.items,
        first.functionCasing.key decl.name ≠ first.functionCasing.key name :=
      fun decl member same => own ⟨decl, member, same⟩
    have otherForeign : ∀ decl ∈ second.functions.items,
        second.functionCasing.key decl.name ≠ second.functionCasing.key name := by
      rw [reordered.functionCasing]
      exact fun decl member => foreign decl (reordered.functions.mem_iff.mp member)
    rw [function?_of_foreign foreign, function?_of_foreign otherForeign, reordered.ground_eq,
      reordered.functionCasing]
    cases found : (NameTable.ofList first.functionCasing (first.ground.functions.values.map
        fun function => (function.name, function))).get? name with
    | none => rfl
    | some function =>
      obtain ⟨spelled, listed, -⟩ := NameTable.exists_entry_of_get? found
      obtain ⟨inherited, member, equal⟩ := List.mem_map.mp (NameTable.mem_of_mem_ofList listed)
      obtain ⟨-, rfl⟩ := Prod.mk.inj equal
      rw [Option.map_some, ground.rename_function_eq_self (fun _ => reorder_ground) member]

theorem sealedFunctionRules_eq (reordered : first.Reordered second) :
    second.sealedFunctionRules = first.sealedFunctionRules := by
  rw [sealedFunctionRules, sealedFunctionRules, reordered.functionCasing, reordered.ground_eq,
    reordered.functionRules]

end Reordered

end Draft

end Metamodel
