/-
Step by step, collections come by the places that they are said to have.

Reading a declaration may ask for a collection, and all that this can do to the slots is to add one
at their end. So a slot, once given, belongs to the same type ever after, and after all declarations
have been read the slots are those of the draft's own types and then those of the types of the model
below that lacked a collection, in the order in which they were asked for.
-/

import Metamodel.Draft.Allocation
import Metamodel.Proofs.Denotation
import Metamodel.Proofs.Overwriting

namespace Metamodel

/-- Every type that has a new collection has the slot where it is listed. -/
def CollectionSlots.Tidy (held : CollectionSlots) : Prop :=
  held.slots.items = held.elements.zipIdx

namespace CollectionSlots

variable {held : CollectionSlots}

theorem Tidy.get?_eq_some_iff (tidy : held.Tidy) {element : Denotation} {slot : Nat} :
    held.slots.get? element = some slot ↔ held.elements[slot]? = some element := by
  rw [Table.get?_eq_some_iff, tidy, List.mem_zipIdx_iff_getElem?]

theorem Tidy.nodup (tidy : held.Tidy) : held.elements.Nodup := by
  have distinct := held.slots.distinct
  rw [tidy, List.zipIdx_map_fst] at distinct
  exact distinct

/-- A type that has no slot gets the next one. -/
theorem Tidy.append (tidy : held.Tidy) {element : Denotation} (absent : element ∉ held.elements) :
    Tidy ⟨held.elements ++ [element], held.slots.set element held.elements.length⟩ := by
  have fresh : ((held.slots.items ++ [(element, held.elements.length)]).map Prod.fst).Nodup := by
    rw [List.map_append, tidy, List.zipIdx_map_fst]
    refine List.nodup_append.mpr ⟨tidy.nodup, List.nodup_singleton _, ?_⟩
    rintro listed member _ single rfl
    obtain rfl : listed = element := List.mem_singleton.mp single
    exact absent member
  show (held.slots.insertAll [(element, held.elements.length)]).items = _
  rw [Keyed.items_insertAll held.slots fresh, tidy, List.zipIdx_append, List.zipIdx_singleton,
    Nat.zero_add]

end CollectionSlots

namespace Draft

variable (draft : Draft)

/-! ### Slots in the end -/

variable {draft}

theorem collectionHandleOf_of_inherited {element : Denotation} {handle : TypeHandle}
    (known : draft.inheritedCollection? element = some handle) :
    draft.collectionHandleOf element = handle := by
  cases element with
  | own => cases known
  | inherited below =>
    have there : draft.ground.collectionHandle? below = some handle := known
    simp only [collectionHandleOf, there]

theorem nodup_uncollected : draft.uncollected.Nodup := by
  refine (Keyed.pairwise_eraseDups _).imp fun earlier same => ?_
  subst same
  exact Nat.lt_irrefl _ earlier

/-- The slot of a type says where its collection will be, if all types end up where they are
listed. -/
theorem placeOf_collection {elements : List Denotation} (final : elements <+: draft.collected)
    {element : Denotation} (lacking : draft.inheritedCollection? element = none) {slot : Nat}
    (there : elements[slot]? = some element) :
    draft.placeOf (.collection slot) = draft.collectionHandleOf element := by
  have listed : draft.collected[slot]? = some element := by
    obtain ⟨rest, same⟩ := final
    rw [← same, List.getElem?_append_left (List.getElem?_eq_some_iff.mp there).1]
    exact there
  unfold collected at listed
  by_cases own : slot < draft.types.size
  · rw [List.getElem?_append_left (by simpa using own), List.getElem?_map,
      List.getElem?_range own] at listed
    obtain rfl := Option.some.inj listed
    rfl
  · rw [List.getElem?_append_right (by simpa using own), List.getElem?_map,
      List.length_map, List.length_range] at listed
    obtain ⟨handle, below, rfl⟩ := Option.map_eq_some_iff.mp listed
    obtain ⟨bound, rfl⟩ := List.getElem?_eq_some_iff.mp below
    have missing : draft.ground.collectionHandle? _ = none := lacking
    simp only [collectionHandleOf, missing, nodup_uncollected.idxOf_getElem]
    exact congrArg draft.ownHandle (by omega)

/-! ### One collection -/

/-- The listed types, and one more if its collection is new and has not been asked for. -/
def listNew (draft : Draft) (elements : List Denotation) (element : Denotation) :
    List Denotation :=
  if (draft.inheritedCollection? element).isSome ∨ element ∈ elements then elements
  else elements ++ [element]

theorem prefix_foldl_listNew (elements asked : List Denotation) :
    elements <+: asked.foldl draft.listNew elements := by
  induction asked generalizing elements with
  | nil => exact List.prefix_rfl
  | cons head rest inductionHypothesis =>
    have step : elements <+: draft.listNew elements head := by
      unfold listNew
      split
      · exact List.prefix_rfl
      · exact List.prefix_append _ _
    exact step.trans (inductionHypothesis _)

/-- A part of the reading lists the types whose collections it asks for, one after the other, and
what it gives back is right if all types end up where they are listed. -/
def Allocates {α : Type} (draft : Draft) (program : Allocating α) (asked : List Denotation)
    (right : α → Prop) : Prop :=
  ∀ held : CollectionSlots, held.Tidy → (program held).2.Tidy ∧
    (program held).2.elements = asked.foldl draft.listNew held.elements ∧
      ((program held).2.elements <+: draft.collected → right (program held).1)

theorem allocates_collectionOf (element : Denotation) :
    draft.Allocates (draft.collectionOf element) [element] fun binding =>
      draft.placeOf binding = draft.collectionHandleOf element := by
  intro held tidy
  rw [List.foldl_cons, List.foldl_nil]
  cases known : draft.inheritedCollection? element with
  | some handle =>
    have found : draft.collectionOf element held = (.inherited handle, held) := by
      simp only [collectionOf, known]
    have kept : draft.listNew held.elements element = held.elements :=
      if_pos (Or.inl (by rw [known]; rfl))
    rw [found, kept]
    exact ⟨tidy, rfl, fun _ => (collectionHandleOf_of_inherited known).symm⟩
  | none =>
    cases listed : held.slots.get? element with
    | some slot =>
      have there := tidy.get?_eq_some_iff.mp listed
      have found : draft.collectionOf element held = (.collection slot, held) := by
        simp only [collectionOf, known, listed]
      have kept : draft.listNew held.elements element = held.elements :=
        if_pos (Or.inr (List.mem_of_getElem? there))
      rw [found, kept]
      exact ⟨tidy, rfl, fun final => placeOf_collection final known there⟩
    | none =>
      have absent : element ∉ held.elements := by
        intro member
        obtain ⟨slot, there⟩ := List.getElem?_of_mem member
        rw [tidy.get?_eq_some_iff.mpr there] at listed
        cases listed
      have given : draft.collectionOf element held =
          (.collection held.elements.length, ⟨held.elements ++ [element],
            held.slots.set element held.elements.length⟩) := by
        simp only [collectionOf, known, listed]
      have grown : draft.listNew held.elements element = held.elements ++ [element] :=
        if_neg (by rw [known]; exact not_or.mpr ⟨Bool.false_ne_true, absent⟩)
      rw [given, grown]
      exact ⟨tidy.append absent, rfl, fun final =>
        placeOf_collection final known List.getElem?_concat_length⟩

/-! ### Many collections -/

theorem Allocates.pure {α : Type} {value : α} {right : α → Prop} (holds : right value) :
    draft.Allocates (return value) [] right :=
  fun _ tidy => ⟨tidy, rfl, fun _ => holds⟩

theorem Allocates.bind {α β : Type} {program : Allocating α} {next : α → Allocating β}
    {asked others : List Denotation} {first : α → Prop} {right : β → Prop}
    (start : draft.Allocates program asked first)
    (further : ∀ value, draft.Allocates (next value) others fun last => first value → right last) :
    draft.Allocates (program >>= next) (asked ++ others) right := by
  intro held tidy
  obtain ⟨tidyThen, listed, holds⟩ := start held tidy
  obtain ⟨tidyLast, listedLast, holdsLast⟩ := further (program held).1 _ tidyThen
  refine ⟨tidyLast, ?_, fun final => holdsLast final (holds (List.IsPrefix.trans ?_ final))⟩
  · rw [List.foldl_append, ← listed]
    exact listedLast
  · rw [show ((program >>= next) held).2.elements = _ from listedLast]
    exact prefix_foldl_listNew _ _

theorem Allocates.imp {α : Type} {program : Allocating α} {asked : List Denotation}
    {right other : α → Prop} (start : draft.Allocates program asked right)
    (weaker : ∀ value, right value → other value) : draft.Allocates program asked other :=
  fun held tidy =>
    let ⟨tidyThen, listed, holds⟩ := start held tidy
    ⟨tidyThen, listed, fun final => weaker _ (holds final)⟩

theorem Allocates.mapM {α β γ : Type} {step : α → Allocating β} {asked : α → List Denotation}
    {read : β → γ} {said : α → γ}
    (steps : ∀ item, draft.Allocates (step item) (asked item) fun value => read value = said item)
    (items : List α) :
    draft.Allocates (items.mapM step) (items.flatMap asked) fun values =>
      values.map read = items.map said := by
  induction items with
  | nil =>
    rw [List.mapM_nil]
    exact .pure rfl
  | cons head rest inductionHypothesis =>
    rw [List.mapM_cons, List.flatMap_cons, ← List.append_nil (rest.flatMap asked)]
    refine (steps head).bind fun value => inductionHypothesis.bind fun values => ?_
    refine .pure fun others first => ?_
    rw [List.map_cons, List.map_cons, first, others]

/-! ### Reading the declarations -/

/-- What a type that a declaration mentions asks for: its collection, or nothing. -/
def asks (draft : Draft) (type : Option Reference) (collection : Bool) : List Denotation :=
  (if collection then type.toList else []).filterMap draft.denote?

theorem allocates_bindReference (reference : Reference) (collection : Bool) :
    draft.Allocates (draft.bindReference reference collection)
      (draft.asks (some reference) collection)
      fun binding => binding.map draft.placeOf =
        (draft.slot? reference collection).map Slot.handle := by
  unfold bindReference asks slot?
  rw [Option.toList_some]
  cases denotes : draft.denote? reference with
  | none =>
    have nothing : (if collection then [reference] else []).filterMap draft.denote? = [] := by
      cases collection
      · rfl
      · exact List.filterMap_cons_none denotes
    rw [nothing]
    exact .pure rfl
  | some target =>
    cases collection with
    | false =>
      refine .pure ?_
      cases target <;> rfl
    | true =>
      rw [if_pos rfl, List.filterMap_cons_some denotes]
      refine (allocates_collectionOf target).bind fun binding => .pure fun place => ?_
      exact congrArg some place

theorem allocates_bindArgument (type : Option Reference) (collection : Bool) :
    draft.Allocates (draft.bindArgument type collection) (draft.asks type collection)
      fun binding => binding.map draft.placeOf =
        (draft.argumentSlot? type collection).map Slot.handle := by
  cases type with
  | none =>
    rw [show draft.asks none collection = [] by cases collection <;> rfl]
    exact .pure rfl
  | some reference => exact allocates_bindReference reference collection

/-- The places that are said of the types of the attributes of each type. -/
def attributePlaces (draft : Draft) : List (List (Option TypeHandle)) :=
  draft.types.items.map fun decl => decl.attributes.map fun info =>
    (draft.slot? info.type info.collection).map Slot.handle

theorem allocates_bindTypes : draft.Allocates draft.bindTypes
    ((List.range draft.types.size).flatMap (fun index => [.own index]) ++
      draft.types.items.flatMap fun decl =>
        decl.attributes.flatMap fun (info : AttributeDecl) =>
          draft.asks (some info.type) info.collection)
    fun bindings => bindings.map (·.map (·.map draft.placeOf)) = draft.attributePlaces := by
  have ahead : draft.Allocates
      ((List.range draft.types.size).mapM fun index => draft.collectionOf (.own index)) _ _ :=
    .mapM (fun index => allocates_collectionOf (.own index)) _
  refine ahead.bind fun _ => Allocates.imp (.mapM (fun decl => ?_) _) fun _ same _ => same
  exact .mapM (fun (info : AttributeDecl) => allocates_bindReference info.type info.collection) _

/-- The places that are said of the types of the arguments and the result of each function. -/
def functionPlaces (draft : Draft) : List (List (Option TypeHandle) × Option TypeHandle) :=
  draft.functions.items.map fun decl =>
    (decl.arguments.map fun argument =>
        (draft.argumentSlot? argument.type argument.collection).map Slot.handle,
      (draft.argumentSlot? decl.result decl.resultCollection).map Slot.handle)

theorem allocates_bindFunctions : draft.Allocates draft.bindFunctions
    (draft.functions.items.flatMap fun decl =>
      decl.arguments.flatMap (fun (argument : ArgumentDecl) =>
          draft.asks argument.type argument.collection) ++
        draft.asks decl.result decl.resultCollection)
    fun bindings => bindings.map (fun (arguments, result) =>
        (arguments.map (·.map draft.placeOf), result.map draft.placeOf)) =
      draft.functionPlaces := by
  refine .mapM (fun decl => ?_) _
  have arguments : draft.Allocates
      (decl.arguments.mapM fun argument => draft.bindArgument argument.type argument.collection)
      _ _ := .mapM (fun (argument : ArgumentDecl) =>
        allocates_bindArgument argument.type argument.collection) _
  rw [← List.append_nil (draft.asks decl.result decl.resultCollection)]
  refine arguments.bind fun _ => (allocates_bindArgument _ _).bind fun _ => ?_
  exact .pure fun last first => Prod.ext first last

/-! ### All collections -/

/-- The type of the model below whose collection is asked for, if that has to be made. -/
def lacking? (draft : Draft) : Denotation → Option TypeHandle
  | .own _ => none
  | .inherited handle =>
    if (draft.ground.collectionHandle? handle).isNone then some handle else none

/-- The types with new collections once some collections have been asked for: the draft's own types
and after them those of the model below that lack theirs. -/
def listing (draft : Draft) (asked : List Denotation) : List Denotation :=
  (List.range draft.types.size).map .own ++
    (asked.filterMap draft.lacking?).eraseDups.map .inherited

theorem collected_eq_listing :
    draft.collected = draft.listing (draft.collectionReferences.filterMap draft.denote?) := by
  have lacking : draft.uncollected =
      ((draft.collectionReferences.filterMap draft.denote?).filterMap draft.lacking?).eraseDups := by
    rw [List.filterMap_filterMap]
    refine congrArg List.eraseDups (List.filterMap_congr fun reference _ => ?_)
    cases draft.denote? reference with
    | none => rfl
    | some target => cases target <;> rfl
  unfold collected listing
  rw [lacking]

theorem foldl_listNew_own (count : Nat) :
    ((List.range count).map Denotation.own).foldl draft.listNew [] =
      (List.range count).map Denotation.own := by
  induction count with
  | zero => rfl
  | succ count inductionHypothesis =>
    rw [List.range_succ, List.map_append, List.foldl_append, inductionHypothesis]
    refine if_neg (not_or.mpr ⟨Bool.false_ne_true, fun member => ?_⟩)
    obtain ⟨index, below, same⟩ := List.mem_map.mp member
    obtain rfl := Denotation.own.inj same
    exact Nat.lt_irrefl _ (List.mem_range.mp below)

theorem listNew_listing_own (asked : List Denotation) {index : Nat}
    (bound : index < draft.types.size) :
    draft.listNew (draft.listing asked) (.own index) = draft.listing (asked ++ [.own index]) := by
  have listed : Denotation.own index ∈ (List.range draft.types.size).map Denotation.own :=
    List.mem_map_of_mem (List.mem_range.mpr bound)
  have nothing : List.filterMap draft.lacking? [.own index] = [] := rfl
  unfold listing
  rw [List.filterMap_append, nothing, List.append_nil]
  exact if_pos (Or.inr (List.mem_append_left _ listed))

theorem inherited_mem_listing_iff (asked : List Denotation) (handle : TypeHandle) :
    .inherited handle ∈ draft.listing asked ↔ handle ∈ asked.filterMap draft.lacking? := by
  unfold listing
  rw [List.mem_append, List.mem_map, List.mem_map]
  constructor
  · rintro (⟨_, _, same⟩ | ⟨_, there, same⟩)
    · cases same
    · obtain rfl := Denotation.inherited.inj same
      exact List.mem_eraseDups.mp there
  · exact fun asks => Or.inr ⟨handle, List.mem_eraseDups.mpr asks, rfl⟩

theorem listNew_listing_inherited (asked : List Denotation) (handle : TypeHandle) :
    draft.listNew (draft.listing asked) (.inherited handle) =
      draft.listing (asked ++ [.inherited handle]) := by
  have listed : .inherited handle ∈ draft.listing asked ↔ _ := inherited_mem_listing_iff asked handle
  cases known : draft.inheritedCollection? (.inherited handle) with
  | some collection =>
    have there : draft.ground.collectionHandle? handle = some collection := known
    have nothing : List.filterMap draft.lacking? [.inherited handle] = [] := by
      simp [lacking?, there]
    have same : draft.listing (asked ++ [.inherited handle]) = draft.listing asked := by
      unfold listing
      rw [List.filterMap_append, nothing, List.append_nil]
    rw [same]
    exact if_pos (Or.inl (by rw [known]; rfl))
  | none =>
    have missing : draft.ground.collectionHandle? handle = none := known
    have new : List.filterMap draft.lacking? [.inherited handle] = [handle] := by
      simp [lacking?, missing]
    by_cases asks : handle ∈ asked.filterMap draft.lacking?
    · have same : draft.listing (asked ++ [.inherited handle]) = draft.listing asked := by
        unfold listing
        rw [List.filterMap_append, new, Keyed.eraseDups_concat, if_pos asks]
      rw [same]
      exact if_pos (Or.inr (listed.mpr asks))
    · have grown : draft.listing (asked ++ [.inherited handle]) =
          draft.listing asked ++ [.inherited handle] := by
        unfold listing
        rw [List.filterMap_append, new, Keyed.eraseDups_concat, if_neg asks, List.map_append,
          ← List.append_assoc]
        rfl
      rw [grown]
      exact if_neg (not_or.mpr ⟨by rw [known]; exact Bool.false_ne_true, mt listed.mp asks⟩)

/-- Asking for one collection after the other lists what is said to be listed. -/
theorem foldl_listNew_asked (asked : List Denotation)
    (declared : ∀ index, .own index ∈ asked → index < draft.types.size) :
    asked.foldl draft.listNew (draft.listing []) = draft.listing asked := by
  induction asked using List.reverseRecOn with
  | nil => rfl
  | append_singleton asked last inductionHypothesis =>
    have declaredBefore := fun index member => declared index (List.mem_append_left _ member)
    rw [List.foldl_append, inductionHypothesis declaredBefore]
    cases last with
    | own index =>
      exact listNew_listing_own asked
        (declared index (List.mem_append_right _ (List.mem_singleton_self _)))
    | inherited handle => exact listNew_listing_inherited asked handle

/-- A reference denotes an own type only if there is one. -/
theorem lt_size_of_denote? {reference : Reference} {index : Nat}
    (denotes : draft.denote? reference = some (.own index)) : index < draft.types.size := by
  unfold denote? at denotes
  cases own : draft.ownIndex? reference with
  | none =>
    rw [own] at denotes
    obtain ⟨_, _, same⟩ := Option.map_eq_some_iff.mp denotes
    cases same
  | some found =>
    rw [own] at denotes
    obtain rfl := Denotation.own.inj (Option.some.inj denotes)
    obtain ⟨_, there, -⟩ := answers_of_ownIndex? own
    exact (List.getElem?_eq_some_iff.mp there).1

/-- What the declarations mention asks for, taken together. -/
theorem filterMap_collectionReferences :
    draft.collectionReferences.filterMap draft.denote? =
      (draft.types.items.flatMap fun decl =>
        decl.attributes.flatMap fun (info : AttributeDecl) =>
          draft.asks (some info.type) info.collection) ++
      draft.functions.items.flatMap fun decl =>
        decl.arguments.flatMap (fun (argument : ArgumentDecl) =>
          draft.asks argument.type argument.collection) ++
        draft.asks decl.result decl.resultCollection := by
  simp only [collectionReferences, asks, List.filterMap_append, List.filterMap_flatMap]

/-- Reading the declarations gives every collection the slot, and every mention of a type the place,
that it is said to have. -/
theorem bindDeclarations_places :
    (draft.bindDeclarations {}).2.elements = draft.collected ∧
      (draft.bindDeclarations {}).1.1.map (·.map (·.map draft.placeOf)) = draft.attributePlaces ∧
      (draft.bindDeclarations {}).1.2.map (fun (arguments, result) =>
          (arguments.map (·.map draft.placeOf), result.map draft.placeOf)) =
        draft.functionPlaces := by
  have reading : draft.Allocates draft.bindDeclarations _ fun (types, functions) =>
      types.map (·.map (·.map draft.placeOf)) = draft.attributePlaces ∧
        functions.map (fun (arguments, result) =>
            (arguments.map (·.map draft.placeOf), result.map draft.placeOf)) =
          draft.functionPlaces :=
    allocates_bindTypes.bind fun _ => allocates_bindFunctions.bind fun _ =>
      .pure fun last first => ⟨first, last⟩
  have declared : ∀ index, .own index ∈ draft.collectionReferences.filterMap draft.denote? →
      index < draft.types.size := by
    intro index member
    obtain ⟨_, -, denotes⟩ := List.mem_filterMap.mp member
    exact lt_size_of_denote? denotes
  obtain ⟨-, listed, right⟩ := reading {} rfl
  have all : (draft.bindDeclarations {}).2.elements = draft.collected := by
    have own : draft.listing [] = (List.range draft.types.size).map .own := List.append_nil _
    rw [listed, List.append_nil, List.append_assoc, ← filterMap_collectionReferences,
      List.foldl_append, ← List.map_eq_flatMap, foldl_listNew_own, ← own,
      foldl_listNew_asked _ declared, ← collected_eq_listing]
  exact ⟨all, right (all ▸ List.prefix_rfl)⟩

end Draft

end Metamodel
