/-
What a draft is bound to is what its model answers.

A reference is resolved three times. While a draft is bound it is looked up among the declarations,
and what is found is a place. While rules are filed it is looked up in the tables that were made of
the declarations. Once there is a model, whoever asks the model looks it up again. An attribute of
which the type has another place than the model gives for the reference would be refused as an
argument of the very type it was declared with, so the three have to agree: for names and for tags,
and where a declaration takes over the name or the tag of a type below.
-/

import Metamodel.Proofs.Built

namespace Metamodel

namespace Model

/-- The place of the type that the model has for a reference, or of its collection. -/
def slotHandle? (model : Model) (reference : Reference) (collection : Bool) : Option TypeHandle :=
  (model.resolve? reference).bind fun type =>
    if collection then (model.collectionType? type).map TypeInfo.handle else some type.handle

/-- An attribute that points to what the model has for the reference in its declaration. -/
structure BindsAttribute (model : Model) (declared : AttributeDecl) (info : AttributeInfo) :
    Prop where
  name : info.name = declared.name
  collection : info.isCollection = declared.collection
  handle : model.slotHandle? declared.type declared.collection = some info.handle

/-- A handle in a signature that points to what the model has for the declared reference, and is
absent if none was declared. -/
inductive BindsSlot (model : Model) (collection : Bool) :
    Option Reference → Option TypeHandle → Prop
  | undeclared : BindsSlot model collection none none
  | declared {reference : Reference} {handle : TypeHandle}
      (bound : model.slotHandle? reference collection = some handle) :
      BindsSlot model collection (some reference) (some handle)

structure BindsArgument (model : Model) (declared : ArgumentDecl) (info : ArgumentInfo) :
    Prop where
  name : info.name = declared.name
  collection : info.collection = declared.collection
  handle : model.BindsSlot declared.collection declared.type info.handle

structure BindsFunction (model : Model) (declared : FunctionDecl) (info : FunctionInfo) :
    Prop where
  name : info.name = declared.name
  arguments : List.Forall₂ model.BindsArgument declared.arguments info.arguments
  resultCollection : info.resultCollection = declared.resultCollection
  result : model.BindsSlot declared.resultCollection declared.result info.result

end Model

namespace Draft

/-- A model in which everything that the draft declares points to what the model itself has for the
references of the draft. -/
structure BoundIn (draft : Draft) (model : Model) : Prop where
  /-- Every entity has its attributes as they were declared, in their order. -/
  types : ∀ decl ∈ draft.types.items, ∃ type, model.type? decl.name = some type ∧
    List.Forall₂ model.BindsAttribute decl.attributes type.attributes
  functions : ∀ decl ∈ draft.functions.items, ∃ info, model.function? decl.name = some info ∧
    model.BindsFunction decl info
  /-- What a reference denotes while the draft is bound is what the model resolves it to. -/
  denoted : ∀ reference, (draft.denote? reference).map draft.handleOf =
    (model.resolve? reference).map TypeInfo.handle
  /-- What the tables have for the target of a registration while rules are filed is what the model
  resolves it to, and the registration is filed for that type. -/
  checked : ∀ registration ∈ draft.registrations, ∃ type,
    (typeIndex draft.skeleton).resolve? registration.target = some type ∧
      model.resolve? registration.target = some type ∧
        registeredType? draft.skeleton registration = some type

variable {draft : Draft}

/-! ### References -/

theorem map_handle_resolve? (ground : draft.ground.WellFormed) (unique : draft.UniqueTags)
    (reference : Reference) :
    (draft.assemble.resolve? reference).map TypeInfo.handle =
      (draft.denote? reference).map draft.handleOf := by
  show ((draft.skeleton.handle? reference).bind draft.skeleton.typeAt?).map _ = _
  rw [handle?_skeleton unique]
  cases denoted : draft.denote? reference with
  | none => rfl
  | some target =>
    obtain ⟨type, found, -⟩ := typeAt?_handleOf (holds_of_denote? ground denoted)
    have place := (wellFormed_skeleton ground unique).handle_eq found
    rw [Option.map_some, Option.bind_some, found, Option.map_some, place]

/-- The place in a slot is the one that the model gives for the reference. -/
theorem slotHandle?_assemble (ground : draft.ground.WellFormed) (unique : draft.UniqueTags)
    (reference : Reference) (collection : Bool) :
    draft.assemble.slotHandle? reference collection =
      (draft.slot? reference collection).map Slot.handle := by
  have agree := map_handle_resolve? ground unique reference
  unfold Model.slotHandle? slot?
  cases denoted : draft.denote? reference with
  | none =>
    rw [denoted, Option.map_none, Option.map_eq_none_iff] at agree
    rw [agree]
    rfl
  | some target =>
    rw [denoted, Option.map_some, Option.map_eq_some_iff] at agree
    obtain ⟨type, resolved, place⟩ := agree
    rw [resolved, Option.bind_some]
    cases collection with
    | false => exact congrArg some place
    | true =>
      have holds := holds_of_denote? ground denoted
      have found : draft.skeleton.collectionType? type = some (.collectionOf
          (draft.collectionHandleOf target) (draft.handleOf target) (draft.nameOf target)) := by
        unfold Model.collectionType?
        rw [place, collectionHandle?_handleOf ground holds]
        exact typeAt?_collectionHandleOf ground holds
      exact congrArg (Option.map TypeInfo.handle) found

theorem exists_slot (ground : draft.ground.WellFormed) {reference : Reference}
    (known : draft.Knows reference) (collection : Bool) :
    ∃ slot, draft.slot? reference collection = some slot := by
  refine Option.ne_none_iff_exists'.mp fun absent => ?_
  exact (denote?_eq_none_iff ground reference).mp (Option.map_eq_none_iff.mp absent) known

theorem bindsSlot_argumentSlot? (ground : draft.ground.WellFormed) (unique : draft.UniqueTags)
    {declared : Option Reference} (known : ∀ type, declared = some type → draft.Knows type)
    (collection : Bool) :
    draft.assemble.BindsSlot collection declared
      ((draft.argumentSlot? declared collection).map Slot.handle) := by
  cases declared with
  | none => exact .undeclared
  | some reference =>
    obtain ⟨slot, filled⟩ := exists_slot ground (known reference rfl) collection
    have bound := slotHandle?_assemble ground unique reference collection
    rw [filled] at bound
    unfold argumentSlot?
    rw [Option.bind_some, filled]
    exact .declared bound

/-! ### Attributes -/

theorem bindsAttribute_of_sealAttribute? (ground : draft.ground.WellFormed)
    (unique : draft.UniqueTags) {declared : AttributeDecl} {info : AttributeInfo}
    (made : draft.sealAttribute? declared = some info) :
    draft.assemble.BindsAttribute declared info := by
  obtain ⟨slot, filled, rfl⟩ := Option.map_eq_some_iff.mp made
  refine ⟨rfl, (describes_slot ground filled).2, ?_⟩
  rw [slotHandle?_assemble ground unique, filled]
  rfl

/-- No attribute is left out of a list whose references are all known. -/
theorem forall₂_sealAttribute? (ground : draft.ground.WellFormed) (declared : List AttributeDecl)
    (known : ∀ info ∈ declared, draft.Knows info.type) :
    List.Forall₂ (fun decl info => draft.sealAttribute? decl = some info) declared
      (declared.filterMap draft.sealAttribute?) := by
  induction declared with
  | nil => exact .nil
  | cons head rest inductionHypothesis =>
    obtain ⟨slot, filled⟩ := exists_slot ground (known head List.mem_cons_self) head.collection
    have made : ∃ info, draft.sealAttribute? head = some info := by
      unfold sealAttribute?
      rw [filled]
      exact ⟨_, rfl⟩
    obtain ⟨info, made⟩ := made
    rw [List.filterMap_cons_some made]
    have knownRest := fun info member => known info (List.mem_cons_of_mem head member)
    exact .cons made (inductionHypothesis knownRest)

theorem map_name_of_forall₂ {declared : List AttributeDecl} {infos : List AttributeInfo}
    (made : List.Forall₂ (fun decl info => draft.sealAttribute? decl = some info) declared infos) :
    infos.map AttributeInfo.name = declared.map AttributeDecl.name := by
  induction made with
  | nil => rfl
  | cons head rest inductionHypothesis =>
    obtain ⟨slot, -, rfl⟩ := Option.map_eq_some_iff.mp head
    rw [List.map_cons, List.map_cons, inductionHypothesis]

theorem attributes_sealType (ground : draft.ground.WellFormed) (buildable : draft.Buildable)
    {decl : TypeDecl} (member : decl ∈ draft.types.items) (handle : TypeHandle) :
    (draft.sealType decl handle).attributes = decl.attributes.filterMap draft.sealAttribute? := by
  have known := buildable.attributeTypes decl member
  unfold TypeInfo.attributes sealType sealBody
  unfold TypeDecl.attributes at known ⊢
  cases body : decl.body with
  | basic => rfl
  | enum enum => rfl
  | entity entity =>
    rw [body] at known
    have made := forall₂_sealAttribute? ground entity.attributes.items known
    have names := map_name_of_forall₂ made
    have distinct : ((entity.attributes.items.map AttributeDecl.name).map entity.casing.key).Nodup :=
      buildable.nodup_attributeKeys member body
    show ((NameTable.ofList entity.casing _).toList).map Prod.snd = _
    rw [NameTable.toList_ofList, List.map_map]
    · exact List.map_id _
    · rw [List.map_map]
      rw [← names, List.map_map] at distinct
      exact distinct

/-! ### Functions -/

theorem bindsFunction_sealFunction (ground : draft.ground.WellFormed)
    (buildable : draft.Buildable) {decl : FunctionDecl} (member : decl ∈ draft.functions.items) :
    draft.assemble.BindsFunction decl (draft.sealFunction decl) where
  name := rfl
  arguments := by
    refine List.forall₂_iff_get.mpr ⟨?_, ?_⟩
    · unfold sealFunction
      rw [List.length_map, List.length_zipIdx]
    · intro index bound sealedBound
      have known := buildable.argumentTypes decl member decl.arguments[index]
        (List.getElem_mem bound)
      have made : (draft.sealFunction decl).arguments[index] =
          draft.sealArgument decl.arguments[index] index := by
        simp [sealFunction]
      rw [List.get_eq_getElem, List.get_eq_getElem, made]
      exact ⟨rfl, rfl, bindsSlot_argumentSlot? ground buildable.tags known _⟩
  resultCollection := rfl
  result := bindsSlot_argumentSlot? ground buildable.tags
    (buildable.resultTypes decl member) decl.resultCollection

/-- The draft's own functions go before those of the model below. -/
theorem function?_own (buildable : draft.Buildable) {decl : FunctionDecl}
    (member : decl ∈ draft.functions.items) :
    draft.assemble.function? decl.name = some (draft.sealFunction decl) := by
  let entryOf := fun decl => (decl.name, draft.sealFunction decl)
  have distinct : ((draft.functions.items.map entryOf).map fun entry =>
      draft.functionCasing.key entry.1).Nodup := by
    rw [List.map_map]
    exact buildable.functionNames
  have listed : entryOf decl ∈ draft.functions.items.map entryOf := List.mem_map_of_mem member
  show draft.sealedFunctions.get? decl.name = _
  unfold sealedFunctions
  rw [List.map_append, List.map_map]
  exact NameTable.get?_ofList_append distinct listed

/-! ### Types and registrations -/

/-- A type of the draft's own is found under everything it answers to. -/
theorem resolve?_own (unique : draft.UniqueTags) {index : Nat} {decl : TypeDecl}
    (there : draft.types.items[index]? = some decl) {reference : Reference}
    (answers : decl.AnswersTo reference) :
    draft.assemble.resolve? reference = some (draft.sealType decl (draft.ownHandle index)) := by
  have found := unique.ownIndex?_eq_some there answers
  show (draft.skeleton.handle? reference).bind draft.skeleton.typeAt? = _
  rw [handle?_skeleton unique, denote?_of_ownIndex? found]
  exact typeAt?_own there

theorem type?_own (unique : draft.UniqueTags) {index : Nat} {decl : TypeDecl}
    (there : draft.types.items[index]? = some decl) :
    draft.assemble.type? decl.name = some (draft.sealType decl (draft.ownHandle index)) :=
  resolve?_own unique there rfl

theorem registeredType?_of_buildable (ground : draft.ground.WellFormed)
    (buildable : draft.Buildable) {registration : Registration}
    (member : registration ∈ draft.registrations) :
    ∃ type, draft.skeleton.resolve? registration.target = some type ∧
      registeredType? draft.skeleton registration = some type := by
  obtain ⟨name, enabled, offer, has⟩ := buildable.registrations registration member
  cases resolved : draft.skeleton.resolve? registration.target with
  | none =>
    exact absurd ⟨name, enabled, offer⟩
      ((resolve?_eq_none_iff ground buildable.tags _).mp resolved)
  | some type =>
    have resolvedOffer := offers_of_resolve? ground buildable.tags resolved
    obtain ⟨-, rfl⟩ := offer.unique buildable.tags resolvedOffer
    refine ⟨type, rfl, ?_⟩
    rw [registeredType?_eq, resolved]
    exact if_pos has

theorem boundIn_assemble (ground : draft.ground.WellFormed) (buildable : draft.Buildable) :
    draft.BoundIn draft.assemble where
  types decl member := by
    obtain ⟨index, there⟩ := List.getElem?_of_mem member
    refine ⟨_, type?_own buildable.tags there, ?_⟩
    rw [attributes_sealType ground buildable member]
    exact (forall₂_sealAttribute? ground _ (buildable.attributeTypes decl member)).imp
      fun _ _ made => bindsAttribute_of_sealAttribute? ground buildable.tags made
  functions decl member :=
    ⟨_, function?_own buildable member, bindsFunction_sealFunction ground buildable member⟩
  denoted reference := (map_handle_resolve? ground buildable.tags reference).symm
  checked registration member := by
    obtain ⟨type, resolved, registered⟩ := registeredType?_of_buildable ground buildable member
    exact ⟨type, (resolve?_typeIndex _ _).trans resolved, resolved, registered⟩

/-- Whatever is built is bound to what its model answers. -/
theorem Grounded.boundIn (grounded : draft.Grounded) {model : Model}
    (built : draft.build = .ok model) : draft.BoundIn model := by
  obtain ⟨buildable, rfl⟩ := (build_eq_ok_iff grounded.wellFormed model).mp built
  exact boundIn_assemble grounded.wellFormed buildable

theorem boundIn_shelter :
    shelter.Grounded ∧ shelter.build = .ok shelter.assemble ∧ shelter.BoundIn shelter.assemble :=
  ⟨grounded_shelter, build_shelter, Grounded.boundIn grounded_shelter build_shelter⟩

end Draft

end Metamodel
