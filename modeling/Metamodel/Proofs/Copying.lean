/-
When the copy of a sealed entity has what the entity has.

A copy on top of a model calls the types of the attributes by name, and the names are looked up
again when the copy is built. A name that the draft leaves alone denotes what it denotes in the
model below. That is the type of the attribute, unless a layer of that model has given the name to
another type since and has left the attribute with the one that had it before. So a copy says the
same as its source in all respects but one, and the types are the same exactly if every attribute
of the source has the type that the model now finds under the name.
-/

import Metamodel.Proofs.CollectionTypes
import Metamodel.Proofs.Extending

namespace Metamodel

namespace Model

/-- What a model has now under the name by which the type of an attribute is called. -/
def currentHandle? (model : Model) (info : AttributeInfo) : Option TypeHandle :=
  model.slotHandle? (.named info.spokenName) info.isCollection

/-- An attribute of a copy, which has the type that the model of its source now finds under the
name. -/
structure CopiesAttribute (model : Model) (source copy : AttributeInfo) : Prop where
  name : copy.name = source.name
  typeName : copy.typeName = source.typeName
  /-- This is also to say whether the attribute holds a collection. -/
  elementName : copy.elementName = source.elementName
  metadata : copy.metadata = source.metadata
  handle : model.currentHandle? source = some copy.handle

/-- An entity that begins as a copy of another one and may compare names in another way. -/
structure CopiesEntity (model : Model) (source copy : TypeInfo) (compared : Option Casing) :
    Prop where
  attributes : List.Forall₂ model.CopiesAttribute source.attributes copy.attributes
  casing : copy.attributeCasing? = compared.or source.attributeCasing?
  /-- The copy is faithful if no type of an attribute has lost its name, and then only. -/
  faithful : copy.attributes = source.attributes ↔
    ∀ info ∈ source.attributes, model.currentHandle? info = some info.handle

theorem CopiesAttribute.eq_iff {model : Model} {source copy : AttributeInfo}
    (copies : model.CopiesAttribute source copy) :
    copy = source ↔ model.currentHandle? source = some source.handle := by
  constructor
  · intro same
    rw [copies.handle, same]
  · intro current
    have place := Option.some.inj (copies.handle.symm.trans current)
    obtain ⟨name, handle, typeName, elementName, metadata⟩ := copy
    obtain ⟨rfl, rfl, rfl, rfl, -⟩ := copies
    obtain rfl : handle = source.handle := place
    rfl

theorem eq_iff_of_copiesAttribute {model : Model} {sources copies : List AttributeInfo}
    (attributes : List.Forall₂ model.CopiesAttribute sources copies) :
    copies = sources ↔ ∀ info ∈ sources, model.currentHandle? info = some info.handle := by
  induction attributes with
  | nil => simp
  | cons head rest inductionHypothesis =>
    rw [List.cons.injEq, head.eq_iff, inductionHypothesis, List.forall_mem_cons]

/-! ### What names show -/

/-- The text that shows a type, or its collection, by the name of the type. -/
def shownName (name : String) (collection : Bool) : String :=
  if collection then collectionDisplay name else name

/-- A type is shown by its name, or by that of its elements if it is a collection. -/
theorem WellFormed.typeName_eq {model : Model} (sound : model.WellFormed) {handle : TypeHandle}
    {typeName : String} {elementName : Option String}
    (described : model.Describes handle typeName elementName) :
    typeName = shownName (elementName.getD typeName) elementName.isSome := by
  cases described with
  | plain found plain => rfl
  | collection found holds inside =>
    obtain ⟨inner, there, -, made⟩ := sound.eq_collectionOf found holds
    obtain rfl := Option.some.inj (there.symm.trans inside)
    rw [made]
    exact TypeInfo.display_collectionOf _ _ _

end Model

/-- The name of the elements is told apart from that of the type by the flag. -/
theorem AttributeInfo.elementName_eq (info : AttributeInfo) :
    info.elementName = if info.isCollection then some info.spokenName else none := by
  obtain ⟨name, handle, typeName, elementName, metadata⟩ := info
  cases elementName <;> rfl

namespace Draft

variable {draft : Draft}

/-! ### Names that a draft leaves alone -/

theorem names_slot?_of_not_owns (ground : draft.ground.WellFormed) {name : String}
    (foreign : ¬ draft.Owns (.named name)) {collection : Bool} {slot : Slot}
    (filled : draft.slot? (.named name) collection = some slot) :
    slot.typeName = Model.shownName name collection ∧
      slot.elementName = if collection then some name else none := by
  have absent := (ownIndex?_eq_none_iff (.named name)).mpr fun decl member answers =>
    foreign ⟨decl, member, answers⟩
  obtain ⟨target, denoted, rfl⟩ := Option.map_eq_some_iff.mp filled
  rw [denote?_of_absent absent, Option.map_eq_some_iff] at denoted
  obtain ⟨handle, listed, rfl⟩ := denoted
  obtain ⟨type, there, same, plain⟩ := ground.named listed
  have called : draft.nameOf (.inherited handle) = name := by
    show (draft.ground.typeAt? handle).elim "" TypeInfo.display = name
    rw [there]
    exact (TypeInfo.display_of_plain plain).trans same
  rw [called]
  cases collection <;> exact ⟨rfl, rfl⟩

theorem slotHandle?_of_not_owns (ground : draft.ground.WellFormed) (unique : draft.UniqueTags)
    {reference : Reference} (foreign : ¬ draft.Owns reference) (collection : Bool) :
    draft.assemble.slotHandle? reference collection =
      draft.ground.slotHandle? reference collection := by
  have resolved : draft.assemble.resolve? reference = draft.ground.resolve? reference :=
    resolve?_of_not_owns ground unique foreign
  unfold Model.slotHandle?
  rw [resolved]
  cases found : draft.ground.resolve? reference with
  | none => rfl
  | some type =>
    obtain ⟨handle, -, there⟩ := Option.bind_eq_some_iff.mp found
    have kept : draft.assemble.collectionType? type = draft.ground.collectionType? type :=
      collectionType?_below ground (List.mem_of_getElem? there)
    rw [Option.bind_some, Option.bind_some, kept]

/-! ### Sealing what was put into words -/

/-- An attribute that restates a sealed one of the model below comes to a copy of it. -/
theorem copiesAttribute_of_restates (ground : draft.ground.WellFormed) (unique : draft.UniqueTags)
    {info : AttributeInfo}
    (described : draft.ground.Describes info.handle info.typeName info.elementName)
    {decl : AttributeDecl} (restates : decl.Restates info)
    (foreign : ¬ draft.Owns (.named info.spokenName)) {copy : AttributeInfo}
    (made : draft.sealAttribute? decl = some copy) : draft.ground.CopiesAttribute info copy := by
  obtain ⟨slot, filled, rfl⟩ := Option.map_eq_some_iff.mp made
  rw [restates.type, restates.collection] at filled
  obtain ⟨typeName, elementName⟩ := names_slot?_of_not_owns ground foreign filled
  have handle := slotHandle?_assemble ground unique (.named info.spokenName) info.isCollection
  rw [filled, slotHandle?_of_not_owns ground unique foreign] at handle
  exact
    { name := restates.name
      typeName := typeName.trans (ground.typeName_eq described).symm
      elementName := elementName.trans info.elementName_eq.symm
      metadata := restates.metadata
      handle }

theorem attributeCasing?_sealType {decl : TypeDecl} {entity : EntityDecl}
    (body : decl.body = .entity entity) (handle : TypeHandle) :
    (draft.sealType decl handle).attributeCasing? = some entity.casing := by
  unfold TypeInfo.attributeCasing? sealType sealBody
  rw [body]
  exact congrArg (fun table => some (NameTable.casing table)) (NameTable.ofList_eq _ _)

/-- A type that restates the attributes of a sealed entity comes to a copy of the entity. -/
theorem copiesEntity_sealType (ground : draft.ground.WellFormed) (buildable : draft.Buildable)
    {decl : TypeDecl} (member : decl ∈ draft.types.items) {entity : EntityDecl}
    {casing : Option Casing} {type : TypeInfo} (there : type ∈ draft.ground.arena)
    (begins : List.Forall₂ AttributeDecl.Restates entity.attributes.items type.attributes)
    (compared : type.attributeCasing? = some entity.casing)
    (body : decl.body = .entity ⟨casing.getD entity.casing, entity.attributes⟩)
    (foreign : ∀ info ∈ type.attributes, ¬ draft.Owns (.named info.spokenName))
    (handle : TypeHandle) :
    draft.ground.CopiesEntity type (draft.sealType decl handle) casing := by
  have declared : decl.attributes = entity.attributes.items := by
    unfold TypeDecl.attributes
    rw [body]
  have known := buildable.attributeTypes decl member
  rw [declared] at known
  have made := forall₂_sealAttribute? ground entity.attributes.items known
  have attributes : List.Forall₂ draft.ground.CopiesAttribute type.attributes
      (draft.sealType decl handle).attributes := by
    rw [attributes_sealType ground buildable member, declared]
    refine List.forall₂_iff_get.mpr ⟨begins.length_eq.symm.trans made.length_eq, ?_⟩
    intro index bound sealedBound
    have inside := List.get_mem type.attributes ⟨index, bound⟩
    have declaredBound := lt_of_lt_of_eq bound begins.length_eq.symm
    exact copiesAttribute_of_restates ground buildable.tags (ground.attributes there inside)
      (begins.get declaredBound bound) (foreign _ inside) (made.get declaredBound sealedBound)
  refine ⟨attributes, ?_, Model.eq_iff_of_copiesAttribute attributes⟩
  rw [attributeCasing?_sealType body, compared]
  cases casing <;> rfl

/-! ### Copies on top of a model -/

/-- A draft that has nothing under a name extends the entity below. -/
theorem extended_of_not_owns (distinct : draft.ground.AttributesDistinct) {source : String}
    (foreign : ¬ draft.Owns (.named source)) {type : TypeInfo}
    (found : draft.ground.entityType? source = some type) {name : String}
    {clauses : List TypeClause} {next : Draft}
    (said : draft.declareExtension name source clauses = .ok next) :
    draft.Extended name (entityOf type) clauses next := by
  have absent : draft.declaredEntity? source = none := by
    refine (draft.declaredEntity?_eq_none_iff source).mpr fun decl own => ?_
    exact absurd ⟨decl, Keyed.mem_of_find? own, Keyed.key_of_find? own⟩ foreign
  have begins := beginsWith_entityOf distinct absent found
  obtain ⟨made, accepted, extended⟩ := begins.exists_declareExtension distinct name clauses
  obtain rfl := Except.ok.inj (accepted.symm.trans said)
  exact extended

end Draft

namespace Model

/-- Whatever else is said to a draft, an extension of an entity of the model below to which no
attributes are added is sealed as a copy of that entity, if the draft does not declare the name of
the entity before nor those of the types of its attributes at all. -/
theorem Built.copiesEntity {model : Model} (built : model.Built) {source : String}
    {type : TypeInfo} (found : model.entityType? source = some type) {first next draft : Draft}
    {name : String} {clauses : List TypeClause} {later : List Declaration}
    (standing : first.base = some model) (foreign : ¬ first.Owns (.named source))
    (said : first.declareExtension name source clauses = .ok next)
    (bare : ∀ clause ∈ clauses, clause.attribute? = none)
    (saidLater : next.declareAll later = .ok draft)
    (lasting : draft.types.find? name = next.types.find? name)
    (apart : ∀ info ∈ type.attributes, ¬ draft.Owns (.named info.spokenName)) {above : Model}
    (builtAbove : draft.build = .ok above) :
    ∃ copy, above.type? name = some copy ∧
      model.CopiesEntity type copy (TypeClause.last? TypeClause.casing? clauses) := by
  have ground := Draft.ground_of_standing standing
  have extended := Draft.extended_of_not_owns (ground ▸ built.attributesDistinct) foreign
    (ground ▸ found) said
  have standingLast : draft.base = some model :=
    (Draft.base_declareAll saidLater).trans ((congrArg Draft.base extended.rest).trans standing)
  have groundLast := Draft.ground_of_standing standingLast
  have sound : draft.ground.WellFormed := groundLast ▸ built.wellFormed
  obtain ⟨buildable, rfl⟩ := (Draft.build_eq_ok_iff sound above).mp builtAbove
  have declared := lasting.trans extended.declared
  have member := Keyed.mem_of_find? declared
  obtain ⟨index, there⟩ := List.getElem?_of_mem member
  have inArena := mem_arena_of_entityType? found
  refine ⟨_, Draft.type?_own buildable.tags there, ?_⟩
  rw [← groundLast]
  exact Draft.copiesEntity_sealType sound buildable member (groundLast ▸ inArena)
    (Draft.restates_entityOf (built.attributesDistinct type inArena))
    (attributeCasing?_of_entityType? found)
    (congrArg TypeBody.entity ((Draft.entityOf type).addAll_of_bare bare)) apart _

end Model

/-! ### A faithful copy -/

namespace Draft

/-- An aviary is a cage, and it does not matter how the names of its attributes are written. -/
def aviary : Draft :=
  said ((extending shelter.assemble).declareExtension "Aviary" "Cage" [.casing .insensitive])

/-- The vets of the aviary, in a draft that goes on after the copy. -/
def vets : Draft :=
  aviary.declareType (.addAll (.ofBody "Vet" (.entity {}))
    [.attribute { name := "patients", type := .named "Aviary", collection := true }])

theorem said_aviary : (extending shelter.assemble).declareExtension "Aviary" "Cage"
    [.casing .insensitive] = .ok aviary :=
  eq_ok_said (by decide)

end Draft

namespace Model

/-- The attributes of an aviary are those of a cage. -/
theorem Built.copiesEntity_aviary :
    Draft.shelter.assemble.Built ∧ ∃ type, Draft.shelter.assemble.entityType? "Cage" = some type ∧
      ∃ copy, Draft.vets.assemble.type? "Aviary" = some copy ∧
        Draft.shelter.assemble.CopiesEntity type copy (some .insensitive) ∧
          copy.attributes = type.attributes := by
  have built : Draft.shelter.assemble.Built := .build Draft.grounded_shelter Draft.build_shelter
  have known : (Draft.shelter.assemble.entityType? "Cage").isSome = true := by decide
  obtain ⟨type, found⟩ := Option.isSome_iff_exists.mp known
  have apart : ∀ type ∈ Draft.shelter.assemble.entityType? "Cage", ∀ info ∈ type.attributes,
      ¬ Draft.vets.Owns (.named info.spokenName) := by
    decide
  have current : ∀ type ∈ Draft.shelter.assemble.entityType? "Cage", ∀ info ∈ type.attributes,
      Draft.shelter.assemble.currentHandle? info = some info.handle := by
    decide
  have later : Draft.aviary.declareAll [.type _] = .ok Draft.vets := rfl
  have lasting : Draft.vets.types.find? "Aviary" = Draft.aviary.types.find? "Aviary" :=
    Keyed.find?_insert_other Draft.aviary.types _ (by decide)
  obtain ⟨copy, there, copies⟩ := Built.copiesEntity built found rfl (by decide) Draft.said_aviary
    (by simp [TypeClause.attribute?]) later lasting (apart type found)
    (Draft.build_of_faults (by decide))
  exact ⟨built, type, found, copy, there, copies, copies.faithful.mpr (current type found)⟩

end Model

/-! ### A copy of what has lost its name -/

/-- Authors, in an archive, begin like the persons of the household. -/
def Draft.authors : Draft :=
  said ((extending archive.assemble).declareExtension "Author" "Person" [])

namespace Model

/-- It is not so for all copies: the name of an author is one of the new texts of the archive, that
of a person is an old one. -/
theorem not_copiesEntity :
    ¬ ∀ model : Model, model.Built → ∀ (first next : Draft) (name source : String)
      (type : TypeInfo) (above : Model), first.base = some model →
        model.entityType? source = some type → ¬ first.Owns (.named source) →
          first.declareExtension name source [] = .ok next →
            (∀ info ∈ type.attributes, ¬ next.Owns (.named info.spokenName)) →
              next.build = .ok above → ∃ copy, above.type? name = some copy ∧
                copy.attributes.map AttributeInfo.handle =
                  type.attributes.map AttributeInfo.handle := by
  intro claim
  have old : (Draft.archive.assemble.entityType? "Person").map
      (·.attributes.map AttributeInfo.handle) = some [2, 4] := by
    decide
  have new : (Draft.authors.assemble.type? "Author").map
      (·.attributes.map AttributeInfo.handle) = some [6, 4] := by
    decide
  have said : (Draft.extending Draft.archive.assemble).declareExtension "Author" "Person" [] =
      .ok Draft.authors :=
    Draft.eq_ok_said (by decide)
  have apart : ∀ type ∈ Draft.archive.assemble.entityType? "Person", ∀ info ∈ type.attributes,
      ¬ Draft.authors.Owns (.named info.spokenName) := by
    decide
  obtain ⟨person, found, places⟩ := Option.map_eq_some_iff.mp old
  obtain ⟨author, there, same⟩ := claim _ Draft.built_archive _ _ "Author" "Person" person _ rfl
    found (by decide) said (apart person found) (Draft.build_of_faults (by decide))
  rw [there, Option.map_some, same, places] at new
  cases new

end Model

end Metamodel
