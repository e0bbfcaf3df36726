/-
Drafts in other words.

An attribute may speak of its type by name or by tag, and where both denote the same type it makes
no difference which of them it does. So the references in the attributes of a draft may be replaced
by others that denote the same: the places, the types and the rules that come of the draft are what
they were, and there is the same to complain of. What is said to a draft may be put in other words
before or afterwards.
-/

import Metamodel.Proofs.Binding
import Metamodel.Proofs.Renaming

namespace Metamodel

namespace Keyed

variable {α β κ : Type} {key : α → κ} {other : β → κ} [DecidableEq κ]

theorem find?_map (f : α → β) (same : ∀ item, other (f item) = key item) (table : Keyed key)
    (wanted : κ) : (table.map f same).find? wanted = (table.find? wanted).map f := by
  show (table.items.map f).find? _ = (table.items.find? _).map f
  rw [List.find?_map]
  simp only [Function.comp_def, same]

end Keyed

/-! ### Declarations in other words -/

section Words

variable (say : Reference → Reference)

def AttributeDecl.rephrase (decl : AttributeDecl) : AttributeDecl :=
  { decl with type := say decl.type }

theorem AttributeDecl.name_rephrase (decl : AttributeDecl) :
    (decl.rephrase say).name = decl.name := rfl

def EntityDecl.rephrase (entity : EntityDecl) : EntityDecl :=
  { entity with attributes := entity.attributes.map (AttributeDecl.rephrase say) }

theorem EntityDecl.items_rephrase (entity : EntityDecl) :
    (entity.rephrase say).attributes.items =
      entity.attributes.items.map (AttributeDecl.rephrase say) := Members.items_map _ _

theorem EntityDecl.names_rephrase (entity : EntityDecl) :
    (entity.rephrase say).attributes.names = entity.attributes.names :=
  Members.names_map (AttributeDecl.name_rephrase say) entity.attributes

def TypeBody.rephrase : TypeBody → TypeBody
  | .entity decl => .entity (decl.rephrase say)
  | other => other

def TypeDecl.rephrase (decl : TypeDecl) : TypeDecl := { decl with body := decl.body.rephrase say }

theorem TypeDecl.name_rephrase (decl : TypeDecl) : (decl.rephrase say).name = decl.name := rfl

def TypeSketch.rephrase (sketch : TypeSketch) : TypeSketch :=
  { sketch with decl := sketch.decl.rephrase say }

def TypeClause.rephrase : TypeClause → TypeClause
  | .attribute decl => .attribute (decl.rephrase say)
  | other => other

def Draft.rephrase (draft : Draft) : Draft :=
  { draft with types := draft.types.map _ (TypeDecl.name_rephrase say) }

theorem TypeDecl.entity?_rephrase (decl : TypeDecl) :
    (decl.rephrase say).entity? = decl.entity?.map (EntityDecl.rephrase say) := by
  unfold entity? TypeDecl.rephrase
  cases decl.body <;> rfl

theorem TypeDecl.attributes_rephrase (decl : TypeDecl) :
    (decl.rephrase say).attributes = decl.attributes.map (AttributeDecl.rephrase say) := by
  unfold attributes TypeDecl.rephrase
  cases decl.body with
  | entity entity => exact entity.items_rephrase say
  | basic | enum => rfl

theorem TypeBody.memberNames_rephrase (body : TypeBody) :
    (body.rephrase say).memberNames = body.memberNames := by
  cases body with
  | entity entity => exact entity.names_rephrase say
  | basic | enum => rfl

theorem TypeDecl.answersTo_rephrase (decl : TypeDecl) :
    (decl.rephrase say).AnswersTo = decl.AnswersTo := by
  funext reference
  cases reference <;> rfl

theorem TypeSketch.rephrase_add (sketch : TypeSketch) (clause : TypeClause) :
    (sketch.add clause).rephrase say = (sketch.rephrase say).add (clause.rephrase say) := by
  obtain ⟨⟨name, tag, metadata, body⟩, operators, predicates⟩ := sketch
  match clause with
  | .attribute info =>
    cases body with
    | entity entity =>
      exact congrArg (fun attributes => TypeSketch.mk
        ⟨name, tag, metadata, .entity ⟨entity.casing, attributes⟩⟩ operators predicates)
        (Members.map_insert (AttributeDecl.name_rephrase say) entity.attributes info)
    | basic => rfl
    | enum enum => rfl
  | .casing _ => cases body <;> rfl
  | .value _ => cases body <;> rfl
  | .tag _ | .operators _ | .predicates _ | .metadata _ => rfl

theorem TypeSketch.rephrase_addAll (sketch : TypeSketch) (clauses : List TypeClause) :
    (sketch.addAll clauses).rephrase say =
      (sketch.rephrase say).addAll (clauses.map (TypeClause.rephrase say)) := by
  induction clauses generalizing sketch with
  | nil => rfl
  | cons head rest inductionHypothesis =>
    rw [List.map_cons]
    exact (inductionHypothesis (sketch.add head)).trans
      (congrArg (TypeSketch.addAll · _) (sketch.rephrase_add say head))

end Words

namespace Draft

variable {draft : Draft} {say : Reference → Reference}

theorem rephrase_registerType (decl : TypeDecl) :
    (draft.registerType decl).rephrase say =
      (draft.rephrase say).registerType (decl.rephrase say) :=
  congrArg (fun types => { draft with types }) (Keyed.map_insert _ _ draft.types decl)

theorem rephrase_declareType (sketch : TypeSketch) :
    (draft.declareType sketch).rephrase say =
      (draft.rephrase say).declareType (sketch.rephrase say) :=
  rephrase_registerType sketch.decl

/-! ### Places and slots -/

theorem getElem?_types_rephrase (index : Nat) :
    (draft.rephrase say).types.items[index]? =
      (draft.types.items[index]?).map (TypeDecl.rephrase say) := List.getElem?_map

theorem size_rephrase : (draft.rephrase say).types.size = draft.types.size := List.length_map _

theorem ownIndex?_rephrase (reference : Reference) :
    (draft.rephrase say).ownIndex? reference = draft.ownIndex? reference := by
  cases reference <;> exact List.findIdx?_map ..

theorem denote?_rephrase (draft : Draft) (say : Reference → Reference) :
    (draft.rephrase say).denote? = draft.denote? := by
  funext reference
  unfold denote?
  rw [ownIndex?_rephrase]
  rfl

theorem nameOf_rephrase : (draft.rephrase say).nameOf = draft.nameOf := by
  funext target
  cases target with
  | inherited handle => rfl
  | own index =>
    show ((draft.rephrase say).types.items[index]?).elim "" TypeDecl.name =
      (draft.types.items[index]?).elim "" TypeDecl.name
    rw [getElem?_types_rephrase]
    cases draft.types.items[index]? <;> rfl

theorem handleOf_rephrase : (draft.rephrase say).handleOf = draft.handleOf := by
  funext target
  cases target <;> rfl

theorem collectionHandleOf_rephrase (ground : draft.ground.WellFormed) :
    (draft.rephrase say).collectionHandleOf = draft.collectionHandleOf := by
  have none : (draft.rephrase say).uncollected = [] := uncollected_eq_nil ground
  funext target
  unfold collectionHandleOf
  rw [size_rephrase, none, uncollected_eq_nil ground]
  rfl

theorem slot?_rephrase (ground : draft.ground.WellFormed) :
    (draft.rephrase say).slot? = draft.slot? := by
  unfold slot?
  rw [denote?_rephrase, nameOf_rephrase, handleOf_rephrase, collectionHandleOf_rephrase ground]

/-! ### What comes of a draft -/

section Keeps

variable (keeps : ∀ reference, draft.denote? (say reference) = draft.denote? reference)
include keeps

theorem sealType_rephrase (ground : draft.ground.WellFormed) (decl : TypeDecl)
    (handle : TypeHandle) :
    (draft.rephrase say).sealType (decl.rephrase say) handle = draft.sealType decl handle := by
  have sealed : ∀ info : AttributeDecl,
      (draft.rephrase say).sealAttribute? (info.rephrase say) = draft.sealAttribute? info := by
    intro info
    have slot : draft.slot? (say info.type) info.collection =
        draft.slot? info.type info.collection := by
      unfold slot?
      rw [keeps]
    unfold sealAttribute?
    rw [slot?_rephrase ground]
    exact congrArg (Option.map _) slot
  have body : (draft.rephrase say).sealBody (decl.body.rephrase say) =
      draft.sealBody decl.body := by
    cases decl.body with
    | basic => rfl
    | enum enum => rfl
    | entity entity =>
      have infos : (entity.rephrase say).attributes.items.filterMap
          (draft.rephrase say).sealAttribute? =
            entity.attributes.items.filterMap draft.sealAttribute? := by
        rw [entity.items_rephrase, List.filterMap_map]
        exact List.filterMap_congr fun info _ => sealed info
      exact congrArg (fun infos => Shape.entity (.ofList entity.casing
        (infos.map fun info : AttributeInfo => (info.name, info)))) infos
  unfold sealType
  exact congrArg (TypeInfo.mk handle decl.name decl.tag _ _ decl.metadata) body

theorem ownTypes_rephrase (ground : draft.ground.WellFormed) :
    (draft.rephrase say).ownTypes = draft.ownTypes := by
  refine List.ext_getElem? fun index => ?_
  rw [getElem?_ownTypes, getElem?_ownTypes, getElem?_types_rephrase, Option.map_map]
  cases draft.types.items[index]? with
  | none => rfl
  | some decl => exact congrArg some (sealType_rephrase keeps ground decl _)

theorem skeleton_rephrase (ground : draft.ground.WellFormed) :
    (draft.rephrase say).skeleton = draft.skeleton := by
  have sameGround : (draft.rephrase say).ground = draft.ground := rfl
  have collected : (draft.rephrase say).collected = draft.collected := by
    rw [collected_eq ground, ← size_rephrase]
    exact collected_eq ground
  have functions : (draft.rephrase say).sealFunction = draft.sealFunction := by
    unfold sealFunction sealArgument argumentSlot?
    rw [slot?_rephrase ground]
  unfold skeleton arena named tagged collections ownCollections sealedFunctions
  rw [ownTypes_rephrase keeps ground, collected, functions, nameOf_rephrase, handleOf_rephrase,
    collectionHandleOf_rephrase ground, sameGround]
  rfl

theorem assemble_rephrase (ground : draft.ground.WellFormed) :
    (draft.rephrase say).assemble = draft.assemble := by
  unfold assemble sealedRules
  rw [skeleton_rephrase keeps ground]
  rfl

end Keeps

/-! ### The same to complain of -/

theorem offers_rephrase_iff (reference : Reference) (name : String)
    (enabled : Capability → Bool) :
    (draft.rephrase say).Offers reference name enabled ↔ draft.Offers reference name enabled := by
  have absent : (∀ decl ∈ (draft.rephrase say).types.items, ¬ decl.AnswersTo reference) ↔
      ∀ decl ∈ draft.types.items, ¬ decl.AnswersTo reference := by
    rw [← ownIndex?_eq_none_iff, ← ownIndex?_eq_none_iff, ownIndex?_rephrase]
  constructor
  · intro offer
    cases offer with
    | own member answers =>
      obtain ⟨decl, declMember, rfl⟩ := List.mem_map.mp member
      rw [TypeDecl.answersTo_rephrase] at answers
      have offer : draft.Offers reference decl.name (draft.enables decl.name) :=
        .own declMember answers
      exact offer
    | inherited none found => exact .inherited (absent.mp none) found
  · intro offer
    cases offer with
    | @own decl member answers =>
      rw [← decl.answersTo_rephrase say] at answers
      have own : decl.rephrase say ∈ (draft.rephrase say).types.items := List.mem_map_of_mem member
      have offer : (draft.rephrase say).Offers reference (decl.rephrase say).name
          ((draft.rephrase say).enables (decl.rephrase say).name) := .own own answers
      exact offer
    | inherited none found => exact .inherited (absent.mpr none) found

theorem knows_rephrase_iff (reference : Reference) :
    (draft.rephrase say).Knows reference ↔ draft.Knows reference := by
  unfold Knows
  simp only [offers_rephrase_iff]

theorem supports_rephrase_iff (target : Reference) (capability : Capability) :
    (draft.rephrase say).Supports target capability ↔ draft.Supports target capability := by
  unfold Supports
  simp only [offers_rephrase_iff]

theorem uniqueTags_rephrase_iff : (draft.rephrase say).UniqueTags ↔ draft.UniqueTags := by
  unfold UniqueTags rephrase Keyed.map
  rw [List.filterMap_map]
  rfl

theorem body_rephrase_eq_entity {body : TypeBody} {entity : EntityDecl}
    (same : body.rephrase say = .entity entity) :
    ∃ other, body = .entity other ∧ entity = other.rephrase say := by
  cases body with
  | entity other => exact ⟨other, rfl, (TypeBody.entity.inj same).symm⟩
  | basic => cases same
  | enum enum => cases same

theorem body_rephrase_eq_enum {body : TypeBody} {enum : EnumDecl}
    (same : body.rephrase say = .enum enum) : body = .enum enum := by
  cases body with
  | enum other => exact same
  | basic => cases same
  | entity entity => cases same

section Buildable

variable (ground : draft.ground.WellFormed)
  (keeps : ∀ reference, draft.denote? (say reference) = draft.denote? reference)
include ground keeps

theorem knows_say_iff (reference : Reference) :
    draft.Knows (say reference) ↔ draft.Knows reference := by
  rw [← not_iff_not, ← denote?_eq_none_iff ground, ← denote?_eq_none_iff ground, keeps]

theorem buildable_of_rephrase (buildable : (draft.rephrase say).Buildable) :
    draft.Buildable where
  tags := uniqueTags_rephrase_iff.mp buildable.tags
  names decl member := buildable.names (decl.rephrase say) (List.mem_map_of_mem member)
  attributeTypes decl member info inside := by
    have listed : info.rephrase say ∈ (decl.rephrase say).attributes := by
      rw [TypeDecl.attributes_rephrase]
      exact List.mem_map_of_mem inside
    have knows := buildable.attributeTypes _ (List.mem_map_of_mem member) _ listed
    exact (knows_say_iff ground keeps _).mp ((knows_rephrase_iff _).mp knows)
  argumentTypes decl member argument inside type typed :=
    (knows_rephrase_iff _).mp (buildable.argumentTypes decl member argument inside type typed)
  resultTypes decl member type typed :=
    (knows_rephrase_iff _).mp (buildable.resultTypes decl member type typed)
  attributeNames decl member entity fold body folds := by
    have apart := buildable.attributeNames _ (List.mem_map_of_mem member) (entity.rephrase say)
      fold (by rw [TypeDecl.rephrase, body]; rfl) folds
    rw [entity.names_rephrase] at apart
    exact apart
  valueNames decl member enum fold body folds :=
    buildable.valueNames _ (List.mem_map_of_mem member) enum fold
      (by rw [TypeDecl.rephrase, body]; rfl) folds
  functionNames := buildable.functionNames
  inheritedNames := buildable.inheritedNames
  functionRules := buildable.functionRules
  registrations registration member :=
    (supports_rephrase_iff _ _).mp (buildable.registrations registration member)
  memberNames decl member := by
    rw [← decl.body.memberNames_rephrase say]
    exact buildable.memberNames (decl.rephrase say) (List.mem_map_of_mem member)

theorem buildable_rephrase (buildable : draft.Buildable) : (draft.rephrase say).Buildable where
  tags := uniqueTags_rephrase_iff.mpr buildable.tags
  names := List.forall_mem_map.mpr buildable.names
  attributeTypes := List.forall_mem_map.mpr fun decl member info inside => by
    rw [TypeDecl.attributes_rephrase] at inside
    obtain ⟨other, otherInside, rfl⟩ := List.mem_map.mp inside
    have knows := buildable.attributeTypes decl member other otherInside
    exact (knows_rephrase_iff _).mpr ((knows_say_iff ground keeps _).mpr knows)
  argumentTypes decl member argument inside type typed :=
    (knows_rephrase_iff _).mpr (buildable.argumentTypes decl member argument inside type typed)
  resultTypes decl member type typed :=
    (knows_rephrase_iff _).mpr (buildable.resultTypes decl member type typed)
  attributeNames := List.forall_mem_map.mpr fun decl member entity fold body folds => by
    obtain ⟨other, otherBody, rfl⟩ := body_rephrase_eq_entity body
    rw [other.names_rephrase]
    exact buildable.attributeNames decl member other fold otherBody folds
  valueNames := List.forall_mem_map.mpr fun decl member enum fold body folds =>
    buildable.valueNames decl member enum fold (body_rephrase_eq_enum body) folds
  functionNames := buildable.functionNames
  inheritedNames := buildable.inheritedNames
  functionRules := buildable.functionRules
  registrations registration member :=
    (supports_rephrase_iff _ _).mpr (buildable.registrations registration member)
  memberNames := List.forall_mem_map.mpr fun decl member => by
    rw [TypeDecl.rephrase, decl.body.memberNames_rephrase say]
    exact buildable.memberNames decl member

/-- A draft in other words is built if the draft is, and then the model is the same. -/
theorem build_rephrase (model : Model) :
    (draft.rephrase say).build = .ok model ↔ draft.build = .ok model := by
  have ownGround : (draft.rephrase say).ground.WellFormed := ground
  rw [build_eq_ok_iff ground, build_eq_ok_iff ownGround, assemble_rephrase keeps ground]
  exact and_congr_left' ⟨buildable_of_rephrase ground keeps, buildable_rephrase ground keeps⟩

end Buildable

end Draft

end Metamodel
