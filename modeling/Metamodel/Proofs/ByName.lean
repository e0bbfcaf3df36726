/-
Speaking of types by name.

On top of a model an entity is copied from the sealed type, and the copy speaks of the types of the
attributes by name. In the draft that the model came of, it is copied from the declaration, with the
references that were used in it. The two copies differ in nothing but words if each of those types is
still found under its name, if the attributes were kept under theirs, and if whatever has the name
of the entity is one, since otherwise an entity of the model further below shows through.
-/

import Metamodel.Proofs.Rephrasing
import Metamodel.Proofs.Together

namespace Metamodel

/-- The types of all attributes are found under their names. -/
def Model.FindsByName (model : Model) (decl : TypeDecl) : Prop :=
  ∀ info ∈ decl.attributes, ∀ type ∈ model.resolve? info.type,
    model.handle? (.named type.name) = some type.handle

instance (model : Model) (decl : TypeDecl) : Decidable (model.FindsByName decl) :=
  inferInstanceAs (Decidable (∀ info ∈ decl.attributes, ∀ type ∈ model.resolve? info.type,
    model.handle? (.named type.name) = some type.handle))

namespace Draft

/-! ### Speaking by name -/

section ByName

variable {draft : Draft} {reference : Reference} {target : Denotation}

/-- The name of the type that a reference denotes, if the name denotes the same type, or else the
reference itself. -/
def byName (draft : Draft) (reference : Reference) : Reference :=
  match draft.denote? reference with
  | some target =>
    if draft.denote? (.named (draft.nameOf target)) = some target then .named (draft.nameOf target)
    else reference
  | none => reference

theorem denote?_byName (draft : Draft) (reference : Reference) :
    draft.denote? (draft.byName reference) = draft.denote? reference := by
  unfold byName
  cases denoted : draft.denote? reference with
  | none => exact denoted
  | some target =>
    dsimp only
    split
    · next named => exact named
    · exact denoted

theorem byName_eq (denoted : draft.denote? reference = some target)
    (named : draft.denote? (.named (draft.nameOf target)) = some target) :
    draft.byName reference = .named (draft.nameOf target) := by
  unfold byName
  rw [denoted]
  exact if_pos named

theorem Holds.eq_of_handleOf_eq {other : Denotation} (holds : draft.Holds target)
    (otherHolds : draft.Holds other) (same : draft.handleOf target = draft.handleOf other) :
    target = other := by
  cases holds with
  | own bound =>
    cases otherHolds with
    | own otherBound => exact congrArg Denotation.own (Nat.add_left_cancel same)
    | inherited found plain =>
      have below := (List.getElem?_eq_some_iff.mp found).1
      exact absurd (lt_of_eq_of_lt same below) (Nat.not_lt.mpr (Nat.le_add_right _ _))
  | inherited found plain =>
    cases otherHolds with
    | own otherBound =>
      have below := (List.getElem?_eq_some_iff.mp found).1
      exact absurd (lt_of_eq_of_lt same.symm below) (Nat.not_lt.mpr (Nat.le_add_right _ _))
    | inherited otherFound otherPlain => exact congrArg Denotation.inherited same

/-- If the model finds a type under its name, the draft does so too. -/
theorem denote?_named (ground : draft.ground.WellFormed) (unique : draft.UniqueTags)
    (denoted : draft.denote? reference = some target)
    (finds : ∀ type ∈ draft.assemble.resolve? reference,
      draft.assemble.handle? (.named type.name) = some type.handle) :
    draft.denote? (.named (draft.nameOf target)) = some target := by
  have holds := holds_of_denote? ground denoted
  obtain ⟨type, there, -, name⟩ := typeAt?_handleOf holds
  have resolved : draft.assemble.resolve? reference = some type := by
    show (draft.skeleton.handle? reference).bind draft.skeleton.typeAt? = some type
    rw [handle?_skeleton unique, denoted]
    exact there
  have found := finds type resolved
  have place : type.handle = draft.handleOf target :=
    (wellFormed_skeleton ground unique).handle_eq there
  rw [show draft.assemble.handle? = draft.skeleton.handle? from rfl, handle?_skeleton unique, name,
    place, Option.map_eq_some_iff] at found
  obtain ⟨other, otherDenoted, same⟩ := found
  rw [otherDenoted, (holds_of_denote? ground otherDenoted).eq_of_handleOf_eq holds same]

/-- A copy of a sealed attribute speaks of the same type as its declaration, by name. -/
theorem rephrase_attributeOf (ground : draft.ground.WellFormed) (unique : draft.UniqueTags)
    {info : AttributeDecl} (known : draft.Knows info.type)
    (finds : ∀ type ∈ draft.assemble.resolve? info.type,
      draft.assemble.handle? (.named type.name) = some type.handle) :
    (draft.sealAttribute? info).map (fun sealed => (attributeOf sealed).rephrase draft.byName) =
      some (info.rephrase draft.byName) := by
  have denotes := mt (denote?_eq_none_iff ground info.type).mp (not_not.mpr known)
  obtain ⟨target, denoted⟩ := Option.ne_none_iff_exists'.mp denotes
  have named := denote?_named ground unique denoted finds
  have renamed : draft.byName (.named (draft.nameOf target)) = draft.byName info.type := by
    rw [byName_eq denoted named, byName_eq named named]
  obtain ⟨name, type, collection, metadata⟩ := info
  unfold sealAttribute? slot?
  rw [denoted]
  cases collection <;>
    exact congrArg (fun type => some (AttributeDecl.mk name type _ metadata)) renamed

/-- A copy of a sealed entity speaks of the same types as its declaration, by name. -/
theorem rephrase_entityOf (ground : draft.ground.WellFormed) (buildable : draft.Buildable)
    {decl : TypeDecl} (member : decl ∈ draft.types.items) {entity : EntityDecl}
    (body : decl.body = .entity entity) (finds : draft.assemble.FindsByName decl)
    (keeps : entity.attributes.KeepsNames) (handle : TypeHandle) :
    (entityOf (draft.sealType decl handle)).rephrase draft.byName =
      entity.rephrase draft.byName := by
  have declared : decl.attributes = entity.attributes.items := by
    unfold TypeDecl.attributes
    rw [body]
  have casing : (entityOf (draft.sealType decl handle)).casing = entity.casing := by
    unfold entityOf sealType sealBody
    rw [body]
    exact congrArg NameTable.casing (NameTable.ofList_eq _ _)
  have list : ((draft.sealType decl handle).attributes.map attributeOf).map
      (AttributeDecl.rephrase draft.byName) =
        entity.attributes.items.map (AttributeDecl.rephrase draft.byName) := by
    rw [attributes_sealType ground buildable member, List.map_map, List.map_filterMap, ← declared,
      ← List.filterMap_eq_map]
    exact List.filterMap_congr fun info inside => rephrase_attributeOf ground buildable.tags
      (buildable.attributeTypes decl member info inside) (finds info inside)
  have names : ((draft.sealType decl handle).attributes.map attributeOf).map AttributeDecl.name =
      entity.attributes.names := by
    have same := congrArg (List.map AttributeDecl.name) list
    rw [List.map_map, List.map_map (f := AttributeDecl.rephrase draft.byName)] at same
    exact same
  have kept (entity : EntityDecl) (keeps : entity.attributes.KeepsNames) :
      (entity.rephrase draft.byName).attributes.KeepsNames :=
    keeps.map (AttributeDecl.name_rephrase draft.byName)
  refine congrArg₂ EntityDecl.mk casing ?_
  refine (kept _ (Members.keepsNames_ofList _)).eq_of_items_eq (kept _ keeps) ?_
  refine (Members.items_map _ _).trans (Eq.trans ?_ (Members.items_map _ _).symm)
  rw [← list]
  exact congrArg (List.map _) (Members.items_ofList (names ▸ keeps.nodup))

end ByName

/-! ### Copies -/

/-- The entity that a draft itself declares under a name. -/
def declaredEntity? (draft : Draft) (name : String) : Option EntityDecl :=
  (draft.types.find? name).bind TypeDecl.entity?

theorem declaredEntity?_rephrase (draft : Draft) (say : Reference → Reference) (name : String) :
    (draft.rephrase say).declaredEntity? name =
      (draft.declaredEntity? name).map (EntityDecl.rephrase say) := by
  have found : (draft.rephrase say).types.find? name =
      (draft.types.find? name).map (TypeDecl.rephrase say) :=
    Keyed.find?_map _ (TypeDecl.name_rephrase say) draft.types name
  unfold declaredEntity?
  rw [found]
  cases draft.types.find? name with
  | none => rfl
  | some decl => exact decl.entity?_rephrase say

section Copies

variable {draft : Draft} {name : String}

theorem entitySource_of_declared {entity : EntityDecl}
    (declared : draft.declaredEntity? name = some entity) :
    draft.entitySource name = .ok entity := by
  unfold declaredEntity? at declared
  unfold entitySource
  rw [declared]

theorem entitySource_of_ground {type : TypeInfo} (absent : draft.declaredEntity? name = none)
    (found : draft.ground.entityType? name = some type) :
    draft.entitySource name = .ok (entityOf type) := by
  unfold declaredEntity? at absent
  unfold entitySource
  rw [absent, found]

theorem entitySource_cases {entity : EntityDecl} (source : draft.entitySource name = .ok entity) :
    draft.declaredEntity? name = some entity ∨ draft.declaredEntity? name = none ∧
      ∃ type, draft.ground.entityType? name = some type ∧ entity = entityOf type := by
  cases declared : draft.declaredEntity? name with
  | some other =>
    rw [entitySource_of_declared declared] at source
    exact Or.inl (congrArg some (Except.ok.inj source))
  | none =>
    refine Or.inr ⟨rfl, ?_⟩
    cases found : draft.ground.entityType? name with
    | some type =>
      rw [entitySource_of_ground declared found] at source
      exact ⟨type, rfl, (Except.ok.inj source).symm⟩
    | none =>
      unfold declaredEntity? at declared
      unfold entitySource at source
      rw [declared, found] at source
      cases source

/-- The entity that an extension begins with, if there is one. -/
def entity? (draft : Draft) (name : String) : Option EntityDecl :=
  (draft.declaredEntity? name).or ((draft.ground.entityType? name).map entityOf)

theorem entitySource_eq (draft : Draft) (name : String) :
    draft.entitySource name = (draft.entity? name).elim (.error (.unknownEntity name)) .ok := by
  unfold entity?
  cases declared : draft.declaredEntity? name with
  | some entity => exact entitySource_of_declared declared
  | none =>
    unfold declaredEntity? at declared
    unfold entitySource
    rw [declared]
    cases draft.ground.entityType? name <;> rfl

theorem entity?_of_absent (absent : draft.types.find? name = none) :
    draft.entity? name = (draft.ground.entityType? name).map entityOf := by
  unfold entity? declaredEntity?
  rw [absent]
  rfl

theorem kind_sealType (draft : Draft) (decl : TypeDecl) (handle : TypeHandle) :
    (draft.sealType decl handle).kind = decl.kind := by
  unfold TypeInfo.kind sealType sealBody TypeDecl.kind
  cases decl.body <;> rfl

/-- In the model that a draft describes, an entity of the draft's own is the sealed declaration. -/
theorem entityType?_own (unique : draft.UniqueTags) {decl : TypeDecl}
    (own : draft.types.find? name = some decl) :
    ∃ handle, draft.assemble.entityType? name =
      if decl.kind = .entity then some (draft.sealType decl handle) else none := by
  obtain rfl : decl.name = name := Keyed.key_of_find? own
  obtain ⟨index, there⟩ := List.getElem?_of_mem (Keyed.mem_of_find? own)
  refine ⟨draft.ownHandle index, (congrArg (Option.filter _) (type?_own unique there)).trans ?_⟩
  rw [Option.filter_some, kind_sealType]
  simp only [decide_eq_true_eq]

theorem entityType?_of_absent (ground : draft.ground.WellFormed) (unique : draft.UniqueTags)
    (absent : draft.types.find? name = none) :
    draft.assemble.entityType? name = draft.ground.entityType? name := by
  have foreign : ¬ draft.Owns (.named name) := by
    intro ⟨decl, member, same⟩
    rw [draft.types.find?_eq_some_iff.mpr ⟨member, same⟩] at absent
    cases absent
  exact congrArg (Option.filter _) (resolve?_of_not_owns ground unique foreign)

/-- What is declared under a name serves an extension in the same way before the draft is built and
afterwards: the types of its attributes are found under their names, the attributes are kept under
theirs, and if it is no entity it does not leave the name to one of the model below. -/
structure CopiesAlike (draft : Draft) (decl : TypeDecl) : Prop where
  finds : draft.assemble.FindsByName decl
  keeps : decl.body.KeepsNames
  hides : decl.kind ≠ .entity → draft.ground.entityType? decl.name = none

instance (draft : Draft) (decl : TypeDecl) : Decidable (draft.CopiesAlike decl) :=
  decidable_of_iff (draft.assemble.FindsByName decl ∧ decl.body.KeepsNames ∧
      (decl.kind ≠ .entity → draft.ground.entityType? decl.name = none))
    ⟨fun ⟨finds, keeps, hides⟩ => ⟨finds, keeps, hides⟩,
      fun ⟨finds, keeps, hides⟩ => ⟨finds, keeps, hides⟩⟩

/-- What an extension begins with on top of a model is what it begins with in the draft, in other
words. -/
theorem rephrase_entity?_assemble (ground : draft.ground.WellFormed) (buildable : draft.Buildable)
    (alike : ∀ decl ∈ draft.types.items, decl.name = name → draft.CopiesAlike decl) :
    (draft.assemble.entityType? name).map (fun type => (entityOf type).rephrase draft.byName) =
      (draft.entity? name).map (EntityDecl.rephrase draft.byName) := by
  cases own : draft.types.find? name with
  | none =>
    rw [entityType?_of_absent ground buildable.tags own, entity?_of_absent own, Option.map_map]
    rfl
  | some decl =>
    have member := Keyed.mem_of_find? own
    obtain rfl : decl.name = name := Keyed.key_of_find? own
    have alike := alike decl member rfl
    obtain ⟨handle, sealed⟩ := entityType?_own buildable.tags own
    have ⟨finds, keeps, hides⟩ := alike
    unfold entity? declaredEntity? TypeDecl.entity?
    unfold TypeDecl.kind at sealed hides
    rw [sealed, own, Option.bind_some]
    cases body : decl.body with
    | entity entity =>
      rw [body] at keeps
      exact congrArg some (rephrase_entityOf ground buildable member body finds keeps handle)
    | basic | enum =>
      rw [body] at hides
      rw [hides (fun same => nomatch same)]
      rfl

end Copies

end Draft

end Metamodel
