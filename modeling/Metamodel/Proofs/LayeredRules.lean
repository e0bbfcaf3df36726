/-
The rules of a model do not depend on how it was built up.

A draft on the model of another one files its rules over those of the model, where the defaults of
the types below are filled in already, and then fills in defaults for all types once more. In one
draft everything is filed before anything is filled in. The rows of the table fall into two parts
that have nothing to do with each other. The rows of the second draft's types are empty below, and
into them goes what the second draft registers or else a default, in either way of building. The
other rows are those of the model below, to which the second draft adds nothing: what is filled in
for a second time is there already.
-/

import Metamodel.Proofs.Layering
import Metamodel.Proofs.Newest

namespace Metamodel

namespace Draft

open RuleTable

/-! ### Defaults under a renaming -/

theorem fillRules_map_rename (move : TypeHandle → TypeHandle) (table : RuleTable)
    (types : List TypeInfo) :
    fillRules table (types.map (TypeInfo.rename move)) = fillRules table types := by
  have same : ∀ type : TypeInfo, fillRule (type.rename move) = fillRule type := by
    intro type
    funext rules capability
    unfold fillRule
    rw [TypeInfo.enables_rename]
    rfl
  unfold fillRules
  rw [List.foldl_map]
  simp only [same]

/-! ### Registrations under a renaming -/

section Registering

variable {model other : Model} {move : TypeHandle → TypeHandle}

theorem registeredType?_rename {registration : Registration}
    (resolved : other.resolve? registration.target =
      (model.resolve? registration.target).map (TypeInfo.rename move)) :
    registeredType? other registration =
      (registeredType? model registration).map (TypeInfo.rename move) := by
  rw [registeredType?_eq, registeredType?_eq, resolved, Option.filter_map]
  simp only [Function.comp_def, TypeInfo.enables_rename]

/-- Registrations are filed for the same names and tags, wherever the types stand. -/
theorem foldl_fileRule_rename {registrations : List Registration}
    (resolved : ∀ registration ∈ registrations, other.resolve? registration.target =
      (model.resolve? registration.target).map (TypeInfo.rename move)) (table : RuleTable) :
    registrations.foldl (fileRule other) table = registrations.foldl (fileRule model) table := by
  refine foldl_fileRule_congr (fun registration member => ?_) table
  rw [registeredType?_rename (resolved registration member), Option.map_map]
  rfl

end Registering

namespace Layered

variable {first second : Draft}

/-! ### Types that answer to the same -/

/-- No type below answers to what a type of the second draft answers to. -/
theorem not_answers_below (layered : Layered first second) {decl : TypeDecl}
    (declMember : decl ∈ second.types.items) (name : decl.name ≠ collectionTypeName)
    {reference : Reference} (answers : decl.AnswersTo reference) {type : TypeInfo}
    (member : type ∈ first.assemble.arena) : ¬ type.AnswersTo reference := by
  refine layered.built_below.not_answers_of_unknown name answers ?_ member
  exact (resolve?_eq_none_iff layered.wellFormed layered.buildable.tags reference).mpr
    (layered.apart reference ⟨decl, declMember, answers⟩)

/-- A type above that shares a name or a tag with a declaration of the second draft is the declared
one. -/
theorem answers_iff_of_shared (layered : Layered first second) (above : second.Buildable)
    {decl : TypeDecl} (declMember : decl ∈ second.types.items) {reference : Reference}
    (answers : decl.AnswersTo reference) {type : TypeInfo} (member : type ∈ second.skeleton.arena)
    (shared : type.AnswersTo reference) (other : Reference) :
    type.AnswersTo other ↔ decl.AnswersTo other := by
  have name := above.names decl declMember
  have sound := wellFormed_skeleton layered.wellFormed_above above.tags
  obtain ⟨handle, found⟩ := List.getElem?_of_mem member
  cases origin layered.wellFormed_above found with
  | inherited below =>
    rw [layered.ground_eq] at below
    exact absurd shared
      (layered.not_answers_below declMember name answers (List.mem_of_getElem? below))
  | own there place made =>
    rw [made, answersTo_sealType] at shared
    obtain ⟨index, declThere⟩ := List.getElem?_of_mem declMember
    obtain rfl := above.tags.answers_unique declThere there answers shared
    obtain rfl := Option.some.inj (declThere.symm.trans there)
    rw [made, answersTo_sealType]
  | collection there place made =>
    exact absurd shared (not_answers_of_collection sound member (by rw [made]; rfl) name answers)

/-! ### Registered types -/

theorem resolve?_together (layered : Layered first second) (above : second.Buildable)
    (reference : Reference) :
    (first.together second).skeleton.resolve? reference =
      (second.skeleton.resolve? reference).map (TypeInfo.rename (first.exchange second)) :=
  Model.resolve?_rename layered.typeAt?_together (layered.handle?_together above.tags) reference

/-- In the one draft everything is filed, and then filled in, for the types of both layers. -/
theorem sealedRules_together (layered : Layered first second) (above : second.Buildable) :
    (first.together second).sealedRules =
      fillRules ((first.together second).registrations.foldl (fileRule second.skeleton)
        first.ground.rules) (second.skeleton.types ++ second.skeleton.collectionTypes) := by
  show fillRules (List.foldl (fileRule (first.together second).skeleton) _ _) _ = _
  rw [foldl_fileRule_rename fun registration _ => layered.resolve?_together above _,
    ground_together, layered.types_together_eq, layered.collectionTypes_together,
    ← List.map_append, fillRules_map_rename]

theorem resolve?_above_of_foreign (layered : Layered first second) (above : second.Buildable)
    {reference : Reference} (foreign : ¬ second.Owns reference) :
    second.skeleton.resolve? reference = first.skeleton.resolve? reference := by
  rw [resolve?_of_not_owns layered.wellFormed_above above.tags foreign, layered.ground_eq]
  rfl

/-! ### The rows of a type of the second draft -/

/-- The rows that belong to a declared type. -/
def rowsOf (decl : TypeDecl) (reference : Reference) (_ : Capability) : Prop :=
  decl.AnswersTo reference

theorem agreeOn_rowsOf_ground (layered : Layered first second) (above : second.Buildable)
    {decl : TypeDecl} (member : decl ∈ second.types.items) :
    AgreeOn (rowsOf decl) first.ground.rules second.ground.rules := by
  intro reference capability answers
  have empty : first.assemble.rules.row? reference capability = none := by
    refine Option.eq_none_iff_forall_ne_some.mpr fun rule filed => ?_
    obtain ⟨type, typeMember, shared⟩ := layered.built_below.exists_answers
      reference capability (by rw [filed]; rfl)
    exact layered.not_answers_below member (above.names decl member) answers typeMember shared
  rw [layered.ground_eq, empty]
  refine Option.eq_none_iff_forall_ne_some.mpr fun rule filed => ?_
  have kept : (first.sealedRules.row? reference capability).isSome = true :=
    sealedRules_isSome (by rw [filed]; rfl)
  rw [show first.sealedRules.row? reference capability = none from empty] at kept
  cases kept

theorem spares_rowsOf (layered : Layered first second) (above : second.Buildable)
    {decl : TypeDecl} (member : decl ∈ second.types.items) {type : TypeInfo}
    (typeMember : type ∈ second.skeleton.arena) (target : Reference)
    (answers : type.AnswersTo target) (foreign : ¬ decl.AnswersTo target)
    (capability : Capability) : Spares (rowsOf decl) type capability := by
  intro reference shared inside
  exact foreign ((layered.answers_iff_of_shared above member inside typeMember shared target).mp
    answers)

theorem agreeOn_rowsOf (layered : Layered first second) (above : second.Buildable)
    {decl : TypeDecl} (member : decl ∈ second.types.items) :
    AgreeOn (rowsOf decl) (first.together second).sealedRules second.sealedRules := by
  have sound := wellFormed_skeleton layered.wellFormed_above above.tags
  let own := fun registration : Registration => decide (decl.AnswersTo registration.target)
  have elsewhere : ∀ registration, own registration = false →
      ∀ type, registeredType? second.skeleton registration = some type →
        Spares (rowsOf decl) type registration.capability := by
    intro registration foreign type registered
    obtain ⟨typeMember, answers⟩ := mem_of_registeredType? sound registered
    exact layered.spares_rowsOf above member typeMember _ answers (of_decide_eq_false foreign) _
  have single := agreeOn_foldl_fileRule_filter (layered.agreeOn_rowsOf_ground above member)
    second.skeleton own (first.together second).registrations fun registration _ =>
      elsewhere registration
  have layers := agreeOn_foldl_fileRule_filter (AgreeOn.refl (rowsOf decl)
    second.ground.rules) second.skeleton own second.registrations fun registration _ =>
      elsewhere registration
  rw [layered.filter_registrations_answersTo member] at single
  rw [layered.sealedRules_together above]
  refine agreeOn_fillRules (single.trans layers.symm) fun type listed capability _ => ?_
  by_cases answers : decl.AnswersTo (.named type.name)
  · exact Or.inl answers
  · exact Or.inr (layered.spares_rowsOf above member (mem_arena_of_mem_types listed)
      (.named type.name) rfl answers capability)

/-! ### The other rows -/

/-- The rows that belong to none of a draft's own types. -/
def rowsBelow (second : Draft) (reference : Reference) (_ : Capability) : Prop :=
  ¬ second.Owns reference

theorem spares_rowsBelow (layered : Layered first second) (above : second.Buildable)
    {type : TypeInfo} (member : type ∈ second.skeleton.arena) (target : Reference)
    (answers : type.AnswersTo target) (own : second.Owns target) (capability : Capability) :
    Spares (rowsBelow second) type capability := by
  intro reference shared foreign
  obtain ⟨decl, declMember, declAnswers⟩ := own
  exact foreign ⟨decl, declMember, (layered.answers_iff_of_shared above declMember declAnswers
    member answers reference).mp shared⟩

/-- Defaults are filled into the other rows for the types below and the new collections only. -/
theorem agreeOn_fillRules_below (layered : Layered first second) (above : second.Buildable)
    {table other : RuleTable} (agree : AgreeOn (rowsBelow second) table other) :
    AgreeOn (rowsBelow second)
      (fillRules table (second.skeleton.types ++ second.skeleton.collectionTypes))
      (fillRules (fillRules other (first.skeleton.types ++ first.skeleton.collectionTypes))
        second.ownCollections) := by
  have each : ∀ type ∈ second.skeleton.types ++ second.skeleton.collectionTypes,
      ∀ capability, type.enables capability = true →
        rowsBelow second (.named type.name) capability ∨
          Spares (rowsBelow second) type capability := by
    intro type listed capability _
    by_cases own : second.Owns (.named type.name)
    · exact Or.inr (layered.spares_rowsBelow above (mem_arena_of_mem_types listed)
        (.named type.name) rfl own capability)
    · exact Or.inl own
  have collections : second.skeleton.collectionTypes =
      first.skeleton.collectionTypes ++ second.ownCollections := by
    rw [collectionTypes_skeleton layered.wellFormed_above, layered.ground_eq]
    rfl
  rw [layered.types_above, collections] at each ⊢
  rw [← fillRules_append, List.append_assoc, List.append_assoc, fillRules_append,
    fillRules_append other]
  have types := agreeOn_fillRules agree fun type member =>
    each type (List.mem_append_left _ (List.mem_append_left _ member))
  rw [fillRules_append]
  refine agreeOn_fillRules ?_ fun type member => each type (List.mem_append_right _ member)
  -- The second draft's own types are found in their own rows and nowhere else.
  refine agreeOn_fillRules_left types fun type member capability _ => ?_
  obtain ⟨index, decl, there, rfl⟩ := mem_ownTypes member
  refine layered.spares_rowsBelow above (List.mem_of_getElem? (typeAt?_own there))
    (.named decl.name) rfl ⟨decl, List.mem_of_getElem? there, rfl⟩ capability

theorem agreeOn_rowsBelow (layered : Layered first second) (above : second.Buildable) :
    AgreeOn (rowsBelow second) (first.together second).sealedRules second.sealedRules := by
  have sound := wellFormed_skeleton layered.wellFormed_above above.tags
  let foreign := fun registration : Registration => decide (¬ second.Owns registration.target)
  have elsewhere : ∀ registration, foreign registration = false →
      ∀ type, registeredType? second.skeleton registration = some type →
        Spares (rowsBelow second) type registration.capability := by
    intro registration own type registered
    obtain ⟨typeMember, answers⟩ := mem_of_registeredType? sound registered
    exact layered.spares_rowsBelow above typeMember _ answers
      (not_not.mp (of_decide_eq_false own)) _
  have single := agreeOn_foldl_fileRule_filter (AgreeOn.refl (rowsBelow second)
    first.ground.rules) second.skeleton foreign (first.together second).registrations
    fun registration _ => elsewhere registration
  have layers := agreeOn_foldl_fileRule_filter (AgreeOn.refl (rowsBelow second)
    second.ground.rules) second.skeleton foreign second.registrations
    fun registration _ => elsewhere registration
  have none : second.registrations.filter foreign = [] :=
    List.filter_eq_nil_iff.mpr fun registration member =>
      by simpa [foreign] using layered.rulesAbove registration member
  rw [none] at layers
  rw [layered.filter_registrations_not_owns] at single
  have same : first.registrations.foldl (fileRule second.skeleton) first.ground.rules =
      first.registrations.foldl (fileRule first.skeleton) first.ground.rules := by
    refine foldl_fileRule_congr (fun registration member => ?_) _
    rw [registeredType?_eq, registeredType?_eq, layered.resolve?_above_of_foreign above fun own =>
      layered.apart _ own (layered.knows_target member)]
  rw [same] at single
  rw [layered.sealedRules_together above]
  refine (layered.agreeOn_fillRules_below above single).trans
    (AgreeOn.symm ((layered.agreeOn_fillRules_below above layers).trans ?_))
  -- What was filled in below is not missing when it is the turn of the types below again.
  have again : fillRules second.ground.rules
        (first.skeleton.types ++ first.skeleton.collectionTypes) = second.ground.rules := by
    rw [layered.ground_eq]
    exact fillRules_eq_self fun type member capability enabled =>
      fillRules_covers _ member enabled
  show AgreeOn _ (fillRules (fillRules second.ground.rules _) _) _
  rw [again, layered.ground_eq]
  exact AgreeOn.refl _ _

/-- Layer by layer or at once, the same rules are filed. -/
theorem row?_together (layered : Layered first second) (above : second.Buildable)
    (reference : Reference) (capability : Capability) :
    (first.together second).sealedRules.row? reference capability =
      second.sealedRules.row? reference capability := by
  by_cases own : second.Owns reference
  · obtain ⟨decl, member, answers⟩ := own
    exact layered.agreeOn_rowsOf above member reference capability answers
  · exact layered.agreeOn_rowsBelow above reference capability own

/-! ### In layers or at once -/

theorem sameUpTo (layered : Layered first second) (above : second.Buildable) :
    second.assemble.SameUpTo (first.exchange second) (first.together second).assemble where
  typeAt? := layered.typeAt?_together
  types := layered.types_together_eq
  collectionTypes := layered.collectionTypes_together
  handle? := layered.handle?_together above.tags
  collectionHandle? := Model.collectionHandle?_rename
    (wellFormed_skeleton layered.wellFormed_above above.tags)
    (wellFormed_skeleton layered.wellFormed_together
      (layered.uniqueTags_together_iff.mpr above.tags))
    layered.typeAt?_together
  functions := layered.sealedFunctions_together
  functionRules := layered.sealedFunctionRules_together
  rules := layered.row?_together above
  literals := by
    show (first.together second).literals = second.literals
    unfold together
    rfl
  serializers := by
    show (first.together second).serializers = second.serializers
    unfold together
    rfl

/-- A draft that keeps to itself is built on the model of another draft if and only if the two of
them are built as one. The models are then the same but for the places of the types that are new. -/
theorem build_together (layered : Layered first second) :
    ((∃ model, second.build = .ok model) ↔
        ∃ model, (first.together second).build = .ok model) ∧
      ∀ model other, second.build = .ok model → (first.together second).build = .ok other →
        ∃ move : Equiv.Perm TypeHandle,
          (∀ handle < first.ground.arena.length, move handle = handle) ∧
            model.SameUpTo move other := by
  have layers := build_eq_ok_iff layered.wellFormed_above
  have single := build_eq_ok_iff layered.wellFormed_together
  refine ⟨⟨?_, ?_⟩, ?_⟩
  · intro ⟨model, built⟩
    exact ⟨_, (single _).mpr ⟨layered.buildable_together ((layers model).mp built).1, rfl⟩⟩
  · intro ⟨model, built⟩
    exact ⟨_, (layers _).mpr ⟨layered.buildable_above ((single model).mp built).1, rfl⟩⟩
  · intro model other built otherBuilt
    obtain ⟨above, rfl⟩ := (layers model).mp built
    obtain ⟨-, rfl⟩ := (single other).mp otherBuilt
    exact ⟨first.exchange second, fun _ => exchange_ground, layered.sameUpTo above⟩

end Layered

end Draft

end Metamodel
