/-
Two drafts as one.

What a draft on top of a model holds can be said instead to the draft that the model was built from.
As long as the two drafts speak of different types and functions, nothing that the first one holds
is replaced, the declarations of the second one come after it, and each type has the capabilities
and the rules that its own draft has for it. So there is the same to complain of: a reference that
is known to the model below is known to the first draft, and the other way round.
-/

import Metamodel.Proofs.Registered

namespace Metamodel

namespace CapabilitySet

variable {α : Type}

theorem empty_union (set : CapabilitySet α) : empty.union set = set :=
  congrArg mk (funext fun member => Bool.false_or (set.has member))

theorem union_empty (set : CapabilitySet α) : set.union empty = set :=
  congrArg mk (funext fun member => Bool.or_false (set.has member))

theorem union_union (first second third : CapabilitySet α) :
    first.union (second.union third) = (first.union second).union third :=
  congrArg mk (funext fun member =>
    (Bool.or_assoc (first.has member) (second.has member) (third.has member)).symm)

end CapabilitySet

namespace Draft

/-- Capabilities that are enabled in several places are enabled together. -/
def joinCapabilities {α : Type} : Keyed.Join (Prod.fst : String × CapabilitySet α → String) :=
  .combine CapabilitySet.union .empty CapabilitySet.empty_union CapabilitySet.union_union

/-- The first draft with what the second one holds laid over it. How function names are compared,
the families of literals and the serializers are as in the second one, which begins with those of
the first. -/
@[irreducible] def together (first second : Draft) : Draft where
  base := first.base
  types := first.types.merge .replace second.types
  functions := first.functions.merge .replace second.functions
  functionCasing := second.functionCasing
  operators := Keyed.merge joinCapabilities first.operators second.operators
  predicates := Keyed.merge joinCapabilities first.predicates second.predicates
  functionRules := Keyed.merge .replace first.functionRules second.functionRules
  operatorRules := first.operatorRules.merge second.operatorRules
  predicateRules := first.predicateRules.merge second.predicateRules
  literals := second.literals
  serializers := second.serializers

/-- One of the draft's own types answers to a reference. -/
def Owns (draft : Draft) (reference : Reference) : Prop :=
  ∃ decl ∈ draft.types.items, decl.AnswersTo reference

instance (draft : Draft) (reference : Reference) : Decidable (draft.Owns reference) :=
  inferInstanceAs (Decidable (∃ decl ∈ draft.types.items, decl.AnswersTo reference))

/-- What is the draft's own are the names and the tags of its declarations. -/
theorem forall_owns_iff (draft : Draft) (holds : Reference → Prop) :
    (∀ reference, draft.Owns reference → holds reference) ↔
      (∀ decl ∈ draft.types.items, holds (.named decl.name)) ∧
        ∀ decl ∈ draft.types.items, ∀ tag ∈ decl.tag, holds (.tagged tag) := by
  constructor
  · intro all
    exact ⟨fun decl member => all _ ⟨decl, member, rfl⟩,
      fun decl member tag carries => all _ ⟨decl, member, carries⟩⟩
  · rintro ⟨names, tags⟩ reference ⟨decl, member, answers⟩
    cases reference with
    | named name => exact answers ▸ names decl member
    | tagged tag => exact tags decl member tag answers

/-- Two drafts that keep to types and functions of their own. -/
structure Apart (first second : Draft) : Prop where
  casing : second.functionCasing = first.functionCasing
  /-- The names and the tags of the types above mean nothing below. -/
  apart : ∀ reference, second.Owns reference → ¬ first.Knows reference
  functionsApart : ∀ decl ∈ second.functions.items, ¬ first.HasFunction decl.name
  enables : ∀ name capability, first.enables name capability = true → first.Owns (.named name)
  enablesAbove : ∀ name capability, second.enables name capability = true →
    second.Owns (.named name)
  rulesAbove : ∀ registration ∈ second.registrations, second.Owns registration.target
  functionRulesAbove : ∀ entry ∈ second.functionRules.items, ∃ decl ∈ second.functions.items,
    second.functionCasing.key decl.name = second.functionCasing.key entry.1

/-- A draft that stands on the model of another one and keeps to types and functions of its own. -/
structure Layered (first second : Draft) : Prop extends Apart first second where
  grounded : first.Grounded
  standing : ∃ model, first.build = .ok model ∧ second.base = some model

/-! ### What the one draft holds -/

section Holds

variable (first second : Draft)

theorem ground_together : (first.together second).ground = first.ground := by
  unfold ground together
  rfl

theorem functionCasing_together :
    (first.together second).functionCasing = second.functionCasing := by
  unfold together
  rfl

theorem operatorRules_together : (first.together second).operatorRules =
    first.operatorRules.merge second.operatorRules := by
  unfold together
  rfl

theorem predicateRules_together : (first.together second).predicateRules =
    first.predicateRules.merge second.predicateRules := by
  unfold together
  rfl

/-- A type of either draft has its capabilities from both. -/
theorem enables_together (name : String) (capability : Capability) :
    (first.together second).enables name capability =
      (first.enables name capability || second.enables name capability) := by
  have combined : ∀ {α : Type} (table other : Table String (CapabilitySet α)),
      (Table.get? (Keyed.merge joinCapabilities table other) name).getD .empty =
        ((table.get? name).getD .empty).union ((other.get? name).getD .empty) := fun table other =>
    Table.getD_merge_combine CapabilitySet.union_empty table other name
  unfold together
  cases capability with
  | operator operator =>
    exact congrArg (CapabilitySet.has · operator) (combined first.operators second.operators)
  | predicate predicate =>
    exact congrArg (CapabilitySet.has · predicate) (combined first.predicates second.predicates)

end Holds

/-- A model compares the names of functions as its draft does. -/
theorem casing_sealedFunctions (draft : Draft) :
    draft.sealedFunctions.casing = draft.functionCasing := by
  unfold sealedFunctions
  rw [NameTable.ofList_eq]

/-- A draft knows what its types answer to and what the model below resolves. -/
theorem knows_iff (draft : Draft) (reference : Reference) :
    draft.Knows reference ↔
      draft.Owns reference ∨ ∃ type, draft.ground.resolve? reference = some type := by
  constructor
  · intro ⟨_, _, offer⟩
    cases offer with
    | own member answers => exact Or.inl ⟨_, member, answers⟩
    | inherited _ found => exact Or.inr ⟨_, found⟩
  · intro known
    by_cases own : draft.Owns reference
    · obtain ⟨decl, member, answers⟩ := own
      exact ⟨_, _, .own member answers⟩
    · obtain ⟨type, found⟩ := known.resolve_left own
      exact ⟨_, _, .inherited (fun decl member answers => own ⟨decl, member, answers⟩) found⟩

/-- What is not a draft's own is found as it is found below. -/
theorem resolve?_of_not_owns {draft : Draft} (ground : draft.ground.WellFormed)
    (unique : draft.UniqueTags) {reference : Reference} (foreign : ¬ draft.Owns reference) :
    draft.skeleton.resolve? reference = draft.ground.resolve? reference := by
  have absent := (ownIndex?_eq_none_iff reference).mpr fun decl member answers =>
    foreign ⟨decl, member, answers⟩
  unfold Model.resolve?
  rw [handle?_skeleton unique, denote?_of_absent absent, Option.map_map]
  cases found : draft.ground.handle? reference with
  | none => rfl
  | some handle =>
    obtain ⟨type, there, -⟩ := ground.typeAt?_of_handle? found
    exact (Model.typeAt?_of_begins draft.ground_begins there).trans there.symm

namespace Layered

variable {first second : Draft}

/-! ### The drafts by themselves -/

theorem wellFormed (layered : Layered first second) : first.ground.WellFormed :=
  layered.grounded.wellFormed

theorem buildable (layered : Layered first second) : first.Buildable := by
  obtain ⟨model, built, -⟩ := layered.standing
  exact ((build_eq_ok_iff layered.wellFormed model).mp built).1

theorem ground_eq (layered : Layered first second) : second.ground = first.assemble := by
  obtain ⟨model, built, standing⟩ := layered.standing
  rw [ground_of_standing standing]
  exact ((build_eq_ok_iff layered.wellFormed model).mp built).2

theorem built_below (layered : Layered first second) : first.assemble.Built :=
  .build layered.grounded ((build_eq_ok_iff layered.wellFormed _).mpr ⟨layered.buildable, rfl⟩)

theorem wellFormed_above (layered : Layered first second) : second.ground.WellFormed := by
  rw [layered.ground_eq]
  exact layered.built_below.wellFormed

theorem wellFormed_together (layered : Layered first second) :
    (first.together second).ground.WellFormed := by
  rw [ground_together]
  exact layered.wellFormed

theorem not_owns (layered : Layered first second) (reference : Reference)
    (own : second.Owns reference) : ¬ first.Owns reference := fun below =>
  layered.apart reference own ((first.knows_iff reference).mpr (Or.inl below))

/-! ### Declarations, one draft after the other -/

theorem types_together (layered : Layered first second) :
    (first.together second).types.items = first.types.items ++ second.types.items := by
  unfold together
  refine Keyed.items_insertAll _ ?_
  rw [List.map_append]
  refine List.nodup_append.mpr ⟨first.types.distinct, second.types.distinct, ?_⟩
  intro name below other above same
  obtain ⟨decl, member, rfl⟩ := List.mem_map.mp below
  obtain ⟨otherDecl, otherMember, rfl⟩ := List.mem_map.mp above
  exact layered.not_owns (.named decl.name) ⟨otherDecl, otherMember, same.symm⟩
    ⟨decl, member, rfl⟩

theorem functions_together (layered : Layered first second) :
    (first.together second).functions.items = first.functions.items ++ second.functions.items := by
  unfold together
  refine Keyed.items_insertAll _ ?_
  rw [List.map_append]
  refine List.nodup_append.mpr ⟨first.functions.distinct, second.functions.distinct, ?_⟩
  intro name below other above same
  obtain ⟨decl, member, rfl⟩ := List.mem_map.mp below
  obtain ⟨otherDecl, otherMember, rfl⟩ := List.mem_map.mp above
  exact layered.functionsApart otherDecl otherMember (Or.inl ⟨decl, member, congrArg _ same⟩)

theorem mem_types_together (layered : Layered first second) {decl : TypeDecl} :
    decl ∈ (first.together second).types.items ↔
      decl ∈ first.types.items ∨ decl ∈ second.types.items := by
  rw [layered.types_together, List.mem_append]

theorem mem_functions_together (layered : Layered first second) {decl : FunctionDecl} :
    decl ∈ (first.together second).functions.items ↔
      decl ∈ first.functions.items ∨ decl ∈ second.functions.items := by
  rw [layered.functions_together, List.mem_append]

/-- No function of the first draft is meant by a rule of the second one. -/
theorem functionRule_apart (layered : Layered first second) {entry : String × FunctionRule}
    (member : entry ∈ second.functionRules.items) : ¬ first.HasFunction entry.1 := by
  obtain ⟨decl, declMember, same⟩ := layered.functionRulesAbove entry member
  rw [layered.casing] at same
  have apart := layered.functionsApart decl declMember
  unfold HasFunction at apart ⊢
  rw [← same]
  exact apart

theorem functionRules_together (layered : Layered first second) :
    (first.together second).functionRules.items =
      first.functionRules.items ++ second.functionRules.items := by
  unfold together
  refine Keyed.items_insertAll _ ?_
  rw [List.map_append]
  refine List.nodup_append.mpr ⟨first.functionRules.distinct, second.functionRules.distinct, ?_⟩
  intro name below other above same
  obtain ⟨entry, member, rfl⟩ := List.mem_map.mp below
  obtain ⟨otherEntry, otherMember, rfl⟩ := List.mem_map.mp above
  exact layered.functionRule_apart otherMember
    (same ▸ layered.buildable.functionRules entry member)

theorem owns_together_iff (layered : Layered first second) (reference : Reference) :
    (first.together second).Owns reference ↔ first.Owns reference ∨ second.Owns reference := by
  unfold Owns
  rw [layered.types_together]
  simp only [List.mem_append, or_and_right, exists_or]

theorem hasFunction_together_iff (layered : Layered first second) (name : String) :
    (first.together second).HasFunction name ↔ first.HasFunction name ∨
      ∃ decl ∈ second.functions.items,
        first.functionCasing.key decl.name = first.functionCasing.key name := by
  unfold HasFunction
  rw [layered.functions_together, ground_together, functionCasing_together, layered.casing]
  simp only [List.mem_append, or_and_right, exists_or]
  exact or_right_comm

/-! ### Rules, those of each draft as they were -/

theorem knows_target (layered : Layered first second) {registration : Registration}
    (member : registration ∈ first.registrations) : first.Knows registration.target := by
  obtain ⟨name, enabled, offer, -⟩ := layered.buildable.registrations registration member
  exact ⟨name, enabled, offer⟩

/-- Apart from the types of the second draft, the registrations are those of the first one. -/
theorem filter_registrations_not_owns (layered : Layered first second) :
    (first.together second).registrations.filter
        (fun registration => ¬ second.Owns registration.target) = first.registrations := by
  have unseen := (second.forall_target_iff second.Owns).mp layered.rulesAbove
  have kept : first.registrations.filter (fun registration =>
      ¬ second.Owns registration.target) = first.registrations := by
    refine List.filter_eq_self.mpr fun registration member => decide_eq_true fun own => ?_
    exact layered.apart _ own (layered.knows_target member)
  rw [← kept, filter_registrations _ fun reference => decide (¬ second.Owns reference),
    filter_registrations _ fun reference => decide (¬ second.Owns reference),
    operatorRules_together, predicateRules_together]
  let foreign := fun target => decide (¬ second.Owns target)
  rw [Registrations.filter_entries_merge foreign first.operatorRules fun entry member =>
      decide_eq_false (not_not.mpr (unseen.1 entry member)),
    Registrations.filter_entries_merge foreign first.predicateRules fun entry member =>
      decide_eq_false (not_not.mpr (unseen.2 entry member))]

/-- For a type of the second draft, the registrations are those of the second draft. -/
theorem filter_registrations_answersTo (layered : Layered first second) {decl : TypeDecl}
    (member : decl ∈ second.types.items) :
    (first.together second).registrations.filter
        (fun registration => decl.AnswersTo registration.target) =
      second.registrations.filter fun registration => decl.AnswersTo registration.target := by
  have absent := (first.forall_target_iff fun target => ¬ decl.AnswersTo target).mp
    fun registration below answers =>
      layered.apart _ ⟨decl, member, answers⟩ (layered.knows_target below)
  rw [filter_registrations _ fun reference => decide (decl.AnswersTo reference),
    filter_registrations _ fun reference => decide (decl.AnswersTo reference),
    operatorRules_together, predicateRules_together,
    Registrations.filter_merge_answersTo _ absent.1,
    Registrations.filter_merge_answersTo _ absent.2]

theorem mem_registrations_together (layered : Layered first second)
    (registration : Registration) :
    registration ∈ (first.together second).registrations ↔
      registration ∈ first.registrations ∨ registration ∈ second.registrations := by
  by_cases own : second.Owns registration.target
  · obtain ⟨decl, member, answers⟩ := own
    have below : registration ∉ first.registrations := fun listed =>
      layered.apart _ ⟨decl, member, answers⟩ (layered.knows_target listed)
    have same := congrArg (registration ∈ ·) (layered.filter_registrations_answersTo member)
    simpa [answers, below] using same
  · have above : registration ∉ second.registrations := fun listed =>
      own (layered.rulesAbove _ listed)
    have same := congrArg (registration ∈ ·) layered.filter_registrations_not_owns
    simpa [own, above] using same

/-! ### The same to complain of -/

theorem resolves_below_iff (layered : Layered first second) (reference : Reference) :
    (∃ type, second.ground.resolve? reference = some type) ↔ first.Knows reference := by
  have known := resolve?_eq_none_iff layered.wellFormed layered.buildable.tags reference
  rw [layered.ground_eq, ← Option.ne_none_iff_exists', ← not_not (a := first.Knows reference)]
  exact not_congr known

theorem knows_above_iff (layered : Layered first second) (reference : Reference) :
    second.Knows reference ↔ second.Owns reference ∨ first.Knows reference := by
  rw [knows_iff, layered.resolves_below_iff]

theorem knows_together_iff (layered : Layered first second) (reference : Reference) :
    (first.together second).Knows reference ↔ second.Knows reference := by
  rw [layered.knows_above_iff, knows_iff, knows_iff, layered.owns_together_iff, ground_together,
    or_right_comm, or_comm]

theorem knows_of_below (layered : Layered first second) {reference : Reference}
    (known : first.Knows reference) : (first.together second).Knows reference :=
  (layered.knows_together_iff reference).mpr
    ((layered.knows_above_iff reference).mpr (Or.inr known))

theorem uniqueTags_together_iff (layered : Layered first second) :
    (first.together second).UniqueTags ↔ second.UniqueTags := by
  unfold UniqueTags
  rw [layered.types_together, List.filterMap_append, List.nodup_append]
  refine ⟨fun unique => unique.2.1, fun unique => ⟨layered.buildable.tags, unique, ?_⟩⟩
  intro tag below other above same
  obtain ⟨decl, member, carries⟩ := List.mem_filterMap.mp below
  obtain ⟨otherDecl, otherMember, otherCarries⟩ := List.mem_filterMap.mp above
  exact layered.not_owns (.tagged other) ⟨otherDecl, otherMember, otherCarries⟩
    ⟨decl, member, same ▸ carries⟩

theorem functionNames_together_iff (layered : Layered first second) :
    ((first.together second).functions.items.map fun decl =>
        (first.together second).functionCasing.key decl.name).Nodup ↔
      (second.functions.items.map fun decl => second.functionCasing.key decl.name).Nodup := by
  rw [layered.functions_together, functionCasing_together, layered.casing, List.map_append,
    List.nodup_append]
  refine ⟨fun unique => unique.2.1, fun unique => ⟨layered.buildable.functionNames, unique, ?_⟩⟩
  intro key below other above same
  obtain ⟨decl, member, rfl⟩ := List.mem_map.mp below
  obtain ⟨otherDecl, otherMember, rfl⟩ := List.mem_map.mp above
  exact layered.functionsApart otherDecl otherMember (Or.inl ⟨decl, member, same⟩)

/-- The functions of a model have different names as the model compares them. -/
theorem inheritedNames_above (layered : Layered first second) :
    (second.ground.functions.values.map fun function =>
      second.functionCasing.key function.name).Nodup := by
  rw [layered.ground_eq, layered.casing]
  show (first.sealedFunctions.values.map fun function =>
    first.functionCasing.key function.name).Nodup
  have distinct := first.sealedFunctions.entries.distinct
  have casing := first.casing_sealedFunctions
  have keys : first.sealedFunctions.values.map (fun function =>
        first.functionCasing.key function.name) =
      first.sealedFunctions.entries.items.map fun entry =>
        first.sealedFunctions.casing.key entry.1 := by
    unfold NameTable.values NameTable.toList
    rw [List.map_map]
    refine List.map_congr_left fun entry member => ?_
    obtain ⟨function, -, rfl⟩ := List.mem_map.mp (NameTable.mem_of_mem_ofList member)
    exact congrArg (Casing.key · _) casing.symm
  rw [keys]
  exact distinct

theorem enables_own (layered : Layered first second) {decl : TypeDecl}
    (member : decl ∈ second.types.items) :
    (first.together second).enables decl.name = second.enables decl.name := by
  funext capability
  have silent : first.enables decl.name capability = false :=
    Bool.eq_false_iff.mpr fun enabled =>
      layered.not_owns (.named decl.name) ⟨decl, member, rfl⟩ (layered.enables _ _ enabled)
  rw [enables_together, silent, Bool.false_or]

theorem enables_below (layered : Layered first second) {decl : TypeDecl}
    (member : decl ∈ first.types.items) :
    (first.together second).enables decl.name = first.enables decl.name := by
  funext capability
  have silent : second.enables decl.name capability = false :=
    Bool.eq_false_iff.mpr fun enabled =>
      layered.not_owns (.named decl.name) (layered.enablesAbove _ _ enabled) ⟨decl, member, rfl⟩
  rw [enables_together, silent, Bool.or_false]

/-- What the first draft has on offer is still on offer. -/
theorem supports_of_below (layered : Layered first second) {target : Reference}
    {capability : Capability} (supports : first.Supports target capability) :
    (first.together second).Supports target capability := by
  obtain ⟨name, enabled, offer, has⟩ := supports
  have foreign : ¬ second.Owns target := fun own => layered.apart _ own ⟨_, _, offer⟩
  cases offer with
  | @own decl member answers =>
    refine ⟨_, _, .own (layered.mem_types_together.mpr (Or.inl member)) answers, ?_⟩
    rw [layered.enables_below member]
    exact has
  | @inherited type absent found =>
    refine ⟨type.name, type.enables, .inherited ?_ ?_, has⟩
    · intro decl member answers
      rcases layered.mem_types_together.mp member with below | above
      · exact absent decl below answers
      · exact foreign ⟨decl, above, answers⟩
    · rw [ground_together]
      exact found

/-- The capabilities of the second draft's types are supported by either draft. -/
theorem supports_together_iff (layered : Layered first second) (unique : second.UniqueTags)
    {target : Reference} (own : second.Owns target) (capability : Capability) :
    (first.together second).Supports target capability ↔ second.Supports target capability := by
  obtain ⟨decl, member, answers⟩ := own
  have together := layered.mem_types_together.mpr (Or.inr member)
  constructor
  · intro ⟨name, enabled, offer, has⟩
    obtain ⟨-, rfl⟩ :=
      offer.unique (layered.uniqueTags_together_iff.mpr unique) (.own together answers)
    rw [layered.enables_own member] at has
    exact ⟨_, _, .own member answers, has⟩
  · intro ⟨name, enabled, offer, has⟩
    obtain ⟨-, rfl⟩ := offer.unique unique (.own member answers)
    rw [← layered.enables_own member] at has
    exact ⟨_, _, .own together answers, has⟩

theorem buildable_together (layered : Layered first second) (above : second.Buildable) :
    (first.together second).Buildable where
  tags := layered.uniqueTags_together_iff.mpr above.tags
  names decl member :=
    (layered.mem_types_together.mp member).elim (layered.buildable.names decl) (above.names decl)
  attributeTypes decl member info inside := by
    rcases layered.mem_types_together.mp member with below | own
    · exact layered.knows_of_below (layered.buildable.attributeTypes decl below info inside)
    · exact (layered.knows_together_iff _).mpr (above.attributeTypes decl own info inside)
  argumentTypes decl member argument inside type typed := by
    rcases layered.mem_functions_together.mp member with below | own
    · exact layered.knows_of_below
        (layered.buildable.argumentTypes decl below argument inside type typed)
    · exact (layered.knows_together_iff _).mpr
        (above.argumentTypes decl own argument inside type typed)
  resultTypes decl member type typed := by
    rcases layered.mem_functions_together.mp member with below | own
    · exact layered.knows_of_below (layered.buildable.resultTypes decl below type typed)
    · exact (layered.knows_together_iff _).mpr (above.resultTypes decl own type typed)
  attributeNames decl member :=
    (layered.mem_types_together.mp member).elim (layered.buildable.attributeNames decl)
      (above.attributeNames decl)
  valueNames decl member :=
    (layered.mem_types_together.mp member).elim (layered.buildable.valueNames decl)
      (above.valueNames decl)
  functionNames := layered.functionNames_together_iff.mpr above.functionNames
  inheritedNames := by
    rw [ground_together, functionCasing_together, layered.casing]
    exact layered.buildable.inheritedNames
  functionRules entry member := by
    rw [layered.functionRules_together] at member
    rw [layered.hasFunction_together_iff]
    rcases List.mem_append.mp member with below | own
    · exact Or.inl (layered.buildable.functionRules entry below)
    · refine Or.inr ?_
      rw [← layered.casing]
      exact layered.functionRulesAbove entry own
  registrations registration member := by
    rcases (layered.mem_registrations_together registration).mp member with below | own
    · exact layered.supports_of_below (layered.buildable.registrations registration below)
    · exact (layered.supports_together_iff above.tags (layered.rulesAbove _ own) _).mpr
        (above.registrations registration own)
  memberNames decl member :=
    (layered.mem_types_together.mp member).elim (layered.buildable.memberNames decl)
      (above.memberNames decl)

theorem buildable_above (layered : Layered first second)
    (together : (first.together second).Buildable) : second.Buildable where
  tags := layered.uniqueTags_together_iff.mp together.tags
  names decl member := together.names decl (layered.mem_types_together.mpr (Or.inr member))
  attributeTypes decl member info inside :=
    (layered.knows_together_iff _).mp
      (together.attributeTypes decl (layered.mem_types_together.mpr (Or.inr member)) info inside)
  argumentTypes decl member argument inside type typed :=
    (layered.knows_together_iff _).mp (together.argumentTypes decl
      (layered.mem_functions_together.mpr (Or.inr member)) argument inside type typed)
  resultTypes decl member type typed :=
    (layered.knows_together_iff _).mp (together.resultTypes decl
      (layered.mem_functions_together.mpr (Or.inr member)) type typed)
  attributeNames decl member :=
    together.attributeNames decl (layered.mem_types_together.mpr (Or.inr member))
  valueNames decl member :=
    together.valueNames decl (layered.mem_types_together.mpr (Or.inr member))
  functionNames := layered.functionNames_together_iff.mp together.functionNames
  inheritedNames := layered.inheritedNames_above
  functionRules entry member := Or.inl (layered.functionRulesAbove entry member)
  registrations registration member := by
    refine (layered.supports_together_iff (layered.uniqueTags_together_iff.mp together.tags)
      (layered.rulesAbove _ member) _).mp (together.registrations registration ?_)
    exact (layered.mem_registrations_together registration).mpr (Or.inr member)
  memberNames decl member :=
    together.memberNames decl (layered.mem_types_together.mpr (Or.inr member))

end Layered

end Draft

end Metamodel
