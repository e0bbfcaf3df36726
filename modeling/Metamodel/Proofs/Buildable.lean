/-
What it takes for a draft to be built.

Whether a draft is buildable is a matter of its declarations and of what the model below has: no
condition mentions a fault or the model that would come of the draft. Over a well-formed model the
buildable drafts are exactly those with which nothing is wrong at any site, so a draft is built if
and only if it is buildable, and then the model is the assembled one. Everything that is shown about
models further on starts from here and has no more to do with faults.
-/

import Metamodel.Proofs.Faults

namespace Metamodel

theorem TypeBody.KeepsNames.nodup {body : TypeBody} (keeps : body.KeepsNames) :
    body.memberNames.Nodup := by
  cases body with
  | basic => exact List.nodup_nil
  | entity entity => exact Members.KeepsNames.nodup keeps
  | enum enum => exact Members.KeepsNames.nodup keeps

namespace Draft

/-- Whether a capability that is registered for finds a type to belong to. -/
def Supports (draft : Draft) (target : Reference) (capability : Capability) : Prop :=
  ∃ name enabled, draft.Offers target name enabled ∧ enabled capability = true

/-- What is asked of a draft in which every member is kept under its name. -/
structure Acceptable (draft : Draft) : Prop where
  tags : draft.UniqueTags
  names : ∀ decl ∈ draft.types.items, decl.name ≠ collectionTypeName
  attributeTypes : ∀ decl ∈ draft.types.items, ∀ info ∈ decl.attributes, draft.Knows info.type
  argumentTypes : ∀ decl ∈ draft.functions.items, ∀ argument ∈ decl.arguments, ∀ type,
    argument.type = some type → draft.Knows type
  resultTypes : ∀ decl ∈ draft.functions.items, ∀ type, decl.result = some type →
    draft.Knows type
  /-- Where attribute names are folded, they stay different. -/
  attributeNames : ∀ decl ∈ draft.types.items, ∀ entity fold, decl.body = .entity entity →
    entity.casing = .folding fold → (entity.attributes.names.map fold).Nodup
  /-- Where value names are folded, they stay different. -/
  valueNames : ∀ decl ∈ draft.types.items, ∀ enum fold, decl.body = .enum enum →
    enum.casing = .folding fold → (enum.values.names.map fold).Nodup
  functionNames :
    (draft.functions.items.map fun decl => draft.functionCasing.key decl.name).Nodup
  inheritedNames : (draft.ground.functions.values.map fun function =>
    draft.functionCasing.key function.name).Nodup
  functionRules : ∀ entry ∈ draft.functionRules.items, draft.HasFunction entry.1
  registrations : ∀ registration ∈ draft.registrations,
    draft.Supports registration.target registration.capability

/-- What is asked of any draft. -/
structure Buildable (draft : Draft) : Prop extends draft.Acceptable where
  memberNames : ∀ decl ∈ draft.types.items, decl.body.memberNames.Nodup

variable {draft : Draft}

/-- Members that are kept under their names have different names. -/
theorem buildable_iff_of_keepsNames
    (keeps : ∀ decl ∈ draft.types.items, decl.body.KeepsNames) :
    draft.Buildable ↔ draft.Acceptable :=
  ⟨fun buildable => buildable.toAcceptable,
    fun acceptable => ⟨acceptable, fun decl member => (keeps decl member).nodup⟩⟩

/-! ### Clashes and what is wrong -/

theorem forall_not_clash_iff {α κ : Type} [DecidableEq κ] (key : α → Option κ) (items : List α) :
    (∀ place pair, ¬ Keyed.Clash key items place pair) ↔ (items.filterMap key).Nodup := by
  rw [← Keyed.clashes_eq_nil_iff, (Keyed.reports_clashes items).eq_nil_iff]

theorem forall_not_namesClash_iff (casing : Casing) (names : List String) :
    (∀ place first second, ¬ NamesClash casing names place first second) ↔
      (names.map casing.key).Nodup := by
  rw [← Casing.nameClashes_eq_nil_iff]
  unfold Casing.nameClashes NamesClash
  rw [(Keyed.reports_clashes names).eq_nil_iff]
  simp only [Prod.forall]

/-- Different names stay different under a casing if they do so when it folds them. -/
theorem nodup_keys_iff {names : List String} (distinct : names.Nodup) (casing : Casing) :
    (names.map casing.key).Nodup ↔
      ∀ fold, casing = .folding fold → (names.map fold).Nodup := by
  cases casing with
  | sensitive =>
    have unchanged : names.map Casing.sensitive.key = names := List.map_id' names
    rw [unchanged]
    exact ⟨fun _ _ folds => (nomatch folds), fun _ => distinct⟩
  | folding fold =>
    constructor
    · intro nodup other same
      cases same
      exact nodup
    · intro nodup
      exact nodup fold rfl

theorem Buildable.nodup_attributeKeys (buildable : draft.Buildable) {decl : TypeDecl}
    (member : decl ∈ draft.types.items) {entity : EntityDecl} (body : decl.body = .entity entity) :
    (entity.attributes.names.map entity.casing.key).Nodup := by
  have distinct := buildable.memberNames decl member
  rw [body] at distinct
  exact (nodup_keys_iff distinct _).mpr fun fold =>
    buildable.attributeNames decl member entity fold body

theorem Buildable.nodup_valueKeys (buildable : draft.Buildable) {decl : TypeDecl}
    (member : decl ∈ draft.types.items) {enum : EnumDecl} (body : decl.body = .enum enum) :
    (enum.values.names.map enum.casing.key).Nodup := by
  have distinct := buildable.memberNames decl member
  rw [body] at distinct
  exact (nodup_keys_iff distinct _).mpr fun fold =>
    buildable.valueNames decl member enum fold body

theorem wrong_of_clash {casing : Casing} {names : List String}
    (collide : ¬ (names.map casing.key).Nodup) :
    ∃ place first second, NamesClash casing names place first second := by
  rw [← forall_not_namesClash_iff] at collide
  push Not at collide
  exact collide

/-! ### Buildable drafts -/

theorem Buildable.not_wrong (buildable : draft.Buildable) (site : Site) (fault : Fault) :
    ¬ draft.Wrong site fault := by
  intro isWrong
  cases isWrong with
  | ambiguousTag clash claimed =>
    exact (forall_not_clash_iff _ _).mpr buildable.tags _ _ clash
  | reservedName there reserved =>
    exact buildable.names _ (List.mem_of_getElem? there) reserved
  | unknownAttributeType there inside unknown =>
    exact unknown (buildable.attributeTypes _ (List.mem_of_getElem? there) _
      (List.mem_of_getElem? inside))
  | unknownArgumentType there inside typed unknown =>
    exact unknown (buildable.argumentTypes _ (List.mem_of_getElem? there) _
      (List.mem_of_getElem? inside) _ typed)
  | unknownResultType there typed unknown =>
    exact unknown (buildable.resultTypes _ (List.mem_of_getElem? there) _ typed)
  | duplicateAttribute there body clash =>
    exact (forall_not_namesClash_iff _ _).mpr
      (buildable.nodup_attributeKeys (List.mem_of_getElem? there) body) _ _ _ clash
  | duplicateValue there body clash =>
    exact (forall_not_namesClash_iff _ _).mpr
      (buildable.nodup_valueKeys (List.mem_of_getElem? there) body) _ _ _ clash
  | duplicateInherited clash =>
    refine (forall_not_namesClash_iff _ _).mpr ?_ _ _ _ clash
    rw [List.map_map]
    exact buildable.inheritedNames
  | duplicateFunction clash =>
    refine (forall_not_namesClash_iff _ _).mpr ?_ _ _ _ clash
    rw [List.map_map]
    exact buildable.functionNames
  | unknownFunction there missing =>
    exact missing (buildable.functionRules _ (List.mem_of_getElem? there))
  | unknownTarget there unknown =>
    obtain ⟨name, enabled, offer, -⟩ := buildable.registrations _ (List.mem_of_getElem? there)
    exact unknown ⟨name, enabled, offer⟩
  | disabledCapability there offer disabled =>
    obtain ⟨name, enabled, other, has⟩ := buildable.registrations _ (List.mem_of_getElem? there)
    obtain ⟨-, rfl⟩ := offer.unique buildable.tags other
    rw [disabled] at has
    cases has

theorem nodup_attributeKeys_of_not_wrong (fine : ∀ site fault, ¬ draft.Wrong site fault)
    {decl : TypeDecl} (member : decl ∈ draft.types.items) {entity : EntityDecl}
    (body : decl.body = .entity entity) :
    (entity.attributes.names.map entity.casing.key).Nodup := by
  obtain ⟨type, there⟩ := List.getElem?_of_mem member
  by_contra collide
  obtain ⟨place, first, second, clash⟩ := wrong_of_clash collide
  exact fine _ _ (.duplicateAttribute there body clash)

theorem nodup_valueKeys_of_not_wrong (fine : ∀ site fault, ¬ draft.Wrong site fault)
    {decl : TypeDecl} (member : decl ∈ draft.types.items) {enum : EnumDecl}
    (body : decl.body = .enum enum) : (enum.values.names.map enum.casing.key).Nodup := by
  obtain ⟨type, there⟩ := List.getElem?_of_mem member
  by_contra collide
  obtain ⟨place, first, second, clash⟩ := wrong_of_clash collide
  exact fine _ _ (.duplicateValue there body clash)

theorem buildable_of_not_wrong (fine : ∀ site fault, ¬ draft.Wrong site fault) :
    draft.Buildable where
  tags := by
    refine (forall_not_clash_iff _ _).mp fun index pair clash => ?_
    obtain ⟨tag, claimed⟩ := Option.isSome_iff_exists.mp clash.2.1
    exact fine _ _ (.ambiguousTag clash claimed)
  names decl member reserved := by
    obtain ⟨index, there⟩ := List.getElem?_of_mem member
    exact fine _ _ (.reservedName there reserved)
  attributeTypes decl member info inside := by
    obtain ⟨type, there⟩ := List.getElem?_of_mem member
    obtain ⟨index, infoThere⟩ := List.getElem?_of_mem inside
    by_contra unknown
    exact fine _ _ (.unknownAttributeType there infoThere unknown)
  argumentTypes decl member argument inside type typed := by
    obtain ⟨function, there⟩ := List.getElem?_of_mem member
    obtain ⟨index, argumentThere⟩ := List.getElem?_of_mem inside
    by_contra unknown
    exact fine _ _ (.unknownArgumentType there argumentThere typed unknown)
  resultTypes decl member type typed := by
    obtain ⟨function, there⟩ := List.getElem?_of_mem member
    by_contra unknown
    exact fine _ _ (.unknownResultType there typed unknown)
  attributeNames decl member entity fold body folds := by
    have apart := nodup_attributeKeys_of_not_wrong fine member body
    rw [folds] at apart
    exact apart
  valueNames decl member enum fold body folds := by
    have apart := nodup_valueKeys_of_not_wrong fine member body
    rw [folds] at apart
    exact apart
  memberNames decl member := by
    cases body : decl.body with
    | basic => exact List.nodup_nil
    | entity entity => exact .of_map _ (nodup_attributeKeys_of_not_wrong fine member body)
    | enum enum => exact .of_map _ (nodup_valueKeys_of_not_wrong fine member body)
  functionNames := by
    have noClash := (forall_not_namesClash_iff draft.functionCasing
      (draft.functions.items.map FunctionDecl.name)).mp fun _ _ _ clash =>
        fine _ _ (.duplicateFunction clash)
    rw [List.map_map] at noClash
    exact noClash
  inheritedNames := by
    have noClash := (forall_not_namesClash_iff draft.functionCasing
      (draft.ground.functions.values.map FunctionInfo.name)).mp fun _ _ _ clash =>
        fine _ _ (.duplicateInherited clash)
    rw [List.map_map] at noClash
    exact noClash
  functionRules entry member := by
    obtain ⟨index, there⟩ := List.getElem?_of_mem member
    by_contra missing
    exact fine _ _ (.unknownFunction there missing)
  registrations registration member := by
    obtain ⟨index, there⟩ := List.getElem?_of_mem member
    have known : draft.Knows registration.target := by
      by_contra unknown
      exact fine _ _ (.unknownTarget there unknown)
    obtain ⟨name, enabled, offer⟩ := known
    refine ⟨name, enabled, offer, ?_⟩
    by_contra disabled
    exact fine _ _ (.disabledCapability there offer (Bool.not_eq_true _ ▸ disabled))

/-- Over a well-formed model, the drafts that are built are the buildable ones. -/
theorem build_eq_ok_iff (ground : draft.ground.WellFormed) (model : Model) :
    draft.build = .ok model ↔ draft.Buildable ∧ model = draft.assemble := by
  unfold build
  constructor
  · intro built
    split at built
    · next none =>
      refine ⟨buildable_of_not_wrong ((faults_eq_nil_iff ground).mp none), ?_⟩
      exact (Except.ok.inj built).symm
    · cases built
  · intro ⟨buildable, same⟩
    rw [(faults_eq_nil_iff ground).mpr buildable.not_wrong, same]

theorem build_eq_error_iff (failure : BuildFailure) :
    draft.build = .error failure ↔ draft.faults ≠ [] ∧ failure = ⟨draft.faults⟩ := by
  unfold build
  cases draft.faults with
  | nil => simp
  | cons head rest => simp [eq_comm]

end Draft

end Metamodel
