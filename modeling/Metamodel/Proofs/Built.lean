/-
What is built, and that it is well-formed.

A model is built from a draft that stands alone or on a model that was built before, so what holds
of all models is what a build keeps. The step is that a buildable draft over a well-formed model
assembles to a well-formed model. What comes from below keeps saying the truth because the types
below stay where they are. What the draft adds says the truth because a slot is filled from the
place and the name of what a reference denotes, and the type is then put at that place under that
name. Cycles of references do no harm: places and names are all that is needed, and they are known
from the declarations.

Models being well-formed, nothing stands between a draft and the question whether it is buildable.
-/

import Metamodel.Proofs.Buildable

namespace Metamodel

namespace Draft

variable {draft : Draft}

/-! ### Slots -/

theorem typeAt?_collectionHandleOf (ground : draft.ground.WellFormed) {target : Denotation}
    (holds : draft.Holds target) :
    draft.skeleton.typeAt? (draft.collectionHandleOf target) =
      some (.collectionOf (draft.collectionHandleOf target) (draft.handleOf target)
        (draft.nameOf target)) := by
  cases holds with
  | own bound =>
    have there := List.getElem?_eq_getElem bound
    rw [nameOf_own there]
    exact typeAt?_ownCollection ground there
  | @inherited handle type found plain =>
    have listed := collectionHandle?_handleOf ground (.inherited found plain)
    change draft.skeleton.collectionHandle? handle = _ at listed
    rw [collectionHandle?_below ground (List.getElem?_eq_some_iff.mp found).1] at listed
    obtain ⟨other, otherFound, -, there⟩ := ground.paired listed
    obtain rfl := Option.some.inj (found.symm.trans otherFound)
    have name : draft.nameOf (.inherited handle) = type.name := by
      show (draft.ground.typeAt? handle).elim "" TypeInfo.display = type.name
      rw [found]
      exact TypeInfo.display_of_plain plain
    rw [name]
    exact Model.typeAt?_of_begins draft.ground_begins there

/-- A slot says the truth about the type at its place. -/
theorem describes_slot (ground : draft.ground.WellFormed) {reference : Reference}
    {collection : Bool} {slot : Slot} (filled : draft.slot? reference collection = some slot) :
    draft.skeleton.Describes slot.handle slot.typeName slot.elementName ∧
      slot.elementName.isSome = collection := by
  obtain ⟨target, denoted, rfl⟩ := Option.map_eq_some_iff.mp filled
  have holds := holds_of_denote? ground denoted
  obtain ⟨type, found, plain, name⟩ := typeAt?_handleOf holds
  cases collection with
  | false =>
    refine ⟨?_, rfl⟩
    have described := Model.Describes.plain found plain
    rw [TypeInfo.display_of_plain plain, name] at described
    exact described
  | true =>
    refine ⟨?_, rfl⟩
    have described := Model.Describes.collection (typeAt?_collectionHandleOf ground holds) rfl found
    rw [TypeInfo.display_collectionOf, name] at described
    exact described

theorem shows_argumentSlot (ground : draft.ground.WellFormed) (type : Option Reference)
    (collection : Bool) :
    draft.skeleton.Shows ((draft.argumentSlot? type collection).map Slot.handle)
      ((draft.argumentSlot? type collection).map Slot.typeName) collection := by
  intro handle declared
  obtain ⟨slot, filled, rfl⟩ := Option.map_eq_some_iff.mp declared
  obtain ⟨reference, -, slotFilled⟩ := Option.bind_eq_some_iff.mp filled
  obtain ⟨described, flag⟩ := describes_slot ground slotFilled
  rw [filled, Option.map_some]
  generalize slot.typeName = typeName, slot.elementName = elementName at described flag
  cases described with
  | @plain type found plain => exact ⟨type, found, rfl, flag.symm.trans plain.symm⟩
  | @collection type inner element found holds inside =>
    have isCollection := type.isCollection_eq_true_iff.mpr ⟨element, holds⟩
    exact ⟨type, found, rfl, flag.symm.trans isCollection.symm⟩

/-! ### Members and signatures -/

theorem mem_attributes_sealType {decl : TypeDecl} {handle : TypeHandle} {info : AttributeInfo}
    (member : info ∈ (draft.sealType decl handle).attributes) :
    ∃ declared ∈ decl.attributes, draft.sealAttribute? declared = some info := by
  unfold TypeInfo.attributes sealType sealBody at member
  unfold TypeDecl.attributes
  cases body : decl.body with
  | basic => rw [body] at member; cases member
  | enum enum => rw [body] at member; cases member
  | entity entity =>
    rw [body] at member
    obtain ⟨entry, listed, rfl⟩ := List.mem_map.mp member
    obtain ⟨other, kept, rfl⟩ := List.mem_map.mp (NameTable.mem_of_mem_ofList listed)
    exact List.mem_filterMap.mp kept

theorem describes_sealAttribute (ground : draft.ground.WellFormed) {declared : AttributeDecl}
    {info : AttributeInfo} (made : draft.sealAttribute? declared = some info) :
    draft.skeleton.Describes info.handle info.typeName info.elementName := by
  obtain ⟨slot, filled, rfl⟩ := Option.map_eq_some_iff.mp made
  exact (describes_slot ground filled).1

theorem mem_sealedFunctions {function : FunctionInfo}
    (member : function ∈ draft.sealedFunctions.values) :
    function ∈ draft.ground.functions.values ∨
      ∃ decl ∈ draft.functions.items, function = draft.sealFunction decl := by
  obtain ⟨entry, listed, rfl⟩ := List.mem_map.mp member
  obtain ⟨other, source, rfl⟩ := List.mem_map.mp (NameTable.mem_of_mem_ofList listed)
  rcases List.mem_append.mp source with inherited | own
  · exact Or.inl inherited
  · obtain ⟨decl, declMember, made⟩ := List.mem_map.mp own
    exact Or.inr ⟨decl, declMember, made.symm⟩

/-! ### One build -/

theorem wellFormed_skeleton (ground : draft.ground.WellFormed) (unique : draft.UniqueTags) :
    draft.skeleton.WellFormed where
  handle_eq found := by
    cases origin ground found with
    | inherited below => exact ground.handle_eq below
    | own there place made => rw [made]; rfl
    | collection there place made => rw [made]; rfl
  named := by
    intro name handle found
    have listed : draft.skeleton.handle? (.named name) = some handle := found
    rcases handle?_cases unique listed with below | ⟨index, decl, there, answers, rfl⟩
    · obtain ⟨type, typeThere, same, plain⟩ := ground.named below
      exact ⟨type, Model.typeAt?_of_begins draft.ground_begins typeThere, same, plain⟩
    · exact ⟨_, typeAt?_own there, answers, isCollection_sealType _ _⟩
  tagged := by
    intro tag handle found
    have listed : draft.skeleton.handle? (.tagged tag) = some handle := found
    rcases handle?_cases unique listed with below | ⟨index, decl, there, answers, rfl⟩
    · obtain ⟨type, typeThere, same⟩ := ground.tagged below
      exact ⟨type, Model.typeAt?_of_begins draft.ground_begins typeThere, same⟩
    · exact ⟨_, typeAt?_own there, answers⟩
  attributes := by
    intro type info member inside
    obtain ⟨handle, found⟩ := List.getElem?_of_mem member
    cases origin ground found with
    | inherited below =>
      exact (ground.attributes (List.mem_of_getElem? below) inside).of_begins draft.ground_begins
    | own there place made =>
      rw [made] at inside
      obtain ⟨declared, -, attributeMade⟩ := mem_attributes_sealType inside
      exact describes_sealAttribute ground attributeMade
    | collection there place made =>
      rw [made, TypeInfo.attributes_of_collection rfl] at inside
      cases inside
  arguments := by
    intro function argument member inside
    rcases mem_sealedFunctions member with inherited | ⟨decl, -, rfl⟩
    · exact (ground.arguments inherited inside).of_begins draft.ground_begins
    · obtain ⟨pair, -, rfl⟩ := List.mem_map.mp inside
      exact shows_argumentSlot ground pair.1.type pair.1.collection
  results := by
    intro function member
    rcases mem_sealedFunctions member with inherited | ⟨decl, -, rfl⟩
    · exact (ground.results inherited).of_begins draft.ground_begins
    · exact shows_argumentSlot ground decl.result decl.resultCollection
  collected := by
    intro handle type found plain
    cases origin ground found with
    | inherited below =>
      rw [collectionHandle?_below ground (List.getElem?_eq_some_iff.mp below).1]
      exact ground.collected below plain
    | own there place made =>
      rw [place]
      exact ⟨_, collectionHandle?_own ground (List.getElem?_eq_some_iff.mp there).1⟩
    | collection there place made =>
      rw [made] at plain
      cases plain
  paired := by
    intro element collection found
    rcases collectionHandle?_cases ground found with below | ⟨index, decl, there, rfl, rfl⟩
    · obtain ⟨type, typeThere, plain, collectionThere⟩ := ground.paired below
      exact ⟨type, Model.typeAt?_of_begins draft.ground_begins typeThere, plain,
        Model.typeAt?_of_begins draft.ground_begins collectionThere⟩
    · exact ⟨_, typeAt?_own there, isCollection_sealType _ _, typeAt?_ownCollection ground there⟩
  listed := by
    intro handle type element found holds
    cases origin ground found with
    | inherited below =>
      have listedBelow := ground.listed below holds
      obtain ⟨inner, inside, -⟩ := ground.paired listedBelow
      rw [collectionHandle?_below ground (List.getElem?_eq_some_iff.mp inside).1]
      exact listedBelow
    | own there place made =>
      have plain := (type.isCollection_eq_false_iff).mp (made ▸ isCollection_sealType _ _)
      rw [plain] at holds
      cases holds
    | collection there place made =>
      rw [made, TypeInfo.elementHandle?_collectionOf] at holds
      obtain rfl := Option.some.inj holds
      rw [place]
      exact collectionHandle?_own ground (List.getElem?_eq_some_iff.mp there).1

end Draft

namespace Model

/-- Rules have no part in how a model fits together. -/
theorem WellFormed.with_rules {model : Model} (sound : model.WellFormed) (rules : RuleTable) :
    WellFormed { model with rules } where
  handle_eq := sound.handle_eq
  named := sound.named
  tagged := sound.tagged
  attributes member inside :=
    @Describes.of_begins model { model with rules } (List.prefix_refl _) _ _ _
      (sound.attributes member inside)
  arguments := sound.arguments
  results := sound.results
  collected := sound.collected
  paired := sound.paired
  listed := sound.listed

/-! ### Chains of builds -/

/-- The models that come of building drafts, each on its own or on a model built before. -/
inductive Built : Model → Prop
  | build {draft : Draft} {model : Model}
      (below : ∀ base, draft.base = some base → Built base)
      (built : draft.build = .ok model) : Built model

end Model

namespace Draft

variable {draft : Draft}

/-- A draft that stands alone or on a model that was built. -/
def Grounded (draft : Draft) : Prop := ∀ base, draft.base = some base → base.Built

theorem grounded_of_standing {base : Model} (standing : draft.base = some base)
    (built : base.Built) : draft.Grounded := by
  intro other otherStanding
  rw [← Option.some.inj (standing.symm.trans otherStanding)]
  exact built

theorem ground_of_standing {base : Model} (standing : draft.base = some base) :
    draft.ground = base := by
  unfold ground
  rw [standing]
  rfl

theorem wellFormed_ground (below : ∀ base, draft.base = some base → base.WellFormed) :
    draft.ground.WellFormed := by
  cases standing : draft.base with
  | none =>
    unfold ground
    rw [standing]
    exact Model.wellFormed_empty
  | some base =>
    rw [ground_of_standing standing]
    exact below base standing

/-- One build keeps models well-formed. -/
theorem wellFormed_of_build (ground : draft.ground.WellFormed) {model : Model}
    (built : draft.build = .ok model) : model.WellFormed := by
  obtain ⟨buildable, rfl⟩ := (build_eq_ok_iff ground model).mp built
  exact (wellFormed_skeleton ground buildable.tags).with_rules draft.sealedRules

/-- The types of the model below stay where they are. -/
theorem begins_of_build (ground : draft.ground.WellFormed) {model : Model}
    (built : draft.build = .ok model) : draft.ground.arena <+: model.arena := by
  obtain ⟨-, rfl⟩ := (build_eq_ok_iff ground model).mp built
  exact draft.ground_begins

end Draft

theorem Model.Built.wellFormed {model : Model} (built : model.Built) : model.WellFormed := by
  induction built with
  | build below built inductionHypothesis =>
    exact Draft.wellFormed_of_build (Draft.wellFormed_ground inductionHypothesis) built

theorem Draft.Grounded.wellFormed {draft : Draft} (grounded : draft.Grounded) :
    draft.ground.WellFormed :=
  wellFormed_ground fun base standing => (grounded base standing).wellFormed

/-- What holds of the empty model and is handed on from the ground of a draft to the model that is
assembled on it holds of every model that is ever built. -/
theorem Model.Built.invariant {motive : Model → Prop} (empty : motive .empty)
    (step : ∀ draft : Draft, draft.Grounded → draft.Buildable → motive draft.ground →
      motive draft.assemble) {model : Model} (built : model.Built) : motive model := by
  induction built with
  | @build draft model below built inductionHypothesis =>
    have grounded : draft.Grounded := below
    obtain ⟨buildable, rfl⟩ := (Draft.build_eq_ok_iff grounded.wellFormed model).mp built
    refine step draft grounded buildable ?_
    cases standing : draft.base with
    | none =>
      unfold Draft.ground
      rw [standing]
      exact empty
    | some base =>
      rw [Draft.ground_of_standing standing]
      exact inductionHypothesis base standing

/-! ### A household and what may be put on it -/

namespace Draft

/-- Persons and their pets, who refer to each other. -/
def household : Draft :=
  let person : TypeSketch := .addAll (.ofBody "Person" (.entity {}))
    [.attribute { name := "name", type := .tagged .text },
      .attribute { name := "pets", type := .named "Pet", collection := true }]
  let pet : TypeSketch := .addAll (.ofBody "Pet" (.entity {}))
    [.attribute { name := "owner", type := .named "Person" }]
  let text : TypeSketch := .addAll (.ofBody "String" .basic) [.tag .text, .operators [.plus]]
  ([person, pet, text].foldl declareType standalone).putFunction
    { name := "owners"
      arguments := [{ type := some (.named "Pet"), collection := true }, { collection := true }]
      result := some (.named "Person")
      resultCollection := true }

/-- Cages for the pets of a household, labelled with another type of texts, which takes over the
name and the tag of the one below. -/
def shelter : Draft :=
  let text : TypeSketch := .addAll (.ofBody "String" .basic) [.tag .text, .operators [.plus]]
  let cage : TypeSketch := .addAll (.ofBody "Cage" (.entity {}))
    [.attribute { name := "label", type := .named "String" },
      .attribute { name := "inmates", type := .named "Pet", collection := true }]
  let keepers : FunctionDecl :=
    { name := "keepers"
      arguments := [{ type := some (.named "Cage") }]
      result := some (.named "Person")
      resultCollection := true }
  (([cage, text].foldl declareType (extending household.assemble)).putFunction keepers).registerRule
    { target := .tagged .text, capability := .operator .plus, rule := .fixed (.named "String") }

theorem build_of_faults {draft : Draft} (none : draft.faults = []) :
    draft.build = .ok draft.assemble := by
  unfold build
  rw [none]

/-- Whatever a draft stands on, only what is free of faults is built, and it is built as it is
described. -/
theorem faults_of_build {draft : Draft} {model : Model} (built : draft.build = .ok model) :
    draft.faults = [] ∧ model = draft.assemble := by
  unfold build at built
  split at built
  · next none => exact ⟨none, (Except.ok.inj built).symm⟩
  · cases built

theorem build_household : household.build = .ok household.assemble :=
  build_of_faults (by decide)

theorem build_shelter : shelter.build = .ok shelter.assemble :=
  build_of_faults (by decide)

theorem grounded_household : household.Grounded := by
  intro base standing
  have alone : household.base = none := rfl
  rw [alone] at standing
  cases standing

theorem built_household : household.assemble.Built := .build grounded_household build_household

theorem grounded_shelter : shelter.Grounded := grounded_of_standing rfl built_household

/-- A store of cages, which nobody has declared, under the name that is kept for collections. -/
def depot : Draft :=
  let collection : TypeSketch := .addAll (.ofBody "Collection" (.entity {}))
    [.attribute { name := "cages", type := .named "Cage", collection := true },
      .attribute { name := "keeper", type := .named "Person" }]
  (extending household.assemble).declareType collection

theorem grounded_depot : depot.Grounded := grounded_of_standing rfl built_household

theorem build_depot : depot.build = .error
    ⟨[.reservedName "Collection", .unknownAttributeType "Collection" "cages" (.named "Cage")]⟩ :=
  (build_eq_error_iff _).mpr ⟨by decide, by decide⟩

/-! ### All builds -/

variable {draft : Draft}

/-- A draft is built exactly if it is buildable, which is no more than to be acceptable if all members
are kept under their names. One that is not comes back with everything that is wrong with it in the
first round in which anything is, site by site and in order. -/
theorem Grounded.build_exact (grounded : draft.Grounded) :
    ((∃ model, draft.build = .ok model) ↔ draft.Buildable) ∧
      ((∀ decl ∈ draft.types.items, decl.body.KeepsNames) →
        (draft.Buildable ↔ draft.Acceptable)) ∧
      ∀ failure, draft.build = .error failure →
        failure.faults ≠ [] ∧
          ∃ round, (∀ site fault, draft.Wrong site fault → round ≤ site.round) ∧
            Reports Site.Before (fun site fault => draft.Wrong site fault ∧ site.round = round)
              failure.faults := by
  have ground := grounded.wellFormed
  refine ⟨⟨?_, ?_⟩, buildable_iff_of_keepsNames, ?_⟩
  · intro ⟨model, built⟩
    exact ((build_eq_ok_iff ground model).mp built).1
  · intro buildable
    exact ⟨draft.assemble, (build_eq_ok_iff ground _).mpr ⟨buildable, rfl⟩⟩
  · intro failure failed
    obtain ⟨some, rfl⟩ := (build_eq_error_iff failure).mp failed
    obtain ⟨round, earliest, reports, -⟩ := reports_faults ground
    exact ⟨some, round, earliest, reports⟩

theorem build_exact_depot :
    depot.Grounded ∧ ¬ depot.Buildable ∧ ∃ failure, depot.build = .error failure ∧
      ∃ round, (∀ site fault, depot.Wrong site fault → round ≤ site.round) ∧
        Reports Site.Before (fun site fault => depot.Wrong site fault ∧ site.round = round)
          failure.faults := by
  obtain ⟨accepted, -, refused⟩ := Grounded.build_exact grounded_depot
  refine ⟨grounded_depot, ?_, _, build_depot, (refused _ build_depot).2⟩
  intro buildable
  obtain ⟨model, built⟩ := accepted.mpr buildable
  rw [build_depot] at built
  cases built

/-! ### Two attributes of one name -/

/-- A card that keeps two attributes of one name under different keys. -/
def twins : Draft :=
  let id : AttributeDecl := { name := "id", type := .named "String" }
  let card : EntityDecl := { attributes := ⟨Keyed.ofList [("x", id), ("y", id)]⟩ }
  (standalone.registerType { name := "String" }).registerType { name := "Card", body := .entity card }

theorem build_twins : twins.build = .error ⟨[.duplicateAttribute "Card" "id" "id"]⟩ :=
  (build_eq_error_iff _).mpr ⟨by decide, by decide⟩

theorem acceptable_twins : twins.Acceptable where
  tags := by
    unfold UniqueTags
    decide
  names := by decide
  attributeTypes := by
    have declared : ∀ decl ∈ twins.types.items, ∀ info ∈ decl.attributes,
        ∃ other ∈ twins.types.items, other.AnswersTo info.type := by decide
    intro decl member info inside
    obtain ⟨other, otherMember, answers⟩ := declared decl member info inside
    exact ⟨_, _, .own otherMember answers⟩
  argumentTypes decl member := absurd member List.not_mem_nil
  resultTypes decl member := absurd member List.not_mem_nil
  attributeNames decl member entity fold body folds := by
    have sensitive : ∀ decl ∈ twins.types.items, decl.entity?.all (·.casing.isSensitive) = true := by
      decide
    have compared := sensitive decl member
    unfold TypeDecl.entity? at compared
    rw [body, Option.all_some, folds] at compared
    cases compared
  valueNames decl member enum fold body := by
    have others : ∀ decl ∈ twins.types.items, decl.kind ≠ .enum := by decide
    have other := others decl member
    unfold TypeDecl.kind at other
    rw [body] at other
    exact absurd rfl other
  functionNames := List.nodup_nil
  inheritedNames := List.nodup_nil
  functionRules entry member := absurd member List.not_mem_nil
  registrations registration member := absurd member List.not_mem_nil

/-- Two attributes of one name are too many even if no names are folded. -/
theorem not_build_acceptable :
    ¬ ∀ draft : Draft, draft.Grounded →
      ((∃ model, draft.build = .ok model) ↔ draft.Acceptable) := by
  intro claim
  have alone : twins.Grounded := fun _ standing => nomatch standing
  obtain ⟨model, built⟩ := (claim twins alone).mpr acceptable_twins
  rw [build_twins] at built
  cases built

end Draft

/-- Every model that is ever built fits together, keeps no handle that points past its types, and is
what the types of every model built on it begin with. -/
theorem Model.Built.fits_together {model : Model} (built : model.Built) :
    model.WellFormed ∧ (∀ handle ∈ model.handles, handle < model.arena.length) ∧
      ∀ (draft : Draft) (later : Model), draft.base = some model → draft.build = .ok later →
        model.arena <+: later.arena := by
  refine ⟨built.wellFormed, fun handle => built.wellFormed.lt_of_mem_handles, ?_⟩
  intro draft later standing laterBuilt
  have ground : draft.ground = model := Draft.ground_of_standing standing
  rw [← ground]
  exact Draft.begins_of_build (ground ▸ built.wellFormed) laterBuilt

theorem Model.Built.household_fits_together :
    Draft.household.assemble.Built ∧ Draft.household.assemble.WellFormed ∧
      Draft.household.assemble.arena <+: Draft.shelter.assemble.arena :=
  have sound := Model.Built.fits_together Draft.built_household
  ⟨Draft.built_household, sound.1, sound.2.2 Draft.shelter _ rfl Draft.build_shelter⟩

end Metamodel
