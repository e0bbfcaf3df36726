/-
The functions of a draft laid over those below.

Whether a definition of the draft's own counts as the same name as a function below is decided as
the draft compares names, which may be in another way than below. Over each function below lies at
most one definition, and it takes the place of the function in the list. Definitions that lie over
nothing come after the functions below in the order in which they were made. What the draft itself
shows for a name before it is built is the definition that the model will have realized.
-/

import Metamodel.Proofs.Functions

namespace Metamodel

namespace Model

/-- An argument in its place, as it was declared and with the type that the model has for it. -/
structure RealizesArgument (model : Model) (declared : ArgumentDecl × Nat) (info : ArgumentInfo) :
    Prop extends model.BindsArgument declared.1 info where
  index : info.index = declared.2
  typeName : info.typeName = (info.handle.bind model.typeAt?).map TypeInfo.display
  metadata : info.metadata = declared.1.metadata

/-- A function as it was declared, with the types that the model has for the references in its
declaration. -/
structure Realizes (model : Model) (declared : FunctionDecl) (info : FunctionInfo) : Prop where
  name : info.name = declared.name
  arguments : List.Forall₂ model.RealizesArgument declared.arguments.zipIdx info.arguments
  minimum : info.minimum = declared.minimum
  maximum : info.maximum = declared.maximum
  result : model.BindsSlot declared.resultCollection declared.result info.result
  resultName : info.resultName = (info.result.bind model.typeAt?).map TypeInfo.display
  resultCollection : info.resultCollection = declared.resultCollection
  volatility : info.volatility = declared.volatility
  metadata : info.metadata = declared.metadata

/-- A handle in a signature is settled by the reference. -/
theorem BindsSlot.unique {model : Model} {collection : Bool} {declared : Option Reference}
    {handle other : Option TypeHandle} (bound : model.BindsSlot collection declared handle)
    (otherBound : model.BindsSlot collection declared other) : handle = other := by
  cases bound with
  | undeclared =>
    cases otherBound
    rfl
  | declared first =>
    cases otherBound with
    | declared second => exact first.symm.trans second

theorem RealizesArgument.unique {model : Model} {declared : ArgumentDecl × Nat}
    {info other : ArgumentInfo} (realizes : model.RealizesArgument declared info)
    (otherRealizes : model.RealizesArgument declared other) : info = other := by
  have handle : info.handle = other.handle := realizes.handle.unique otherRealizes.handle
  have typeName : info.typeName = other.typeName := by
    rw [realizes.typeName, otherRealizes.typeName, handle]
  cases info
  cases other
  simp only [ArgumentInfo.mk.injEq]
  exact ⟨realizes.name.trans otherRealizes.name.symm,
    realizes.index.trans otherRealizes.index.symm, handle, typeName,
    realizes.collection.trans otherRealizes.collection.symm,
    realizes.metadata.trans otherRealizes.metadata.symm⟩

/-- There is one way to realize a declaration in a model. -/
theorem Realizes.unique {model : Model} {declared : FunctionDecl} {info other : FunctionInfo}
    (realizes : model.Realizes declared info) (otherRealizes : model.Realizes declared other) :
    info = other := by
  have arguments : info.arguments = other.arguments :=
    Relator.RightUnique.forall₂ (fun _ _ _ first second => first.unique second)
      realizes.arguments otherRealizes.arguments
  have result : info.result = other.result := realizes.result.unique otherRealizes.result
  have resultName : info.resultName = other.resultName := by
    rw [realizes.resultName, otherRealizes.resultName, result]
  cases info
  cases other
  simp only [FunctionInfo.mk.injEq]
  exact ⟨realizes.name.trans otherRealizes.name.symm, arguments,
    realizes.minimum.trans otherRealizes.minimum.symm,
    realizes.maximum.trans otherRealizes.maximum.symm, result, resultName,
    realizes.resultCollection.trans otherRealizes.resultCollection.symm,
    realizes.volatility.trans otherRealizes.volatility.symm,
    realizes.metadata.trans otherRealizes.metadata.symm⟩

end Model

namespace Draft

variable {draft : Draft}

/-! ### Realized functions -/

theorem typeName_argumentSlot? (ground : draft.ground.WellFormed) (type : Option Reference)
    (collection : Bool) :
    (draft.argumentSlot? type collection).map Slot.typeName =
      (((draft.argumentSlot? type collection).map Slot.handle).bind draft.assemble.typeAt?).map
        TypeInfo.display := by
  have shows := shows_argumentSlot ground type collection
  cases filled : draft.argumentSlot? type collection with
  | none => rfl
  | some slot =>
    rw [filled] at shows
    obtain ⟨found, there, shown, -⟩ := shows slot.handle rfl
    have there : draft.assemble.typeAt? slot.handle = some found := there
    rw [Option.map_some, Option.map_some, Option.bind_some, there, Option.map_some]
    exact shown

/-- The function that is made of a declaration is as it was declared. -/
theorem realizes_sealFunction (ground : draft.ground.WellFormed) (buildable : draft.Buildable)
    {decl : FunctionDecl} (member : decl ∈ draft.functions.items) :
    draft.assemble.Realizes decl (draft.sealFunction decl) where
  name := rfl
  arguments := by
    refine List.forall₂_map_right_iff.mpr (List.forall₂_same.mpr fun declared listed => ?_)
    have known := buildable.argumentTypes decl member declared.1
      (List.fst_mem_of_mem_zipIdx listed)
    exact
      { name := rfl
        collection := rfl
        handle := bindsSlot_argumentSlot? ground buildable.tags known _
        index := rfl
        typeName := typeName_argumentSlot? ground _ _
        metadata := rfl }
  minimum := rfl
  maximum := rfl
  result := bindsSlot_argumentSlot? ground buildable.tags (buildable.resultTypes decl member) _
  resultName := typeName_argumentSlot? ground _ _
  resultCollection := rfl
  volatility := rfl
  metadata := rfl

/-! ### One definition for a name -/

/-- The draft shows the one definition of which the name counts as the given one. -/
theorem functionDecl?_eq_some_iff (buildable : draft.Buildable) (name : String)
    (decl : FunctionDecl) :
    draft.functionDecl? name = some decl ↔ decl ∈ draft.functions.items ∧
      draft.functionCasing.key decl.name = draft.functionCasing.key name := by
  let table : Keyed fun decl : FunctionDecl => draft.functionCasing.key decl.name :=
    ⟨draft.functions.items, buildable.functionNames⟩
  have shown : draft.functionDecl? name = table.find? (draft.functionCasing.key name) :=
    Keyed.find?_reverse table.distinct _
  rw [shown]
  exact Keyed.find?_eq_some_iff table

/-- The function that has the place of a function below: the realized definition that lies over it,
or the function itself. -/
def overlay (draft : Draft) (function : FunctionInfo) : FunctionInfo :=
  (draft.functionDecl? function.name).elim function draft.sealFunction

/-- The definitions that lie over no function below. -/
def newFunctions (draft : Draft) : List FunctionDecl :=
  draft.functions.items.filter fun decl => ∀ function ∈ draft.ground.functions.values,
    draft.functionCasing.key function.name ≠ draft.functionCasing.key decl.name

/-- The list of functions: those below or what lies over them, and then what is new. -/
theorem values_sealedFunctions (buildable : draft.Buildable) :
    draft.sealedFunctions.values =
      draft.ground.functions.values.map draft.overlay ++
        draft.newFunctions.map draft.sealFunction := by
  let entryOf := fun function : FunctionInfo => (function.name, function)
  let own := draft.functions.items.map fun decl => entryOf (draft.sealFunction decl)
  let below := draft.ground.functions.values.map entryOf
  let key := fun entry : String × FunctionInfo => draft.functionCasing.key entry.1
  have belowDistinct : (below.map key).Nodup := by
    rw [List.map_map]
    exact buildable.inheritedNames
  have ownDistinct : (own.map key).Nodup := by
    rw [List.map_map]
    exact buildable.functionNames
  have filled : draft.sealedFunctions.toList =
      ((Keyed.ofList below : Keyed key).insertAll own).items := by
    unfold sealedFunctions
    rw [NameTable.ofList_eq, List.map_append, List.map_map]
    unfold Keyed.ofList Keyed.insertAll
    rw [List.foldl_append]
    rfl
  unfold NameTable.values
  rw [filled, Keyed.items_insertAll_of_nodup _ ownDistinct, Keyed.items_ofList belowDistinct,
    List.map_append, List.map_map, List.map_map]
  refine congrArg₂ (· ++ ·) (List.map_congr_left fun function _ => ?_) ?_
  · have found : own.find? (fun other => key other = key (entryOf function)) =
        (draft.functionDecl? function.name).map fun decl => entryOf (draft.sealFunction decl) := by
      unfold functionDecl?
      rw [Keyed.find?_reverse buildable.functionNames]
      exact List.find?_map
    show ((own.find? fun other => key other = key (entryOf function)).getD (entryOf function)).2 = _
    rw [found]
    unfold overlay
    cases draft.functionDecl? function.name <;> rfl
  · rw [List.filter_map, List.map_map]
    refine congrArg (List.map draft.sealFunction) (List.filter_congr fun decl _ => ?_)
    refine decide_eq_decide.mpr ?_
    rw [List.map_map, List.mem_map, not_exists]
    exact forall_congr' fun function => not_and

/-! ### What a name finds -/

/-- A model in which the functions of a draft lie over those of the model below. -/
structure OverlaysFunctions (draft : Draft) (model : Model) : Prop where
  casing : model.functionCasing = draft.functionCasing
  /-- For a name the draft shows the definition of which the name counts as the same, and there is
  never more than one. -/
  shown : ∀ name decl, draft.functionDecl? name = some decl ↔ decl ∈ draft.functions.items ∧
    draft.functionCasing.key decl.name = draft.functionCasing.key name
  realized : ∀ decl ∈ draft.functions.items, model.Realizes decl (draft.sealFunction decl)
  own : ∀ name decl, draft.functionDecl? name = some decl →
    model.function? name = some (draft.sealFunction decl)
  inherited : ∀ name, draft.functionDecl? name = none →
    ∀ function ∈ draft.ground.functions.values,
      draft.functionCasing.key function.name = draft.functionCasing.key name →
        model.function? name = some function
  unknown : ∀ name, draft.functionDecl? name = none →
    (∀ function ∈ draft.ground.functions.values,
      draft.functionCasing.key function.name ≠ draft.functionCasing.key name) →
        model.function? name = none
  /-- A function below keeps its place or leaves it to what lies over it, and what is new comes
  after. -/
  values : model.functions.values = draft.ground.functions.values.map draft.overlay ++
    draft.newFunctions.map draft.sealFunction
  /-- No two functions of the list count as the same. -/
  distinct : (model.functions.values.map fun function =>
    draft.functionCasing.key function.name).Nodup
  /-- Whatever a name finds is in the list. -/
  listed : ∀ name function, model.function? name = some function ↔
    function ∈ model.functions.values ∧
      draft.functionCasing.key function.name = draft.functionCasing.key name

/-- A function below over which nothing lies is in the new list. -/
theorem mem_values_of_not_overlaid (buildable : draft.Buildable) {function : FunctionInfo}
    (member : function ∈ draft.ground.functions.values)
    (bare : draft.functionDecl? function.name = none) :
    function ∈ draft.assemble.functions.values := by
  show function ∈ draft.sealedFunctions.values
  rw [values_sealedFunctions buildable]
  refine List.mem_append_left _ (List.mem_map.mpr ⟨function, member, ?_⟩)
  unfold overlay
  rw [bare]
  rfl

/-- In a model that is built a name finds the realized definition that the draft shows for it, or
else the function of the model below that counts as the same to the draft, or else nothing. The
functions below come first in the list, in their order, and what lies over them takes their
places. -/
theorem Grounded.overlaysFunctions (grounded : draft.Grounded) {model : Model}
    (built : draft.build = .ok model) : draft.OverlaysFunctions model := by
  have ground := grounded.wellFormed
  have names := (Model.Built.build grounded built).namesFunctions
  obtain ⟨buildable, rfl⟩ := (build_eq_ok_iff ground model).mp built
  have casing : draft.assemble.functionCasing = draft.functionCasing := draft.casing_sealedFunctions
  have listed := names.function?_eq_some_iff
  rw [casing] at listed
  exact
    { casing := casing
      shown := functionDecl?_eq_some_iff buildable
      realized := fun decl member => realizes_sealFunction ground buildable member
      own := by
        intro name decl shown
        obtain ⟨member, same⟩ := (functionDecl?_eq_some_iff buildable name decl).mp shown
        exact function?_of_own buildable member same
      inherited := by
        intro name bare function member same
        refine (listed name function).mpr ⟨?_, same⟩
        refine mem_values_of_not_overlaid buildable member ?_
        unfold functionDecl? at bare ⊢
        rw [same]
        exact bare
      unknown := by
        intro name bare foreign
        refine Option.eq_none_iff_forall_ne_some.mpr fun function found => ?_
        rcases (exists_function?_iff name).mp ⟨function, found⟩ with
          ⟨decl, member, same⟩ | ⟨other, member, same⟩
        · rw [(functionDecl?_eq_some_iff buildable name decl).mpr ⟨member, same⟩] at bare
          cases bare
        · exact foreign other member same
      values := values_sealedFunctions buildable
      distinct := casing ▸ names.distinct
      listed := listed }

/-! ### Sums under another spelling -/

/-- Sums and means. Spellings are told apart. -/
def calculator : Draft :=
  let integer := standalone.declareType (.ofBody "Integer" .basic)
  (integer.putFunction { name := "sum", result := some (.named "Integer") }).putFunction
    { name := "mean" }

/-- Statistics do not tell spellings apart. They have sums of their own, and medians before that. -/
def statistics : Draft :=
  let numbers : ArgumentDecl :=
    { name := some "numbers", type := some (.named "Integer"), collection := true }
  let folding : Draft :=
    { extending calculator.assemble with functionCasing := .insensitive }
  (folding.putFunction
      { name := "Median", arguments := [numbers], result := some (.named "Integer") }).putFunction
    { name := "SUM", arguments := [numbers], result := some (.named "Integer") }

/-- The sums of the statistics have the place of the sums below and are found as these were. -/
theorem Grounded.overlaysFunctions_statistics :
    statistics.Grounded ∧ statistics.build = .ok statistics.assemble ∧
      statistics.OverlaysFunctions statistics.assemble ∧
        statistics.assemble.functions.values.map FunctionInfo.name = ["SUM", "mean", "Median"] ∧
          (statistics.assemble.function? "sum").map FunctionInfo.name = some "SUM" := by
  have calculated : calculator.build = .ok calculator.assemble :=
    build_of_faults (by decide)
  have grounded : statistics.Grounded := by
    refine grounded_of_standing rfl (.build (fun base standing => ?_) calculated)
    cases standing
  have built : statistics.build = .ok statistics.assemble := build_of_faults (by decide)
  exact ⟨grounded, built, Grounded.overlaysFunctions grounded built, by decide,
    by decide⟩

end Draft

end Metamodel
