/-
A rule for a function and the function it is for.

Functions and their rules are kept in two tables, each under the spelling in which it was declared
or registered. While a draft is built it is asked that every rule of its own finds a function. The
rules that come from below are not asked again, although the new model may compare names in another
way. As long as it does not tell a rule from its function, the two stay together, through any number
of layers. A draft that tells spellings apart which the model below took for one may part them: the
rule stays under its own spelling, where there is no function, and the function is left without a
rule.
-/

import Metamodel.Proofs.Functions

namespace Metamodel

namespace Model

/-- Every rule for a function stands under a name that finds one. -/
def Attached (model : Model) : Prop :=
  ∀ name ∈ model.functionRules.names, ∃ function, model.function? name = some function

/-- Where the name of a function finds a rule, it finds a function and a rule in the later model. -/
def KeepsFunctionRules (earlier later : Model) : Prop :=
  ∀ function ∈ earlier.functions.values,
    (∃ rule, earlier.functionRule? function.name = some rule) →
      (∃ current, later.function? function.name = some current) ∧
        ∃ rule, later.functionRule? function.name = some rule

end Model

namespace Draft

variable {draft : Draft}

/-- The draft takes the spelling of an inherited rule for the name of the function below that the
rule is for. -/
def Recognises (draft : Draft) : Prop :=
  ∀ name ∈ draft.ground.functionRules.names, ∀ function,
    draft.ground.function? name = some function →
      draft.functionCasing.key name = draft.functionCasing.key function.name

/-! ### When inherited rules are recognised -/

/-- A draft that tells no names apart that the model below takes for one recognises all rules. -/
theorem Grounded.recognises_of_coarser (grounded : draft.Grounded)
    (coarser : ∀ name other,
      draft.ground.functionCasing.key name = draft.ground.functionCasing.key other →
        draft.functionCasing.key name = draft.functionCasing.key other) : draft.Recognises := by
  intro name _ function found
  exact (coarser _ _ (grounded.namesFunctions.mem_of_function? found).2).symm

/-- To compare names as the model below does is to recognise its rules. -/
theorem Grounded.recognises_of_same (grounded : draft.Grounded)
    (same : draft.functionCasing = draft.ground.functionCasing) : draft.Recognises :=
  grounded.recognises_of_coarser fun _ _ equal => same ▸ equal

/-- Over a model that tells all names apart, it does not matter how the draft compares them. -/
theorem Grounded.recognises_of_sensitive (grounded : draft.Grounded)
    (sensitive : draft.ground.functionCasing = .sensitive) : draft.Recognises := by
  refine grounded.recognises_of_coarser fun name other equal => ?_
  rw [sensitive] at equal
  exact congrArg draft.functionCasing.key (show name = other from equal)

/-! ### One layer -/

theorem hasFunction_of_inherited {function : FunctionInfo}
    (member : function ∈ draft.ground.functions.values) {name : String}
    (same : draft.functionCasing.key name = draft.functionCasing.key function.name) :
    draft.HasFunction name :=
  Or.inr ⟨function, member, same.symm⟩

/-- One build leaves every rule with a function: the draft's own rules are checked, and those from
below are recognised. -/
theorem attached_assemble (grounded : draft.Grounded) (buildable : draft.Buildable)
    (recognises : draft.Recognises) (below : draft.ground.Attached) : draft.assemble.Attached := by
  intro name listed
  rw [exists_function?_iff]
  obtain ⟨entry, member, rfl⟩ := List.mem_map.mp listed
  rcases List.mem_append.mp (NameTable.mem_of_mem_ofList member) with inherited | own
  · have listedBelow : entry.1 ∈ draft.ground.functionRules.names := List.mem_map_of_mem inherited
    obtain ⟨function, found⟩ := below entry.1 listedBelow
    exact hasFunction_of_inherited (grounded.namesFunctions.mem_of_function? found).1
      (recognises entry.1 listedBelow function found)
  · exact buildable.functionRules entry own

/-- One build leaves every function that had a rule with one. -/
theorem keepsFunctionRules_assemble (grounded : draft.Grounded) (recognises : draft.Recognises) :
    draft.ground.KeepsFunctionRules draft.assemble := by
  have names := grounded.namesFunctions
  intro function member ruled
  refine ⟨(exists_function?_iff function.name).mpr (hasFunction_of_inherited member rfl), ?_⟩
  obtain ⟨rule, found⟩ := ruled
  obtain ⟨spelled, listed, same⟩ := NameTable.exists_entry_of_get? found
  -- The rule may be spelled differently from its function, but below both are one name.
  have named : draft.ground.function? spelled = some function := by
    rw [← names.function?_of_mem member]
    refine NameTable.get?_congr draft.ground.functions ?_
    rw [← names.casing]
    exact same
  rw [exists_functionRule?_iff]
  exact ⟨(spelled, rule), List.mem_append_left _ listed,
    recognises spelled (List.mem_map_of_mem listed) function named⟩

end Draft

/-! ### All layers -/

namespace Model

/-- If every layer recognises the rules from below, no rule is ever without a function, and no
function loses its rule to a further layer that does so too. -/
theorem Layers.attached {model : Model} {drafts : List Draft} (layers : model.Layers drafts)
    (recognised : ∀ draft ∈ drafts, draft.Recognises) :
    model.Attached ∧ ∀ (draft : Draft) (later : Model), draft.base = some model →
      draft.build = .ok later → draft.Recognises →
        later.Attached ∧ model.KeepsFunctionRules later := by
  have attached : model.Attached := by
    refine layers.invariant (motive := fun drafts model =>
      (∀ draft ∈ drafts, draft.Recognises) → model.Attached) (fun _ _ listed => nomatch listed)
      ?_ recognised
    intro draft drafts grounded buildable below recognised
    exact Draft.attached_assemble grounded buildable (recognised draft List.mem_cons_self)
      (below fun other member => recognised other (List.mem_cons_of_mem draft member))
  refine ⟨attached, fun draft later standing built recognises => ?_⟩
  have grounded := Draft.grounded_of_standing standing layers.built
  have ground : draft.ground = model := Draft.ground_of_standing standing
  obtain ⟨buildable, rfl⟩ := (Draft.build_eq_ok_iff grounded.wellFormed later).mp built
  have kept := Draft.keepsFunctionRules_assemble grounded recognises
  rw [ground] at kept
  exact ⟨Draft.attached_assemble grounded buildable recognises (ground ▸ attached), kept⟩

end Model

/-! ### A rule spelled differently from its function -/

namespace Draft

/-- Sums of numbers, under whatever spelling. The rule says what it is for in capitals. -/
def abacus : Draft :=
  ((({ standalone with functionCasing := .insensitive }).declareType
    (.ofBody "Integer" .basic)).putFunction
      { name := "sum", result := some (.named "Integer") }).registerFunctionRule "SUM"
        (.fixed (.named "Integer"))

/-- The same sums, which from now on are written one way only. -/
def protocol : Draft :=
  { extending abacus.assemble with functionCasing := .sensitive }

theorem build_abacus : abacus.build = .ok abacus.assemble :=
  build_of_faults (by decide)

theorem build_protocol : protocol.build = .ok protocol.assemble :=
  build_of_faults (by decide)

end Draft

namespace Model

theorem layers_abacus : Draft.abacus.assemble.Layers [Draft.abacus] :=
  .alone rfl Draft.build_abacus

/-- On top of the abacus the rule for sums is kept by whoever goes on comparing names as it does. -/
theorem Layers.attached_abacus :
    Draft.abacus.assemble.Layers [Draft.abacus] ∧
      (∀ draft ∈ [Draft.abacus], draft.Recognises) ∧
        (Draft.extending Draft.abacus.assemble).Recognises ∧
          (Draft.extending Draft.abacus.assemble).assemble.Attached ∧
            Draft.abacus.assemble.KeepsFunctionRules
              (Draft.extending Draft.abacus.assemble).assemble := by
  have recognised : ∀ draft ∈ [Draft.abacus], draft.Recognises := by
    intro draft member
    rw [List.mem_singleton.mp member]
    have alone : Draft.abacus.Grounded := by rintro _ ⟨⟩
    exact alone.recognises_of_sensitive rfl
  have grounded : (Draft.extending Draft.abacus.assemble).Grounded :=
    Draft.grounded_of_standing rfl layers_abacus.built
  have recognises := grounded.recognises_of_same rfl
  have further := (Layers.attached layers_abacus recognised).2 (Draft.extending _) _ rfl
    (Draft.build_of_faults (by decide)) recognises
  exact ⟨layers_abacus, recognised, recognises, further⟩

/-- Not every rule of a model that was built has a function, and not every function that had a rule
keeps it. -/
theorem not_attached :
    (¬ ∀ model : Model, model.Built → model.Attached) ∧
      ¬ ∀ (model later : Model) (draft : Draft), model.Built → draft.base = some model →
        draft.build = .ok later → model.KeepsFunctionRules later := by
  have below := layers_abacus.built
  have orphaned : "SUM" ∈ Draft.protocol.assemble.functionRules.names ∧
      (Draft.protocol.assemble.function? "SUM").isNone = true := by
    decide
  have ruled : (Draft.abacus.assemble.function? "sum").map FunctionInfo.name = some "sum" ∧
      Draft.abacus.assemble.functionRule? "sum" = some (.fixed (.named "Integer")) := by
    decide
  have bare : Draft.protocol.assemble.functionRule? "sum" = none := by decide
  constructor
  · intro attached
    have built : Draft.protocol.assemble.Built :=
      .build (Draft.grounded_of_standing rfl below) Draft.build_protocol
    obtain ⟨function, found⟩ := attached _ built "SUM" orphaned.1
    rw [Option.isNone_iff_eq_none.mp orphaned.2] at found
    cases found
  · intro keeps
    obtain ⟨function, found, name⟩ := Option.map_eq_some_iff.mp ruled.1
    have member := (below.namesFunctions.mem_of_function? found).1
    obtain ⟨-, rule, kept⟩ := keeps _ _ Draft.protocol below rfl Draft.build_protocol function
      member ⟨_, name ▸ ruled.2⟩
    rw [name, bare] at kept
    cases kept

end Model

end Metamodel
