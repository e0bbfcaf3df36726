/-
A model that only adds to another one changes none of its answers.

A draft may keep to names, tags and functions of its own, register rules for nothing that was there
before, and compare function names as before. Its model then gives the same answer to every question
that the model below answers. For types and functions this is so because what is found below is
still found. What an operator, a predicate or a function yields takes more, because rules look up
types by name and tag in the model that is asked, and because all tables of rules are filled anew:
the rules that decide have to be the same ones, and whatever they look up has to be found again. Of
stock rules it is known that they look up nothing else.

Only answers are kept. What the model below refuses, because a name means nothing in it, may well be
granted above.
-/

import Metamodel.Proofs.Defaults
import Metamodel.Proofs.Functions
import Metamodel.Proofs.Stock

namespace Metamodel

namespace Model

/-- Whatever the earlier model answers, the later one answers in the same way. Operands are types of
the earlier model; for the arguments of functions this need not be asked. -/
structure Conserves [CustomRules] (earlier later : Model) : Prop where
  typeAt? : ∀ {handle type}, earlier.typeAt? handle = some type → later.typeAt? handle = some type
  /-- Names and tags find what they found. -/
  resolve? : ∀ {reference type}, earlier.resolve? reference = some type →
    later.resolve? reference = some type
  attribute? : ∀ {reference name info},
    (earlier.resolve? reference).bind (TypeInfo.attribute? · name) = some info →
      (later.resolve? reference).bind (TypeInfo.attribute? · name) = some info
  enumValue? : ∀ {reference name info},
    (earlier.resolve? reference).bind (TypeInfo.enumValue? · name) = some info →
      (later.resolve? reference).bind (TypeInfo.enumValue? · name) = some info
  collectionType? : ∀ {element collection}, earlier.collectionType? element = some collection →
    later.collectionType? element = some collection
  function? : ∀ {name function}, earlier.function? name = some function →
    later.function? name = some function
  capabilityResult : ∀ {capability operands type}, (∀ operand ∈ operands, operand ∈ earlier.arena) →
    earlier.capabilityResult capability operands = .ok type →
      later.capabilityResult capability operands = .ok type
  functionResult : ∀ {name arguments result}, earlier.functionResult name arguments = .ok result →
    later.functionResult name arguments = .ok result

/-! ### Rules in a later model -/

section Rules

variable {earlier later : Model}

variable (found : ∀ {reference type}, earlier.resolve? reference = some type →
  later.resolve? reference = some type)
include found

/-- What is read off the types that are found is read off them again. -/
theorem bind_later {α : Type} {read : TypeInfo → Option α} {reference : Reference} {value : α}
    (given : (earlier.resolve? reference).bind read = some value) :
    (later.resolve? reference).bind read = some value := by
  obtain ⟨type, resolved, inside⟩ := Option.bind_eq_some_iff.mp given
  exact Option.bind_eq_some_iff.mpr ⟨type, found resolved, inside⟩

/-- A stock rule yields what it yielded, as the type that it settles on is still found. -/
theorem applyOperandRule_later [CustomRules] {rule : OperandRule} (stock : rule.isStock = true)
    {operands : List TypeInfo} {type : TypeInfo}
    (yields : earlier.applyOperandRule rule operands = .ok type) :
    later.applyOperandRule rule operands = .ok type := by
  obtain ⟨reference, chosen, resolved⟩ := (applyOperandRule_eq_ok_iff earlier stock).mp yields
  exact (applyOperandRule_eq_ok_iff later stock).mpr ⟨reference, chosen, found resolved⟩

theorem applyFunctionRule_later [CustomRules] {rule : FunctionRule} (stock : rule.isStock = true)
    {function : FunctionInfo} {arguments : List TypeInfo} {type : TypeInfo}
    (yields : earlier.applyFunctionRule rule function arguments = .ok type) :
    later.applyFunctionRule rule function arguments = .ok type := by
  obtain ⟨checked, answer⟩ := (applyFunctionRule_eq_ok_iff earlier stock).mp yields
  refine (applyFunctionRule_eq_ok_iff later stock).mpr ⟨checked, answer.imp_right ?_⟩
  exact fun ⟨reference, chosen, resolved⟩ => ⟨reference, chosen, found resolved⟩

end Rules

end Model

namespace Draft

open RuleTable

/-- The draft stands on the model and touches nothing of it: its types and functions have names and
tags that mean nothing in the model, and so have the targets of its rules. -/
structure Adds (draft : Draft) (model : Model) : Prop where
  standing : draft.base = some model
  types : ∀ reference, draft.Owns reference → model.resolve? reference = none
  functions : ∀ decl ∈ draft.functions.items, model.function? decl.name = none
  casing : draft.functionCasing = model.functionCasing
  registrations : ∀ registration ∈ draft.registrations,
    model.resolve? registration.target = none
  functionRules : ∀ entry ∈ draft.functionRules.items, model.function? entry.1 = none

namespace Adds

variable {draft : Draft} {model : Model}

theorem ground_eq (adds : draft.Adds model) : draft.ground = model :=
  ground_of_standing adds.standing

theorem grounded (adds : draft.Adds model) (built : model.Built) : draft.Grounded :=
  grounded_of_standing adds.standing built

theorem wellFormed (adds : draft.Adds model) (built : model.Built) : draft.ground.WellFormed :=
  (adds.grounded built).wellFormed

/-! ### Types -/

theorem typeAt? (adds : draft.Adds model) {handle : TypeHandle} {type : TypeInfo}
    (found : model.typeAt? handle = some type) : draft.assemble.typeAt? handle = some type := by
  rw [← adds.ground_eq] at found
  exact Model.typeAt?_of_begins draft.ground_begins found

theorem resolve? (adds : draft.Adds model) (built : model.Built) (buildable : draft.Buildable)
    {reference : Reference} {type : TypeInfo} (found : model.resolve? reference = some type) :
    draft.assemble.resolve? reference = some type := by
  have foreign : ¬ draft.Owns reference := by
    intro own
    rw [adds.types reference own] at found
    cases found
  have below := resolve?_of_not_owns (adds.wellFormed built) buildable.tags foreign
  rw [adds.ground_eq, found] at below
  exact below

theorem collectionType? (adds : draft.Adds model) (built : model.Built)
    {element collection : TypeInfo} (found : model.collectionType? element = some collection) :
    draft.assemble.collectionType? element = some collection := by
  obtain ⟨handle, listed, there⟩ := Option.bind_eq_some_iff.mp found
  obtain ⟨inner, inside, -⟩ := built.wellFormed.paired listed
  refine Option.bind_eq_some_iff.mpr ⟨handle, ?_, adds.typeAt? there⟩
  rw [← adds.ground_eq] at listed inside
  rw [← listed]
  exact collectionHandle?_below (adds.wellFormed built) (List.getElem?_eq_some_iff.mp inside).1

/-- No type below goes by the name or the tag of a new type. -/
theorem not_answers (adds : draft.Adds model) (built : model.Built) (buildable : draft.Buildable)
    {decl : TypeDecl} (declMember : decl ∈ draft.types.items) {reference : Reference}
    (answers : decl.AnswersTo reference) {type : TypeInfo} (member : type ∈ model.arena) :
    ¬ type.AnswersTo reference :=
  built.not_answers_of_unknown (buildable.names decl declMember) answers
    (adds.types reference ⟨decl, declMember, answers⟩) member

/-! ### Functions -/

/-- A name that finds nothing below is none of those that find something. -/
theorem key_ne_of_unknown (adds : draft.Adds model) {name other : String}
    {function : FunctionInfo} (found : model.function? name = some function)
    (unknown : model.function? other = none) :
    draft.functionCasing.key other ≠ draft.functionCasing.key name := by
  intro same
  rw [adds.casing] at same
  have alike : model.function? other = model.function? name :=
    NameTable.get?_congr model.functions same
  rw [unknown, found] at alike
  cases alike

theorem function? (adds : draft.Adds model) (built : model.Built) {name : String}
    {function : FunctionInfo} (found : model.function? name = some function) :
    draft.assemble.function? name = some function := by
  rw [function?_of_foreign fun decl member =>
    adds.key_ne_of_unknown found (adds.functions decl member)]
  rw [adds.ground_eq, ← built.namesFunctions.named, adds.casing]
  show (NameTable.ofList model.functions.casing model.functions.toList).get? name = some function
  rw [NameTable.ofList_toList]
  exact found

/-- The rule of a function below is the same, also if it is none. -/
theorem functionRule? (adds : draft.Adds model) (built : model.Built) {name : String}
    {function : FunctionInfo} (found : model.function? name = some function) :
    draft.assemble.functionRule? name = model.functionRule? name := by
  rw [functionRule?_of_foreign fun entry member =>
    adds.key_ne_of_unknown found (adds.functionRules entry member)]
  rw [adds.ground_eq, adds.casing]
  show (NameTable.ofList model.functions.casing model.functionRules.toList).get? name = _
  rw [← built.namesFunctions.casing, NameTable.ofList_toList]
  rfl

/-! ### Rules -/

/-- Registrations are filed for new types. -/
theorem exists_decl_of_registeredType? (adds : draft.Adds model) (built : model.Built)
    (buildable : draft.Buildable) {registration : Registration}
    (member : registration ∈ draft.registrations) {type : TypeInfo}
    (registered : registeredType? draft.skeleton registration = some type) :
    ∃ decl ∈ draft.types.items, ∃ handle, type = draft.sealType decl handle := by
  have ground := adds.wellFormed built
  have sound := wellFormed_skeleton ground buildable.tags
  obtain ⟨arenaMember, answers⟩ := mem_of_registeredType? sound registered
  have plain := (sound.answers_of_resolve?
    ((registeredType?_eq_some_iff _ _ _).mp registered).1).1
  obtain ⟨handle, found⟩ := List.getElem?_of_mem arenaMember
  cases origin ground found with
  | inherited below =>
    rw [adds.ground_eq] at below
    obtain ⟨current, known, -⟩ :=
      built.exists_resolve? (List.mem_of_getElem? below) plain answers
    rw [adds.registrations registration member] at known
    cases known
  | own there place made => exact ⟨_, List.mem_of_getElem? there, handle, made⟩
  | collection there place made =>
    rw [made] at plain
    cases plain

/-- The row that decides for a type below is what it was. Registrations go elsewhere, and no default
is missing. -/
theorem rule? (adds : draft.Adds model) (built : model.Built) (buildable : draft.Buildable)
    {type : TypeInfo} (member : type ∈ model.arena) {capability : Capability}
    (enabled : type.enables capability = true) :
    draft.assemble.rule? type.name capability = model.rule? type.name capability := by
  have filed : draft.filedRules.row? (.named type.name) capability =
      model.rules.row? (.named type.name) capability := by
    refine foldl_fileRule_induction (motive := fun table =>
      table.row? (.named type.name) capability = model.rules.row? (.named type.name) capability)
      (by rw [adds.ground_eq]) ?_
    intro table registration registered other found kept
    obtain ⟨decl, declMember, handle, rfl⟩ :=
      adds.exists_decl_of_registeredType? built buildable registered found
    rw [row?_insert_of_not, kept]
    intro _ named
    have declNamed := (draft.answersTo_sealType decl handle _).mp named
    exact adds.not_answers built buildable declMember declNamed member rfl
  refine (row?_fillRules_of_not_lacks ?_).trans filed
  intro other _ lacks named
  have covered := built.covered type member capability enabled
  have missing := lacks.2
  rw [show other.name = type.name from named, filed] at missing
  rw [missing] at covered
  cases covered

theorem capabilityResult [CustomRules] (adds : draft.Adds model) (built : model.Built)
    (stock : model.HoldsStock) (buildable : draft.Buildable) {capability : Capability}
    {operands : List TypeInfo} (inside : ∀ operand ∈ operands, operand ∈ model.arena) {type : TypeInfo}
    (yields : model.capabilityResult capability operands = .ok type) :
    draft.assemble.capabilityResult capability operands = .ok type := by
  cases operands with
  | nil => cases yields
  | cons first rest =>
    rw [Model.capabilityResult_cons] at yields ⊢
    cases decides : model.decidingRule? capability first with
    | none =>
      rw [decides] at yields
      cases yields
    | some rule =>
      rw [decides] at yields
      have enabled := (Option.filter_eq_some_iff.mp decides).2
      have same : draft.assemble.decidingRule? capability first = some rule := by
        rw [← decides]
        unfold Model.decidingRule?
        rw [adds.rule? built buildable (inside first List.mem_cons_self) enabled]
      rw [same]
      have inStock := stock.isStock_of_rule? (Option.filter_eq_some_iff.mp decides).1
      exact Model.applyOperandRule_later (adds.resolve? built buildable) inStock yields

/-- The declared result type of a function below is where it was. -/
theorem result_bind_typeAt? (adds : draft.Adds model) (built : model.Built)
    {function : FunctionInfo} (member : function ∈ model.functions.values) :
    function.result.bind draft.assemble.typeAt? = function.result.bind model.typeAt? := by
  cases declared : function.result with
  | none => rfl
  | some handle =>
    obtain ⟨type, there, -⟩ := built.wellFormed.results member handle declared
    exact (adds.typeAt? there).trans there.symm

theorem functionResult [CustomRules] (adds : draft.Adds model) (built : model.Built)
    (stock : model.HoldsStock) (buildable : draft.Buildable) {name : String}
    {arguments : List TypeInfo} {result : Option TypeInfo}
    (yields : model.functionResult name arguments = .ok result) :
    draft.assemble.functionResult name arguments = .ok result := by
  cases found : model.function? name with
  | none =>
    unfold Model.functionResult at yields
    rw [found] at yields
    cases yields
  | some function =>
    have foundAbove := adds.function? built found
    have sameRule := adds.functionRule? built found
    cases ruled : model.functionRule? name with
    | some rule =>
      rw [Model.functionResult_of_rule found ruled] at yields
      rw [Model.functionResult_of_rule foundAbove (sameRule.trans ruled)]
      obtain ⟨type, applied, rfl⟩ := Model.map_eq_ok_iff.mp yields
      have inStock := stock.isStock_of_functionRule? ruled
      exact Model.map_eq_ok_iff.mpr
        ⟨type, Model.applyFunctionRule_later (adds.resolve? built buildable) inStock applied, rfl⟩
    | none =>
      have member := (built.namesFunctions.mem_of_function? found).1
      rw [Model.functionResult_of_no_rule found ruled] at yields
      rw [Model.functionResult_of_no_rule foundAbove (sameRule.trans ruled),
        adds.result_bind_typeAt? built member]
      exact yields

/-- One build that only adds conserves the model below. -/
theorem conserves [CustomRules] (adds : draft.Adds model) (built : model.Built)
    (stock : model.HoldsStock) (buildable : draft.Buildable) :
    model.Conserves draft.assemble where
  typeAt? := adds.typeAt?
  resolve? := adds.resolve? built buildable
  attribute? := Model.bind_later (adds.resolve? built buildable)
  enumValue? := Model.bind_later (adds.resolve? built buildable)
  collectionType? := adds.collectionType? built
  function? := adds.function? built
  capabilityResult inside := adds.capabilityResult built stock buildable inside
  functionResult := adds.functionResult built stock buildable

end Adds

end Draft

/-! ### Conservative extensions -/

namespace Model

/-- A model that only adds to another one with stock rules answers as the other one does, wherever
that one has an answer. -/
theorem Built.conserves_of_adds [CustomRules] {model : Model} (built : model.Built)
    (stock : model.HoldsStock) {draft : Draft} {later : Model} (adds : draft.Adds model)
    (laterBuilt : draft.build = .ok later) :
    model.Conserves later := by
  obtain ⟨buildable, rfl⟩ := (Draft.build_eq_ok_iff (adds.wellFormed built) later).mp laterBuilt
  exact adds.conserves built stock buildable

end Model

namespace Draft

/-- A parlour for the pets of the shelter. -/
def parlour : Draft :=
  let fee : TypeSketch := .addAll (.ofBody "Fee" .basic) [.tag .decimal, .operators [.plus]]
  let visit : TypeSketch := .addAll (.ofBody "Visit" (.entity {}))
    [.attribute { name := "guest", type := .named "Pet" },
      .attribute { name := "note", type := .tagged .text }]
  let visits : FunctionDecl :=
    { name := "visits"
      arguments := [{ type := some (.named "Pet") }]
      result := some (.named "Visit")
      resultCollection := true }
  let priced := (([fee, visit].foldl declareType (extending shelter.assemble)).putFunction
    visits).registerRule
      { target := .named "Fee", capability := .operator .plus, rule := .fixed (.tagged .decimal) }
  priced.registerFunctionRule "visits" (.fixed (.named "Visit"))

theorem build_parlour : parlour.build = .ok parlour.assemble := build_of_faults (by decide)

theorem adds_parlour : parlour.Adds shelter.assemble where
  standing := rfl
  types := by
    have names : ∀ decl ∈ parlour.types.items,
        shelter.assemble.handle? (.named decl.name) = none := by
      decide
    have tags : ∀ decl ∈ parlour.types.items, ∀ tag ∈ decl.tag,
        shelter.assemble.handle? (.tagged tag) = none := by
      decide
    intro reference own
    obtain ⟨decl, member, answers⟩ := own
    unfold Model.resolve?
    cases reference with
    | named name =>
      obtain rfl := answers
      rw [names decl member]
      rfl
    | tagged tag =>
      rw [tags decl member tag answers]
      rfl
  functions := by
    have unknown : ∀ decl ∈ parlour.functions.items,
        (shelter.assemble.function? decl.name).isNone := by
      decide
    exact fun decl member => Option.isNone_iff_eq_none.mp (unknown decl member)
  casing := rfl
  registrations := by
    have unknown : ∀ registration ∈ parlour.registrations,
        (shelter.assemble.resolve? registration.target).isNone := by
      decide
    exact fun registration member => Option.isNone_iff_eq_none.mp (unknown registration member)
  functionRules := by
    have unknown : ∀ entry ∈ parlour.functionRules.items,
        (shelter.assemble.function? entry.1).isNone := by
      decide
    exact fun entry member => Option.isNone_iff_eq_none.mp (unknown entry member)

end Draft

namespace Model

/-- The parlour leaves the shelter as it is. -/
theorem Built.conserves_of_adds_parlour :
    Draft.shelter.assemble.Built ∧ Draft.shelter.assemble.HoldsStock ∧
      Draft.parlour.Adds Draft.shelter.assemble ∧
        Draft.shelter.assemble.Conserves Draft.parlour.assemble := by
  have built : Draft.shelter.assemble.Built := .build Draft.grounded_shelter Draft.build_shelter
  exact ⟨built, holdsStock_shelter, Draft.adds_parlour,
    Built.conserves_of_adds built holdsStock_shelter Draft.adds_parlour Draft.build_parlour⟩

/-! ### Layer upon layer -/

section Layers

variable [CustomRules]

theorem Conserves.refl (model : Model) : model.Conserves model where
  typeAt? found := found
  resolve? found := found
  attribute? given := given
  enumValue? given := given
  collectionType? found := found
  function? found := found
  capabilityResult _ yields := yields
  functionResult yields := yields

theorem Conserves.mem_arena {earlier later : Model} (conserves : earlier.Conserves later)
    {type : TypeInfo} (member : type ∈ earlier.arena) : type ∈ later.arena := by
  obtain ⟨handle, found⟩ := List.getElem?_of_mem member
  exact List.mem_of_getElem? (conserves.typeAt? found)

theorem Conserves.trans {earlier later last : Model} (first : earlier.Conserves later)
    (second : later.Conserves last) : earlier.Conserves last where
  typeAt? found := second.typeAt? (first.typeAt? found)
  resolve? found := second.resolve? (first.resolve? found)
  attribute? given := second.attribute? (first.attribute? given)
  enumValue? given := second.enumValue? (first.enumValue? given)
  collectionType? found := second.collectionType? (first.collectionType? found)
  function? found := second.function? (first.function? found)
  capabilityResult inside yields :=
    second.capabilityResult (fun operand member => first.mem_arena (inside operand member))
      (first.capabilityResult inside yields)
  functionResult yields := second.functionResult (first.functionResult yields)

/-- What comes of a model by building drafts one on the other that only add, stock rules included. -/
inductive Grows (model : Model) : Model → Prop
  | stays : Grows model model
  | adds {draft : Draft} {middle later : Model} (grows : Grows model middle)
      (adds : draft.Adds middle) (registers : draft.RegistersStock)
      (built : draft.build = .ok later) : Grows model later

/-- Nothing is taken back in any number of layers that only add. -/
theorem Grows.conserves {model later : Model} (grows : model.Grows later) (built : model.Built)
    (stock : model.HoldsStock) : later.Built ∧ later.HoldsStock ∧ model.Conserves later := by
  induction grows with
  | stays => exact ⟨built, stock, .refl model⟩
  | @adds draft middle later grows adds registers laterBuilt inductionHypothesis =>
    obtain ⟨middleBuilt, middleStock, conserved⟩ := inductionHypothesis
    have grounded := adds.grounded middleBuilt
    obtain ⟨buildable, rfl⟩ :=
      (Draft.build_eq_ok_iff grounded.wellFormed later).mp laterBuilt
    have laterStock : draft.assemble.HoldsStock :=
      Draft.holdsStock_assemble (by rwa [adds.ground_eq]) registers
    exact ⟨.build grounded laterBuilt, laterStock,
      conserved.trans (adds.conserves middleBuilt middleStock buildable)⟩

end Layers

end Model

end Metamodel
