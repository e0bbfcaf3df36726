/-
What a passing expectation says of the outcome of a build.

An expectation is a list of checks, some of them about a model and some about a failure, and there is
no outcome of which checks of both kinds hold. A model passes exactly if all checks hold of it. A
failure passes only if there is a check about failures, for otherwise a model is expected, and then
all checks about failures hold of it. Hence two expectations can be made one without changing what
passes, unless one of them expects a failure and the other one a model: no failure passes the latter,
but it may pass both in one.
-/

import Metamodel.Scenario

namespace Metamodel

/-! ### Searching -/

theorem Text.occursAmong_iff (part whole : List Char) :
    occursAmong part whole = true ↔ part <:+: whole := by
  induction whole with
  | nil =>
    unfold occursAmong
    rw [List.isEmpty_iff, List.infix_nil]
  | cons char rest inductionHypothesis =>
    unfold occursAmong
    rw [Bool.or_eq_true, List.isPrefixOf_iff_prefix, inductionHypothesis, List.infix_cons_iff]

/-! ### Checks -/

namespace Check

/-- The check is about the failure of a build. -/
def ofFailure : Check → Bool
  | .errors _ | .errorFragment _ => true
  | _ => false

/-- The check holds of a model. -/
def HoldsOfModel [CustomRules] (model : Model) : Check → Prop
  | .hasType name => ∃ type, model.type? name = some type
  | .lacksType name => model.type? name = none
  | .kind name wanted => ∃ type, model.type? name = some type ∧ type.kind = wanted
  | .tagged name tag => ∃ type host,
      model.type? name = some type ∧ type.tag = some host ∧ host.id = tag
  | .attribute entity name wanted => ∃ type info, model.entityType? entity = some type ∧
      type.attribute? name = some info ∧ info.typeName = wanted
  | .attributeCount entity count => ∃ type,
      model.entityType? entity = some type ∧ type.attributes.length = count
  | .enumValues name values => ∃ type,
      model.enumType? name = some type ∧ type.enumValues.map ValueInfo.name = values
  | .hasFunction name => ∃ function, model.function? name = some function
  | .returns name wanted => ∃ function,
      model.function? name = some function ∧ function.resultName = wanted
  | .signature name wanted => ∃ function,
      model.function? name = some function ∧ function.display = wanted
  | .operation check => ∃ operand result, model.type? check.type = some operand ∧
      Expectation.resultOn model (.operator check.capability) operand = .ok result ∧
        result.name = check.result
  | .predicate check => ∃ operand result, model.type? check.type = some operand ∧
      Expectation.resultOn model (.predicate check.capability) operand = .ok result ∧
        result.name = check.result
  | .unsupported type operator => ∃ operand error, model.type? type = some operand ∧
      Expectation.resultOn model (.operator operator) operand = .error error
  | .custom test => test model = true
  | .errors _ | .errorFragment _ => False

/-- The check holds of a failure. -/
def HoldsOfFailure (failure : BuildFailure) : Check → Prop
  | .errors count => failure.faults.length = count
  | .errorFragment fragment => fragment.toList <:+: failure.message.toList
  | _ => False

/-- The check holds of what came of a build. -/
def Holds [CustomRules] : Outcome → Check → Prop
  | .ok model => HoldsOfModel model
  | .error failure => HoldsOfFailure failure

/-- A check about failures does not hold of a model. -/
theorem not_holdsOfModel [CustomRules] (model : Model) (check : Check)
    (about : check.ofFailure = true) : ¬ check.HoldsOfModel model := by
  match check, about with
  | .errors _, _ | .errorFragment _, _ => exact id

/-- The complaint of a check about a model, if it is one and does not hold. -/
def modelComplaint? [CustomRules] (model : Model) : Check → Option String
  | .hasType name => Expectation.typeComplaint? model name
  | .lacksType name => Expectation.absentTypeComplaint? model name
  | .kind name wanted => Expectation.kindComplaint? model (name, wanted)
  | .tagged name tag => Expectation.tagComplaint? model (name, tag)
  | .attribute entity name wanted => Expectation.attributeComplaint? model (entity, name, wanted)
  | .attributeCount entity count => Expectation.attributeCountComplaint? model (entity, count)
  | .enumValues name values => Expectation.enumValuesComplaint? model (name, values)
  | .hasFunction name => Expectation.functionComplaint? model name
  | .returns name wanted => Expectation.functionResultComplaint? model (name, wanted)
  | .signature name wanted => Expectation.signatureComplaint? model (name, wanted)
  | .operation check =>
    Expectation.capabilityComplaint? model check.type (.operator check.capability) check.result
  | .predicate check =>
    Expectation.capabilityComplaint? model check.type (.predicate check.capability) check.result
  | .unsupported type operator => Expectation.unsupportedComplaint? model (type, operator)
  | .custom test => Expectation.require (test model) "custom assertion failed"
  | .errors _ | .errorFragment _ => none

/-- The complaint of a check about a failure, if it is one and does not hold. -/
def failureComplaint? (failure : BuildFailure) : Check → Option String
  | .errors count => Expectation.countComplaint? failure count
  | .errorFragment fragment => Expectation.fragmentComplaint? failure fragment
  | _ => none

theorem require_eq_none_iff (holds : Bool) (complaint : String) :
    Expectation.require holds complaint = none ↔ holds = true := by
  cases holds with
  | false => exact ⟨fun silent => (nomatch silent), fun held => (nomatch held)⟩
  | true => exact ⟨fun _ => rfl, fun _ => rfl⟩

/-- Something is required of what is found under a name, if anything is. -/
theorem require_map_eq_none_iff {α β : Type} [DecidableEq β] (found : Option α) (read : α → β)
    (wanted : β) (complaint : String) :
    Expectation.require (found.map read = some wanted) complaint = none ↔
      ∃ item, found = some item ∧ read item = wanted := by
  rw [require_eq_none_iff, decide_eq_true_eq, Option.map_eq_some_iff]

theorem attributeComplaint?_eq_none_iff (model : Model) (entity name wanted : String) :
    Expectation.attributeComplaint? model (entity, name, wanted) = none ↔
      ∃ type info, model.entityType? entity = some type ∧ type.attribute? name = some info ∧
        info.typeName = wanted := by
  unfold Expectation.attributeComplaint?
  cases found : model.entityType? entity with
  | none => simp [found]
  | some type => simp [found, require_eq_none_iff]

theorem functionResultComplaint?_eq_none_iff (model : Model) (name : String)
    (wanted : Option String) :
    Expectation.functionResultComplaint? model (name, wanted) = none ↔
      ∃ function, model.function? name = some function ∧ function.resultName = wanted := by
  unfold Expectation.functionResultComplaint?
  cases model.function? name with
  | none => simp
  | some function => simp [require_eq_none_iff]

theorem capabilityComplaint?_eq_none_iff [CustomRules] (model : Model) (type : String)
    (capability : Capability) (wanted : String) :
    Expectation.capabilityComplaint? model type capability wanted = none ↔
      ∃ operand result, model.type? type = some operand ∧
        Expectation.resultOn model capability operand = .ok result ∧ result.name = wanted := by
  unfold Expectation.capabilityComplaint?
  cases model.type? type with
  | none => simp
  | some operand =>
    cases result : Expectation.resultOn model capability operand with
    | error error => simp [result]
    | ok actual => simp [result, require_eq_none_iff]

theorem unsupportedComplaint?_eq_none_iff [CustomRules] (model : Model) (type : String)
    (operator : Operator) : Expectation.unsupportedComplaint? model (type, operator) = none ↔
      ∃ operand error, model.type? type = some operand ∧
        Expectation.resultOn model (.operator operator) operand = .error error := by
  unfold Expectation.unsupportedComplaint?
  cases model.type? type with
  | none => simp
  | some operand =>
    cases result : Expectation.resultOn model (.operator operator) operand <;> simp [result]

theorem tagComplaint?_eq_none_iff (model : Model) (name tag : String) :
    Expectation.tagComplaint? model (name, tag) = none ↔ ∃ type host,
      model.type? name = some type ∧ type.tag = some host ∧ host.id = tag := by
  unfold Expectation.tagComplaint?
  rw [require_eq_none_iff, decide_eq_true_eq]
  simp only [Option.bind_eq_some_iff, Option.map_eq_some_iff, exists_and_left]

/-- A check about a model has no complaint exactly if it holds. -/
theorem modelComplaint?_eq_none_iff [CustomRules] (model : Model) (check : Check)
    (plain : check.ofFailure = false) :
    check.modelComplaint? model = none ↔ check.HoldsOfModel model := by
  match check, plain with
  | .hasType _, _ => exact (require_eq_none_iff _ _).trans Option.isSome_iff_exists
  | .lacksType _, _ => exact (require_eq_none_iff _ _).trans Option.isNone_iff_eq_none
  | .kind _ _, _ => exact require_map_eq_none_iff _ TypeInfo.kind _ _
  | .tagged name tag, _ => exact tagComplaint?_eq_none_iff model name tag
  | .attribute entity name wanted, _ =>
    exact attributeComplaint?_eq_none_iff model entity name wanted
  | .attributeCount _ _, _ => exact require_map_eq_none_iff _ _ _ _
  | .enumValues _ _, _ => exact require_map_eq_none_iff _ _ _ _
  | .hasFunction _, _ => exact (require_eq_none_iff _ _).trans Option.isSome_iff_exists
  | .returns name wanted, _ => exact functionResultComplaint?_eq_none_iff model name wanted
  | .signature _ _, _ => exact require_map_eq_none_iff _ FunctionInfo.display _ _
  | .operation _, _ => exact capabilityComplaint?_eq_none_iff _ _ _ _
  | .predicate _, _ => exact capabilityComplaint?_eq_none_iff _ _ _ _
  | .unsupported type operator, _ => exact unsupportedComplaint?_eq_none_iff model type operator
  | .custom _, _ => exact require_eq_none_iff _ _

/-- A check about failures has no complaint exactly if it holds. -/
theorem failureComplaint?_eq_none_iff (failure : BuildFailure) (check : Check)
    (about : check.ofFailure = true) :
    check.failureComplaint? failure = none ↔ check.HoldsOfFailure failure := by
  match check, about with
  | .errors _, _ => exact (require_eq_none_iff _ _).trans decide_eq_true_iff
  | .errorFragment fragment, _ =>
    exact (require_eq_none_iff _ _).trans (Text.occursAmong_iff fragment.toList _)

end Check

/-! ### What an expectation records -/

namespace Expectation

/-- The checks about a model, in the order of the complaints. -/
def modelChecks (expected : Expectation) : List Check :=
  expected.types.map Check.hasType ++ expected.absentTypes.map Check.lacksType ++
    expected.kinds.map (fun check => Check.kind check.1 check.2) ++
    expected.tags.map (fun check => Check.tagged check.1 check.2) ++
    expected.attributes.map (fun check => Check.attribute check.1 check.2.1 check.2.2) ++
    expected.attributeCounts.map (fun check => Check.attributeCount check.1 check.2) ++
    expected.enumValues.map (fun check => Check.enumValues check.1 check.2) ++
    expected.functions.map Check.hasFunction ++
    expected.functionResults.map (fun check => Check.returns check.1 check.2) ++
    expected.signatures.map (fun check => Check.signature check.1 check.2) ++
    expected.operations.map Check.operation ++ expected.predicates.map Check.predicate ++
    expected.unsupported.map (fun check => Check.unsupported check.1 check.2) ++
    expected.custom.toList.map Check.custom

/-- The checks about a failure, in the order of the complaints. -/
def failureChecks (expected : Expectation) : List Check :=
  expected.errors.toList.map .errors ++ expected.errorFragments.map .errorFragment

/-- All checks that an expectation records. -/
def checks (expected : Expectation) : List Check := expected.modelChecks ++ expected.failureChecks

variable (expected : Expectation)

theorem modelComplaints_eq [CustomRules] (model : Model) :
    expected.modelComplaints model = expected.modelChecks.filterMap (·.modelComplaint? model) := by
  unfold modelChecks
  simp only [List.filterMap_append, List.filterMap_map, Function.comp_def, Check.modelComplaint?]
  rfl

theorem failureComplaints_eq (failure : BuildFailure) :
    expected.failureComplaints failure =
      expected.failureChecks.filterMap (·.failureComplaint? failure) := by
  unfold failureChecks
  simp only [List.filterMap_append, List.filterMap_map, Function.comp_def,
    Check.failureComplaint?]
  rfl

theorem ofFailure_of_mem_modelChecks :
    ∀ check ∈ expected.modelChecks, check.ofFailure = false := by
  unfold modelChecks
  simp only [List.forall_mem_append, List.forall_mem_map]
  simp only [Check.ofFailure, implies_true, and_self]

theorem ofFailure_of_mem_failureChecks :
    ∀ check ∈ expected.failureChecks, check.ofFailure = true := by
  unfold failureChecks
  simp only [List.forall_mem_append, List.forall_mem_map]
  simp only [Check.ofFailure, implies_true, and_self]

theorem mem_failureChecks_iff (check : Check) :
    check ∈ expected.failureChecks ↔ check ∈ expected.checks ∧ check.ofFailure = true := by
  unfold checks
  rw [List.mem_append]
  constructor
  · intro member
    exact ⟨Or.inr member, expected.ofFailure_of_mem_failureChecks check member⟩
  · rintro ⟨member | member, about⟩
    · rw [expected.ofFailure_of_mem_modelChecks check member] at about
      cases about
    · exact member

/-- A failure is expected exactly if a check about failures is recorded. -/
theorem expectsFailure_iff : expected.expectsFailure = true ↔
    ∃ check ∈ expected.checks, check.ofFailure = true := by
  have recorded : expected.expectsFailure = true ↔ ∃ check, check ∈ expected.failureChecks := by
    rw [← List.isEmpty_eq_false_iff_exists_mem]
    unfold expectsFailure failureChecks
    cases expected.errors <;> cases expected.errorFragments <;> simp
  rw [recorded]
  exact exists_congr fun check => expected.mem_failureChecks_iff check

theorem modelComplaints_eq_nil_iff [CustomRules] (model : Model) :
    expected.modelComplaints model = [] ↔
      ∀ check ∈ expected.modelChecks, check.HoldsOfModel model := by
  rw [modelComplaints_eq, List.filterMap_eq_nil_iff]
  exact forall₂_congr fun check member => Check.modelComplaint?_eq_none_iff model check
    (expected.ofFailure_of_mem_modelChecks check member)

theorem failureComplaints_eq_nil_iff (failure : BuildFailure) :
    expected.failureComplaints failure = [] ↔
      ∀ check ∈ expected.failureChecks, check.HoldsOfFailure failure := by
  rw [failureComplaints_eq, List.filterMap_eq_nil_iff]
  exact forall₂_congr fun check member => Check.failureComplaint?_eq_none_iff failure check
    (expected.ofFailure_of_mem_failureChecks check member)

/-! ### Passing -/

/-- There is no complaint when a step with this expectation is taken. -/
def Passes [CustomRules] (step : String) (outcome : Outcome) : Prop :=
  Scenario.takeStep outcome ⟨step, expected⟩ = .ok ()

variable {expected} {step : String}

theorem passes_iff_complaints [CustomRules] {outcome : Outcome} :
    expected.Passes step outcome ↔ expected.complaints outcome = [] := by
  unfold Passes Scenario.takeStep
  cases expected.complaints outcome with
  | nil => exact ⟨fun _ => rfl, fun _ => rfl⟩
  | cons complaint rest => exact ⟨fun passes => (nomatch passes), fun silent => (nomatch silent)⟩

/-- A model passes exactly if all checks that are recorded hold of it. -/
theorem passes_ok_iff [CustomRules] (model : Model) :
    expected.Passes step (.ok model) ↔ ∀ check ∈ expected.checks, check.Holds (.ok model) := by
  rw [passes_iff_complaints]
  unfold complaints
  by_cases expects : expected.expectsFailure = true
  · rw [if_pos expects]
    refine ⟨fun silent => (nomatch silent), fun holds => ?_⟩
    obtain ⟨check, recorded, about⟩ := expected.expectsFailure_iff.mp expects
    exact absurd (holds check recorded) (Check.not_holdsOfModel model check about)
  · rw [if_neg expects]
    refine (expected.modelComplaints_eq_nil_iff model).trans ?_
    have plain : ∀ check ∈ expected.checks, check ∈ expected.modelChecks := by
      intro check recorded
      refine (List.mem_append.mp recorded).resolve_right fun about => expects ?_
      exact expected.expectsFailure_iff.mpr ⟨check, (expected.mem_failureChecks_iff check).mp about⟩
    exact ⟨fun holds check recorded => holds check (plain check recorded),
      fun holds check recorded => holds check (List.mem_append_left _ recorded)⟩

/-- A failure passes exactly if one is expected and all checks about failures hold of it. -/
theorem passes_error_iff [CustomRules] (failure : BuildFailure) :
    expected.Passes step (.error failure) ↔ expected.expectsFailure = true ∧
      ∀ check ∈ expected.checks, check.ofFailure = true → check.Holds (.error failure) := by
  rw [passes_iff_complaints]
  unfold complaints
  by_cases expects : expected.expectsFailure = true
  · rw [if_pos expects, and_iff_right expects]
    refine (expected.failureComplaints_eq_nil_iff failure).trans (forall_congr' fun check => ?_)
    rw [mem_failureChecks_iff, and_imp]
    rfl
  · rw [if_neg expects]
    exact ⟨fun silent => (nomatch silent), fun reason => absurd reason.1 expects⟩

/-! ### Two expectations in one -/

/-- What is recorded is what one or the other of two expectations records. -/
def Joins (both first second : Expectation) : Prop :=
  ∀ check, check ∈ both.checks ↔ check ∈ first.checks ∨ check ∈ second.checks

variable {both first second : Expectation}

/-- Of two answers of which only one is there none is lost. -/
theorem toList_or_of_none {α : Type} {first second : Option α}
    (one : first = none ∨ second = none) :
    (second.or first).toList = first.toList ++ second.toList := by
  rcases one with rfl | rfl
  · rw [Option.or_none]
    rfl
  · rw [Option.none_or]
    exact (List.append_nil _).symm

/-- Of two numbers of faults, or of two tests, only one can be kept. -/
theorem joins_union (counts : first.errors = none ∨ second.errors = none)
    (tests : first.custom = none ∨ second.custom = none) :
    (first.union second).Joins first second := by
  intro check
  unfold checks modelChecks failureChecks union
  simp only [toList_or_of_none counts, toList_or_of_none tests, List.map_append, List.mem_append]
  refine iff_of_eq ?_
  ac_rfl

theorem union_blank (expected : Expectation) : expected.union {} = expected := by
  unfold union
  simp only [List.append_nil, Option.none_or]

theorem union_add (first second : Expectation) (check : Check) :
    first.union (second.add check) = (first.union second).add check := by
  cases check <;> simp only [union, add, List.append_assoc, Option.some_or]

theorem union_foldl_add (first second : Expectation) (checks : List Check) :
    first.union (checks.foldl add second) = checks.foldl add (first.union second) := by
  induction checks generalizing second with
  | nil => rfl
  | cons check rest inductionHypothesis =>
    rw [List.foldl_cons, inductionHypothesis, union_add, List.foldl_cons]

/-- What is written in one go is both parts of it in one. -/
theorem ofChecks_append (earlier later : List Check) :
    ofChecks (earlier ++ later) = (ofChecks earlier).union (ofChecks later) := by
  unfold ofChecks
  rw [List.foldl_append, union_foldl_add, union_blank]

theorem Joins.expectsFailure_eq (joins : both.Joins first second) :
    both.expectsFailure = (first.expectsFailure || second.expectsFailure) := by
  rw [Bool.eq_iff_iff, Bool.or_eq_true, expectsFailure_iff, expectsFailure_iff, expectsFailure_iff,
    ← exists_or]
  refine exists_congr fun check => ?_
  rw [joins check, or_and_right]

theorem Joins.forall_iff (joins : both.Joins first second) (property : Check → Prop) :
    (∀ check ∈ both.checks, property check) ↔
      (∀ check ∈ first.checks, property check) ∧ ∀ check ∈ second.checks, property check := by
  simp only [joins _, or_imp, forall_and]

/-- How passing two expectations bears on passing both in one, and on what they record. -/
structure Composes [CustomRules] (first second : Expectation) (step : String) : Prop where
  /-- Two expectations can be made one, unless both tell the number of faults or both have a test. -/
  joined : (first.errors = none ∨ second.errors = none) →
    (first.custom = none ∨ second.custom = none) → (first.union second).Joins first second
  /-- A model passes both in one exactly if it passes each of them. -/
  model : ∀ both, Joins both first second → ∀ model, both.Passes step (.ok model) ↔
    first.Passes step (.ok model) ∧ second.Passes step (.ok model)
  /-- So does a failure, if both expect one or neither does. -/
  alike : ∀ both, Joins both first second → first.expectsFailure = second.expectsFailure →
    ∀ failure, both.Passes step (.error failure) ↔
      first.Passes step (.error failure) ∧ second.Passes step (.error failure)
  /-- If only one expects a failure, no failure passes the other one, and a failure that passes both
  in one passes the one. -/
  unlike : ∀ both, Joins both first second → first.expectsFailure = true →
    second.expectsFailure = false → ∀ failure, ¬ second.Passes step (.error failure) ∧
      (both.Passes step (.error failure) → first.Passes step (.error failure))
  /-- One that records nothing changes nothing about one that expects a failure. -/
  blank : ∀ both, Joins both first second → first.expectsFailure = true → second.checks = [] →
    ∀ outcome, both.Passes step outcome ↔ first.Passes step outcome
  /-- A model passes exactly if everything that is recorded holds of it. -/
  holds : ∀ model, first.Passes step (.ok model) ↔
    ∀ check ∈ first.checks, check.Holds (.ok model)
  /-- If a failure passes, one is expected, and everything that is recorded about failures holds. -/
  fails : ∀ failure, first.Passes step (.error failure) → first.expectsFailure = true ∧
    ∀ check ∈ first.checks, check.ofFailure = true → check.Holds (.error failure)
  /-- That is enough if nothing else is recorded. -/
  fails_iff : (∀ check ∈ first.checks, check.ofFailure = true) → ∀ failure,
    first.Passes step (.error failure) ↔
      first.expectsFailure = true ∧ ∀ check ∈ first.checks, check.Holds (.error failure)

/-- Any two expectations compose. -/
theorem composes [CustomRules] (first second : Expectation) (step : String) :
    Composes first second step where
  joined counts tests := joins_union counts tests
  model both joins model := by
    rw [passes_ok_iff, passes_ok_iff, passes_ok_iff]
    exact joins.forall_iff fun check => check.Holds (.ok model)
  alike both joins same failure := by
    rw [passes_error_iff, passes_error_iff, passes_error_iff, joins.expectsFailure_eq, ← same,
      Bool.or_self, joins.forall_iff fun check => check.ofFailure = true →
        check.Holds (.error failure)]
    exact and_and_left
  unlike both joins expects plain failure := by
    constructor
    · intro passes
      have expectsToo := ((passes_error_iff failure).mp passes).1
      rw [plain] at expectsToo
      cases expectsToo
    · intro passes
      have holds := ((passes_error_iff failure).mp passes).2
      rw [joins.forall_iff fun check =>
        check.ofFailure = true → check.Holds (.error failure)] at holds
      exact (passes_error_iff failure).mpr ⟨expects, holds.1⟩
  blank both joins expects nothing outcome := by
    have same (check : Check) : check ∈ both.checks ↔ check ∈ first.checks := by
      rw [joins check, nothing]
      exact or_iff_left List.not_mem_nil
    cases outcome with
    | ok model =>
      rw [passes_ok_iff, passes_ok_iff]
      simp only [same]
    | error failure =>
      rw [passes_error_iff, passes_error_iff, joins.expectsFailure_eq, expects, Bool.true_or]
      simp only [same]
  holds model := passes_ok_iff model
  fails failure passes := (passes_error_iff failure).mp passes
  fails_iff about failure := by
    rw [passes_error_iff]
    refine and_congr_right fun _ => forall₂_congr fun check recorded => ?_
    exact imp_iff_right (about check recorded)

end Expectation

/-- A type that is named like the collections, which is a fault. -/
def Draft.misnamed : Draft := standalone.declareType (.ofBody "Collection" .basic)

theorem Draft.build_misnamed : misnamed.build = .error ⟨[.reservedName "Collection"]⟩ := by
  have faults : misnamed.faults = [.reservedName "Collection"] := by decide
  unfold build
  rw [faults]

/-- A failure is expected, with one fault. -/
def Expectation.oneFault : Expectation := ofChecks [.errors 1]

/-- It is not true that passing both in one is passing each of them: one that records nothing still
expects a model, and it expects nothing any more when it is joined with one that expects a failure.
Nor does all that is recorded hold whenever a failure passes, for what is recorded about a model next
to the number of faults is not looked at. -/
theorem Expectation.not_passes_union_nor_holds :
    (¬ ∀ (first second : Expectation) (step : String) (draft : Draft),
      (first.errors = none ∨ second.errors = none) → first.custom = none → second.custom = none →
        ((first.union second).Passes step draft.build ↔
          first.Passes step draft.build ∧ second.Passes step draft.build)) ∧
    ¬ ∀ (expected : Expectation) (step : String) (draft : Draft), expected.custom = none →
      expected.Passes step draft.build → ∀ check ∈ expected.checks, check.Holds draft.build := by
  constructor
  · intro claim
    have each := claim {} oneFault "both" Draft.misnamed (Or.inl rfl) rfl rfl
    rw [Draft.build_misnamed] at each
    have both : (union {} oneFault).Passes "both" (.error ⟨[.reservedName "Collection"]⟩) := rfl
    have expects := ((passes_error_iff _).mp (each.mp both).1).1
    cases expects
  · intro claim
    have every := claim (oneFault.add (.hasType "Collection")) "one fault" Draft.misnamed rfl
    rw [Draft.build_misnamed] at every
    exact every rfl (.hasType "Collection") List.mem_cons_self

end Metamodel
