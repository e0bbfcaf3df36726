/-
Which calls of a function are in order.

A function bounds the number of its arguments, and it may say of an argument of which type it is to
be. The two do not depend on each other: a call may stop short of the declared arguments, and it may
go on beyond them, where anything is taken. Whatever decides the result of a function, its rule or
its declaration, a call that is not in order does not get as far. What there is to say against it is
the number of its arguments or, if that is right, the first argument that is not taken.
-/

import Metamodel.Proofs.Choosing
import Metamodel.Proofs.Functions

namespace Metamodel

/-! ### What a function takes -/

/-- An argument that is declared with a type takes that type and no other one, even of the same
name. Without a type it takes any collection, if it is declared as a collection, or anything. -/
inductive ArgumentInfo.Takes (argument : ArgumentInfo) (type : TypeInfo) : Prop
  | declared (typed : argument.handle = some type.handle)
  | collection (untyped : argument.handle = none) (marked : argument.collection = true)
      (holds : type.isCollection = true)
  | anything (untyped : argument.handle = none) (unmarked : argument.collection = false)

namespace FunctionInfo

/-- There is no upper bound where any number of further arguments is accepted. -/
def TakesCount (function : FunctionInfo) (count : Nat) : Prop :=
  function.minimum ≤ count ∧ ∀ maximum, function.maximum = some maximum → count ≤ maximum

/-- At a place there are both a declared argument and an actual one, which is not taken. -/
structure Offends (function : FunctionInfo) (arguments : List TypeInfo) (place : Nat)
    (declared : ArgumentInfo) (actual : TypeInfo) : Prop where
  declaredThere : function.arguments[place]? = some declared
  actualThere : arguments[place]? = some actual
  refused : ¬ declared.Takes actual

/-- A call that is in order. Arguments without a declaration of their own are not looked at. -/
structure Takes (function : FunctionInfo) (arguments : List TypeInfo) : Prop where
  count : function.TakesCount arguments.length
  types : ∀ (place : Nat) (declared : ArgumentInfo) (actual : TypeInfo),
    function.arguments[place]? = some declared → arguments[place]? = some actual →
      declared.Takes actual

/-- What there is to say against a call. -/
inductive Refuses (function : FunctionInfo) (arguments : List TypeInfo) : ResolveError → Prop
  | count (wrong : ¬ function.TakesCount arguments.length) :
      Refuses function arguments (.argumentCount function arguments.length)
  | argument {place : Nat} {declared : ArgumentInfo} {actual : TypeInfo}
      (counted : function.TakesCount arguments.length)
      (offends : function.Offends arguments place declared actual)
      (first : ∀ earlier < place, ∀ other given, ¬ function.Offends arguments earlier other given) :
      Refuses function arguments (.argumentMismatch function declared actual)

end FunctionInfo

/-! ### The check -/

theorem ArgumentInfo.admits_iff (argument : ArgumentInfo) (type : TypeInfo) :
    argument.admits type = true ↔ argument.Takes type := by
  unfold admits
  constructor
  · intro admitted
    split at admitted
    · next handle typed =>
      exact .declared (typed.trans (congrArg some (of_decide_eq_true admitted)))
    · next untyped =>
      cases marked : argument.collection with
      | true => exact .collection untyped marked (by simpa [marked] using admitted)
      | false => exact .anything untyped marked
  · intro takes
    cases takes with
    | declared typed => simp [typed]
    | collection untyped marked holds => simp [untyped, marked, holds]
    | anything untyped unmarked => simp [untyped, unmarked]

namespace FunctionInfo

variable (function : FunctionInfo) (arguments : List TypeInfo)

theorem accepts_iff (count : Nat) :
    function.accepts count = true ↔ function.TakesCount count := by
  unfold accepts TakesCount
  cases function.maximum <;> simp

/-- A pair of a declared and an actual argument that the check stops at offends at some place, and
no pair before it does. -/
theorem find?_zip_eq_some_iff (declared : ArgumentInfo) (actual : TypeInfo) :
    (function.arguments.zip arguments).find? (fun pair => !pair.1.admits pair.2) =
        some (declared, actual) ↔
      ∃ place, function.Offends arguments place declared actual ∧
        ∀ earlier < place, ∀ other given, ¬ function.Offends arguments earlier other given := by
  rw [List.find?_eq_some_iff_getElem]
  constructor
  · rintro ⟨refused, place, bound, there, before⟩
    have both := List.getElem?_zip_eq_some.mp
      ((List.getElem?_eq_getElem bound).trans (congrArg some there))
    refine ⟨place, ⟨both.1, both.2, ?_⟩, fun earlier sooner other given offends => ?_⟩
    · rw [← ArgumentInfo.admits_iff]
      simpa using refused
    · have paired : (function.arguments.zip arguments)[earlier]? = some (other, given) :=
        List.getElem?_zip_eq_some.mpr ⟨offends.declaredThere, offends.actualThere⟩
      obtain ⟨_, same⟩ := List.getElem?_eq_some_iff.mp paired
      have admitted := before earlier sooner
      rw [same] at admitted
      exact offends.refused ((ArgumentInfo.admits_iff other given).mp (by simpa using admitted))
  · rintro ⟨place, offends, first⟩
    have paired : (function.arguments.zip arguments)[place]? = some (declared, actual) :=
      List.getElem?_zip_eq_some.mpr ⟨offends.declaredThere, offends.actualThere⟩
    obtain ⟨bound, there⟩ := List.getElem?_eq_some_iff.mp paired
    refine ⟨?_, place, bound, there, fun earlier sooner => ?_⟩
    · rw [Bool.not_eq_true', ← Bool.not_eq_true, ArgumentInfo.admits_iff]
      exact offends.refused
    · have both := List.getElem?_zip_eq_some.mp
        (List.getElem?_eq_getElem (Nat.lt_trans sooner bound))
      by_contra refused
      refine first earlier sooner _ _ ⟨both.1, both.2, ?_⟩
      rw [← ArgumentInfo.admits_iff]
      simpa using refused

theorem find?_zip_eq_none_iff :
    (function.arguments.zip arguments).find? (fun pair => !pair.1.admits pair.2) = none ↔
      ∀ (place : Nat) (declared : ArgumentInfo) (actual : TypeInfo),
        function.arguments[place]? = some declared → arguments[place]? = some actual →
          declared.Takes actual := by
  rw [List.find?_eq_none]
  constructor
  · intro passed place declared actual declaredThere actualThere
    have paired : (function.arguments.zip arguments)[place]? = some (declared, actual) :=
      List.getElem?_zip_eq_some.mpr ⟨declaredThere, actualThere⟩
    have admitted := passed _ (List.mem_of_getElem? paired)
    exact (ArgumentInfo.admits_iff declared actual).mp (by simpa using admitted)
  · intro takes pair member
    obtain ⟨place, there⟩ := List.getElem?_of_mem member
    obtain ⟨declaredThere, actualThere⟩ := List.getElem?_zip_eq_some.mp there
    have taken := takes place pair.1 pair.2 declaredThere actualThere
    rw [← ArgumentInfo.admits_iff] at taken
    simp [taken]

/-- A call passes the check if it is in order. -/
theorem checkArguments_eq_ok_iff :
    function.checkArguments arguments = .ok () ↔ function.Takes arguments := by
  unfold checkArguments
  by_cases counted : function.accepts arguments.length
  · rw [if_pos counted]
    cases stopped : (function.arguments.zip arguments).find? fun pair =>
        !pair.1.admits pair.2 with
    | some pair =>
      obtain ⟨place, offends, -⟩ := (function.find?_zip_eq_some_iff arguments _ _).mp stopped
      refine ⟨fun passed => (nomatch passed), fun takes => ?_⟩
      exact absurd (takes.types place _ _ offends.declaredThere offends.actualThere) offends.refused
    | none =>
      exact ⟨fun _ => ⟨(function.accepts_iff _).mp counted,
        (function.find?_zip_eq_none_iff arguments).mp stopped⟩, fun _ => rfl⟩
  · rw [if_neg counted]
    exact ⟨fun passed => (nomatch passed),
      fun takes => absurd ((function.accepts_iff _).mpr takes.count) counted⟩

/-- A call that does not pass the check is refused for what there is to say against it. -/
theorem checkArguments_eq_error_iff (error : ResolveError) :
    function.checkArguments arguments = .error error ↔ function.Refuses arguments error := by
  unfold checkArguments
  by_cases counted : function.accepts arguments.length
  · rw [if_pos counted]
    have takesCount := (function.accepts_iff _).mp counted
    constructor
    · intro refused
      split at refused
      · next declared actual stopped =>
        cases refused
        obtain ⟨place, offends, first⟩ := (function.find?_zip_eq_some_iff arguments _ _).mp stopped
        exact .argument takesCount offends first
      · cases refused
    · intro refuses
      cases refuses with
      | count wrong => exact absurd takesCount wrong
      | argument _ offends first =>
        rw [(function.find?_zip_eq_some_iff arguments _ _).mpr ⟨_, offends, first⟩]
  · rw [if_neg counted]
    have wrong := mt (function.accepts_iff _).mpr counted
    constructor
    · intro refused
      cases refused
      exact .count wrong
    · intro refuses
      cases refuses with
      | count => rfl
      | argument takesCount => exact absurd takesCount wrong

/-- There is something to say against every call that is not in order. -/
theorem exists_refuses_of_not_takes (notTaken : ¬ function.Takes arguments) :
    ∃ error, function.Refuses arguments error := by
  cases checked : function.checkArguments arguments with
  | ok => exact absurd ((function.checkArguments_eq_ok_iff arguments).mp checked) notTaken
  | error error => exact ⟨error, (function.checkArguments_eq_error_iff arguments error).mp checked⟩

end FunctionInfo

/-- The least number of arguments of a declaration never exceeds the largest. -/
theorem Draft.takesCount_sealFunction (draft : Draft) (decl : FunctionDecl) :
    (draft.sealFunction decl).TakesCount (draft.sealFunction decl).minimum := by
  refine ⟨le_rfl, fun maximum bounded => ?_⟩
  change decl.maximum = some maximum at bounded
  unfold FunctionDecl.maximum at bounded
  split at bounded
  · cases bounded
  · cases bounded
    exact le_max_right _ _

/-! ### Calls in a model -/

namespace Model

/-- What a function yields if its declaration is all there is to go by. -/
inductive YieldsDeclared (model : Model) (function : FunctionInfo) : Option TypeInfo → Prop
  | undeclared (untyped : function.result = none) : YieldsDeclared model function none
  | declared {type : TypeInfo} (typed : function.result = some type.handle)
      (there : model.typeAt? type.handle = some type) : YieldsDeclared model function (some type)

/-- The function of that name has a stock rule, if it has one at all. -/
def RuledByStock (model : Model) (name : String) : Prop :=
  ∀ rule, model.functionRule? name = some rule → rule.isStock = true

/-- A model in which no function is called out of order. -/
structure ChecksCalls [CustomRules] (model : Model) : Prop where
  /-- Whatever stock rule a function has, it yields something for calls in order only. -/
  sound : ∀ name function arguments result, model.function? name = some function →
    model.RuledByStock name → model.functionResult name arguments = .ok result →
      function.Takes arguments
  /-- Without a rule a call in order yields what was declared. -/
  complete : ∀ name function arguments, model.function? name = some function →
    model.functionRule? name = none → function.Takes arguments →
      ∃ result, model.functionResult name arguments = .ok result ∧
        model.YieldsDeclared function result
  /-- Whatever stock rule a function has, a call out of order is refused for the same reason. -/
  refused : ∀ name function arguments, model.function? name = some function →
    model.RuledByStock name → ¬ function.Takes arguments →
      ∃ error, function.Refuses arguments error ∧ model.functionResult name arguments = .error error
  /-- The bounds of a function leave room for a call. -/
  callable : ∀ function ∈ model.functions.values, function.TakesCount function.minimum

section Results

variable [CustomRules] {model : Model} {name : String} {function : FunctionInfo}
  {arguments : List TypeInfo} (found : model.function? name = some function)
include found

theorem functionResult_of_checkArguments (stock : model.RuledByStock name) {error : ResolveError}
    (refused : function.checkArguments arguments = .error error) :
    model.functionResult name arguments = .error error := by
  cases ruled : model.functionRule? name with
  | none =>
    rw [functionResult_of_no_rule found ruled, refused]
    rfl
  | some rule =>
    rw [functionResult_of_rule found ruled,
      applyFunctionRule_of_checkArguments model (stock rule ruled) refused]
    rfl

theorem takes_of_functionResult (stock : model.RuledByStock name) {result : Option TypeInfo}
    (yields : model.functionResult name arguments = .ok result) : function.Takes arguments := by
  rw [← FunctionInfo.checkArguments_eq_ok_iff]
  cases checked : function.checkArguments arguments with
  | ok => rfl
  | error error =>
    rw [functionResult_of_checkArguments found stock checked] at yields
    cases yields

end Results

/-- The declared result type of a function is there. -/
theorem WellFormed.yieldsDeclared {model : Model} (sound : model.WellFormed)
    {function : FunctionInfo} (member : function ∈ model.functions.values) :
    model.YieldsDeclared function (function.result.bind model.typeAt?) := by
  cases typed : function.result with
  | none => exact .undeclared typed
  | some handle =>
    obtain ⟨type, there, -⟩ := sound.results member handle typed
    obtain rfl := sound.handle_eq there
    rw [Option.bind_some, there]
    exact .declared typed there

theorem Built.takesCount_minimum {model : Model} (built : model.Built) :
    ∀ function ∈ model.functions.values, function.TakesCount function.minimum := by
  refine built.invariant (motive := fun model =>
    ∀ function ∈ model.functions.values, function.TakesCount function.minimum)
    (fun function member => nomatch member) fun draft _ _ below function member => ?_
  rcases Draft.mem_sealedFunctions member with inherited | ⟨decl, -, rfl⟩
  · exact below function inherited
  · exact draft.takesCount_sealFunction decl

/-- In every model that is built, functions without a rule of a user's own yield something for calls
in order and for no others, and it is the declared type where nothing else was said. -/
theorem Built.checksCalls [CustomRules] {model : Model} (built : model.Built) :
    model.ChecksCalls where
  sound name function arguments result found stock yields :=
    takes_of_functionResult found stock yields
  complete name function arguments found bare takes := by
    have passed := (function.checkArguments_eq_ok_iff arguments).mpr takes
    have member := (built.namesFunctions.mem_of_function? found).1
    refine ⟨function.result.bind model.typeAt?, ?_, built.wellFormed.yieldsDeclared member⟩
    rw [functionResult_of_no_rule found bare, passed]
    rfl
  refused name function arguments found stock notTaken := by
    obtain ⟨error, refuses⟩ := function.exists_refuses_of_not_takes arguments notTaken
    have failed := (function.checkArguments_eq_error_iff arguments error).mpr refuses
    exact ⟨error, refuses, functionResult_of_checkArguments found stock failed⟩
  callable := built.takesCount_minimum

/-- Pets, and any collection after them, have persons for owners. The other way round the call is
refused. -/
theorem Built.checksCalls_household :
    Draft.household.assemble.Built ∧ ∃ owners pets persons,
      Draft.household.assemble.function? "owners" = some owners ∧
        Draft.household.assemble.typeAt? 4 = some pets ∧
          Draft.household.assemble.typeAt? 3 = some persons ∧ owners.Takes [pets, persons] ∧
            Draft.household.assemble.functionResult "owners" [pets, persons] =
                .ok (some persons) ∧
              ∃ error, owners.Refuses [persons, pets] error ∧
                Draft.household.assemble.functionResult "owners" [persons, pets] =
                  .error error := by
  have checks := Built.checksCalls Draft.built_household
  have bare : Draft.household.assemble.functionRule? "owners" = none := by decide
  have stock : Draft.household.assemble.RuledByStock "owners" := by
    intro rule ruled
    rw [bare] at ruled
    cases ruled
  have known : (Draft.household.assemble.function? "owners").isSome = true := by decide
  have calls : (Draft.household.assemble.typeAt? 4).bind (fun pets =>
      (Draft.household.assemble.typeAt? 3).map fun persons =>
        ((Draft.household.assemble.functionResult "owners" [pets, persons]).toOption.join.map
            TypeInfo.handle,
          (Draft.household.assemble.functionResult "owners" [persons, pets]).toOption.isSome)) =
        some (some 3, false) := by
    decide
  obtain ⟨owners, found⟩ := Option.isSome_iff_exists.mp known
  obtain ⟨pets, petsThere, calls⟩ := Option.bind_eq_some_iff.mp calls
  obtain ⟨persons, personsThere, calls⟩ := Option.map_eq_some_iff.mp calls
  obtain ⟨yields, fails⟩ := Prod.mk.inj calls
  obtain ⟨result, yields, place⟩ := Option.map_eq_some_iff.mp yields
  have yields := toOption_eq_some_iff.mp (Option.join_eq_some_iff.mp yields)
  have takes := checks.sound _ _ _ _ found stock yields
  refine ⟨Draft.built_household, owners, pets, persons, found, petsThere, personsThere, takes, ?_,
    checks.refused _ _ _ found stock fun takes => ?_⟩
  · obtain ⟨declared, same, source⟩ := checks.complete _ _ _ found bare takes
    obtain rfl := Except.ok.inj (same.symm.trans yields)
    cases source with
    | declared typed there =>
      rw [place, personsThere] at there
      exact yields.trans (congrArg (Except.ok ∘ some) (Option.some.inj there).symm)
  · obtain ⟨declared, accepted, -⟩ := checks.complete _ _ _ found bare takes
    rw [accepted] at fails
    cases fails

end Model

end Metamodel
