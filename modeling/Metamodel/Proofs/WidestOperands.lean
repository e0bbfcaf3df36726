/-
The type of the widest operand.

A list of names, from the widest to the narrowest, ranks types by the place at which their name
stands in it for the first time; a name that is given again further down has no effect. The smallest
of these places decides, and the model is then asked for the type of the name at that place. Its
answer carries the name that was asked for and so has the same rank, which is why results can take
the place of the operands that they are the results of, and an expression has the same type however
it is nested. Only what is said against operands that are not listed depends on their order.
-/

import Metamodel.Proofs.Choosing
import Metamodel.Proofs.Newest
import Mathlib.Data.List.Basic

namespace Metamodel

/-! ### Ranks -/

/-- The first of the places at which a name stands in a list. -/
structure FirstAt (names : List String) (name : String) (place : Nat) : Prop where
  there : names[place]? = some name
  first : ∀ earlier < place, names[earlier]? ≠ some name

theorem FirstAt.unique {names : List String} {name : String} {place other : Nat}
    (here : FirstAt names name place) (there : FirstAt names name other) : place = other := by
  rcases Nat.lt_trichotomy place other with before | same | after
  · exact absurd here.there (there.first place before)
  · exact same
  · exact absurd there.there (here.first other after)

theorem firstAt_idxOf {names : List String} {name : String} (listed : name ∈ names) :
    FirstAt names name (names.idxOf name) where
  there := List.getElem?_idxOf listed
  first earlier sooner there := by
    obtain ⟨bound, same⟩ := List.getElem?_eq_some_iff.mp there
    have differs : (names[earlier] == name) = false := List.not_of_lt_findIdx sooner
    exact ne_of_beq_false differs same

theorem FirstAt.mem {names : List String} {name : String} {place : Nat}
    (here : FirstAt names name place) : name ∈ names := List.mem_of_getElem? here.there

theorem FirstAt.eq_idxOf {names : List String} {name : String} {place : Nat}
    (here : FirstAt names name place) : place = names.idxOf name :=
  here.unique (firstAt_idxOf here.mem)

/-- The smallest of the ranks that the operands have. -/
structure WidestAt (precedence : List String) (operands : List TypeInfo) (place : Nat) : Prop where
  held : ∃ operand ∈ operands, FirstAt precedence operand.name place
  least : ∀ operand ∈ operands, ∀ other, FirstAt precedence operand.name other → place ≤ other

/-- Operands with names that are all listed. -/
def Listed (precedence : List String) (operands : List TypeInfo) : Prop :=
  ∀ operand ∈ operands, operand.name ∈ precedence

theorem supported_iff_listed {precedence : List String} {operands : List TypeInfo} :
    Supported (fun _ => precedence) operands ↔ Listed precedence operands := by
  constructor
  · intro supported operand member
    obtain ⟨index, there⟩ := List.getElem?_of_mem member
    exact supported index operand there
  · intro listed index operand there
    exact listed operand (List.mem_of_getElem? there)

section Ranks

variable {precedence : List String} {operands others : List TypeInfo} {place other : Nat}

theorem WidestAt.min?_eq (listed : Listed precedence operands)
    (widest : WidestAt precedence operands place) :
    (operands.map fun operand => precedence.idxOf operand.name).min? = some place := by
  rw [List.min?_eq_some_iff]
  obtain ⟨operand, member, first⟩ := widest.held
  refine ⟨List.mem_map.mpr ⟨operand, member, first.eq_idxOf.symm⟩, fun rank ranked => ?_⟩
  obtain ⟨given, givenMember, rfl⟩ := List.mem_map.mp ranked
  exact widest.least given givenMember _ (firstAt_idxOf (listed given givenMember))

theorem exists_widestAt (some : operands ≠ []) (listed : Listed precedence operands) :
    ∃ place, WidestAt precedence operands place := by
  obtain ⟨place, least⟩ : ∃ place, (operands.map fun operand =>
      precedence.idxOf operand.name).min? = .some place :=
    Option.isSome_iff_exists.mp (List.isSome_min?_of_ne_nil (by simpa using some))
  obtain ⟨member, below⟩ := List.min?_eq_some_iff.mp least
  obtain ⟨operand, there, rfl⟩ := List.mem_map.mp member
  refine ⟨_, ⟨operand, there, firstAt_idxOf (listed operand there)⟩, ?_⟩
  intro given givenThere rank first
  rw [first.eq_idxOf]
  exact below _ (List.mem_map_of_mem givenThere)

/-- The order of the operands and how often they are given do not matter. -/
theorem WidestAt.congr (same : ∀ type, type ∈ operands ↔ type ∈ others)
    (widest : WidestAt precedence operands place) : WidestAt precedence others place := by
  obtain ⟨operand, member, first⟩ := widest.held
  exact ⟨⟨operand, (same operand).mp member, first⟩,
    fun given there => widest.least given ((same given).mpr there)⟩

theorem WidestAt.singleton {operand : TypeInfo} (first : FirstAt precedence operand.name place) :
    WidestAt precedence [operand] place where
  held := ⟨operand, List.mem_singleton_self operand, first⟩
  least given member rank ranked := by
    obtain rfl := List.mem_singleton.mp member
    exact Nat.le_of_eq (first.unique ranked)

theorem WidestAt.append (widest : WidestAt precedence operands place)
    (also : WidestAt precedence others other) :
    WidestAt precedence (operands ++ others) (min place other) where
  held := by
    obtain ⟨operand, member, first⟩ := widest.held
    obtain ⟨given, there, givenFirst⟩ := also.held
    rcases Nat.le_total place other with before | after
    · rw [Nat.min_eq_left before]
      exact ⟨operand, List.mem_append_left _ member, first⟩
    · rw [Nat.min_eq_right after]
      exact ⟨given, List.mem_append_right _ there, givenFirst⟩
  least operand member rank ranked := by
    rcases List.mem_append.mp member with early | late
    · exact Nat.le_trans (Nat.min_le_left _ _) (widest.least operand early rank ranked)
    · exact Nat.le_trans (Nat.min_le_right _ _) (also.least operand late rank ranked)

/-- A rank is a place in the list. -/
theorem WidestAt.exists_name (widest : WidestAt precedence operands place) :
    ∃ name, FirstAt precedence name place := by
  obtain ⟨operand, -, first⟩ := widest.held
  exact ⟨operand.name, first⟩

theorem WidestAt.listed_singleton {operand : TypeInfo}
    (widest : WidestAt precedence [operand] place) : Listed precedence [operand] := by
  obtain ⟨held, member, first⟩ := widest.held
  obtain rfl := List.mem_singleton.mp member
  exact List.forall_mem_singleton.mpr first.mem

end Ranks

/-! ### Operands that are not supported -/

/-- The first operand that does not have one of the names supported at its place. -/
structure FirstForeign (supported : Nat → List String) (operands : List TypeInfo) (index : Nat)
    (operand : TypeInfo) : Prop where
  there : operands[index]? = some operand
  foreign : operand.name ∉ supported index
  first : ∀ earlier < index, ∀ other, operands[earlier]? = some other →
    other.name ∈ supported earlier

namespace Model

/-- What is not supported is refused for the first operand that is not. -/
theorem exists_firstForeign {supported : Nat → List String} {operands : List TypeInfo}
    (refused : ¬ Supported supported operands) :
    ∃ index operand, FirstForeign supported operands index operand ∧
      checkSupported supported operands =
        .error (.unsupportedOperand index operand (supported index)) := by
  rw [← checkSupported_eq_ok_iff] at refused
  unfold checkSupported at refused ⊢
  split at refused
  · next operand place stopped =>
    obtain ⟨foreign, index, bound, there, before⟩ := List.find?_eq_some_iff_getElem.mp stopped
    have bound : index < operands.length := by simpa using bound
    obtain ⟨rfl, rfl⟩ : operands[index] = operand ∧ index = place := by simpa using there
    refine ⟨index, operands[index],
      ⟨List.getElem?_eq_getElem bound, by simpa using foreign, ?_⟩, rfl⟩
    intro earlier sooner other otherThere
    obtain ⟨_, rfl⟩ := List.getElem?_eq_some_iff.mp otherThere
    simpa using before earlier sooner
  · exact absurd rfl refused

/-! ### The type of the widest operand -/

section Widest

variable (model : Model) {precedence : List String} {operands others : List TypeInfo}

/-- Operands that are all listed get what the model has under the name at the smallest rank. -/
theorem widest_eq_lookup {place : Nat} {name : String} (listed : Listed precedence operands)
    (widest : WidestAt precedence operands place) (named : precedence[place]? = some name) :
    model.widest precedence operands = model.lookup (.named name) := by
  have supported := (checkSupported_eq_ok_iff _ _).mpr (supported_iff_listed.mpr listed)
  simp only [Model.widest, supported, bind, Except.bind, widest.min?_eq listed, Option.getD_some,
    named]

theorem widest_eq_error (foreign : ¬ Listed precedence operands) :
    ∃ index operand, FirstForeign (fun _ => precedence) operands index operand ∧
      model.widest precedence operands =
        .error (.unsupportedOperand index operand precedence) := by
  obtain ⟨index, operand, first, refused⟩ :=
    exists_firstForeign (mt supported_iff_listed.mp foreign)
  refine ⟨index, operand, first, ?_⟩
  unfold Model.widest
  rw [refused]
  rfl

theorem listed_of_widest {type : TypeInfo} (yields : model.widest precedence operands = .ok type) :
    Listed precedence operands :=
  supported_iff_listed.mp ((widest_eq_ok_iff model).mp yields).1

/-- Apart from what is refused, operands yield a type by their rank alone. -/
theorem widest_eq_widest {place : Nat} (listed : Listed precedence operands)
    (listedOthers : Listed precedence others) (widest : WidestAt precedence operands place)
    (widestOthers : WidestAt precedence others place) :
    model.widest precedence operands = model.widest precedence others := by
  obtain ⟨name, first⟩ := widest.exists_name
  rw [widest_eq_lookup model listed widest first.there,
    widest_eq_lookup model listedOthers widestOthers first.there]

theorem widest_congr (same : ∀ type, type ∈ operands ↔ type ∈ others)
    (listed : Listed precedence operands) :
    model.widest precedence operands = model.widest precedence others := by
  by_cases nothing : operands = []
  · have nothingElse : others = [] := by
      rw [List.eq_nil_iff_forall_not_mem]
      intro type member
      simpa [nothing] using (same type).mpr member
    rw [nothing, nothingElse]
  · obtain ⟨place, widest⟩ := exists_widestAt nothing listed
    have listedOthers : Listed precedence others := fun operand member =>
      listed operand ((same operand).mpr member)
    exact widest_eq_widest model listed listedOthers widest (widest.congr same)

/-- What operands yield ranks where they do. -/
theorem WellFormed.widestAt_result {model : Model} (sound : model.WellFormed) {type : TypeInfo}
    (some : operands ≠ []) (yields : model.widest precedence operands = .ok type) :
    ∃ place, WidestAt precedence operands place ∧ WidestAt precedence [type] place := by
  have listed := listed_of_widest model yields
  obtain ⟨place, widest⟩ := exists_widestAt some listed
  obtain ⟨name, first⟩ := widest.exists_name
  rw [widest_eq_lookup model listed widest first.there, lookup_eq_ok_iff] at yields
  have answers : type.name = name := (sound.answers_of_resolve? yields).2
  exact ⟨place, widest, .singleton (answers ▸ first)⟩

end Widest

/-- A model in which operands yield the least type that is as wide as each of them. -/
structure JoinsOperands (model : Model) (precedence : List String) : Prop where
  yields_iff : ∀ operands type, operands ≠ [] →
    (model.widest precedence operands = .ok type ↔ Listed precedence operands ∧
      ∃ place name, WidestAt precedence operands place ∧ precedence[place]? = some name ∧
        model.type? name = some type)
  /-- Operands in another order, or given more than once, yield the same type. -/
  regrouped : ∀ operands others, (∀ type, type ∈ operands ↔ type ∈ others) →
    ∀ type, model.widest precedence operands = .ok type ↔
      model.widest precedence others = .ok type
  /-- If they are all listed, they also fail to yield a type for the same reason. -/
  regrouped_listed : ∀ operands others, (∀ type, type ∈ operands ↔ type ∈ others) →
    Listed precedence operands →
      model.widest precedence operands = model.widest precedence others
  /-- The results of two groups of operands may stand for the groups. -/
  nested : ∀ operands others first second, operands ≠ [] → others ≠ [] →
    model.widest precedence operands = .ok first → model.widest precedence others = .ok second →
      model.widest precedence (operands ++ others) = model.widest precedence [first, second]
  refused : ∀ operands, ¬ Listed precedence operands →
    ∃ index operand, FirstForeign (fun _ => precedence) operands index operand ∧
      model.widest precedence operands = .error (.unsupportedOperand index operand precedence)

/-- In every model that is built, the types of operands are joined. -/
theorem Built.joinsOperands {model : Model} (built : model.Built) (precedence : List String) :
    model.JoinsOperands precedence where
  yields_iff operands type some := by
    constructor
    · intro yields
      have listed := listed_of_widest model yields
      obtain ⟨place, widest⟩ := exists_widestAt some listed
      obtain ⟨name, first⟩ := widest.exists_name
      rw [widest_eq_lookup model listed widest first.there, lookup_eq_ok_iff] at yields
      exact ⟨listed, place, name, widest, first.there, yields⟩
    · rintro ⟨listed, place, name, widest, named, found⟩
      rw [widest_eq_lookup model listed widest named, lookup_eq_ok_iff]
      exact found
  regrouped operands others same type := by
    constructor
    · intro yields
      rw [← widest_congr model same (listed_of_widest model yields)]
      exact yields
    · intro yields
      rw [← widest_congr model (fun type => (same type).symm) (listed_of_widest model yields)]
      exact yields
  regrouped_listed operands others same listed := widest_congr model same listed
  nested operands others first second some someOthers firstYields secondYields := by
    obtain ⟨place, widest, resultWidest⟩ := built.wellFormed.widestAt_result some firstYields
    obtain ⟨other, alsoWidest, alsoResult⟩ :=
      built.wellFormed.widestAt_result someOthers secondYields
    have listed : Listed precedence (operands ++ others) := List.forall_mem_append.mpr
      ⟨listed_of_widest model firstYields, listed_of_widest model secondYields⟩
    have listedResults : Listed precedence ([first] ++ [second]) := List.forall_mem_append.mpr
      ⟨resultWidest.listed_singleton, alsoResult.listed_singleton⟩
    -- Both sides rank at the smaller one of the two places.
    exact widest_eq_widest model listed listedResults (widest.append alsoWidest)
      (resultWidest.append alsoResult)
  refused operands foreign := widest_eq_error model foreign

end Model

/-- Whole and broken numbers, and numbers to count with. -/
def Draft.purse : Draft :=
  [.ofBody "Integer" .basic, .ofBody "Decimal" .basic, .ofBody "Count" .basic].foldl declareType
    standalone

theorem Draft.built_purse : purse.assemble.Built :=
  .build (by rintro _ ⟨⟩) (build_of_faults (by decide))

/-- Four numbers, taken two at a time or all at once, have the same type, although one of the names
is listed twice. -/
theorem Model.Built.joinsOperands_purse :
    Draft.purse.assemble.Built ∧ ∃ integer decimal count first second,
      Draft.purse.assemble.typeAt? 0 = some integer ∧
        Draft.purse.assemble.typeAt? 1 = some decimal ∧
          Draft.purse.assemble.typeAt? 2 = some count ∧
      [integer, count] ≠ [] ∧ [count, decimal] ≠ [] ∧
        Draft.purse.assemble.widest ["Decimal", "Integer", "Decimal", "Count"] [integer, count] =
            .ok first ∧
          Draft.purse.assemble.widest ["Decimal", "Integer", "Decimal", "Count"] [count, decimal] =
              .ok second ∧
            Draft.purse.assemble.widest ["Decimal", "Integer", "Decimal", "Count"]
                [integer, count, count, decimal] =
              Draft.purse.assemble.widest ["Decimal", "Integer", "Decimal", "Count"]
                [first, second] ∧ first.handle = 0 ∧ second.handle = 1 := by
  have joins := Built.joinsOperands Draft.built_purse ["Decimal", "Integer", "Decimal", "Count"]
  have results : (Draft.purse.assemble.typeAt? 0).bind (fun integer =>
      (Draft.purse.assemble.typeAt? 1).bind fun decimal =>
        (Draft.purse.assemble.typeAt? 2).map fun count =>
          ((Draft.purse.assemble.widest ["Decimal", "Integer", "Decimal", "Count"]
              [integer, count]).toOption.map TypeInfo.handle,
            (Draft.purse.assemble.widest ["Decimal", "Integer", "Decimal", "Count"]
              [count, decimal]).toOption.map TypeInfo.handle)) = some (some 0, some 1) := by
    decide
  obtain ⟨integer, integerThere, results⟩ := Option.bind_eq_some_iff.mp results
  obtain ⟨decimal, decimalThere, results⟩ := Option.bind_eq_some_iff.mp results
  obtain ⟨count, countThere, results⟩ := Option.map_eq_some_iff.mp results
  obtain ⟨firstYields, secondYields⟩ := Prod.mk.inj results
  obtain ⟨first, firstYields, firstPlace⟩ := Option.map_eq_some_iff.mp firstYields
  obtain ⟨second, secondYields, secondPlace⟩ := Option.map_eq_some_iff.mp secondYields
  have firstYields := toOption_eq_some_iff.mp firstYields
  have secondYields := toOption_eq_some_iff.mp secondYields
  exact ⟨Draft.built_purse, integer, decimal, count, first, second, integerThere, decimalThere,
    countThere, List.cons_ne_nil _ _, List.cons_ne_nil _ _, firstYields, secondYields,
    joins.nested _ _ _ _ (List.cons_ne_nil _ _) (List.cons_ne_nil _ _) firstYields secondYields,
    firstPlace, secondPlace⟩

end Metamodel
