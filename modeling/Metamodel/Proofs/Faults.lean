/-
Every fault is a fault of the draft, and every fault of the draft is reported.

What can be wrong with a draft is said here without regard to how it is looked for: at each site
there is a condition on the declarations and the fault that records it. The three rounds are then
shown to report exactly what is wrong at their sites. The first two can be judged as they stand. The
third asks a model that is assembled for the purpose, and that model answers as the declarations
would only if no tag is claimed twice, which is why the third round has to wait for the first.
-/

import Metamodel.Proofs.Arena
import Metamodel.Proofs.Findings

namespace Metamodel

/-! ### Sites -/

/-- A part of a draft about which something can be wrong, by the places of the declarations. -/
inductive Site where
  | typeTag (type : Nat)
  | typeName (type : Nat)
  | attributeType (type index : Nat)
  | argumentType (function index : Nat)
  | resultType (function : Nat)
  /-- The name of an attribute or an enum value. -/
  | memberName (type index : Nat)
  /-- The name of a function of the model below. -/
  | inheritedName (function : Nat)
  | functionName (function : Nat)
  | functionRule (index : Nat)
  | registration (index : Nat)

namespace Site

/-- The round in which a site is looked at. -/
@[simp]
def round : Site → Nat
  | typeTag _ | typeName _ | attributeType _ _ | argumentType _ _ | resultType _ => 0
  | memberName _ _ | inheritedName _ | functionName _ => 1
  | functionRule _ | registration _ => 2

/-- Sites in the order in which they are looked at. -/
@[simp]
def rank : Site → List Nat
  | typeTag type => [0, type]
  | typeName type => [1, type, 0]
  | attributeType type index => [1, type, 1, index]
  | argumentType function index => [2, function, 0, index]
  | resultType function => [2, function, 1]
  | memberName type index => [3, type, index]
  | inheritedName function => [4, function]
  | functionName function => [5, function]
  | functionRule index => [6, index]
  | registration index => [7, index]

def Before (first second : Site) : Prop := first.rank < second.rank

@[simp]
theorem before_iff (first second : Site) : first.Before second ↔ first.rank < second.rank := Iff.rfl

theorem round_le (site : Site) : site.round ≤ 2 := by
  cases site <;> simp

theorem round_eq_zero_iff (site : Site) :
    site.round = 0 ↔ (∃ type, site = .typeTag type) ∨
      (∃ type, site = .typeName type ∨ ∃ index, site = .attributeType type index) ∨
        ∃ function, (∃ index, site = .argumentType function index) ∨
          site = .resultType function := by
  cases site <;> simp

theorem round_eq_one_iff (site : Site) :
    site.round = 1 ↔ (∃ type index, site = .memberName type index) ∨
      (∃ function, site = .inheritedName function) ∨ ∃ function, site = .functionName function := by
  cases site <;> simp

theorem round_eq_two_iff (site : Site) :
    site.round = 2 ↔
      (∃ index, site = .functionRule index) ∨ ∃ index, site = .registration index := by
  cases site <;> simp

end Site

namespace Draft

/-- Whether there will be a function of a name, as the draft compares function names. -/
def HasFunction (draft : Draft) (name : String) : Prop :=
  (∃ decl ∈ draft.functions.items,
    draft.functionCasing.key decl.name = draft.functionCasing.key name) ∨
  ∃ function ∈ draft.ground.functions.values,
    draft.functionCasing.key function.name = draft.functionCasing.key name

instance (draft : Draft) (name : String) : Decidable (draft.HasFunction name) :=
  inferInstanceAs (Decidable (_ ∨ _))

/-- Names that count as the same under a casing, at the place of the later one. -/
def NamesClash (casing : Casing) (names : List String) (place : Nat) (first second : String) :
    Prop :=
  Keyed.Clash (fun name => some (casing.key name)) names place (first, second)

/-- What is wrong at a site, with the fault that records it. -/
inductive Wrong (draft : Draft) : Site → Fault → Prop
  | ambiguousTag {index first second tag}
      (clash : Keyed.Clash TypeDecl.tag draft.types.items index (first, second))
      (claimed : second.tag = some tag) :
      Wrong draft (.typeTag index) (.ambiguousTag tag first.name second.name)
  | reservedName {index decl} (there : draft.types.items[index]? = some decl)
      (reserved : decl.name = collectionTypeName) :
      Wrong draft (.typeName index) (.reservedName decl.name)
  | unknownAttributeType {type index decl info} (there : draft.types.items[type]? = some decl)
      (inside : decl.attributes[index]? = some info) (unknown : ¬ draft.Knows info.type) :
      Wrong draft (.attributeType type index)
        (.unknownAttributeType decl.name info.name info.type)
  | unknownArgumentType {function index decl argument type}
      (there : draft.functions.items[function]? = some decl)
      (inside : decl.arguments[index]? = some argument) (typed : argument.type = some type)
      (unknown : ¬ draft.Knows type) :
      Wrong draft (.argumentType function index)
        (.unknownArgumentType decl.name (argumentName argument index) type)
  | unknownResultType {function decl type}
      (there : draft.functions.items[function]? = some decl) (typed : decl.result = some type)
      (unknown : ¬ draft.Knows type) :
      Wrong draft (.resultType function) (.unknownResultType decl.name type)
  | duplicateAttribute {type index decl entity first second}
      (there : draft.types.items[type]? = some decl) (body : decl.body = .entity entity)
      (clash : NamesClash entity.casing (entity.attributes.items.map AttributeDecl.name) index
        first second) :
      Wrong draft (.memberName type index) (.duplicateAttribute decl.name first second)
  | duplicateValue {type index decl enum first second}
      (there : draft.types.items[type]? = some decl) (body : decl.body = .enum enum)
      (clash : NamesClash enum.casing (enum.values.items.map ValueDecl.name) index first second) :
      Wrong draft (.memberName type index) (.duplicateValue decl.name first second)
  | duplicateInherited {index first second}
      (clash : NamesClash draft.functionCasing
        (draft.ground.functions.values.map FunctionInfo.name) index first second) :
      Wrong draft (.inheritedName index) (.duplicateFunction first second)
  | duplicateFunction {index first second}
      (clash : NamesClash draft.functionCasing (draft.functions.items.map FunctionDecl.name) index
        first second) :
      Wrong draft (.functionName index) (.duplicateFunction first second)
  | unknownFunction {index name rule}
      (there : draft.functionRules.items[index]? = some (name, rule))
      (missing : ¬ draft.HasFunction name) :
      Wrong draft (.functionRule index) (.unknownFunctionRuleTarget name rule)
  | unknownTarget {index registration}
      (there : draft.registrations[index]? = some registration)
      (unknown : ¬ draft.Knows registration.target) :
      Wrong draft (.registration index) (.unknownRuleTarget registration)
  | disabledCapability {index registration name enabled}
      (there : draft.registrations[index]? = some registration)
      (offer : draft.Offers registration.target name enabled)
      (disabled : enabled registration.capability = false) :
      Wrong draft (.registration index) (.disabledCapability name registration)

variable {draft : Draft}

/-! ### The first round -/

theorem reports_tagFaults :
    Reports Site.Before (fun site fault => draft.Wrong site fault ∧ ∃ index, site = .typeTag index)
      draft.tagFaults := by
  refine ((Keyed.reports_clashes draft.types.items).reword Site.typeTag _ ?_ ?_).congr ?_
  · intro first second less
    simp [List.cons_lt_cons_iff, less]
  · rintro index ⟨first, second⟩ ⟨-, known, -⟩
    obtain ⟨tag, claimed⟩ := Option.isSome_iff_exists.mp known
    exact ⟨_, congrArg (Option.map _) claimed⟩
  · intro site fault
    constructor
    · intro reason
      obtain ⟨index, ⟨first, second⟩, clash, rfl, said⟩ := reason
      obtain ⟨tag, claimed, rfl⟩ := Option.map_eq_some_iff.mp said
      exact ⟨.ambiguousTag clash claimed, index, rfl⟩
    · intro reason
      obtain ⟨isWrong, index, rfl⟩ := reason
      cases isWrong with
      | ambiguousTag clash claimed => exact ⟨index, _, clash, rfl, congrArg (Option.map _) claimed⟩

theorem reports_reservedName (index : Nat) (decl : TypeDecl)
    (there : draft.types.items[index]? = some decl) :
    Reports Site.Before (fun site fault => draft.Wrong site fault ∧ site = .typeName index)
      (if decl.name = collectionTypeName then [.reservedName decl.name] else []) := by
  have toList : (if decl.name = collectionTypeName then [Fault.reservedName decl.name] else []) =
      (if decl.name = collectionTypeName then some (Fault.reservedName decl.name)
        else none).toList := by
    split <;> rfl
  rw [toList]
  refine .option (.typeName index) fun site fault => ?_
  constructor
  · intro reason
    obtain ⟨isWrong, rfl⟩ := reason
    cases isWrong with
    | reservedName thereToo reserved =>
      cases there.symm.trans thereToo
      exact ⟨rfl, if_pos reserved⟩
  · intro reason
    obtain ⟨rfl, found⟩ := reason
    by_cases reserved : decl.name = collectionTypeName
    · rw [if_pos reserved] at found
      exact ⟨Option.some.inj found ▸ .reservedName there reserved, rfl⟩
    · rw [if_neg reserved] at found
      cases found

theorem reports_attributeTypes (ground : draft.ground.WellFormed) (index : Nat) (decl : TypeDecl)
    (there : draft.types.items[index]? = some decl) :
    Reports Site.Before
      (fun site fault => draft.Wrong site fault ∧ ∃ place, site = .attributeType index place)
      ((decl.attributes.filter (fun info => draft.isUnknown info.type)).map
        fun info => .unknownAttributeType decl.name info.name info.type) := by
  have asFilterMap := List.filterMap_eq_map' (f := fun info : AttributeDecl =>
    Fault.unknownAttributeType decl.name info.name info.type)
  rw [← congrFun asFilterMap, List.filterMap_filter]
  refine (Reports.filterMap decl.attributes _ (Site.attributeType index) ?_).congr ?_
  · intro first second less
    simp [List.cons_lt_cons_iff, less]
  · intro site fault
    constructor
    · intro reason
      obtain ⟨place, info, inside, rfl, found⟩ := reason
      by_cases isUnknown : draft.isUnknown info.type = true
      · rw [if_pos isUnknown] at found
        have unknown := (isUnknown_iff ground _).mp isUnknown
        exact ⟨Option.some.inj found ▸ .unknownAttributeType there inside unknown, place, rfl⟩
      · rw [if_neg isUnknown] at found
        cases found
    · intro reason
      obtain ⟨isWrong, place, rfl⟩ := reason
      cases isWrong with
      | unknownAttributeType thereToo inside unknown =>
        cases there.symm.trans thereToo
        exact ⟨place, _, inside, rfl, if_pos ((isUnknown_iff ground _).mpr unknown)⟩

theorem reports_typeFaults (ground : draft.ground.WellFormed) (index : Nat) (decl : TypeDecl)
    (there : draft.types.items[index]? = some decl) :
    Reports Site.Before
      (fun site fault => draft.Wrong site fault ∧
        (site = .typeName index ∨ ∃ place, site = .attributeType index place))
      (draft.typeFaults decl) := by
  have reserved := reports_reservedName index decl there
  have unknown := reports_attributeTypes ground index decl there
  refine (reserved.append unknown ?_).congr fun site fault => and_or_left.symm
  rintro _ _ _ _ ⟨-, rfl⟩ ⟨-, place, rfl⟩
  simp [List.cons_lt_cons_iff]

theorem reports_types (ground : draft.ground.WellFormed) :
    Reports Site.Before
      (fun site fault => ∃ index, draft.Wrong site fault ∧
        (site = .typeName index ∨ ∃ place, site = .attributeType index place))
      (draft.types.items.flatMap draft.typeFaults) := by
  refine .flatMap _ (reports_typeFaults ground) ?_ ?_
  · rintro index _ fault ⟨isWrong, rfl | ⟨place, rfl⟩⟩
    · cases isWrong with
      | reservedName there => exact (List.getElem?_eq_some_iff.mp there).1
    · cases isWrong with
      | unknownAttributeType there => exact (List.getElem?_eq_some_iff.mp there).1
  · rintro first second _ _ _ _ less ⟨-, rfl | ⟨place, rfl⟩⟩ ⟨-, rfl | ⟨other, rfl⟩⟩ <;>
      simp [List.cons_lt_cons_iff, less]

theorem unknown?_eq_some_iff (ground : draft.ground.WellFormed) (declared : Option Reference)
    (type : Reference) :
    draft.unknown? declared = some type ↔ declared = some type ∧ ¬ draft.Knows type := by
  unfold unknown?
  rw [Option.filter_eq_some_iff, isUnknown_iff ground]

theorem reports_argumentTypes (ground : draft.ground.WellFormed) (index : Nat)
    (decl : FunctionDecl) (there : draft.functions.items[index]? = some decl) :
    Reports Site.Before
      (fun site fault => draft.Wrong site fault ∧ ∃ place, site = .argumentType index place)
      (decl.arguments.zipIdx.filterMap fun (argument, index) =>
        (draft.unknown? argument.type).map fun type =>
          .unknownArgumentType decl.name (argumentName argument index) type) := by
  refine (Reports.filterMap decl.arguments.zipIdx _ (Site.argumentType index) ?_).congr ?_
  · intro first second less
    simp [List.cons_lt_cons_iff, less]
  · intro site fault
    constructor
    · intro reason
      obtain ⟨place, ⟨argument, position⟩, inside, rfl, found⟩ := reason
      rw [List.getElem?_zipIdx, Option.map_eq_some_iff] at inside
      obtain ⟨_, inside, same⟩ := inside
      cases same
      rw [Nat.zero_add] at found
      obtain ⟨type, unknown, rfl⟩ := Option.map_eq_some_iff.mp found
      obtain ⟨typed, isUnknown⟩ := (unknown?_eq_some_iff ground _ _).mp unknown
      exact ⟨.unknownArgumentType there inside typed isUnknown, place, rfl⟩
    · intro reason
      obtain ⟨isWrong, place, rfl⟩ := reason
      cases isWrong with
      | @unknownArgumentType _ _ other argument type thereToo inside typed isUnknown =>
        cases there.symm.trans thereToo
        have unknown := (unknown?_eq_some_iff ground _ _).mpr ⟨typed, isUnknown⟩
        refine ⟨place, (argument, place), ?_, rfl, ?_⟩
        · rw [List.getElem?_zipIdx, inside, Nat.zero_add]
          rfl
        · exact Option.map_eq_some_iff.mpr ⟨type, unknown, rfl⟩

theorem reports_resultType (ground : draft.ground.WellFormed) (index : Nat) (decl : FunctionDecl)
    (there : draft.functions.items[index]? = some decl) :
    Reports Site.Before (fun site fault => draft.Wrong site fault ∧ site = .resultType index)
      ((draft.unknown? decl.result).map fun type => .unknownResultType decl.name type).toList := by
  refine .option (.resultType index) fun site fault => ?_
  constructor
  · intro reason
    obtain ⟨isWrong, rfl⟩ := reason
    cases isWrong with
    | unknownResultType thereToo typed isUnknown =>
      cases there.symm.trans thereToo
      have unknown := (unknown?_eq_some_iff ground _ _).mpr ⟨typed, isUnknown⟩
      exact ⟨rfl, Option.map_eq_some_iff.mpr ⟨_, unknown, rfl⟩⟩
  · intro reason
    obtain ⟨rfl, found⟩ := reason
    obtain ⟨type, unknown, rfl⟩ := Option.map_eq_some_iff.mp found
    obtain ⟨typed, isUnknown⟩ := (unknown?_eq_some_iff ground _ _).mp unknown
    exact ⟨.unknownResultType there typed isUnknown, rfl⟩

theorem reports_functionFaults (ground : draft.ground.WellFormed) (index : Nat)
    (decl : FunctionDecl) (there : draft.functions.items[index]? = some decl) :
    Reports Site.Before
      (fun site fault => draft.Wrong site fault ∧
        ((∃ place, site = .argumentType index place) ∨ site = .resultType index))
      (draft.functionFaults decl) := by
  have arguments := reports_argumentTypes ground index decl there
  have result := reports_resultType ground index decl there
  refine (arguments.append result ?_).congr fun site fault => and_or_left.symm
  rintro _ _ _ _ ⟨-, place, rfl⟩ ⟨-, rfl⟩
  simp [List.cons_lt_cons_iff]

theorem reports_functions (ground : draft.ground.WellFormed) :
    Reports Site.Before
      (fun site fault => ∃ index, draft.Wrong site fault ∧
        ((∃ place, site = .argumentType index place) ∨ site = .resultType index))
      (draft.functions.items.flatMap draft.functionFaults) := by
  refine .flatMap _ (reports_functionFaults ground) ?_ ?_
  · rintro index _ fault ⟨isWrong, ⟨place, rfl⟩ | rfl⟩
    · cases isWrong with
      | unknownArgumentType there => exact (List.getElem?_eq_some_iff.mp there).1
    · cases isWrong with
      | unknownResultType there => exact (List.getElem?_eq_some_iff.mp there).1
  · rintro first second _ _ _ _ less ⟨-, ⟨place, rfl⟩ | rfl⟩ ⟨-, ⟨other, rfl⟩ | rfl⟩ <;>
      simp [List.cons_lt_cons_iff, less]

theorem reports_referenceFaults (ground : draft.ground.WellFormed) :
    Reports Site.Before (fun site fault => draft.Wrong site fault ∧ site.round = 0)
      draft.referenceFaults := by
  refine ((reports_tagFaults.append (reports_types ground) ?_).append
    (reports_functions ground) ?_).congr ?_
  · rintro _ _ _ _ ⟨-, index, rfl⟩ ⟨other, -, rfl | ⟨place, rfl⟩⟩ <;>
      simp [List.cons_lt_cons_iff]
  · rintro _ _ _ _ (⟨-, index, rfl⟩ | ⟨index, -, rfl | ⟨place, rfl⟩⟩)
      ⟨other, -, ⟨position, rfl⟩ | rfl⟩ <;>
      simp [List.cons_lt_cons_iff]
  · intro site fault
    rw [Site.round_eq_zero_iff, exists_and_left, exists_and_left, and_or_left, and_or_left,
      or_assoc]

/-! ### The second round -/

theorem reports_nameClashes (casing : Casing) (names : List String) (place : Nat → Site)
    (say : String → String → Fault)
    (ordered : ∀ first second, first < second → (place first).Before (place second)) :
    Reports Site.Before
      (fun site fault => ∃ index first second, NamesClash casing names index first second ∧
        site = place index ∧ fault = say first second)
      ((casing.nameClashes names).map fun (first, second) => say first second) := by
  have asFilterMap := congrFun (List.filterMap_eq_map'
    (f := fun pair : String × String => say pair.1 pair.2)) (casing.nameClashes names)
  show Reports _ _ ((casing.nameClashes names).map fun pair => say pair.1 pair.2)
  rw [← asFilterMap]
  refine ((Keyed.reports_clashes names).reword place _ ordered fun _ _ _ => ⟨_, rfl⟩).congr ?_
  intro site fault
  constructor
  · intro reason
    obtain ⟨index, ⟨first, second⟩, clash, rfl, said⟩ := reason
    exact ⟨index, first, second, clash, rfl, (Option.some.inj said).symm⟩
  · intro reason
    obtain ⟨index, first, second, clash, rfl, rfl⟩ := reason
    exact ⟨index, (first, second), clash, rfl, rfl⟩

theorem reports_memberFaults (index : Nat) (decl : TypeDecl)
    (there : draft.types.items[index]? = some decl) :
    Reports Site.Before
      (fun site fault => draft.Wrong site fault ∧ ∃ place, site = .memberName index place)
      (memberFaults decl) := by
  have ordered : ∀ first second, first < second →
      (Site.memberName index first).Before (Site.memberName index second) := fun _ _ less => by
    simp [List.cons_lt_cons_iff, less]
  unfold memberFaults
  cases body : decl.body with
  | basic =>
    refine .nil fun site fault => ?_
    intro reason
    obtain ⟨isWrong, place, rfl⟩ := reason
    cases isWrong with
    | duplicateAttribute thereToo asEntity =>
      cases there.symm.trans thereToo
      cases body.symm.trans asEntity
    | duplicateValue thereToo asEnum =>
      cases there.symm.trans thereToo
      cases body.symm.trans asEnum
  | entity entity =>
    refine (reports_nameClashes _ _ (Site.memberName index) _ ordered).congr fun site fault => ?_
    constructor
    · intro reason
      obtain ⟨place, first, second, clash, rfl, rfl⟩ := reason
      exact ⟨.duplicateAttribute there body clash, place, rfl⟩
    · intro reason
      obtain ⟨isWrong, place, rfl⟩ := reason
      cases isWrong with
      | duplicateAttribute thereToo asEntity clash =>
        cases there.symm.trans thereToo
        cases body.symm.trans asEntity
        exact ⟨place, _, _, clash, rfl, rfl⟩
      | duplicateValue thereToo asEnum =>
        cases there.symm.trans thereToo
        cases body.symm.trans asEnum
  | enum enum =>
    refine (reports_nameClashes _ _ (Site.memberName index) _ ordered).congr fun site fault => ?_
    constructor
    · intro reason
      obtain ⟨place, first, second, clash, rfl, rfl⟩ := reason
      exact ⟨.duplicateValue there body clash, place, rfl⟩
    · intro reason
      obtain ⟨isWrong, place, rfl⟩ := reason
      cases isWrong with
      | duplicateAttribute thereToo asEntity =>
        cases there.symm.trans thereToo
        cases body.symm.trans asEntity
      | duplicateValue thereToo asEnum clash =>
        cases there.symm.trans thereToo
        cases body.symm.trans asEnum
        exact ⟨place, _, _, clash, rfl, rfl⟩

theorem reports_members :
    Reports Site.Before
      (fun site fault => ∃ index, draft.Wrong site fault ∧ ∃ place, site = .memberName index place)
      (draft.types.items.flatMap memberFaults) := by
  refine .flatMap _ reports_memberFaults ?_ ?_
  · rintro index _ fault ⟨isWrong, place, rfl⟩
    cases isWrong with
    | duplicateAttribute there => exact (List.getElem?_eq_some_iff.mp there).1
    | duplicateValue there => exact (List.getElem?_eq_some_iff.mp there).1
  · rintro first second _ _ _ _ less ⟨-, place, rfl⟩ ⟨-, other, rfl⟩
    simp [List.cons_lt_cons_iff, less]

theorem reports_functionNameFaults :
    Reports Site.Before
      (fun site fault => draft.Wrong site fault ∧
        ((∃ index, site = .inheritedName index) ∨ ∃ index, site = .functionName index))
      draft.functionNameFaults := by
  have inherited := reports_nameClashes draft.functionCasing
    (draft.ground.functions.values.map FunctionInfo.name) Site.inheritedName
    Fault.duplicateFunction fun _ _ less => by
      simp [List.cons_lt_cons_iff, less]
  have own := reports_nameClashes draft.functionCasing
    (draft.functions.items.map FunctionDecl.name) Site.functionName
    Fault.duplicateFunction fun _ _ less => by
      simp [List.cons_lt_cons_iff, less]
  unfold functionNameFaults
  rw [List.map_append]
  refine (inherited.append own ?_).congr fun site fault => ?_
  · rintro _ _ _ _ ⟨index, -, -, -, rfl, -⟩ ⟨other, -, -, -, rfl, -⟩
    simp [List.cons_lt_cons_iff]
  · constructor
    · intro reason
      rcases reason with ⟨index, first, second, clash, rfl, rfl⟩ |
        ⟨index, first, second, clash, rfl, rfl⟩
      · exact ⟨.duplicateInherited clash, Or.inl ⟨index, rfl⟩⟩
      · exact ⟨.duplicateFunction clash, Or.inr ⟨index, rfl⟩⟩
    · intro reason
      rcases reason with ⟨isWrong, ⟨index, rfl⟩ | ⟨index, rfl⟩⟩
      · cases isWrong with
        | duplicateInherited clash => exact Or.inl ⟨index, _, _, clash, rfl, rfl⟩
      · cases isWrong with
        | duplicateFunction clash => exact Or.inr ⟨index, _, _, clash, rfl, rfl⟩

theorem reports_nameFaults :
    Reports Site.Before (fun site fault => draft.Wrong site fault ∧ site.round = 1)
      draft.nameFaults := by
  refine (reports_members.append reports_functionNameFaults ?_).congr ?_
  · rintro _ _ _ _ ⟨index, -, place, rfl⟩ ⟨-, ⟨other, rfl⟩ | ⟨other, rfl⟩⟩ <;>
      simp [List.cons_lt_cons_iff]
  · intro site fault
    rw [Site.round_eq_one_iff, exists_and_left]
    exact and_or_left.symm

/-! ### The third round -/

theorem contains_sealedFunctions (name : String) :
    draft.sealedFunctions.contains name = true ↔ draft.HasFunction name := by
  unfold sealedFunctions HasFunction
  rw [NameTable.contains_ofList]
  constructor
  · intro ⟨entry, member, same⟩
    obtain ⟨function, functionMember, rfl⟩ := List.mem_map.mp member
    rcases List.mem_append.mp functionMember with inherited | own
    · exact Or.inr ⟨function, inherited, same⟩
    · obtain ⟨decl, declMember, rfl⟩ := List.mem_map.mp own
      exact Or.inl ⟨decl, declMember, same⟩
  · intro has
    rcases has with ⟨decl, member, same⟩ | ⟨function, member, same⟩
    · exact ⟨_, List.mem_map_of_mem (List.mem_append_right _ (List.mem_map_of_mem member)), same⟩
    · exact ⟨_, List.mem_map_of_mem (List.mem_append_left _ member), same⟩

theorem reports_functionRuleFaults :
    Reports Site.Before
      (fun site fault => draft.Wrong site fault ∧ ∃ index, site = .functionRule index)
      draft.functionRuleFaults := by
  refine (Reports.filterMap draft.functionRules.items _ Site.functionRule ?_).congr ?_
  · intro first second less
    simp [List.cons_lt_cons_iff, less]
  · intro site fault
    constructor
    · intro ⟨index, ⟨name, rule⟩, there, place, found⟩
      subst place
      change (if draft.sealedFunctions.contains name = true then none
        else some (Fault.unknownFunctionRuleTarget name rule)) = some fault at found
      by_cases contained : draft.sealedFunctions.contains name = true
      · rw [if_pos contained] at found
        cases found
      · rw [if_neg contained] at found
        cases found
        exact ⟨.unknownFunction there fun has =>
          contained ((contains_sealedFunctions name).mpr has), index, rfl⟩
    · intro ⟨isWrong, index, place⟩
      subst place
      cases isWrong with
      | unknownFunction there missing =>
        exact ⟨index, _, there, rfl,
          if_neg fun contained => missing ((contains_sealedFunctions _).mp contained)⟩

/-- What is said about a registration is what is wrong with it. -/
theorem registrationFault?_eq_some_iff (ground : draft.ground.WellFormed)
    (unique : draft.UniqueTags) (registration : Registration) (fault : Fault) :
    registrationFault? draft.skeleton registration = some fault ↔
      (¬ draft.Knows registration.target ∧ fault = .unknownRuleTarget registration) ∨
        ∃ name enabled, draft.Offers registration.target name enabled ∧
          enabled registration.capability = false ∧
            fault = .disabledCapability name registration := by
  unfold registrationFault?
  rw [resolve?_typeIndex]
  cases resolved : draft.skeleton.resolve? registration.target with
  | none =>
    have unknown := (resolve?_eq_none_iff ground unique _).mp resolved
    constructor
    · intro said
      exact Or.inl ⟨unknown, (Option.some.inj said).symm⟩
    · intro reason
      rcases reason with ⟨-, rfl⟩ | ⟨name, enabled, offer, -⟩
      · rfl
      · exact absurd ⟨name, enabled, offer⟩ unknown
  | some type =>
    have offer := offers_of_resolve? ground unique resolved
    show (if type.enables registration.capability = true then none
      else some (Fault.disabledCapability type.name registration)) = some fault ↔ _
    constructor
    · intro said
      split at said
      · cases said
      · next disabled =>
        exact Or.inr ⟨_, _, offer, Bool.not_eq_true _ ▸ disabled, (Option.some.inj said).symm⟩
    · intro reason
      rcases reason with ⟨unknown, -⟩ | ⟨name, enabled, otherOffer, disabled, rfl⟩
      · exact absurd ⟨_, _, offer⟩ unknown
      · obtain ⟨rfl, rfl⟩ := offer.unique unique otherOffer
        rw [if_neg (by rw [disabled]; exact Bool.false_ne_true)]

theorem reports_registrationFaults (ground : draft.ground.WellFormed)
    (unique : draft.UniqueTags) :
    Reports Site.Before
      (fun site fault => draft.Wrong site fault ∧ ∃ index, site = .registration index)
      (draft.registrations.filterMap (registrationFault? draft.skeleton)) := by
  refine (Reports.filterMap draft.registrations _ Site.registration ?_).congr ?_
  · intro first second less
    simp [List.cons_lt_cons_iff, less]
  · intro site fault
    constructor
    · intro ⟨index, registration, there, place, said⟩
      subst place
      rcases (registrationFault?_eq_some_iff ground unique _ _).mp said with
        ⟨unknown, rfl⟩ | ⟨name, enabled, offer, disabled, rfl⟩
      · exact ⟨.unknownTarget there unknown, index, rfl⟩
      · exact ⟨.disabledCapability there offer disabled, index, rfl⟩
    · intro ⟨isWrong, index, place⟩
      subst place
      cases isWrong with
      | unknownTarget there unknown =>
        exact ⟨index, _, there, rfl,
          (registrationFault?_eq_some_iff ground unique _ _).mpr (Or.inl ⟨unknown, rfl⟩)⟩
      | disabledCapability there offer disabled =>
        exact ⟨index, _, there, rfl, (registrationFault?_eq_some_iff ground unique _ _).mpr
          (Or.inr ⟨_, _, offer, disabled, rfl⟩)⟩

theorem reports_ruleFaults (ground : draft.ground.WellFormed) (unique : draft.UniqueTags) :
    Reports Site.Before (fun site fault => draft.Wrong site fault ∧ site.round = 2)
      draft.ruleFaults := by
  refine (reports_functionRuleFaults.append (reports_registrationFaults ground unique) ?_).congr ?_
  · intro _ _ _ _ ⟨_, index, first⟩ ⟨_, other, second⟩
    subst first
    subst second
    simp [List.cons_lt_cons_iff]
  · intro site fault
    rw [Site.round_eq_two_iff]
    exact and_or_left.symm

/-! ### All rounds -/

theorem uniqueTags_of_tagFaults (none : draft.tagFaults = []) : draft.UniqueTags := by
  have fine := reports_tagFaults.eq_nil_iff.mp none
  refine (Keyed.clashes_eq_nil_iff _).mp ?_
  refine (Keyed.reports_clashes draft.types.items).eq_nil_iff.mpr fun index pair clash => ?_
  obtain ⟨tag, claimed⟩ := Option.isSome_iff_exists.mp clash.2.1
  exact fine _ _ ⟨.ambiguousTag clash claimed, index, rfl⟩

/-- The faults of a draft are those of one round, and nothing is wrong in an earlier one. -/
theorem reports_faults (ground : draft.ground.WellFormed) :
    ∃ round, (∀ site fault, draft.Wrong site fault → round ≤ site.round) ∧
      Reports Site.Before (fun site fault => draft.Wrong site fault ∧ site.round = round)
        draft.faults ∧
      (draft.faults = [] → round = 2) := by
  have first := reports_referenceFaults ground
  have second := draft.reports_nameFaults
  unfold faults
  by_cases noFirst : draft.referenceFaults = []
  · have fineFirst := first.eq_nil_iff.mp noFirst
    rw [if_neg (not_not.mpr noFirst)]
    by_cases noSecond : draft.nameFaults = []
    · have fineSecond := second.eq_nil_iff.mp noSecond
      rw [if_neg (not_not.mpr noSecond)]
      have tagFaults : draft.tagFaults = [] :=
        (List.append_eq_nil_iff.mp (List.append_eq_nil_iff.mp noFirst).1).1
      refine ⟨2, fun site fault isWrong => ?_,
        reports_ruleFaults ground (uniqueTags_of_tagFaults tagFaults), fun _ => rfl⟩
      by_contra early
      rcases Nat.lt_or_ge site.round 1 with zero | one
      · exact fineFirst site fault ⟨isWrong, by omega⟩
      · exact fineSecond site fault ⟨isWrong, by omega⟩
    · rw [if_pos noSecond]
      refine ⟨1, fun site fault isWrong => ?_, second, fun none => absurd none noSecond⟩
      by_contra early
      exact fineFirst site fault ⟨isWrong, by omega⟩
  · rw [if_pos noFirst]
    exact ⟨0, fun site fault isWrong => Nat.zero_le _, first, fun none => absurd none noFirst⟩

/-- A draft has no faults exactly if nothing is wrong with it anywhere. -/
theorem faults_eq_nil_iff (ground : draft.ground.WellFormed) :
    draft.faults = [] ↔ ∀ site fault, ¬ draft.Wrong site fault := by
  obtain ⟨round, early, reports, last⟩ := reports_faults ground
  rw [reports.eq_nil_iff] at *
  constructor
  · intro fine site fault isWrong
    refine fine site fault ⟨isWrong, ?_⟩
    have bound := site.round_le
    have least := early site fault isWrong
    have final := last fine
    omega
  · intro fine site fault isWrong
    exact fine site fault isWrong.1

end Draft

end Metamodel
