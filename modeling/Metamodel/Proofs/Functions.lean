/-
The functions of a new model.

A draft lays its functions over those of the model below, and its rules for functions over the rules
below. Both tables are filled anew and compare names as the draft does, which need not be how names
were compared below. What is found under a name is the draft's own function of a name that counts as
the same, or else one of the functions below under the new comparison. Where the comparison has not
changed, filling anew changes nothing.
-/

import Metamodel.Proofs.Binding
import Metamodel.Proofs.Layering
import Metamodel.Proofs.Layers

namespace Metamodel

namespace NameTable

variable {α : Type}

/-- Names that count as the same find the same. -/
theorem find?_congr (table : NameTable α) {name other : String}
    (same : table.casing.key name = table.casing.key other) :
    table.find? name = table.find? other :=
  congrArg table.entries.find? same

theorem get?_congr (table : NameTable α) {name other : String}
    (same : table.casing.key name = table.casing.key other) :
    table.get? name = table.get? other :=
  congrArg (Option.map Prod.snd) (table.find?_congr same)

/-- A table is filled anew with its own entries. -/
theorem ofList_toList (table : NameTable α) : ofList table.casing table.toList = table := by
  rw [ofList_eq]
  exact congrArg (NameTable.mk table.casing) (Keyed.ext (Keyed.items_ofList table.entries.distinct))

/-- Entries under other names are not found. -/
theorem get?_ofList_append_of_foreign {casing : Casing} (earlier : List (String × α))
    {later : List (String × α)} {name : String}
    (foreign : ∀ entry ∈ later, casing.key entry.1 ≠ casing.key name) :
    (ofList casing (earlier ++ later)).get? name = (ofList casing earlier).get? name := by
  have absent : later.reverse.find? (fun entry => casing.key entry.1 = casing.key name) = none := by
    rw [List.find?_eq_none]
    intro entry member
    simpa using foreign entry (List.mem_reverse.mp member)
  unfold get?
  rw [find?_ofList, find?_ofList, List.reverse_append, List.find?_append, absent, Option.none_or]

theorem exists_get?_iff (table : NameTable α) (name : String) :
    (∃ value, table.get? name = some value) ↔ table.contains name = true := by
  rw [← Option.isSome_iff_exists]
  unfold get? contains
  rw [Option.isSome_map]

/-- What a name finds is listed under a name that counts as the same. -/
theorem exists_entry_of_get? {table : NameTable α} {name : String} {value : α}
    (found : table.get? name = some value) :
    ∃ spelled, (spelled, value) ∈ table.toList ∧
      table.casing.key spelled = table.casing.key name := by
  obtain ⟨entry, there, rfl⟩ := Option.map_eq_some_iff.mp found
  have inTable : table.entries.find? (table.casing.key name) = some entry := there
  have same := Keyed.key_of_find? inTable
  exact ⟨entry.1, Keyed.mem_of_find? inTable, same⟩

/-- What is listed under a name is found under it. -/
theorem get?_of_mem_toList {table : NameTable α} {entry : String × α}
    (member : entry ∈ table.toList) : table.get? entry.1 = some entry.2 :=
  Option.map_eq_some_iff.mpr
    ⟨entry, (Keyed.find?_eq_some_iff table.entries).mpr ⟨member, rfl⟩, rfl⟩

end NameTable

namespace Draft

variable {draft : Draft}

/-! ### Functions -/

/-- A function of the draft's own is found under every name that counts as its own. -/
theorem function?_of_own (buildable : draft.Buildable) {decl : FunctionDecl}
    (member : decl ∈ draft.functions.items) {name : String}
    (same : draft.functionCasing.key decl.name = draft.functionCasing.key name) :
    draft.assemble.function? name = some (draft.sealFunction decl) := by
  rw [← function?_own buildable member]
  refine (NameTable.get?_congr draft.sealedFunctions ?_).symm
  rw [casing_sealedFunctions]
  exact same

/-- Under any other name there is what the functions below, compared as the draft does, have. -/
theorem function?_of_foreign {name : String} (foreign : ∀ decl ∈ draft.functions.items,
      draft.functionCasing.key decl.name ≠ draft.functionCasing.key name) :
    draft.assemble.function? name = (NameTable.ofList draft.functionCasing
      (draft.ground.functions.values.map fun function => (function.name, function))).get? name := by
  show draft.sealedFunctions.get? name = _
  unfold sealedFunctions
  rw [List.map_append]
  refine NameTable.get?_ofList_append_of_foreign _ fun entry member => ?_
  obtain ⟨function, functionMember, rfl⟩ := List.mem_map.mp member
  obtain ⟨decl, declMember, rfl⟩ := List.mem_map.mp functionMember
  exact foreign decl declMember

theorem exists_function?_iff (name : String) :
    (∃ function, draft.assemble.function? name = some function) ↔ draft.HasFunction name :=
  (draft.sealedFunctions.exists_get?_iff name).trans (contains_sealedFunctions name)

/-! ### Rules -/

theorem casing_sealedFunctionRules (draft : Draft) :
    draft.sealedFunctionRules.casing = draft.functionCasing := by
  unfold sealedFunctionRules
  rw [NameTable.ofList_eq]

/-- There is a rule under a name exactly if one was filed below or registered under a name that
counts as the same. -/
theorem exists_functionRule?_iff (name : String) :
    (∃ rule, draft.assemble.functionRule? name = some rule) ↔
      ∃ entry ∈ draft.ground.functionRules.toList ++ draft.functionRules.items,
        draft.functionCasing.key entry.1 = draft.functionCasing.key name :=
  (draft.sealedFunctionRules.exists_get?_iff name).trans (NameTable.contains_ofList _ _ name)

/-- A name for which no rule is registered finds what the rules below, compared as the draft does,
have for it. -/
theorem functionRule?_of_foreign {name : String} (foreign : ∀ entry ∈ draft.functionRules.items,
      draft.functionCasing.key entry.1 ≠ draft.functionCasing.key name) :
    draft.assemble.functionRule? name =
      (NameTable.ofList draft.functionCasing draft.ground.functionRules.toList).get? name :=
  NameTable.get?_ofList_append_of_foreign _ foreign

end Draft

/-! ### In all models -/

namespace Model

/-- The functions of a model are listed under their names, and its rules compare names as its
functions do. -/
structure NamesFunctions (model : Model) : Prop where
  named : model.functions.toList =
    model.functions.values.map fun function => (function.name, function)
  casing : model.functionRules.casing = model.functions.casing

theorem Built.namesFunctions {model : Model} (built : model.Built) : model.NamesFunctions := by
  refine built.invariant ⟨rfl, rfl⟩ fun draft _ _ _ =>
    ⟨Draft.Layered.toList_sealedFunctions draft, ?_⟩
  exact draft.casing_sealedFunctionRules.trans draft.casing_sealedFunctions.symm

theorem NamesFunctions.function?_of_mem {model : Model} (names : model.NamesFunctions)
    {function : FunctionInfo} (member : function ∈ model.functions.values) :
    model.function? function.name = some function := by
  have listed : (function.name, function) ∈ model.functions.toList := by
    rw [names.named]
    exact List.mem_map_of_mem member
  exact NameTable.get?_of_mem_toList listed

theorem NamesFunctions.distinct {model : Model} (names : model.NamesFunctions) :
    (model.functions.values.map fun function => model.functionCasing.key function.name).Nodup := by
  have distinct : (model.functions.toList.map fun entry =>
    model.functionCasing.key entry.1).Nodup := model.functions.entries.distinct
  rw [names.named, List.map_map] at distinct
  exact distinct

/-- What a name finds is a function of which the name counts as the same. -/
theorem NamesFunctions.mem_of_function? {model : Model} (names : model.NamesFunctions)
    {name : String} {function : FunctionInfo} (found : model.function? name = some function) :
    function ∈ model.functions.values ∧
      model.functionCasing.key function.name = model.functionCasing.key name := by
  obtain ⟨spelled, listed, same⟩ := NameTable.exists_entry_of_get? found
  refine ⟨List.mem_map_of_mem listed, ?_⟩
  rw [names.named] at listed
  obtain ⟨_, -, equal⟩ := List.mem_map.mp listed
  obtain ⟨rfl, rfl⟩ := Prod.mk.inj equal
  exact same

theorem NamesFunctions.function?_eq_some_iff {model : Model} (names : model.NamesFunctions)
    (name : String) (function : FunctionInfo) :
    model.function? name = some function ↔ function ∈ model.functions.values ∧
      model.functionCasing.key function.name = model.functionCasing.key name := by
  constructor
  · exact names.mem_of_function?
  · rintro ⟨member, same⟩
    rw [← names.function?_of_mem member]
    exact NameTable.get?_congr model.functions same.symm

end Model

theorem Draft.Grounded.namesFunctions {draft : Draft} (grounded : draft.Grounded) :
    draft.ground.NamesFunctions := by
  rcases grounded.ground_cases with empty | built
  · rw [empty]
    exact ⟨rfl, rfl⟩
  · exact built.namesFunctions

end Metamodel
