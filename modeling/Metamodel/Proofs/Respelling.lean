/-
Rules for one function under several spellings.

A draft keeps the rules for functions by their spelling, in the order in which the spellings first
came up; a rule for a spelling that is known already replaces the one there and does not move to the
end. Only the build compares names as the draft does, and goes over the spellings in that order. So
a function gets the last rule for the spelling of its name that came up last, which is the rule
registered last for it if names have one spelling only, and need not be if they have several.
-/

import Metamodel.Proofs.Functions
import Metamodel.Proofs.Registering

namespace Metamodel

namespace Casing

variable {α : Type}

/-- The last of some entries whose name counts as a given one. -/
def lastOf? (casing : Casing) (entries : List (String × α)) (name : String) :
    Option (String × α) :=
  entries.reverse.find? fun entry => casing.key entry.1 = casing.key name

/-- Of the spellings of a name the one that came up last, where it does not count that a spelling
came up again. -/
def newestSpelling? (casing : Casing) (entries : List (String × α)) (name : String) :
    Option String :=
  (entries.map Prod.fst).eraseDups.reverse.find? fun spelled => casing.key spelled = casing.key name

variable {casing : Casing} {entries : List (String × α)} {name : String}

theorem key_lastOf? {last : String × α} (found : casing.lastOf? entries name = some last) :
    casing.key last.1 = casing.key name :=
  of_decide_eq_true
    (List.find?_some (p := fun entry : String × α => casing.key entry.1 = casing.key name) found)

/-- A name that some entry has is spelled somehow. -/
theorem exists_newestSpelling?_of_lastOf? {last : String × α}
    (found : casing.lastOf? entries name = some last) :
    ∃ newest, casing.newestSpelling? entries name = some newest := by
  rw [← Option.isSome_iff_exists]
  unfold newestSpelling?
  rw [List.find?_isSome]
  have member : last ∈ entries := List.mem_reverse.mp (List.mem_of_find?_eq_some found)
  exact ⟨last.1, List.mem_reverse.mpr (List.mem_eraseDups.mpr (List.mem_map_of_mem member)),
    decide_eq_true (key_lastOf? found)⟩

theorem key_newestSpelling? {newest : String}
    (found : casing.newestSpelling? entries name = some newest) :
    casing.key newest = casing.key name := by
  simpa using List.find?_some found

/-- The newest spelling is the name of an entry, and of a last one. -/
theorem exists_lastOf?_newestSpelling? {newest : String}
    (found : casing.newestSpelling? entries name = some newest) :
    ∃ value, sensitive.lastOf? entries newest = some (newest, value) := by
  obtain ⟨entry, member, spelled⟩ := List.mem_map.mp
    (List.mem_eraseDups.mp (List.mem_reverse.mp (List.mem_of_find?_eq_some found)))
  have isSome : (sensitive.lastOf? entries newest).isSome = true := by
    unfold lastOf?
    rw [List.find?_isSome]
    exact ⟨entry, List.mem_reverse.mpr member, decide_eq_true spelled⟩
  obtain ⟨⟨other, value⟩, last⟩ := Option.isSome_iff_exists.mp isSome
  have same : other = newest := key_lastOf? last
  exact ⟨value, same ▸ last⟩

/-- The last entry for a name is the last one that spells it so. -/
theorem lastOf?_sensitive_of_lastOf? {spelled : String} {value : α}
    (found : casing.lastOf? entries name = some (spelled, value)) :
    sensitive.lastOf? entries spelled = some (spelled, value) := by
  obtain ⟨same, later, earlier, split, foreign⟩ := List.find?_eq_some_iff_append.mp found
  refine List.find?_eq_some_iff_append.mpr
    ⟨decide_eq_true rfl, later, earlier, split, fun entry member => ?_⟩
  have unequal := foreign entry member
  simp only [Bool.not_eq_true', decide_eq_false_iff_not, decide_eq_true_eq] at same unequal ⊢
  intro equal
  have equal : entry.1 = spelled := equal
  exact unequal (equal ▸ same)

end Casing

namespace NameTable

variable {α : Type}

/-- If entries are first kept by their spelling and then compared, what is found is the last entry
for the newest spelling. -/
theorem find?_ofList_ofList (casing : Casing) (entries : List (String × α)) (name : String) :
    (ofList casing (Keyed.ofList entries : Table String α).items).find? name =
      (casing.newestSpelling? entries name).bind (Casing.sensitive.lastOf? entries) := by
  rw [find?_ofList, Keyed.find?_reverse_items (Keyed.ofList entries : Table String α)
    (fun spelled => casing.key spelled = casing.key name), Keyed.keys_ofList]
  refine congrArg (Option.bind _) (funext fun spelled => ?_)
  unfold Keyed.ofList
  rw [Keyed.find?_insertAll]
  exact Option.or_none

end NameTable

namespace Draft

variable {draft : Draft} {declarations : List Declaration}

/-- The rule for a name is the last one for its newest spelling in the draft, and else one from
below. -/
theorem ComesOf.functionRule?_assemble (made : draft.ComesOf declarations) (name : String) :
    draft.assemble.functionRule? name =
      (((draft.functionCasing.newestSpelling? (Declaration.functionRules declarations) name).bind
        (Casing.sensitive.lastOf? (Declaration.functionRules declarations))).or
          ((NameTable.ofList draft.functionCasing draft.ground.functionRules.toList).find?
            name)).map Prod.snd := by
  show draft.sealedFunctionRules.get? name = _
  unfold sealedFunctionRules NameTable.get?
  rw [made.functionRules_eq, NameTable.find?_ofList, List.reverse_append, List.find?_append,
    ← NameTable.find?_ofList, ← NameTable.find?_ofList, NameTable.find?_ofList_ofList]

/-- A function for which rules were registered gets the last one for the spelling of its name that
came up last. This is the rule that was registered last for the function if it has that spelling, as
it does wherever all spellings are told apart. -/
theorem Grounded.functionRule?_of_newestSpelling (grounded : draft.Grounded)
    (made : draft.ComesOf declarations) {model : Model} (built : draft.build = .ok model)
    {name spelled : String} {rule : FunctionRule}
    (last : draft.functionCasing.lastOf? (Declaration.functionRules declarations) name =
      some (spelled, rule)) :
    ∃ newest kept,
      draft.functionCasing.newestSpelling? (Declaration.functionRules declarations) name =
          some newest ∧
        Casing.sensitive.lastOf? (Declaration.functionRules declarations) newest =
            some (newest, kept) ∧
          model.functionRule? name = some kept ∧
            (newest = spelled → kept = rule) ∧
              (draft.functionCasing = .sensitive → newest = spelled) := by
  obtain ⟨-, rfl⟩ := (build_eq_ok_iff grounded.wellFormed model).mp built
  obtain ⟨newest, newestFound⟩ := Casing.exists_newestSpelling?_of_lastOf? last
  obtain ⟨kept, keptLast⟩ := Casing.exists_lastOf?_newestSpelling? newestFound
  refine ⟨newest, kept, newestFound, keptLast, ?_, ?_, ?_⟩
  · rw [made.functionRule?_assemble, newestFound, Option.bind_some, keptLast]
    rfl
  · rintro rfl
    rw [Casing.lastOf?_sensitive_of_lastOf? last] at keptLast
    exact (congrArg Prod.snd (Option.some.inj keptLast)).symm
  · intro sensitive
    have newestSame := Casing.key_newestSpelling? newestFound
    have lastSame := Casing.key_lastOf? last
    rw [sensitive] at newestSame lastSame
    exact newestSame.trans lastSame.symm

/-! ### A rule registered once too often -/

/-- Three rules for sums, whose spellings count as one name. The last rule is for the spelling that
came up first. -/
def tallyDeclarations : List Declaration :=
  [.functionCasing .insensitive,
    .type (.ofBody "Integer" .basic),
    .type (.ofBody "Decimal" .basic),
    .function "sum" [.result (.named "Integer")],
    .functionRule "SUM" (.fixed (.named "Integer")),
    .functionRule "sum" (.fixed (.named "Decimal")),
    .functionRule "SUM" .firstArgument]

def tally : Draft := said ((upon none).declareAll tallyDeclarations)

theorem comesOf_tally : tally.ComesOf tallyDeclarations := rfl

theorem grounded_tally : tally.Grounded := by rintro _ ⟨⟩

theorem build_tally : tally.build = .ok tally.assemble := build_of_faults (by decide)

theorem lastOf?_tally : tally.functionCasing.lastOf? (Declaration.functionRules tallyDeclarations)
    "sum" = some ("SUM", .firstArgument) := by
  decide

/-- Sums get the second rule. -/
theorem Grounded.functionRule?_of_newestSpelling_tally :
    tally.Grounded ∧ tally.ComesOf tallyDeclarations ∧ tally.build = .ok tally.assemble ∧
      tally.functionCasing.lastOf? (Declaration.functionRules tallyDeclarations) "sum" =
          some ("SUM", .firstArgument) ∧
        tally.assemble.functionRule? "sum" = some (.fixed (.named "Decimal")) := by
  obtain ⟨newest, kept, newestFound, keptLast, ruled, -⟩ :=
    Grounded.functionRule?_of_newestSpelling grounded_tally comesOf_tally build_tally lastOf?_tally
  have spelled : tally.functionCasing.newestSpelling?
      (Declaration.functionRules tallyDeclarations) "sum" = some "sum" := by
    decide
  rw [spelled] at newestFound
  obtain rfl := Option.some.inj newestFound
  have second : Casing.sensitive.lastOf? (Declaration.functionRules tallyDeclarations) "sum" =
      some ("sum", .fixed (.named "Decimal")) := by
    decide
  rw [second] at keptLast
  obtain rfl := congrArg Prod.snd (Option.some.inj keptLast)
  exact ⟨grounded_tally, comesOf_tally, build_tally, lastOf?_tally, ruled⟩

/-- A function does not always get the rule that was registered last for it. -/
theorem not_functionRule?_of_lastOf? :
    ¬ ∀ (draft : Draft) (declarations : List Declaration) (model : Model), draft.Grounded →
      draft.ComesOf declarations → draft.build = .ok model →
        ∀ function ∈ model.functions.values, ∀ spelled rule,
          draft.functionCasing.lastOf? (Declaration.functionRules declarations) function.name =
              some (spelled, rule) →
            model.functionRule? function.name = some rule := by
  intro lastWins
  have listed : tally.assemble.functions.values.map FunctionInfo.name = ["sum"] := by
    decide
  have given : tally.assemble.functionRule? "sum" = some (.fixed (.named "Decimal")) := by
    decide
  obtain ⟨function, member, name⟩ :=
    List.mem_map.mp (listed ▸ List.mem_singleton.mpr rfl : "sum" ∈ _)
  have last := lastWins tally tallyDeclarations tally.assemble grounded_tally comesOf_tally
    build_tally function member "SUM" .firstArgument (name ▸ lastOf?_tally)
  rw [name, given] at last
  cases last

end Draft

end Metamodel
