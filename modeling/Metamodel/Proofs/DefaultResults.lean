/-
What an operator yields on a type for which nothing was registered.

The default is said to be the type of the operand. What is filed is a rule that names the type, and
the rule is read in the model that is asked. As long as the name of the type is not given away, the
two are the same. Once it is, the operator still works on the old type, whose row nobody empties,
but it yields the type that has the name now. A default for the new owner of the name goes into the
same row and reads the same, so it does not matter which of the layers filled it in, as long as none
of them registered a rule of its own for a type of that name.
-/

import Metamodel.Proofs.Defaults
import Metamodel.Proofs.Layers

namespace Metamodel

namespace Draft

open RuleTable

variable {draft : Draft}

/-- The draft registers no rule for a capability of a type of that name. -/
def LeavesDefault (draft : Draft) (name : String) (capability : Capability) : Prop :=
  ∀ registration ∈ draft.registrations, registration.capability = capability →
    ∀ type, draft.assemble.resolve? registration.target = some type → type.name ≠ name

/-- The row of a type's name is empty or holds the default. -/
def AtDefault (type : TypeInfo) (capability : Capability) (table : RuleTable) : Prop :=
  ∀ rule, table.row? (.named type.name) capability = some rule →
    rule = defaultRule type capability

/-- A rule may be filed if it is filed in another row, or is the default. -/
theorem AtDefault.insert {type : TypeInfo} {capability : Capability} {table : RuleTable}
    (kept : AtDefault type capability table) {other : TypeInfo} {filed : Capability}
    {rule : OperandRule} (harmless : other.name = type.name → filed = capability →
      rule = defaultRule type capability) :
    AtDefault type capability (table.insert other filed rule) := by
  intro found
  rw [row?_insert]
  split
  · next both =>
    rintro ⟨⟩
    exact harmless both.1 both.2.symm
  · exact kept found

/-- One build leaves the row of a name at the default, if nothing is registered for it. -/
theorem atDefault_sealedRules {type : TypeInfo} {capability : Capability}
    (leaves : draft.LeavesDefault type.name capability)
    (below : AtDefault type capability draft.ground.rules) :
    AtDefault type capability draft.sealedRules := by
  refine fillRules_induction (motive := AtDefault type capability) ?_ ?_
  · refine foldl_fileRule_induction below fun table registration member other registered kept => ?_
    refine kept.insert fun named filed => ?_
    exact absurd named (leaves registration member filed other
      ((registeredType?_eq_some_iff _ _ _).mp registered).1)
  · intro table other _ filed _ _ kept
    refine kept.insert fun named same => ?_
    rw [same]
    exact defaultRule_congr named capability

end Draft

namespace Model

/-- In a chain of layers none of which registered a rule for a capability of a type, every type that
enables the capability is decided by the default. -/
theorem Layers.rule?_eq_default {model : Model} {drafts : List Draft}
    (layers : model.Layers drafts) {type : TypeInfo} (member : type ∈ model.arena)
    {capability : Capability} (enabled : type.enables capability = true)
    (leave : ∀ draft ∈ drafts, draft.LeavesDefault type.name capability) :
    model.rule? type.name capability = some (Draft.defaultRule type capability) := by
  have default : Draft.AtDefault type capability model.rules := by
    refine layers.invariant (motive := fun drafts model =>
      (∀ draft ∈ drafts, draft.LeavesDefault type.name capability) →
        Draft.AtDefault type capability model.rules) (fun _ _ found => nomatch found) ?_ leave
    intro draft drafts _ _ below leave
    exact Draft.atDefault_sealedRules (leave draft List.mem_cons_self)
      (below fun other inside => leave other (List.mem_cons_of_mem draft inside))
  obtain ⟨rule, filed⟩ := Option.isSome_iff_exists.mp
    (layers.built.covered type member capability enabled)
  rw [← default rule filed]
  exact filed

/-- An operator for which no layer registered a rule yields the newest type of the operand's name.
This is the operand's own type, unless a layer has given the name to a newer one. -/
theorem Layers.default_result [CustomRules] {model : Model} {drafts : List Draft}
    (layers : model.Layers drafts) {type : TypeInfo} (member : type ∈ model.arena) (plain : type.isCollection = false)
    {operator : Operator} (enabled : type.enables (.operator operator) = true)
    (leave : ∀ draft ∈ drafts, draft.LeavesDefault type.name (.operator operator)) :
    ∃ current, model.Newest (.named type.name) current ∧
      (current = type ∨ type.handle < current.handle) ∧
        ∀ rest, model.capabilityResult (.operator operator) (type :: rest) = .ok current := by
  have built := layers.built
  have itself : type.AnswersTo (.named type.name) := rfl
  obtain ⟨current, named, younger⟩ := built.exists_resolve? member plain itself
  have newest := (built.resolve?_eq_some_iff (.named type.name) current).mp named
  refine ⟨current, newest, younger, fun rest => ?_⟩
  rw [capabilityResult_of_rule? (layers.rule?_eq_default member enabled leave) enabled]
  exact (model.lookup_eq_ok_iff (.named type.name) current).mpr named

/-! ### A type that has lost its name -/

theorem layers_archive : Draft.archive.assemble.Layers [Draft.archive, Draft.household] :=
  .upon (.alone rfl Draft.build_household) rfl (Draft.build_of_faults (by decide))

/-- No rule was registered by any of the layers of the archive. -/
theorem registrations_archive : ∀ draft ∈ [Draft.archive, Draft.household],
    draft.registrations = [] := by
  intro draft listed
  rcases List.mem_pair.mp listed with rfl | rfl
  · rfl
  · rfl

/-- The old texts in the archive, which can still be joined. -/
theorem archive_text : ∃ text, Draft.archive.assemble.typeAt? 2 = some text ∧
    text.isCollection = false ∧ text.handle = 2 ∧ text.name = "String" ∧
      text.enables (.operator .plus) = true := by
  have shown : (Draft.archive.assemble.typeAt? 2).map (fun type => (type.isCollection,
      type.handle, type.name, type.enables (.operator .plus))) =
        some (false, 2, "String", true) := by
    decide
  obtain ⟨text, there, equal⟩ := Option.map_eq_some_iff.mp shown
  exact ⟨text, there, by simpa using equal⟩

/-- Two of the old texts are joined to one of the new ones. -/
theorem Layers.default_result_text :
    Draft.archive.assemble.Layers [Draft.archive, Draft.household] ∧
      ∃ text ∈ Draft.archive.assemble.arena, text.isCollection = false ∧
        text.enables (.operator .plus) = true ∧
          (∀ draft ∈ [Draft.archive, Draft.household],
            draft.LeavesDefault text.name (.operator .plus)) ∧
            ∃ current, Draft.archive.assemble.Newest (.named text.name) current ∧
              Draft.archive.assemble.capabilityResult (.operator .plus) [text, text] =
                .ok current := by
  obtain ⟨text, there, plain, -, -, enabled⟩ := archive_text
  have member : text ∈ Draft.archive.assemble.arena := List.mem_of_getElem? there
  have leave : ∀ draft ∈ [Draft.archive, Draft.household],
      draft.LeavesDefault text.name (.operator .plus) := by
    intro draft listed registration registered
    rw [registrations_archive draft listed] at registered
    cases registered
  obtain ⟨current, newest, -, yields⟩ :=
    Layers.default_result layers_archive member plain enabled leave
  exact ⟨layers_archive, text, member, plain, enabled, leave, current, newest, yields [text]⟩

/-- An operator does not always yield the type of the operand, not even if no layer registered any
rule for it. -/
theorem not_default_result :
    ¬ ∀ (model : Model) (drafts : List Draft), model.Layers drafts → ∀ type ∈ model.arena,
      type.isCollection = false → ∀ operator, type.enables (.operator operator) = true →
        (∀ draft ∈ drafts, ∀ registration ∈ draft.registrations,
          registration.capability ≠ .operator operator) →
          ∀ rest, model.capabilityResult (.operator operator) (type :: rest) = .ok type := by
  intro yields
  obtain ⟨text, there, plain, place, name, enabled⟩ := archive_text
  have own := yields _ _ layers_archive text (List.mem_of_getElem? there) plain .plus enabled
    (by
      intro draft listed registration registered
      rw [registrations_archive draft listed] at registered
      cases registered) []
  have rule : Draft.archive.assemble.rule? text.name (.operator .plus) =
      some (.fixed (.named "String")) := by
    rw [name]
    decide +kernel
  have current : (Draft.archive.assemble.resolve? (.named "String")).map TypeInfo.handle =
      some 6 := by
    decide
  obtain ⟨newer, found, newerPlace⟩ := Option.map_eq_some_iff.mp current
  rw [capabilityResult_of_rule? rule enabled] at own
  have yielded := (Draft.archive.assemble.lookup_eq_ok_iff (.named "String") text).mp own
  rw [found] at yielded
  cases yielded
  rw [place] at newerPlace
  cases newerPlace

end Model

end Metamodel
