/-
Where rules are filed.

A table of rules is read row by row: a row belongs to a name or to a tag, and to a capability. A
rule is always filed for a type, and then it goes into the row of its name and, if it has one, into
the row of its tag. That is all that ever happens to a table while a model is assembled, so whatever
an insertion keeps is kept from the model below to the new one. Nothing is ever taken out of a row,
and no row is filled but for a type that enables the capability.

Tables are compared on some of their rows at a time. What is filed for a type to which none of these
rows belongs may be left out of the comparison.
-/

import Metamodel.Proofs.Built

namespace Metamodel

/-- A type is spoken of by its name or by its tag. -/
def TypeInfo.AnswersTo (type : TypeInfo) : Reference → Prop
  | .named name => type.name = name
  | .tagged tag => type.tag = some tag

instance (type : TypeInfo) (reference : Reference) : Decidable (type.AnswersTo reference) :=
  match reference with
  | .named name => inferInstanceAs (Decidable (type.name = name))
  | .tagged tag => inferInstanceAs (Decidable (type.tag = some tag))

/-- A type of a draft's own is spoken of as its declaration is. -/
theorem Draft.answersTo_sealType (draft : Draft) (decl : TypeDecl) (handle : TypeHandle)
    (reference : Reference) :
    (draft.sealType decl handle).AnswersTo reference ↔ decl.AnswersTo reference := by
  cases reference <;> exact Iff.rfl

namespace RuleTable

/-- The rule that is filed under a reference. -/
def row? (table : RuleTable) : Reference → Capability → Option OperandRule
  | .named name, capability => table.get? name capability
  | .tagged tag, capability => table.getByTag? tag capability

/-- A rule goes into the rows of the type it is filed for, and into no others. -/
theorem row?_insert (table : RuleTable) (type : TypeInfo) (capability : Capability)
    (rule : OperandRule) (reference : Reference) (wanted : Capability) :
    (table.insert type capability rule).row? reference wanted =
      if type.AnswersTo reference ∧ wanted = capability then some rule
      else table.row? reference wanted := by
  cases reference with
  | named name =>
    show (table.byName.set (type.name, capability) rule).get? (name, wanted) = _
    by_cases same : type.name = name ∧ wanted = capability
    · obtain ⟨rfl, rfl⟩ := same
      rw [Table.get?_set_self, if_pos ⟨rfl, rfl⟩]
    · rw [if_neg (show ¬ (type.AnswersTo (.named name) ∧ wanted = capability) from same)]
      refine Table.get?_set_other _ _ fun equal => ?_
      obtain ⟨rfl, rfl⟩ := Prod.mk.inj equal
      exact same ⟨rfl, rfl⟩
  | tagged tag =>
    unfold insert
    dsimp only [row?]
    cases carries : type.tag with
    | none =>
      have silent : ¬ type.AnswersTo (.tagged tag) := by
        intro answers
        rw [show type.tag = some tag from answers] at carries
        cases carries
      rw [if_neg fun both => silent both.1]
      rfl
    | some carried =>
      have answers : type.AnswersTo (.tagged tag) ↔ carried = tag := by
        show type.tag = some tag ↔ carried = tag
        rw [carries, Option.some.injEq]
      by_cases same : carried = tag ∧ wanted = capability
      · obtain ⟨rfl, rfl⟩ := same
        rw [if_pos ⟨answers.mpr rfl, rfl⟩]
        exact Table.get?_set_self _ _ _
      · rw [if_neg fun both => same ⟨answers.mp both.1, both.2⟩]
        refine Table.get?_set_other _ _ fun equal => ?_
        obtain ⟨rfl, rfl⟩ := Prod.mk.inj equal
        exact same ⟨rfl, rfl⟩

/-- A row that is filled stays filled. -/
theorem row?_insert_isSome {table : RuleTable} {reference : Reference} {wanted : Capability}
    (filled : (table.row? reference wanted).isSome = true) (type : TypeInfo)
    (capability : Capability) (rule : OperandRule) :
    ((table.insert type capability rule).row? reference wanted).isSome = true := by
  rw [row?_insert]
  split
  · rfl
  · exact filled

/-! ### Comparing tables -/

/-- The tables have the same rules in some rows. -/
def AgreeOn (rows : Reference → Capability → Prop) (first second : RuleTable) : Prop :=
  ∀ reference capability, rows reference capability →
    first.row? reference capability = second.row? reference capability

/-- A rule for the type would be filed outside of some rows. -/
def Spares (rows : Reference → Capability → Prop) (type : TypeInfo) (capability : Capability) :
    Prop :=
  ∀ reference, type.AnswersTo reference → ¬ rows reference capability

namespace AgreeOn

variable {rows : Reference → Capability → Prop} {first second third : RuleTable}

theorem refl (rows : Reference → Capability → Prop) (table : RuleTable) :
    AgreeOn rows table table := fun _ _ _ => rfl

theorem symm (agree : AgreeOn rows first second) : AgreeOn rows second first :=
  fun reference capability inside => (agree reference capability inside).symm

theorem trans (agree : AgreeOn rows first second) (next : AgreeOn rows second third) :
    AgreeOn rows first third := fun reference capability inside =>
  (agree reference capability inside).trans (next reference capability inside)

theorem insert (agree : AgreeOn rows first second) (type : TypeInfo) (capability : Capability)
    (rule : OperandRule) :
    AgreeOn rows (first.insert type capability rule) (second.insert type capability rule) := by
  intro reference wanted inside
  rw [row?_insert, row?_insert, agree reference wanted inside]

theorem insert_left (agree : AgreeOn rows first second) {type : TypeInfo}
    {capability : Capability} (spares : Spares rows type capability) (rule : OperandRule) :
    AgreeOn rows (first.insert type capability rule) second := by
  intro reference wanted inside
  rw [row?_insert, if_neg, agree reference wanted inside]
  rintro ⟨answers, rfl⟩
  exact spares reference answers inside

end AgreeOn

end RuleTable

namespace Draft

open RuleTable

variable {rows : Reference → Capability → Prop} {first second : RuleTable}

/-! ### Filing registrations -/

theorem agreeOn_foldl_fileRule (agree : AgreeOn rows first second) (model : Model)
    (registrations : List Registration) :
    AgreeOn rows (registrations.foldl (fileRule model) first)
      (registrations.foldl (fileRule model) second) := by
  induction registrations generalizing first second with
  | nil => exact agree
  | cons head rest inductionHypothesis =>
    refine inductionHypothesis ?_
    unfold fileRule
    split
    · exact agree.insert _ _ _
    · exact agree

/-- What outlasts the filing of each registration outlasts the filing of all. -/
theorem foldl_fileRule_induction {motive : RuleTable → Prop} {model : Model} {table : RuleTable}
    (start : motive table) {registrations : List Registration}
    (filed : ∀ table, ∀ registration ∈ registrations, ∀ type,
      registeredType? model registration = some type → motive table →
        motive (table.insert type registration.capability registration.rule)) :
    motive (registrations.foldl (fileRule model) table) := by
  refine List.foldlRecOn (motive := motive) _ _ start fun table kept registration member => ?_
  unfold fileRule
  split
  · next type registered => exact filed table registration member type registered kept
  · exact kept

/-- Registrations that are filed elsewhere may be left out. -/
theorem agreeOn_foldl_fileRule_filter (agree : AgreeOn rows first second) (model : Model)
    (keep : Registration → Bool) (registrations : List Registration)
    (elsewhere : ∀ registration ∈ registrations, keep registration = false →
      ∀ type, registeredType? model registration = some type →
        Spares rows type registration.capability) :
    AgreeOn rows (registrations.foldl (fileRule model) first)
      ((registrations.filter keep).foldl (fileRule model) second) := by
  induction registrations generalizing first second with
  | nil => exact agree
  | cons head rest inductionHypothesis =>
    have elsewhereRest := fun registration member =>
      elsewhere registration (List.mem_cons_of_mem head member)
    rw [List.foldl_cons]
    cases kept : keep head with
    | true =>
      rw [List.filter_cons_of_pos kept, List.foldl_cons]
      exact inductionHypothesis (agreeOn_foldl_fileRule agree model [head]) elsewhereRest
    | false =>
      rw [List.filter_cons_of_neg (by rw [kept]; exact Bool.false_ne_true)]
      refine inductionHypothesis ?_ elsewhereRest
      unfold fileRule
      split
      · next type registered =>
        exact agree.insert_left (elsewhere head List.mem_cons_self kept type registered) _
      · exact agree

/-- Filing looks at the names and the tags of the registered types and at nothing else. -/
theorem foldl_fileRule_congr {model other : Model} {registrations : List Registration}
    (same : ∀ registration ∈ registrations,
      (registeredType? model registration).map (fun type => (type.name, type.tag)) =
        (registeredType? other registration).map fun type => (type.name, type.tag))
    (table : RuleTable) :
    registrations.foldl (fileRule model) table = registrations.foldl (fileRule other) table := by
  induction registrations generalizing table with
  | nil => rfl
  | cons head rest inductionHypothesis =>
    have sameRest := fun registration member =>
      same registration (List.mem_cons_of_mem head member)
    have filed : fileRule model table head = fileRule other table head := by
      have sameHead := same head List.mem_cons_self
      unfold fileRule
      cases found : registeredType? model head with
      | none =>
        rw [found, Option.map_none, eq_comm, Option.map_eq_none_iff] at sameHead
        rw [sameHead]
      | some type =>
        rw [found, Option.map_some, eq_comm, Option.map_eq_some_iff] at sameHead
        obtain ⟨otherType, otherFound, equal⟩ := sameHead
        obtain ⟨name, tag⟩ := Prod.mk.inj equal
        rw [otherFound]
        unfold RuleTable.insert
        simp only [name, tag]
    rw [List.foldl_cons, List.foldl_cons, filed, inductionHypothesis sameRest]

/-! ### Filling in defaults -/

theorem fillRules_append (table : RuleTable) (types more : List TypeInfo) :
    fillRules table (types ++ more) = fillRules (fillRules table types) more :=
  List.foldl_append

theorem fillRules_cons (table : RuleTable) (type : TypeInfo) (rest : List TypeInfo) :
    fillRules table (type :: rest) =
      fillRules (Capability.all.foldl (fillRule type) table) rest := rfl

/-- What outlasts the filing of a default that is missing outlasts the filling in of defaults. -/
theorem fillRules_induction {motive : RuleTable → Prop} {table : RuleTable} (start : motive table)
    {types : List TypeInfo}
    (filed : ∀ table, ∀ type ∈ types, ∀ capability, type.enables capability = true →
      table.row? (.named type.name) capability = none → motive table →
        motive (table.insert type capability (defaultRule type capability))) :
    motive (fillRules table types) := by
  induction types generalizing table with
  | nil => exact start
  | cons head rest inductionHypothesis =>
    rw [fillRules_cons]
    refine inductionHypothesis ?_ fun table type member =>
      filed table type (List.mem_cons_of_mem head member)
    refine List.foldlRecOn (motive := motive) Capability.all (fillRule head) start ?_
    intro table kept capability _
    unfold fillRule
    split
    · next missing => exact filed _ _ List.mem_cons_self _ missing.1 missing.2 kept
    · exact kept

/-- Filling in defaults takes a rule out of no row. -/
theorem fillRules_isSome {table : RuleTable} {reference : Reference} {wanted : Capability}
    (filled : (table.row? reference wanted).isSome = true) (types : List TypeInfo) :
    ((fillRules table types).row? reference wanted).isSome = true :=
  fillRules_induction (motive := fun table => (table.row? reference wanted).isSome = true) filled
    fun _ _ _ _ _ _ kept => row?_insert_isSome kept _ _ _

theorem fillRule_isSome {table : RuleTable} {reference : Reference} {wanted : Capability}
    (filled : (table.row? reference wanted).isSome = true) (type : TypeInfo)
    (capability : Capability) :
    ((fillRule type table capability).row? reference wanted).isSome = true := by
  unfold fillRule
  split
  · exact row?_insert_isSome filled _ _ _
  · exact filled

theorem fillRule_covers (table : RuleTable) {type : TypeInfo} {capability : Capability}
    (enabled : type.enables capability = true) :
    ((fillRule type table capability).row? (.named type.name) capability).isSome = true := by
  unfold fillRule
  split
  · rw [row?_insert, if_pos ⟨rfl, rfl⟩]
    rfl
  · next present =>
    exact Option.isSome_iff_ne_none.mpr fun missing => present ⟨enabled, missing⟩

/-- Every type for which defaults are filled in has a rule for each capability that it enables. -/
theorem fillRules_covers (table : RuleTable) {types : List TypeInfo} {type : TypeInfo}
    (member : type ∈ types) {capability : Capability} (enabled : type.enables capability = true) :
    ((fillRules table types).row? (.named type.name) capability).isSome = true := by
  obtain ⟨before, after, rfl⟩ := List.append_of_mem member
  obtain ⟨earlier, later, all⟩ := List.append_of_mem capability.mem_all
  rw [fillRules_append, fillRules_cons, all, List.foldl_append, List.foldl_cons]
  refine fillRules_isSome ?_ after
  exact List.foldlRecOn
    (motive := fun table => (table.row? (.named type.name) capability).isSome = true) later
    (fillRule type) (fillRule_covers _ enabled) fun _ filled _ _ => fillRule_isSome filled _ _

/-- Where no rule is missing there is nothing to fill in. -/
theorem fillRules_eq_self {table : RuleTable} {types : List TypeInfo}
    (covered : ∀ type ∈ types, ∀ capability, type.enables capability = true →
      (table.row? (.named type.name) capability).isSome = true) :
    fillRules table types = table := by
  refine fillRules_induction (motive := fun rules => rules = table) rfl ?_
  rintro _ type member capability enabled missing rfl
  have present := covered type member capability enabled
  rw [missing] at present
  cases present

/-- Whether a default is missing is seen from the row of the name. So tables go on agreeing if this
row is compared, and if it is not they do so as long as the default is filed elsewhere. -/
theorem agreeOn_fillRule (agree : AgreeOn rows first second) {type : TypeInfo}
    {capability : Capability} (each : type.enables capability = true →
      rows (.named type.name) capability ∨ Spares rows type capability) :
    AgreeOn rows (fillRule type first capability) (fillRule type second capability) := by
  unfold fillRule
  by_cases enabled : type.enables capability = true
  · rcases each enabled with inside | spares
    · have same : first.get? type.name capability = second.get? type.name capability :=
        agree _ _ inside
      rw [same]
      split
      · exact agree.insert _ _ _
      · exact agree
    · split <;> split
      · exact agree.insert _ _ _
      · exact agree.insert_left spares _
      · exact (agree.symm.insert_left spares _).symm
      · exact agree
  · rw [if_neg fun both => enabled both.1, if_neg fun both => enabled both.1]
    exact agree

theorem agreeOn_fillRules (agree : AgreeOn rows first second) {types : List TypeInfo}
    (each : ∀ type ∈ types, ∀ capability, type.enables capability = true →
      rows (.named type.name) capability ∨ Spares rows type capability) :
    AgreeOn rows (fillRules first types) (fillRules second types) := by
  induction types generalizing first second with
  | nil => exact agree
  | cons head rest inductionHypothesis =>
    rw [fillRules_cons, fillRules_cons]
    refine inductionHypothesis ?_ fun type member => each type (List.mem_cons_of_mem head member)
    have eachHead := each head List.mem_cons_self
    clear inductionHypothesis each
    induction Capability.all generalizing first second with
    | nil => exact agree
    | cons capability more inductionHypothesis =>
      exact inductionHypothesis (agreeOn_fillRule agree (eachHead capability))

/-- Defaults that are filed elsewhere may be left out. -/
theorem agreeOn_fillRules_left (agree : AgreeOn rows first second) {types : List TypeInfo}
    (elsewhere : ∀ type ∈ types, ∀ capability, type.enables capability = true →
      Spares rows type capability) :
    AgreeOn rows (fillRules first types) second :=
  fillRules_induction (motive := fun rules => AgreeOn rows rules second) agree
    fun _ type member capability enabled _ kept =>
      kept.insert_left (elsewhere type member capability enabled) _

/-! ### The rules of a new model -/

variable {draft : Draft}

theorem mem_arena_of_mem_types {model : Model} {type : TypeInfo}
    (member : type ∈ model.types ++ model.collectionTypes) : type ∈ model.arena := by
  rcases List.mem_append.mp member with named | collection
  · obtain ⟨handle, -, found⟩ := List.mem_filterMap.mp named
    exact List.mem_of_getElem? found
  · obtain ⟨handle, -, found⟩ := List.mem_filterMap.mp collection
    exact List.mem_of_getElem? found

/-- What holds of the rules below and outlasts the filing of a rule holds of the new rules. Rules
are only filed for types of the new model and for capabilities that these enable. -/
theorem sealedRules_induction {motive : RuleTable → Prop} (below : motive draft.ground.rules)
    (filed : ∀ table type capability rule, type ∈ draft.skeleton.arena →
      type.enables capability = true → motive table →
        motive (table.insert type capability rule)) :
    motive draft.sealedRules := by
  refine fillRules_induction ?_ fun table type member capability enabled _ =>
    filed table type capability _ (mem_arena_of_mem_types member) enabled
  refine foldl_fileRule_induction below fun table registration _ type registered => ?_
  obtain ⟨resolved, enabled⟩ := (registeredType?_eq_some_iff _ _ _).mp registered
  obtain ⟨handle, -, there⟩ := Option.bind_eq_some_iff.mp resolved
  exact filed _ _ _ _ (List.mem_of_getElem? there) enabled

/-- No row of the model below is emptied. -/
theorem sealedRules_isSome {reference : Reference} {capability : Capability}
    (filled : (draft.ground.rules.row? reference capability).isSome = true) :
    (draft.sealedRules.row? reference capability).isSome = true :=
  sealedRules_induction (motive := fun table => (table.row? reference capability).isSome = true)
    filled fun _ _ _ _ _ _ kept => row?_insert_isSome kept _ _ _

end Draft

/-- The rows of a model belong to its types. -/
theorem Model.Built.exists_answers {model : Model} (built : model.Built) (reference : Reference)
    (capability : Capability)
    (filled : (model.rules.row? reference capability).isSome = true) :
    ∃ type ∈ model.arena, type.AnswersTo reference := by
  refine built.invariant (motive := fun model =>
    (model.rules.row? reference capability).isSome = true →
      ∃ type ∈ model.arena, type.AnswersTo reference) ?_ ?_ filled
  · intro filled
    cases reference <;> cases filled
  · intro draft _ _ below
    refine Draft.sealedRules_induction (motive := fun table =>
      (table.row? reference capability).isSome = true →
        ∃ type ∈ draft.skeleton.arena, type.AnswersTo reference) ?_ ?_
    · intro filled
      obtain ⟨type, member, answers⟩ := below filled
      exact ⟨type, draft.ground_begins.subset member, answers⟩
    · intro table type filed rule member _ kept filled
      rw [RuleTable.row?_insert] at filled
      by_cases answers : type.AnswersTo reference
      · exact ⟨type, member, answers⟩
      · rw [if_neg fun both => answers both.1] at filled
        exact kept filled

end Metamodel
