/-
Which registration a model goes by.

Rules are registered layer by layer, by name or by tag, in whatever order. In a chain of models in
which every layer keeps to names and tags of its own, this is what becomes of them: the newest layer
decides that has a rule for the type at all, within a layer a rule by tag goes before one by name,
and of several rules of the same kind the last one counts. If no layer has one, the default is left.

A type that keeps its name and its tag for good is found under both in every later model. So what is
registered for either is filed for it and for nothing else, and the rules by tag are filed after the
rules by name.
-/

import Metamodel.Proofs.Defaults
import Metamodel.Proofs.Layers
import Metamodel.Proofs.Registering

namespace Metamodel

/-- What is found for a type by its tag or, if nothing is, by its name. -/
def TypeInfo.byTagOrName {α : Type} (type : TypeInfo) (find? : Reference → Option α) : Option α :=
  (type.tag.bind fun tag => find? (.tagged tag)).or (find? (.named type.name))

theorem TypeInfo.byTagOrName_eq_none {α : Type} {type : TypeInfo} {find? : Reference → Option α}
    (nothing : ∀ reference, type.AnswersTo reference → find? reference = none) :
    type.byTagOrName find? = none := by
  unfold byTagOrName
  rw [nothing (.named type.name) rfl, Option.or_none]
  cases carries : type.tag with
  | none => rfl
  | some tag => exact nothing (.tagged tag) carries

/-! ### The last registration of a layer -/

namespace Registrations

variable {α : Type} [DecidableEq α]

/-- For a capability of a target there is one rule at most. -/
theorem getLast?_filter_target (registrations : Registrations α) (target : Reference)
    (capability : α) :
    (((registrations.entries.filter fun entry => entry.1 = target).filter fun entry =>
        entry.2.1 = capability).getLast?).map (fun entry => entry.2.2) =
      (registrations.under target).get? capability := by
  have single := Keyed.filter_key (registrations.under target) capability
  rw [filter_entries, List.filter_map]
  show ((((registrations.under target).items.filter fun rule => rule.1 = capability).map
    _).getLast?).map _ = _
  rw [single]
  unfold Table.get?
  cases (registrations.under target).find? capability <;> rfl

/-- Of the rules for a capability of a type, the one by its tag is listed last. -/
theorem getLast?_filter_answersTo (registrations : Registrations α) (type : TypeInfo)
    (capability : α) :
    (((registrations.entries.filter fun entry => type.AnswersTo entry.1).filter fun entry =>
        entry.2.1 = capability).getLast?).map (fun entry => entry.2.2) =
      type.byTagOrName fun target => (registrations.under target).get? capability := by
  let decl : TypeDecl := { name := type.name, tag := type.tag }
  have spoken : ∀ target, type.AnswersTo target ↔ decl.AnswersTo target := by
    intro target
    cases target <;> exact Iff.rfl
  simp only [spoken]
  rw [filter_entries_answersTo, List.filter_append, List.getLast?_append, Option.map_or,
    getLast?_filter_target]
  unfold TypeInfo.byTagOrName
  congr 1
  show (((type.tag.toList.flatMap _).filter _).getLast?).map _ = type.tag.bind _
  cases type.tag with
  | none => rfl
  | some tag =>
    rw [Option.toList_some, List.flatMap_singleton]
    exact registrations.getLast?_filter_target (.tagged tag) capability

end Registrations

namespace Draft

open RuleTable

variable {draft : Draft}

/-- The registrations of a draft that are about a capability of a type. -/
def registrationsFor (draft : Draft) (type : TypeInfo) (capability : Capability) :
    List Registration :=
  draft.registrations.filter fun registration =>
    type.AnswersTo registration.target ∧ registration.capability = capability

/-- Registrations of the one sort are not about capabilities of the other. -/
theorem filter_capability_eq_nil {α : Type} (sort : α → Capability) (capability : Capability)
    (other : ∀ filed, sort filed ≠ capability) (entries : List (Reference × α × OperandRule)) :
    (entries.map fun entry => (⟨entry.1, sort entry.2.1, entry.2.2⟩ : Registration)).filter
      (fun registration => registration.capability = capability) = [] := by
  refine List.filter_eq_nil_iff.mpr fun registration listed => ?_
  obtain ⟨entry, -, rfl⟩ := List.mem_map.mp listed
  rw [decide_eq_true_iff]
  exact other entry.2.1

/-- The last of them was registered by the tag of the type, if any was. -/
theorem getLast?_registrationsFor (draft : Draft) (type : TypeInfo) (capability : Capability) :
    (draft.registrationsFor type capability).getLast?.map Registration.rule =
      type.byTagOrName (draft.registered? · capability) := by
  have apart : draft.registrationsFor type capability =
      (draft.registrations.filter fun registration => type.AnswersTo registration.target).filter
        fun registration => registration.capability = capability := by
    unfold registrationsFor
    rw [List.filter_filter]
    simp only [Bool.decide_and, Bool.and_comm]
  rw [apart, filter_registrations draft fun target => type.AnswersTo target, List.filter_append]
  cases capability with
  | operator operator =>
    rw [filter_capability_eq_nil .predicate (.operator operator) nofun, List.append_nil,
      List.filter_map, List.getLast?_map, Option.map_map]
    simp only [Function.comp_def, Capability.operator.injEq]
    exact draft.operatorRules.getLast?_filter_answersTo type operator
  | predicate predicate =>
    rw [filter_capability_eq_nil .operator (.predicate predicate) nofun, List.nil_append,
      List.filter_map, List.getLast?_map, Option.map_map]
    simp only [Function.comp_def, Capability.predicate.injEq]
    exact draft.predicateRules.getLast?_filter_answersTo type predicate

theorem mem_registrations_of_registered? {target : Reference} {capability : Capability}
    {rule : OperandRule} (held : draft.registered? target capability = some rule) :
    ⟨target, capability, rule⟩ ∈ draft.registrations := by
  have listed : ∀ {α : Type} [DecidableEq α] (registrations : Registrations α) (filed : α),
      (registrations.under target).get? filed = some rule →
        (target, filed, rule) ∈ registrations.entries := by
    intro α _ registrations filed found
    have inside := List.mem_map_of_mem (f := fun rule => (target, rule))
      ((Table.get?_eq_some_iff _).mp found)
    rw [← registrations.filter_entries target] at inside
    exact (List.mem_filter.mp inside).1
  unfold registrations
  rw [Registrations.toList_eq, Registrations.toList_eq]
  cases capability with
  | operator operator =>
    exact List.mem_append_left _ (List.mem_map.mpr ⟨_, listed _ operator held, rfl⟩)
  | predicate predicate =>
    exact List.mem_append_right _ (List.mem_map.mpr ⟨_, listed _ predicate held, rfl⟩)

/-! ### What is filed in a row -/

/-- Of the registrations that go into a row the last one stays there. -/
theorem row?_foldl_fileRule {model : Model} {reference : Reference} {capability : Capability}
    {goes : Registration → Bool} {registrations : List Registration}
    (each : ∀ registration ∈ registrations, goes registration = true ↔
      registration.capability = capability ∧
        ∃ type, registeredType? model registration = some type ∧ type.AnswersTo reference)
    (table : RuleTable) :
    (registrations.foldl (fileRule model) table).row? reference capability =
      ((registrations.filter goes).getLast?.map Registration.rule).or
        (table.row? reference capability) := by
  induction registrations generalizing table with
  | nil => rfl
  | cons head rest inductionHypothesis =>
    have eachHead := each head List.mem_cons_self
    rw [List.foldl_cons, inductionHypothesis fun registration member =>
      each registration (List.mem_cons_of_mem head member)]
    cases kept : goes head with
    | true =>
      obtain ⟨same, type, registered, answers⟩ := eachHead.mp kept
      have filed : (fileRule model table head).row? reference capability = some head.rule := by
        unfold fileRule
        rw [registered]
        exact (row?_insert _ _ _ _ _ _).trans (if_pos ⟨answers, same.symm⟩)
      rw [List.filter_cons_of_pos kept, filed, List.getLast?_cons]
      cases (rest.filter goes).getLast? <;> rfl
    | false =>
      have spared : (fileRule model table head).row? reference capability =
          table.row? reference capability := by
        unfold fileRule
        cases registered : registeredType? model head with
        | none => rfl
        | some type =>
          refine row?_insert_of_not _ _ fun same answers => ?_
          rw [eachHead.mpr ⟨same.symm, type, registered, answers⟩] at kept
          cases kept
      rw [List.filter_cons_of_neg (by rw [kept]; exact Bool.false_ne_true), spared]

/-- A rule that is filed under a name is not replaced by a default. -/
theorem row?_sealedRules_of_filed {name : String} {capability : Capability} {rule : OperandRule}
    (filed : draft.filedRules.row? (.named name) capability = some rule) :
    draft.sealedRules.row? (.named name) capability = some rule := by
  rw [sealedRules_eq, row?_fillRules_of_not_lacks, filed]
  intro type _ lacks named
  have missing := lacks.2
  rw [show type.name = name from named, filed] at missing
  cases missing

/-- There is no rule below for what nothing below answers to. -/
theorem row?_ground_of_unknown (grounded : draft.Grounded) {decl : TypeDecl}
    (name : decl.name ≠ collectionTypeName) {reference : Reference}
    (answers : decl.AnswersTo reference) (unknown : draft.ground.resolve? reference = none)
    (capability : Capability) : draft.ground.rules.row? reference capability = none := by
  refine Option.eq_none_iff_forall_ne_some.mpr fun rule filed => ?_
  rcases grounded.ground_cases with empty | built
  · rw [empty] at filed
    cases reference <;> cases filed
  · obtain ⟨type, member, shared⟩ :=
      built.exists_answers reference capability (by rw [filed]; rfl)
    exact built.not_answers_of_unknown name answers unknown member shared

/-! ### Chains without reuse -/

/-- The newer draft takes no name and no tag of the older one for a type of its own. -/
def ReusesNothing (newer older : Draft) : Prop :=
  ∀ reference, newer.Owns reference → ¬ older.Owns reference

instance : DecidableRel ReusesNothing := fun newer older =>
  decidable_of_iff _ (newer.forall_owns_iff fun reference => ¬ older.Owns reference).symm

/-- A model in which all types are found that any of its drafts declared, and in which the rule for
a type comes from the newest draft that has one. -/
structure Orderly (drafts : List Draft) (model : Model) : Prop where
  known : ∀ reference, (∃ type, model.resolve? reference = some type) ↔
    ∃ draft ∈ drafts, draft.Owns reference
  registered : ∀ draft ∈ drafts, ∀ target capability rule,
    draft.registered? target capability = some rule → ∃ owner ∈ drafts, owner.Owns target
  found : ∀ type ∈ model.arena, type.isCollection = false → ∀ reference,
    type.AnswersTo reference → model.resolve? reference = some type
  rules : ∀ type ∈ model.arena, type.isCollection = false → ∀ capability,
    type.enables capability = true → model.rule? type.name capability =
      some ((drafts.findSome? fun draft => type.byTagOrName (draft.registered? · capability)).getD
        (defaultRule type capability))

namespace Orderly

variable {drafts : List Draft}

section Step

variable (grounded : draft.Grounded) (buildable : draft.Buildable)
  (below : Orderly drafts draft.ground)
  (fresh : ∀ older ∈ drafts, draft.ReusesNothing older)

include below fresh in
theorem unknown_below {reference : Reference} (own : draft.Owns reference) :
    draft.ground.resolve? reference = none := by
  refine Option.eq_none_iff_forall_ne_some.mpr fun type resolved => ?_
  obtain ⟨older, member, owns⟩ := (below.known reference).mp ⟨type, resolved⟩
  exact fresh older member reference own owns

include grounded buildable below in
theorem known_assemble (reference : Reference) :
    (∃ type, draft.assemble.resolve? reference = some type) ↔
      ∃ owner ∈ draft :: drafts, owner.Owns reference := by
  have known := not_congr (resolve?_eq_none_iff grounded.wellFormed buildable.tags reference)
  rw [not_not, ← ne_eq, Option.ne_none_iff_exists', knows_iff, below.known] at known
  rw [List.exists_mem_cons_iff]
  exact known

include grounded buildable below in
/-- Nothing can be registered for what no draft declared. -/
theorem registered_assemble {layer : Draft} (member : layer ∈ draft :: drafts)
    {target : Reference} {capability : Capability} {rule : OperandRule}
    (held : layer.registered? target capability = some rule) :
    ∃ owner ∈ draft :: drafts, owner.Owns target := by
  rcases List.mem_cons.mp member with rfl | older
  · obtain ⟨name, enabled, offer, -⟩ :=
      buildable.registrations _ (mem_registrations_of_registered? held)
    refine (below.known_assemble grounded buildable target).mp
      (Option.ne_none_iff_exists'.mp fun absent => ?_)
    exact (resolve?_eq_none_iff grounded.wellFormed buildable.tags target).mp absent
      ⟨name, enabled, offer⟩
  · obtain ⟨owner, ownerMember, owns⟩ := below.registered layer older target capability rule held
    exact ⟨owner, List.mem_cons_of_mem draft ownerMember, owns⟩

include grounded buildable below fresh in
theorem found_assemble {type : TypeInfo} (member : type ∈ draft.assemble.arena)
    (plain : type.isCollection = false) {reference : Reference}
    (answers : type.AnswersTo reference) : draft.assemble.resolve? reference = some type := by
  obtain ⟨handle, there⟩ := List.getElem?_of_mem member
  cases origin grounded.wellFormed there with
  | inherited found =>
    have resolved := below.found type (List.mem_of_getElem? found) plain reference answers
    have foreign : ¬ draft.Owns reference := by
      intro own
      rw [below.unknown_below fresh own] at resolved
      cases resolved
    exact (resolve?_of_not_owns grounded.wellFormed buildable.tags foreign).trans resolved
  | own declared place made =>
    rw [made, answersTo_sealType] at answers
    rw [made, place]
    exact resolve?_own buildable.tags declared answers
  | collection declared place made =>
    rw [made] at plain
    cases plain

include grounded buildable below fresh in
/-- What is registered for a type goes into its row, and nothing else does. -/
theorem row?_filedRules {type : TypeInfo} (member : type ∈ draft.assemble.arena)
    (plain : type.isCollection = false) (capability : Capability) :
    draft.filedRules.row? (.named type.name) capability =
      (type.byTagOrName (draft.registered? · capability)).or
        (draft.ground.rules.row? (.named type.name) capability) := by
  have sound := wellFormed_skeleton grounded.wellFormed buildable.tags
  have found {other : TypeInfo} (there : other ∈ draft.assemble.arena)
      (single : other.isCollection = false) {reference : Reference}
      (answers : other.AnswersTo reference) : draft.assemble.resolve? reference = some other :=
    below.found_assemble grounded buildable fresh there single answers
  rw [← getLast?_registrationsFor]
  refine row?_foldl_fileRule (fun registration listed => ?_) draft.ground.rules
  obtain ⟨registered, resolved, filed⟩ :=
    registeredType?_of_buildable grounded.wellFormed buildable listed
  rw [decide_eq_true_iff, and_comm]
  refine and_congr_right fun _ => ⟨fun answers => ⟨type, ?_, rfl⟩, ?_⟩
  · have same : some type = some registered :=
      (found member plain answers).symm.trans resolved
    rw [filed, same]
  · rintro ⟨other, otherFiled, named⟩
    obtain ⟨otherMember, answers⟩ := mem_of_registeredType? sound otherFiled
    have otherPlain := (sound.answers_of_resolve?
      ((registeredType?_eq_some_iff _ _ _).mp otherFiled).1).1
    have self : type.AnswersTo (.named type.name) := rfl
    have same : some type = some other :=
      (found member plain self).symm.trans (found otherMember otherPlain named)
    rw [Option.some.inj same]
    exact answers

include grounded buildable below fresh in
theorem rules_inherited {type : TypeInfo} (member : type ∈ draft.ground.arena)
    (plain : type.isCollection = false) {capability : Capability}
    (enabled : type.enables capability = true) :
    draft.assemble.rule? type.name capability =
      some (((draft :: drafts).findSome? fun layer =>
        type.byTagOrName (layer.registered? · capability)).getD (defaultRule type capability)) := by
  have inside : type ∈ draft.assemble.arena := draft.ground_begins.subset member
  have row := below.row?_filedRules grounded buildable fresh inside plain capability
  have kept : draft.ground.rules.row? (.named type.name) capability = _ :=
    below.rules type member plain capability enabled
  rw [kept] at row
  rw [List.findSome?_cons]
  refine row?_sealedRules_of_filed (row.trans ?_)
  cases type.byTagOrName (draft.registered? · capability) <;> rfl

include grounded buildable below fresh in
/-- A new type has the rule that its own draft has for it, or else the default. -/
theorem rules_own {index : Nat} {decl : TypeDecl} (there : draft.types.items[index]? = some decl)
    {capability : Capability} {type : TypeInfo}
    (made : type = draft.sealType decl (draft.ownHandle index))
    (enabled : type.enables capability = true) :
    draft.assemble.rule? type.name capability =
      some (((draft :: drafts).findSome? fun layer =>
        type.byTagOrName (layer.registered? · capability)).getD (defaultRule type capability)) := by
  have member : type ∈ draft.assemble.arena := by
    rw [made]
    exact List.mem_of_getElem? (typeAt?_own there)
  have plain : type.isCollection = false := by
    rw [made]
    exact isCollection_sealType decl _
  have own : ∀ reference, type.AnswersTo reference → draft.Owns reference := by
    intro reference answers
    rw [made, answersTo_sealType] at answers
    exact ⟨decl, List.mem_of_getElem? there, answers⟩
  have before : drafts.findSome? (fun layer =>
      type.byTagOrName (layer.registered? · capability)) = none := by
    refine List.findSome?_eq_none_iff.mpr fun older olderMember => ?_
    refine TypeInfo.byTagOrName_eq_none fun reference answers => ?_
    refine Option.eq_none_iff_forall_ne_some.mpr fun rule held => ?_
    obtain ⟨owner, ownerMember, owns⟩ :=
      below.registered older olderMember reference capability rule held
    exact fresh owner ownerMember reference (own reference answers) owns
  have row := below.row?_filedRules grounded buildable fresh member plain capability
  have empty : draft.ground.rules.row? (.named type.name) capability = none := by
    have named : decl.AnswersTo (.named type.name) := by
      rw [made]
      exact rfl
    exact row?_ground_of_unknown grounded (buildable.names decl (List.mem_of_getElem? there)) named
      (below.unknown_below fresh (own _ rfl)) capability
  rw [empty, Option.or_none] at row
  rw [List.findSome?_cons, before]
  cases held : type.byTagOrName (draft.registered? · capability) with
  | some rule =>
    rw [held] at row
    exact row?_sealedRules_of_filed row
  | none =>
    rw [held] at row
    have listed : type ∈ draft.ruledTypes := by
      rw [made]
      exact List.mem_append_left _ (Model.mem_types_of_type? (type?_own buildable.tags there))
    have lacks : Lacks draft.filedRules type capability := ⟨enabled, row⟩
    have answers : type.AnswersTo (.named type.name) := rfl
    refine row?_fillRules_of_lacks listed lacks
      (fun other otherListed otherLacks shared => ?_) answers
    obtain ⟨reference, answers, otherAnswers⟩ := shared
    exact alike_of_lacks grounded.wellFormed grounded.covered buildable
      (mem_arena_of_mem_types listed) (mem_arena_of_mem_types otherListed) lacks otherLacks answers
      otherAnswers

include grounded buildable below fresh in
/-- One build keeps the chain in order. -/
theorem assemble : Orderly (draft :: drafts) draft.assemble where
  known := below.known_assemble grounded buildable
  registered _ member _ _ _ := below.registered_assemble grounded buildable member
  found _ member plain _ := below.found_assemble grounded buildable fresh member plain
  rules := by
    intro type member plain capability enabled
    obtain ⟨handle, there⟩ := List.getElem?_of_mem member
    cases origin grounded.wellFormed there with
    | inherited found =>
      exact below.rules_inherited grounded buildable fresh (List.mem_of_getElem? found) plain
        enabled
    | own declared place made =>
      exact below.rules_own grounded buildable fresh declared (place ▸ made) enabled
    | collection declared place made =>
      rw [made] at plain
      cases plain

end Step

end Orderly

end Draft

namespace Model

theorem Layers.orderly {model : Model} {drafts : List Draft} (layers : model.Layers drafts)
    (fresh : drafts.Pairwise Draft.ReusesNothing) : Draft.Orderly drafts model := by
  refine layers.invariant (motive := fun drafts model =>
    drafts.Pairwise Draft.ReusesNothing → Draft.Orderly drafts model) (fun _ => ?_) ?_ fresh
  · exact
      { known := fun reference => by
          have nothing : empty.resolve? reference = none := by cases reference <;> rfl
          simp [nothing]
        registered := fun _ member => nomatch member
        found := fun _ member => nomatch member
        rules := fun _ member => nomatch member }
  · intro draft drafts grounded buildable below fresh
    obtain ⟨newest, older⟩ := List.pairwise_cons.mp fresh
    exact (below older).assemble grounded buildable newest

/-- If no layer takes a name or a tag of an older one, the rule for a type and a capability that it
enables is the one that the newest layer registers which registers any: the last one by the tag of
the type or, if there is none by the tag, the last one by its name. If no layer registers one it is
the default. -/
theorem Layers.rule?_eq_newest {model : Model} {drafts : List Draft} (layers : model.Layers drafts)
    {calls : List (List Declaration)} (made : List.Forall₂ Draft.ComesOf drafts calls)
    (fresh : drafts.Pairwise Draft.ReusesNothing) {type : TypeInfo} (member : type ∈ model.types)
    {capability : Capability} (enabled : type.enables capability = true) :
    model.rule? type.name capability =
      some ((calls.findSome? fun declarations => type.byTagOrName fun target =>
        Declaration.lastRule? declarations target capability).getD
          (Draft.defaultRule type capability)) := by
  have inside := Draft.mem_arena_of_mem_types (List.mem_append_left _ member)
  have plain := (layers.built.wellFormed.answers_of_resolve?
    (layers.built.wellFormed.type?_of_mem_types member)).1
  rw [(layers.orderly fresh).rules type inside plain capability enabled]
  have same : (drafts.findSome? fun draft => type.byTagOrName (draft.registered? · capability)) =
      calls.findSome? fun declarations => type.byTagOrName fun target =>
        Declaration.lastRule? declarations target capability := by
    clear * - made
    induction made with
    | nil => rfl
    | cons made rest inductionHypothesis =>
      rw [List.findSome?_cons, List.findSome?_cons, inductionHypothesis]
      simp only [made.registered?_eq]
  rw [same]

end Model

/-! ### Amounts, what they cost, and what is added to that -/

namespace Draft

/-- What is said of a tariff. The sum of amounts is spoken of twice, and the name comes last. -/
def tariffDeclarations : List Declaration :=
  [.type (.addAll (.ofBody "Amount" .basic)
      [.tag .decimal, .operators [.plus, .minus, .multiplication], .predicates [.equality]]),
    .rule
      { target := .tagged .decimal
        capability := .operator .plus
        rule := .fixed (.tagged .decimal) },
    .rule
      { target := .named "Amount"
        capability := .operator .plus
        rule := .widest ["Amount"] },
    .rule
      { target := .tagged .decimal
        capability := .operator .minus
        rule := .fixed (.tagged .decimal) }]

def tariff : Draft := said ((upon none).declareAll tariffDeclarations)

/-- What is said of a surcharge on top of a tariff. It changes its mind about differences. -/
def surchargeDeclarations : List Declaration :=
  [.type (.addAll (.ofBody "Fee" .basic) [.operators [.plus]]),
    .rule
      { target := .named "Amount"
        capability := .operator .minus
        rule := .fixed (.named "Amount") },
    .rule
      { target := .named "Amount"
        capability := .operator .minus
        rule := .fixed (.named "Fee") }]

def surcharge : Draft := said ((upon (some tariff.assemble)).declareAll surchargeDeclarations)

theorem comesOf_tariff : tariff.ComesOf tariffDeclarations := rfl

theorem comesOf_surcharge : surcharge.ComesOf surchargeDeclarations := rfl

theorem layers_surcharge : surcharge.assemble.Layers [surcharge, tariff] :=
  .upon (.alone rfl (build_of_faults (by decide))) rfl
    (build_of_faults (by decide))

theorem reusesNothing_surcharge : [surcharge, tariff].Pairwise ReusesNothing := by
  decide

end Draft

namespace Model

/-- Amounts are added by the rule for their tag, subtracted by the last rule of the surcharge, and
multiplied and compared by default. -/
theorem Layers.rule?_eq_newest_amount :
    Draft.surcharge.assemble.Layers [Draft.surcharge, Draft.tariff] ∧
      [Draft.surcharge, Draft.tariff].Pairwise Draft.ReusesNothing ∧
        ∃ amount ∈ Draft.surcharge.assemble.types,
          Draft.surcharge.assemble.rule? amount.name (.operator .plus) =
              some (.fixed (.tagged .decimal)) ∧
            Draft.surcharge.assemble.rule? amount.name (.operator .minus) =
                some (.fixed (.named "Fee")) ∧
              Draft.surcharge.assemble.rule? amount.name (.operator .multiplication) =
                  some (.fixed (.named "Amount")) ∧
                Draft.surcharge.assemble.rule? amount.name (.predicate .equality) =
                  some (.fixed (.tagged .boolean)) := by
  have shown : (Draft.surcharge.assemble.type? "Amount").map (fun type =>
      (type.name, type.tag, Capability.all.filter type.enables)) =
        some ("Amount", some .decimal, [.operator .plus, .operator .minus,
          .operator .multiplication, .predicate .equality]) := by
    decide
  obtain ⟨amount, found, read⟩ := Option.map_eq_some_iff.mp shown
  obtain ⟨name, tag, enabled⟩ : amount.name = "Amount" ∧ amount.tag = some .decimal ∧
      Capability.all.filter amount.enables = [.operator .plus, .operator .minus,
        .operator .multiplication, .predicate .equality] := by simpa using read
  have rules {capability : Capability} (enables : amount.enables capability = true) :=
    Layers.rule?_eq_newest Draft.layers_surcharge
      (.cons Draft.comesOf_surcharge (.cons Draft.comesOf_tariff .nil))
      Draft.reusesNothing_surcharge (mem_types_of_type? found) enables
  have enables : ∀ capability ∈ Capability.all.filter amount.enables,
      amount.enables capability = true := fun capability member => (List.mem_filter.mp member).2
  rw [enabled] at enables
  refine ⟨Draft.layers_surcharge, Draft.reusesNothing_surcharge, amount,
    mem_types_of_type? found, ?_, ?_, ?_, ?_⟩
  all_goals
    rw [rules (enables _ (by decide))]
    unfold TypeInfo.byTagOrName Draft.defaultRule
    rw [name, tag]
    rfl

end Model

end Metamodel
