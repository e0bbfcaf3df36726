/-
How registrations are listed.

A draft keeps the rules that are registered for types by target, first those by name and then those
by tag, and lists them in this order whatever the order of their arrival. What is listed for a
target, or for a type under its name and its tag, does not depend on what is registered for others.
So a registration is seen only where one looks at its target, and where nothing was registered
before, what is seen is what was added.
-/

import Metamodel.Proofs.Built
import Metamodel.Proofs.Merging

namespace Metamodel

/-! ### Parts of tables -/

namespace Keyed

variable {α κ : Type} {key : α → κ} [DecidableEq κ]

/-- A key picks its item out of a table and nothing else. -/
theorem filter_key (table : Keyed key) (wanted : κ) :
    table.items.filter (fun item => key item = wanted) = (table.find? wanted).toList := by
  obtain ⟨items, distinct⟩ := table
  show items.filter _ = (items.find? fun item => key item = wanted).toList
  induction items with
  | nil => rfl
  | cons head rest inductionHypothesis =>
    rw [List.map_cons, List.nodup_cons] at distinct
    by_cases same : key head = wanted
    · have others : rest.filter (fun item => key item = wanted) = [] := by
        refine List.filter_eq_nil_iff.mpr fun item member found => distinct.1 ?_
        have carries : key item = wanted := of_decide_eq_true found
        exact List.mem_map.mpr ⟨item, member, carries.trans same.symm⟩
      rw [List.filter_cons_of_pos (by simpa using same), others,
        List.find?_cons_of_pos (by simpa using same), Option.toList_some]
    · rw [List.filter_cons_of_neg (by simpa using same),
        List.find?_cons_of_neg (by simpa using same), inductionHypothesis distinct.2]

/-- An insertion is not seen where one does not look at its key. -/
theorem filter_insertItem (keep : κ → Bool) (item : α) (unseen : keep (key item) = false)
    (items : List α) :
    (insertItem key item items).filter (fun other => keep (key other)) =
      items.filter fun other => keep (key other) := by
  unfold insertItem
  split
  · clear * - unseen
    induction items with
    | nil => rfl
    | cons head rest inductionHypothesis =>
      rw [List.map_cons, List.filter_cons, List.filter_cons, inductionHypothesis]
      by_cases same : key head = key item
      · rw [if_pos same, same, unseen]
        simp only [Bool.false_eq_true, if_false]
      · rw [if_neg same]
  · rw [List.filter_append, List.filter_cons_of_neg (by rw [unseen]; exact Bool.false_ne_true),
      List.filter_nil, List.append_nil]

end Keyed

/-! ### Rules by target -/

namespace Registrations

variable {α : Type}

/-- The rules of a table, each with its target. -/
def listed {κ : Type} (target : κ → Reference) (table : Table κ (Table α OperandRule)) :
    List (Reference × α × OperandRule) :=
  table.items.flatMap fun entry => entry.2.items.map fun rule => (target entry.1, rule)

/-- The registrations of all targets in the order in which they are listed. -/
def entries (registrations : Registrations α) : List (Reference × α × OperandRule) :=
  listed .named registrations.byName ++ listed .tagged registrations.byTag

theorem toList_eq (registrations : Registrations α) (capability : α → Capability) :
    registrations.toList capability =
      registrations.entries.map fun entry => ⟨entry.1, capability entry.2.1, entry.2.2⟩ := by
  unfold toList entries listed
  simp only [List.map_append, List.map_flatMap, List.map_map, Function.comp_def]

/-- Looking at some of the targets only. -/
theorem filter_listed {κ : Type} (target : κ → Reference) (keep : Reference → Bool)
    (table : Table κ (Table α OperandRule)) :
    (listed target table).filter (fun entry => keep entry.1) =
      (table.items.filter fun entry => keep (target entry.1)).flatMap fun entry =>
        entry.2.items.map fun rule => (target entry.1, rule) := by
  obtain ⟨items, _⟩ := table
  unfold listed
  rw [List.filter_flatMap]
  show items.flatMap _ = (items.filter _).flatMap _
  clear * -
  induction items with
  | nil => rfl
  | cons head rest inductionHypothesis =>
    rw [List.flatMap_cons, inductionHypothesis, List.filter_cons, List.filter_map]
    have constant : (fun entry : Reference × α × OperandRule => keep entry.1) ∘
        (fun rule => (target head.1, rule)) = fun _ => keep (target head.1) := rfl
    rw [constant]
    cases keep (target head.1) <;> simp

theorem filter_listed_eq {κ : Type} [DecidableEq κ] {target : κ → Reference}
    (injective : Function.Injective target) (table : Table κ (Table α OperandRule)) (wanted : κ) :
    (listed target table).filter (fun entry => entry.1 = target wanted) =
      ((table.get? wanted).getD Keyed.empty).items.map fun rule => (target wanted, rule) := by
  have picked := Keyed.filter_key table wanted
  rw [filter_listed target (fun reference => decide (reference = target wanted))]
  simp only [injective.eq_iff]
  rw [picked]
  unfold Table.get?
  cases found : table.find? wanted with
  | none => rfl
  | some entry =>
    have carries : entry.1 = wanted := Keyed.key_of_find? found
    rw [Option.toList_some, List.flatMap_singleton, carries]
    rfl

theorem filter_listed_named (table : Table String (Table α OperandRule)) (tag : HostTag) :
    (listed .named table).filter (fun entry => entry.1 = .tagged tag) = [] := by
  rw [filter_listed .named (fun reference => decide (reference = .tagged tag))]
  simp only [reduceCtorEq, decide_false, List.filter_false, List.flatMap_nil]

theorem filter_listed_tagged (table : Table HostTag (Table α OperandRule)) (name : String) :
    (listed .tagged table).filter (fun entry => entry.1 = .named name) = [] := by
  rw [filter_listed .tagged (fun reference => decide (reference = .named name))]
  simp only [reduceCtorEq, decide_false, List.filter_false, List.flatMap_nil]

/-- The rules that are registered for a target. -/
def under (registrations : Registrations α) : Reference → Table α OperandRule
  | .named name => (registrations.byName.get? name).getD Keyed.empty
  | .tagged tag => (registrations.byTag.get? tag).getD Keyed.empty

/-- What is listed for a target is what is registered for it. -/
theorem filter_entries (registrations : Registrations α) (target : Reference) :
    registrations.entries.filter (fun entry => entry.1 = target) =
      (registrations.under target).items.map fun rule => (target, rule) := by
  unfold entries
  rw [List.filter_append]
  cases target with
  | named name =>
    rw [filter_listed_eq (fun _ _ same => Reference.named.inj same), filter_listed_tagged,
      List.append_nil]
    rfl
  | tagged tag =>
    rw [filter_listed_named, filter_listed_eq (fun _ _ same => Reference.tagged.inj same),
      List.nil_append]
    rfl

/-- What is listed for a type are its rules by name and then its rules by tag. -/
theorem filter_entries_answersTo (registrations : Registrations α) (decl : TypeDecl) :
    registrations.entries.filter (fun entry => decl.AnswersTo entry.1) =
      registrations.entries.filter (fun entry => entry.1 = .named decl.name) ++
        decl.tag.toList.flatMap fun tag =>
          registrations.entries.filter fun entry => entry.1 = .tagged tag := by
  have byName : (listed .named registrations.byName).filter
        (fun entry => decl.AnswersTo entry.1) =
      (listed .named registrations.byName).filter fun entry => entry.1 = .named decl.name := by
    refine List.filter_congr fun entry member => ?_
    obtain ⟨group, -, inGroup⟩ := List.mem_flatMap.mp member
    obtain ⟨rule, -, rfl⟩ := List.mem_map.mp inGroup
    refine decide_eq_decide.mpr ?_
    rw [Reference.named.injEq]
    exact eq_comm
  have byTag : (listed .tagged registrations.byTag).filter
        (fun entry => decl.AnswersTo entry.1) =
      decl.tag.toList.flatMap fun tag =>
        (listed .tagged registrations.byTag).filter fun entry => entry.1 = .tagged tag := by
    cases carries : decl.tag with
    | none =>
      refine List.filter_eq_nil_iff.mpr fun entry member => ?_
      obtain ⟨group, -, inGroup⟩ := List.mem_flatMap.mp member
      obtain ⟨rule, -, rfl⟩ := List.mem_map.mp inGroup
      simp only [TypeDecl.AnswersTo, carries, reduceCtorEq, decide_false, Bool.false_eq_true,
        not_false_eq_true]
    | some tag =>
      rw [Option.toList_some, List.flatMap_singleton]
      refine List.filter_congr fun entry member => ?_
      obtain ⟨group, -, inGroup⟩ := List.mem_flatMap.mp member
      obtain ⟨rule, -, rfl⟩ := List.mem_map.mp inGroup
      refine decide_eq_decide.mpr ?_
      rw [TypeDecl.AnswersTo, carries, Option.some.injEq, Reference.tagged.injEq]
      exact eq_comm
  unfold entries
  rw [List.filter_append, List.filter_append, byName, byTag, filter_listed_tagged, List.append_nil]
  congr 2
  funext tag
  rw [List.filter_append, filter_listed_named, List.nil_append]

/-! ### Registrations laid over others -/

variable [DecidableEq α]

/-- Rules that come in are added to those which are registered for the target. -/
def joinRules {κ : Type} : Keyed.Join (Prod.fst : κ × Table α OperandRule → κ) :=
  .combine (fun present more => present.insertAll more.items) Keyed.empty
    (fun rules => Keyed.ext (Keyed.items_ofList rules.distinct))
    fun first second third => Keyed.insertAll_insertAll first second third.items

/-- The first registrations with the second ones laid over them. -/
def merge (first second : Registrations α) : Registrations α where
  byName := Keyed.merge joinRules first.byName second.byName
  byTag := Keyed.merge joinRules first.byTag second.byTag

theorem under_merge (first second : Registrations α) (target : Reference) :
    (first.merge second).under target =
      (first.under target).insertAll (second.under target).items := by
  cases target with
  | named name => exact Table.getD_merge_combine (fun _ => rfl) first.byName second.byName name
  | tagged tag => exact Table.getD_merge_combine (fun _ => rfl) first.byTag second.byTag tag

/-- A registration may come in before or after. -/
theorem merge_register (first second : Registrations α) (target : Reference) (capability : α)
    (rule : OperandRule) :
    first.merge (second.register target capability rule) =
      (first.merge second).register target capability rule := by
  let added : Table α OperandRule := Keyed.ofList [(capability, rule)]
  cases target with
  | named name =>
    exact congrArg (Registrations.mk · _)
      (Keyed.merge_insertWith joinRules first.byName second.byName (name, added))
  | tagged tag =>
    exact congrArg (Registrations.mk _ ·)
      (Keyed.merge_insertWith joinRules first.byTag second.byTag (tag, added))

/-- A target for which no rules come in is listed as it was. -/
theorem listed_insertWith_empty {κ : Type} [DecidableEq κ] (target : κ → Reference)
    (table : Table κ (Table α OperandRule)) (key : κ) :
    listed target (table.insertWith joinRules (key, Keyed.empty)) = listed target table := by
  show (Keyed.insertItem Prod.fst (key, _) table.items).flatMap _ = table.items.flatMap _
  cases found : table.find? key with
  | none =>
    have absent : key ∉ table.items.map Prod.fst := by
      intro known
      obtain ⟨entry, member, same⟩ := List.mem_map.mp known
      rw [(table.find?_eq_some_iff).mpr ⟨member, same⟩] at found
      cases found
    rw [Keyed.insertItem_of_not_mem absent, List.flatMap_append]
    exact List.append_nil _
  | some entry =>
    have same : entry.1 = key := Keyed.key_of_find? found
    have member := Keyed.mem_of_find? found
    rw [Keyed.insertItem_of_mem (List.mem_map.mpr ⟨entry, member, same⟩)]
    refine congrArg (List.flatMap _) ((List.map_congr_left fun other otherMember => ?_).trans
      (List.map_id _))
    split
    · next known => exact table.item_unique member otherMember (same.trans known.symm) ▸ same ▸ rfl
    · rfl

/-- What comes in for other targets is not seen where one does not look at these. -/
theorem filter_listed_merge {κ : Type} [DecidableEq κ] {target : κ → Reference}
    {keep : Reference → Bool} (table : Table κ (Table α OperandRule))
    {other : Table κ (Table α OperandRule)}
    (unseen : ∀ entry ∈ listed target other, keep entry.1 = false) :
    (listed target (Keyed.merge joinRules table other)).filter (fun entry => keep entry.1) =
      (listed target table).filter fun entry => keep entry.1 := by
  obtain ⟨items, _⟩ := other
  show (listed target (items.foldl (Keyed.insertWith joinRules) table)).filter _ = _
  have unseen : ∀ group ∈ items, ∀ rule ∈ group.2.items, keep (target group.1) = false :=
    fun group member rule inside => unseen (target group.1, rule)
      (List.mem_flatMap.mpr ⟨group, member, List.mem_map_of_mem inside⟩)
  clear * - unseen
  induction items generalizing table with
  | nil => rfl
  | cons head rest inductionHypothesis =>
    rw [List.foldl_cons, inductionHypothesis _ fun group member =>
      unseen group (List.mem_cons_of_mem head member)]
    have unseenHead := unseen head List.mem_cons_self
    cases kept : keep (target head.1) with
    | false =>
      rw [filter_listed, filter_listed]
      refine congrArg (List.flatMap _) ?_
      exact Keyed.filter_insertItem (fun key => keep (target key))
        (joinRules.join (table.find? head.1) head) kept table.items
    | true =>
      have empty : head.2 = Keyed.empty := by
        refine Keyed.ext (List.eq_nil_iff_forall_not_mem.mpr fun rule inside => ?_)
        rw [unseenHead rule inside] at kept
        cases kept
      rw [show head = (head.1, Keyed.empty) from Prod.ext rfl empty, listed_insertWith_empty]

theorem filter_entries_merge (keep : Reference → Bool) (first : Registrations α)
    {second : Registrations α} (unseen : ∀ entry ∈ second.entries, keep entry.1 = false) :
    (first.merge second).entries.filter (fun entry => keep entry.1) =
      first.entries.filter fun entry => keep entry.1 := by
  have apart := List.forall_mem_append.mp unseen
  unfold entries
  rw [List.filter_append, List.filter_append]
  exact congrArg₂ (· ++ ·) (filter_listed_merge first.byName apart.1)
    (filter_listed_merge first.byTag apart.2)

/-- Where nothing was registered before, all that is registered is what came in. -/
theorem under_merge_of_absent {first : Registrations α} (second : Registrations α)
    {target : Reference} (absent : ∀ entry ∈ first.entries, entry.1 ≠ target) :
    (first.merge second).under target = second.under target := by
  have listed := first.filter_entries target
  rw [List.filter_eq_nil_iff.mpr (by simpa using absent)] at listed
  have nothing : first.under target = Keyed.empty :=
    Keyed.ext (List.map_eq_nil_iff.mp listed.symm)
  rw [under_merge, nothing]
  exact Keyed.ext (Keyed.items_ofList (second.under target).distinct)

theorem filter_merge_answersTo {first : Registrations α} (second : Registrations α)
    {decl : TypeDecl} (absent : ∀ entry ∈ first.entries, ¬ decl.AnswersTo entry.1) :
    (first.merge second).entries.filter (fun entry => decl.AnswersTo entry.1) =
      second.entries.filter fun entry => decl.AnswersTo entry.1 := by
  have same : ∀ target, decl.AnswersTo target →
      (first.merge second).entries.filter (fun entry => entry.1 = target) =
        second.entries.filter fun entry => entry.1 = target := by
    intro target answers
    rw [filter_entries, filter_entries, under_merge_of_absent]
    rintro entry member rfl
    exact absent entry member answers
  rw [filter_entries_answersTo, filter_entries_answersTo, same (.named decl.name) rfl]
  congr 1
  cases carries : decl.tag with
  | none => rfl
  | some tag =>
    rw [Option.toList_some, List.flatMap_singleton, List.flatMap_singleton]
    exact same (.tagged tag) carries

end Registrations

/-- Looking at the registrations for some targets only. -/
theorem Draft.filter_registrations (draft : Draft) (keep : Reference → Bool) :
    draft.registrations.filter (fun registration => keep registration.target) =
      (draft.operatorRules.entries.filter fun entry => keep entry.1).map
          (fun entry => ⟨entry.1, .operator entry.2.1, entry.2.2⟩) ++
        (draft.predicateRules.entries.filter fun entry => keep entry.1).map
          fun entry => ⟨entry.1, .predicate entry.2.1, entry.2.2⟩ := by
  unfold registrations
  rw [Registrations.toList_eq, Registrations.toList_eq, List.filter_append, List.filter_map,
    List.filter_map]
  rfl

/-- What holds of the targets of all registrations holds of those that are listed by themselves. -/
theorem Draft.forall_target_iff (draft : Draft) (holds : Reference → Prop) :
    (∀ registration ∈ draft.registrations, holds registration.target) ↔
      (∀ entry ∈ draft.operatorRules.entries, holds entry.1) ∧
        ∀ entry ∈ draft.predicateRules.entries, holds entry.1 := by
  unfold registrations
  rw [Registrations.toList_eq, Registrations.toList_eq, List.forall_mem_append,
    List.forall_mem_map, List.forall_mem_map]

end Metamodel
