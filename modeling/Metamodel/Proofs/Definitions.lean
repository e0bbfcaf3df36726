/-
Definitions, and the order in which they are given.

To declare a type or a function is to gather its clauses and then to put the result among the others
in the draft. The gathering looks at the clauses only, so what counts for the draft are the results.
As long as each has a name of its own, they may be given in any order: the tables of the draft hold
the same in another order, and the same capabilities are enabled.
-/

import Metamodel.Proofs.Declaring
import Metamodel.Proofs.Reordering

namespace Metamodel

/-- The definition of a type, with the capabilities it enables, or that of a function. -/
inductive Definition where
  | type (sketch : TypeSketch)
  | function (decl : FunctionDecl)

namespace Definition

def type? : Definition → Option TypeDecl
  | type sketch => some sketch.decl
  | function _ => none

def function? : Definition → Option FunctionDecl
  | type _ => none
  | function decl => some decl

/-- Whether a definition enables a capability for types of a name. -/
def enables (definition : Definition) (name : String) (capability : Capability) : Bool :=
  match definition, capability with
  | type sketch, .operator operator => sketch.decl.name = name && sketch.operators.has operator
  | type sketch, .predicate predicate => sketch.decl.name = name && sketch.predicates.has predicate
  | function _, _ => false

end Definition

/-- What a declaration defines, if it is that of a type with its capabilities or of a function, and
is accepted. -/
def Declaration.definition? : Declaration → Option Definition
  | .type sketch => some (.type sketch)
  | .function name clauses => (({ name } : FunctionDecl).addAll clauses).toOption.map .function
  | .wholeFunction decl => if decl.isUniform then some (.function decl) else none
  | _ => none

namespace Draft

def define (draft : Draft) : Definition → Draft
  | .type sketch => draft.declareType sketch
  | .function decl => draft.putFunction decl

theorem has_union_set {α : Type} [DecidableEq α] (table : Table String (CapabilitySet α))
    (type name : String) (set : CapabilitySet α) (member : α) :
    (((table.set type (((table.get? type).getD .empty).union set)).get? name).getD .empty).has
        member =
      (((table.get? name).getD .empty).has member || (type = name && set.has member)) := by
  by_cases same : type = name
  · obtain rfl := same
    rw [Table.get?_set_self, Option.getD_some, decide_eq_true rfl, Bool.true_and]
    rfl
  · rw [Table.get?_set_other _ _ (Ne.symm same), decide_eq_false same, Bool.false_and,
      Bool.or_false]

/-- A definition adds to what is enabled for the name of its type. -/
theorem enables_define (draft : Draft) (definition : Definition) (name : String)
    (capability : Capability) :
    (draft.define definition).enables name capability =
      (draft.enables name capability || definition.enables name capability) := by
  cases definition with
  | function decl => exact (Bool.or_false _).symm
  | type sketch =>
    cases capability with
    | operator operator => exact has_union_set draft.operators _ name _ operator
    | predicate predicate => exact has_union_set draft.predicates _ name _ predicate

/-- What a draft is after a list of definitions, so far as the order of the list does not show. -/
structure Defined (definitions : List Definition) (draft result : Draft) : Prop where
  base : result.base = draft.base
  functionCasing : result.functionCasing = draft.functionCasing
  types : result.types = draft.types.insertAll (definitions.filterMap Definition.type?)
  functions : result.functions =
    draft.functions.insertAll (definitions.filterMap Definition.function?)
  enables : ∀ name capability, result.enables name capability = true ↔
    draft.enables name capability = true ∨
      ∃ definition ∈ definitions, definition.enables name capability = true
  functionRules : result.functionRules = draft.functionRules
  operatorRules : result.operatorRules = draft.operatorRules
  predicateRules : result.predicateRules = draft.predicateRules

theorem defined_foldl (definitions : List Definition) (draft : Draft) :
    Defined definitions draft (definitions.foldl define draft) := by
  induction definitions generalizing draft with
  | nil => exact ⟨rfl, rfl, rfl, rfl, by simp, rfl, rfl, rfl⟩
  | cons head rest inductionHypothesis =>
    have further := inductionHypothesis (draft.define head)
    have enables : ∀ name capability,
        ((head :: rest).foldl define draft).enables name capability = true ↔
          draft.enables name capability = true ∨
            ∃ definition ∈ head :: rest, definition.enables name capability = true := by
      intro name capability
      rw [List.foldl_cons, further.enables, enables_define, Bool.or_eq_true, or_assoc,
        List.exists_mem_cons_iff]
    cases head with
    | type sketch =>
      exact ⟨further.base, further.functionCasing, further.types, further.functions, enables,
        further.functionRules, further.operatorRules, further.predicateRules⟩
    | function decl =>
      exact ⟨further.base, further.functionCasing, further.types, further.functions, enables,
        further.functionRules, further.operatorRules, further.predicateRules⟩

/-- The same definitions, each of a name of its own, may be given in any order. -/
theorem reordered_define (draft : Draft) {definitions others : List Definition}
    (perm : others.Perm definitions)
    (types : ((draft.types.items ++ definitions.filterMap Definition.type?).map
      TypeDecl.name).Nodup)
    (functions : ((draft.functions.items ++ definitions.filterMap Definition.function?).map
      FunctionDecl.name).Nodup) :
    (definitions.foldl define draft).Reordered (others.foldl define draft) := by
  have one := defined_foldl definitions draft
  have two := defined_foldl others draft
  have permTypes := (perm.filterMap Definition.type?).append_left draft.types.items
  have permFunctions := (perm.filterMap Definition.function?).append_left draft.functions.items
  exact
    { base := two.base.trans one.base.symm
      functionCasing := two.functionCasing.trans one.functionCasing.symm
      types := by
        rw [two.types, one.types, Keyed.items_insertAll _ types, Keyed.items_insertAll]
        · exact permTypes
        · exact (permTypes.map TypeDecl.name).nodup_iff.mpr types
      functions := by
        rw [two.functions, one.functions, Keyed.items_insertAll _ functions,
          Keyed.items_insertAll]
        · exact permFunctions
        · exact (permFunctions.map FunctionDecl.name).nodup_iff.mpr functions
      enables := by
        funext name capability
        rw [Bool.eq_iff_iff, two.enables, one.enables]
        simp only [perm.mem_iff]
      functionRules := two.functionRules.trans one.functionRules.symm
      operatorRules := two.operatorRules.trans one.operatorRules.symm
      predicateRules := two.predicateRules.trans one.predicateRules.symm }

/-! ### Declaring in another order -/

theorem declare_of_definition? (draft : Draft) {declaration : Declaration}
    {definition : Definition} (defines : declaration.definition? = some definition) :
    draft.declare declaration = .ok (draft.define definition) := by
  cases declaration with
  | type sketch =>
    cases defines
    rfl
  | function name clauses =>
    change (({ name } : FunctionDecl).addAll clauses).toOption.map .function = some definition
      at defines
    show draft.declareFunction name clauses = _
    unfold declareFunction
    cases gathered : ({ name } : FunctionDecl).addAll clauses with
    | error fault =>
      rw [gathered] at defines
      cases defines
    | ok decl =>
      rw [gathered] at defines
      cases defines
      rfl
  | wholeFunction decl =>
    change (if decl.isUniform then some (.function decl) else none) = some definition at defines
    obtain ⟨uniform, same⟩ := Option.ite_none_right_eq_some.mp defines
    cases same
    exact if_pos uniform
  | extension | bareType | functionCasing | operators | predicates | rule | functionRule
  | literals | serializer => cases defines

theorem declareAll_of_definition? (draft : Draft) {declarations : List Declaration}
    (defining : ∀ declaration ∈ declarations, declaration.definition?.isSome = true) :
    draft.declareAll declarations =
      .ok ((declarations.filterMap Declaration.definition?).foldl define draft) := by
  induction declarations generalizing draft with
  | nil => rfl
  | cons head rest inductionHypothesis =>
    obtain ⟨definition, defines⟩ := Option.isSome_iff_exists.mp (defining head List.mem_cons_self)
    rw [declareAll_cons_eq_ok_iff]
    refine ⟨_, draft.declare_of_definition? defines, ?_⟩
    rw [List.filterMap_cons_some defines]
    exact inductionHypothesis _ fun declaration member =>
      defining declaration (List.mem_cons_of_mem head member)

/-- Declarations of types and functions, each of a name of its own, are accepted in any order if
they are in one, and make drafts that say the same. -/
theorem reordered_declareAll (draft : Draft) {declarations others : List Declaration}
    (perm : others.Perm declarations)
    (defining : ∀ declaration ∈ declarations, declaration.definition?.isSome = true)
    (types : ((draft.types.items ++ (declarations.filterMap Declaration.definition?).filterMap
      Definition.type?).map TypeDecl.name).Nodup)
    (functions : ((draft.functions.items ++
      (declarations.filterMap Declaration.definition?).filterMap
        Definition.function?).map FunctionDecl.name).Nodup) :
    ∃ first second, draft.declareAll declarations = .ok first ∧
      draft.declareAll others = .ok second ∧ first.Reordered second :=
  ⟨_, _, draft.declareAll_of_definition? defining,
    draft.declareAll_of_definition? fun declaration member =>
      defining declaration (perm.mem_iff.mp member),
    draft.reordered_define (perm.filterMap Declaration.definition?) types functions⟩

end Draft

end Metamodel
