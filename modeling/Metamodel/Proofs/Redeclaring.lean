/-
Which of several declarations of a type counts.

A type may be declared more than once under its name, and as something else each time. What the
last declaration says of it is what the type is: its tag, the values attached to it and what it is
made of. Capabilities do not go by this. They are filed under the name, apart from the rest of the
declaration, and what is filed there is only ever added to. So a type has the capabilities of all
declarations of its name, and has those of the last one alone exactly if the others enable nothing
else.
-/

import Metamodel.Proofs.Binding
import Metamodel.Proofs.Extending
import Metamodel.Proofs.Registering

namespace Metamodel

/-! ### What a declaration comes to -/

namespace Model

/-- An attribute that is bound as it was declared and keeps the values attached to it. -/
structure RealizesAttribute (model : Model) (declared : AttributeDecl) (info : AttributeInfo) :
    Prop extends BindsAttribute model declared info where
  metadata : info.metadata = declared.metadata

/-- The parts of a sealed type are the declared ones, in the order of the declaration. -/
inductive RealizesBody (model : Model) : TypeBody → Shape → Prop
  | basic : RealizesBody model .basic .basic
  | entity {entity : EntityDecl} {table : NameTable AttributeInfo}
      (casing : table.casing = entity.casing)
      (attributes : List.Forall₂ model.RealizesAttribute entity.attributes.items table.values) :
      RealizesBody model (.entity entity) (.entity table)
  | enum {enum : EnumDecl} {table : NameTable ValueInfo} (casing : table.casing = enum.casing)
      (values : table.values = enum.values.items.map fun decl => ⟨decl.name, decl.metadata⟩) :
      RealizesBody model (.enum enum) (.enum table)

/-- A sealed type is what its declaration says, but for the capabilities. -/
structure RealizesType (model : Model) (decl : TypeDecl) (type : TypeInfo) : Prop where
  name : type.name = decl.name
  tag : type.tag = decl.tag
  metadata : type.metadata = decl.metadata
  body : model.RealizesBody decl.body type.shape

end Model

/-- Whether a declaration enables a capability for types of a name without declaring a type. -/
def Declaration.enables (declaration : Declaration) (name : String) (capability : Capability) :
    Bool :=
  match declaration with
  | operators target listed => target = name && (TypeClause.operators listed).enables capability
  | predicates target listed => target = name && (TypeClause.predicates listed).enables capability
  | _ => false

namespace TypeSketch

/-- Whether a sketch enables a capability for types of a name. -/
def enablesFor (sketch : TypeSketch) (name : String) (capability : Capability) : Bool :=
  sketch.decl.name = name && sketch.enables capability

theorem enablesFor_eq_true_iff (sketch : TypeSketch) (name : String) (capability : Capability) :
    sketch.enablesFor name capability = true ↔
      sketch.decl.name = name ∧ sketch.enables capability = true := by
  unfold enablesFor
  rw [Bool.and_eq_true, decide_eq_true_iff]

/-- The sketch that counts for a name: the last one. -/
def last? (sketches : List TypeSketch) (name : String) : Option TypeSketch :=
  sketches.reverse.find? fun sketch => sketch.decl.name = name

/-- What the declarations of a name enable together is what one of them enables exactly if the
others enable nothing else. -/
theorem enables_eq_iff {sketches : List TypeSketch} {sketch : TypeSketch}
    {enabled : Capability → Bool} (enables : ∀ capability, enabled capability = true ↔
      ∃ other ∈ sketches, other.decl.name = sketch.decl.name ∧ other.enables capability = true)
    (member : sketch ∈ sketches) :
    enabled = sketch.enables ↔ ∀ other ∈ sketches, other.decl.name = sketch.decl.name →
      ∀ capability, other.enables capability = true → sketch.enables capability = true := by
  constructor
  · intro same other listed named capability capable
    rw [← same]
    exact (enables capability).mpr ⟨other, listed, named, capable⟩
  · intro covers
    refine funext fun capability => Bool.eq_iff_iff.mpr ((enables capability).trans ⟨?_, ?_⟩)
    · intro ⟨other, listed, named, capable⟩
      exact covers other listed named capability capable
    · intro capable
      exact ⟨sketch, member, rfl, capable⟩

end TypeSketch

namespace Draft

variable {draft : Draft}

/-- The type that a declaration declares, if it declares any. An extension is taken with what it
begins with, and a type that is registered as it is has no capabilities of its own. -/
def sketch? (draft : Draft) : Declaration → Option TypeSketch
  | .type sketch => some sketch
  | .extension name source clauses =>
    (draft.entitySource source).toOption.map fun entity =>
      (TypeSketch.ofBody name (.entity entity)).addAll clauses
  | .bareType decl => some { decl }
  | _ => none

/-- The types that are declared by one declaration after the other. -/
def sketches : Draft → List Declaration → List TypeSketch
  | _, [] => []
  | draft, head :: rest =>
    (draft.sketch? head).toList ++
      match draft.declare head with
      | .ok next => next.sketches rest
      | .error _ => []

/-! ### Declarations, one after the other -/

/-- What is enabled for a name without a declaration is added in the same way. -/
theorem enables_enableOperators (draft : Draft) (target : String) (listed : List Operator)
    (name : String) (capability : Capability) :
    (draft.enableOperators target (.ofList listed)).enables name capability =
      (draft.enables name capability ||
        (target = name && (TypeClause.operators listed).enables capability)) := by
  cases capability with
  | operator operator => exact has_union_set draft.operators target name _ operator
  | predicate predicate =>
    show draft.enables name (.predicate predicate) =
      (draft.enables name (.predicate predicate) || (decide (target = name) && false))
    rw [Bool.and_false, Bool.or_false]

theorem enables_enablePredicates (draft : Draft) (target : String) (listed : List Predicate)
    (name : String) (capability : Capability) :
    (draft.enablePredicates target (.ofList listed)).enables name capability =
      (draft.enables name capability ||
        (target = name && (TypeClause.predicates listed).enables capability)) := by
  cases capability with
  | operator operator =>
    show draft.enables name (.operator operator) =
      (draft.enables name (.operator operator) || (decide (target = name) && false))
    rw [Bool.and_false, Bool.or_false]
  | predicate predicate => exact has_union_set draft.predicates target name _ predicate

/-- A declaration replaces the type of its name and adds to the capabilities of the name. -/
theorem declare_sketch {declaration : Declaration} {next : Draft}
    (accepted : draft.declare declaration = .ok next) :
    next.types = draft.types.insertAll ((draft.sketch? declaration).toList.map TypeSketch.decl) ∧
      ∀ name capability, next.enables name capability =
        (draft.enables name capability ||
          ((draft.sketch? declaration).toList.any (·.enablesFor name capability) ||
            declaration.enables name capability)) := by
  have declared : ∀ (sketch : TypeSketch) (name : String) (capability : Capability),
      (draft.declareType sketch).enables name capability =
        (draft.enables name capability ||
          ([sketch].any (·.enablesFor name capability) || false)) := by
    intro sketch name capability
    rw [enables_declareType, List.any_cons, List.any_nil, Bool.or_false, Bool.or_false]
    rfl
  cases declaration with
  | type sketch =>
    cases accepted
    exact ⟨rfl, declared sketch⟩
  | extension name source clauses =>
    obtain ⟨entity, found, rfl⟩ := declareExtension_eq_ok_iff.mp accepted
    have same : draft.sketch? (.extension name source clauses) =
        some ((TypeSketch.ofBody name (.entity entity)).addAll clauses) := by
      show (draft.entitySource source).toOption.map _ = _
      rw [found]
      rfl
    rw [same]
    exact ⟨rfl, declared _⟩
  | bareType decl =>
    cases accepted
    refine ⟨rfl, fun name capability => ?_⟩
    have nothing : ({ decl } : TypeSketch).enablesFor name capability = false := by
      cases capability <;> exact Bool.and_false _
    show draft.enables name capability = (_ || ((TypeSketch.enablesFor _ _ _ || false) || false))
    rw [nothing]
    exact (Bool.or_false _).symm
  | function name clauses =>
    obtain ⟨decl, -, rfl⟩ := declareFunction_eq_ok_iff.mp accepted
    exact ⟨rfl, fun _ _ => (Bool.or_false _).symm⟩
  | wholeFunction decl =>
    obtain ⟨-, rfl⟩ := registerFunction_eq_ok_iff.mp accepted
    exact ⟨rfl, fun _ _ => (Bool.or_false _).symm⟩
  | operators target listed =>
    cases accepted
    exact ⟨rfl, draft.enables_enableOperators target listed⟩
  | predicates target listed =>
    cases accepted
    exact ⟨rfl, draft.enables_enablePredicates target listed⟩
  | rule registration =>
    obtain ⟨target, capability, rule⟩ := registration
    cases capability <;> cases accepted <;> exact ⟨rfl, fun _ _ => (Bool.or_false _).symm⟩
  | functionCasing | functionRule | literals | serializer =>
    cases accepted
    exact ⟨rfl, fun _ _ => (Bool.or_false _).symm⟩

theorem declareAll_sketches {declarations : List Declaration} {last : Draft}
    (accepted : draft.declareAll declarations = .ok last) :
    last.types = draft.types.insertAll ((draft.sketches declarations).map TypeSketch.decl) ∧
      ∀ name capability, last.enables name capability =
        (draft.enables name capability ||
          ((draft.sketches declarations).any (·.enablesFor name capability) ||
            declarations.any (·.enables name capability))) := by
  induction declarations generalizing draft with
  | nil =>
    cases accepted
    exact ⟨rfl, fun _ _ => (Bool.or_false _).symm⟩
  | cons head rest inductionHypothesis =>
    obtain ⟨next, first, later⟩ := declareAll_cons_eq_ok_iff.mp accepted
    obtain ⟨headTypes, headEnables⟩ := declare_sketch first
    obtain ⟨restTypes, restEnables⟩ := inductionHypothesis later
    have all : draft.sketches (head :: rest) =
        (draft.sketch? head).toList ++ next.sketches rest := by
      rw [sketches, first]
    constructor
    · rw [restTypes, headTypes, all, List.map_append]
      exact List.foldl_append.symm
    · intro name capability
      rw [restEnables, headEnables, all, List.any_append, List.any_cons]
      ac_rfl

namespace ComesOf

variable {declarations : List Declaration}

/-- The declaration of a name is the last one. -/
theorem find?_types (made : draft.ComesOf declarations) (name : String) :
    draft.types.find? name =
      (TypeSketch.last? ((upon draft.base).sketches declarations) name).map TypeSketch.decl := by
  have empty : (upon draft.base).types = .empty := by
    cases draft.base <;> rfl
  rw [(declareAll_sketches made).1, empty, Keyed.find?_insertAll, ← List.map_reverse,
    List.find?_map]
  exact Option.or_none

/-- What is enabled for a name is what any declaration of the name enables, or what is enabled for
the name without a declaration. -/
theorem enables_iff (made : draft.ComesOf declarations) (name : String)
    (capability : Capability) :
    draft.enables name capability = true ↔
      (∃ sketch ∈ (upon draft.base).sketches declarations,
          sketch.enablesFor name capability = true) ∨
        ∃ declaration ∈ declarations, declaration.enables name capability = true := by
  have empty : (upon draft.base).enables name capability = false := by
    cases draft.base <;> cases capability <;> rfl
  rw [(declareAll_sketches made).2, empty, Bool.false_or, Bool.or_eq_true, List.any_eq_true,
    List.any_eq_true]

end ComesOf

/-! ### Sealing a declaration -/

theorem realizesAttribute_of_sealAttribute? (ground : draft.ground.WellFormed)
    (unique : draft.UniqueTags) {declared : AttributeDecl} {info : AttributeInfo}
    (made : draft.sealAttribute? declared = some info) :
    draft.assemble.RealizesAttribute declared info := by
  refine ⟨bindsAttribute_of_sealAttribute? ground unique made, ?_⟩
  obtain ⟨slot, -, rfl⟩ := Option.map_eq_some_iff.mp made
  rfl

theorem realizesBody_sealBody (ground : draft.ground.WellFormed) (buildable : draft.Buildable)
    {decl : TypeDecl} (member : decl ∈ draft.types.items) :
    draft.assemble.RealizesBody decl.body (draft.sealBody decl.body) := by
  cases body : decl.body with
  | basic => exact .basic
  | entity entity =>
    have known := buildable.attributeTypes decl member
    have listed := attributes_sealType ground buildable member 0
    unfold TypeInfo.attributes sealType sealBody TypeDecl.attributes at listed
    unfold TypeDecl.attributes at known
    rw [body] at known listed
    refine .entity (congrArg NameTable.casing (NameTable.ofList_eq _ _)) ?_
    rw [show (NameTable.ofList entity.casing _).values = _ from listed]
    exact (forall₂_sealAttribute? ground _ known).imp fun _ _ made =>
      realizesAttribute_of_sealAttribute? ground buildable.tags made
  | enum enum =>
    have distinct : ((enum.values.items.map ValueDecl.name).map enum.casing.key).Nodup :=
      buildable.nodup_valueKeys member body
    refine .enum (congrArg NameTable.casing (NameTable.ofList_eq _ _)) ?_
    unfold NameTable.values
    rw [NameTable.toList_ofList, List.map_map]
    · rfl
    · rw [List.map_map]
      rw [List.map_map] at distinct
      exact distinct

theorem realizesType_sealType (ground : draft.ground.WellFormed) (buildable : draft.Buildable)
    {decl : TypeDecl} (member : decl ∈ draft.types.items) (handle : TypeHandle) :
    draft.assemble.RealizesType decl (draft.sealType decl handle) where
  name := rfl
  tag := rfl
  metadata := rfl
  body := realizesBody_sealBody ground buildable member

/-! ### Types that are declared again -/

/-- A type of which one declaration counts, among others of its name. -/
structure Redeclared (sketches : List TypeSketch) (sketch : TypeSketch) (model : Model)
    (type : TypeInfo) : Prop where
  realizes : model.RealizesType sketch.decl type
  /-- Capabilities come from all declarations of the name. -/
  enables : ∀ capability, type.enables capability = true ↔
    ∃ other ∈ sketches, other.decl.name = sketch.decl.name ∧ other.enables capability = true
  /-- They are those of the one declaration exactly if the others enable nothing else. -/
  exact_iff : type.enables = sketch.enables ↔
    ∀ other ∈ sketches, other.decl.name = sketch.decl.name →
      ∀ capability, other.enables capability = true → sketch.enables capability = true

/-- However often types are declared, the draft's own types are those of all the names, and each of
them is what the last declaration of its name says, with the capabilities of every one of them. -/
theorem Grounded.redeclared (grounded : draft.Grounded) {declarations : List Declaration}
    (made : draft.ComesOf declarations)
    (apart : ∀ declaration ∈ declarations, ∀ name capability,
      declaration.enables name capability = false) {model : Model}
    (built : draft.build = .ok model) (name : String) :
    (draft.Owns (.named name) ↔
        ∃ sketch, TypeSketch.last? ((upon draft.base).sketches declarations) name = some sketch) ∧
      ∀ sketch, TypeSketch.last? ((upon draft.base).sketches declarations) name = some sketch →
        ∃ type, model.type? name = some type ∧
          Redeclared ((upon draft.base).sketches declarations) sketch model type := by
  obtain ⟨buildable, rfl⟩ := (build_eq_ok_iff grounded.wellFormed model).mp built
  have found := made.find?_types name
  constructor
  · constructor
    · intro ⟨decl, member, same⟩
      rw [draft.types.find?_eq_some_iff.mpr ⟨member, same⟩] at found
      obtain ⟨sketch, last, -⟩ := Option.map_eq_some_iff.mp found.symm
      exact ⟨sketch, last⟩
    · intro ⟨sketch, last⟩
      rw [last, Option.map_some] at found
      exact ⟨sketch.decl, Keyed.mem_of_find? found, Keyed.key_of_find? found⟩
  · intro sketch last
    rw [last, Option.map_some] at found
    have member := Keyed.mem_of_find? found
    obtain rfl : sketch.decl.name = name := Keyed.key_of_find? found
    obtain ⟨index, there⟩ := List.getElem?_of_mem member
    have enables : ∀ capability,
        (draft.sealType sketch.decl (draft.ownHandle index)).enables capability = true ↔
          ∃ other ∈ (upon draft.base).sketches declarations,
            other.decl.name = sketch.decl.name ∧ other.enables capability = true := by
      intro capability
      have silent : ¬ ∃ declaration ∈ declarations,
          declaration.enables sketch.decl.name capability = true := by
        intro ⟨declaration, listed, speaks⟩
        rw [apart declaration listed] at speaks
        cases speaks
      rw [enables_sealType, made.enables_iff, or_iff_left silent]
      simp only [TypeSketch.enablesFor_eq_true_iff]
    exact ⟨_, type?_own buildable.tags there,
      ⟨realizesType_sealType grounded.wellFormed buildable member _, enables,
        TypeSketch.enables_eq_iff enables (List.mem_reverse.mp (List.mem_of_find?_eq_some last))⟩⟩

/-! ### An amount that turns into an entity -/

/-- Amounts are numbers first, and then something that has an owner. -/
def amountDeclarations : List Declaration :=
  [.type (.addAll (.ofBody "Amount" .basic) [.tag .decimal, .operators [.plus]]),
    .extension "Amount" "Pet" [.operators [.minus]]]

def amounts : Draft := said ((upon (some household.assemble)).declareAll amountDeclarations)

theorem comesOf_amounts : amounts.ComesOf amountDeclarations := eq_ok_said (by decide)

theorem grounded_amounts : amounts.Grounded := grounded_of_standing rfl built_household

theorem apart_amounts : ∀ declaration ∈ amountDeclarations, ∀ name capability,
    declaration.enables name capability = false := by
  simp [amountDeclarations, Declaration.enables]

theorem build_amounts : amounts.build = .ok amounts.assemble := build_of_faults (by decide)

/-- The sketch of amounts that counts has no tag and no addition. -/
theorem last?_amounts : ∃ sketch,
    TypeSketch.last? ((upon amounts.base).sketches amountDeclarations) "Amount" = some sketch ∧
      sketch.decl.tag = none ∧ sketch.enables (.operator .plus) = false := by
  have known : (TypeSketch.last? ((upon amounts.base).sketches amountDeclarations) "Amount").map
      (fun sketch => (sketch.decl.tag, sketch.enables (.operator .plus))) = some (none, false) := by
    decide
  obtain ⟨sketch, last, said⟩ := Option.map_eq_some_iff.mp known
  obtain ⟨tag, enables⟩ := Prod.mk.inj said
  exact ⟨sketch, last, tag, enables⟩

theorem enables_plus_amounts {type : TypeInfo}
    (found : amounts.assemble.type? "Amount" = some type) :
    type.enables (.operator .plus) = true := by
  have added : (amounts.assemble.type? "Amount").map (·.enables (.operator .plus)) = some true := by
    decide
  rw [found, Option.map_some, Option.some.injEq] at added
  exact added

/-- Amounts have no tag any more, but they can still be added. -/
theorem redeclared_amounts :
    amounts.Grounded ∧ amounts.ComesOf amountDeclarations ∧ amounts.Owns (.named "Amount") ∧
      ∃ sketch type, amounts.assemble.type? "Amount" = some type ∧
        Redeclared ((upon amounts.base).sketches amountDeclarations) sketch amounts.assemble type ∧
          type.tag = none ∧ type.enables ≠ sketch.enables := by
  obtain ⟨sketch, last, tag, plus⟩ := last?_amounts
  obtain ⟨owns, counts⟩ :=
    Grounded.redeclared grounded_amounts comesOf_amounts apart_amounts build_amounts "Amount"
  obtain ⟨type, found, redeclared⟩ := counts sketch last
  refine ⟨grounded_amounts, comesOf_amounts, owns.mpr ⟨sketch, last⟩, sketch, type, found,
    redeclared, redeclared.realizes.tag.trans tag, fun same => ?_⟩
  have added := enables_plus_amounts found
  rw [same, plus] at added
  cases added

/-- It is not true that a type has the capabilities of its last declaration alone. -/
theorem not_redeclared :
    ¬ ∀ draft : Draft, draft.Grounded → ∀ (declarations : List Declaration),
      draft.ComesOf declarations →
        (∀ declaration ∈ declarations, ∀ name capability,
          declaration.enables name capability = false) →
          ∀ model : Model, draft.build = .ok model → ∀ (name : String) (sketch : TypeSketch),
            TypeSketch.last? ((upon draft.base).sketches declarations) name = some sketch →
              ∃ type, model.type? name = some type ∧ model.RealizesType sketch.decl type ∧
                type.enables = sketch.enables := by
  intro claim
  obtain ⟨sketch, last, -, plus⟩ := last?_amounts
  obtain ⟨type, found, -, same⟩ := claim amounts grounded_amounts _ comesOf_amounts apart_amounts _
    build_amounts "Amount" sketch last
  have added := enables_plus_amounts found
  rw [same, plus] at added
  cases added

end Draft

end Metamodel
