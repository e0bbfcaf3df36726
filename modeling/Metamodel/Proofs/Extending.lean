/-
What an entity begins with that extends another one.

The other entity is looked for among the declarations of the draft and then in the model below. What
is taken from it are its attributes in order and how their names are compared, whether it is found
as a declaration or has to be put into words again. The clauses of the extension come on top of
that. The tag of the other entity and the values attached to it are left behind.

A sealed entity is put into words attribute by attribute, and an attribute that is declared again
replaces the earlier one. Nothing gets lost since no sealed entity has two attributes of one name,
whichever way it compares them.
-/

import Metamodel.Proofs.AtOnce
import Metamodel.Proofs.Definitions

namespace Metamodel

/-! ### Clauses, one after the other -/

namespace TypeClause

def tag? : TypeClause → Option HostTag
  | .tag known => some known
  | _ => none

def metadata? : TypeClause → Option Metadata
  | .metadata values => some values
  | _ => none

def casing? : TypeClause → Option Casing
  | .casing compared => some compared
  | _ => none

def attribute? : TypeClause → Option AttributeDecl
  | .attribute decl => some decl
  | _ => none

/-- Whether a clause enables a capability. -/
def enables : TypeClause → Capability → Bool
  | .operators listed, .operator operator => listed.contains operator
  | .predicates listed, .predicate predicate => listed.contains predicate
  | _, _ => false

/-- What the last clause says that speaks of a matter at all. -/
def last? {α : Type} (read : TypeClause → Option α) (clauses : List TypeClause) : Option α :=
  clauses.reverse.findSome? read

theorem last?_cons {α : Type} (read : TypeClause → Option α) (head : TypeClause)
    (rest : List TypeClause) : last? read (head :: rest) = (last? read rest).or (read head) := by
  unfold last?
  rw [List.reverse_cons, List.findSome?_append, List.findSome?_singleton]

end TypeClause

/-- Values of the later ones win, kind by kind. -/
theorem Metadata.get?_extend {α : Type} (earlier later : Metadata) (kind : MetadataKind α) :
    (earlier.extend later).get? kind =
      if later.contains kind then later.get? kind else earlier.get? kind := by
  unfold extend get? contains Table.get? Keyed.contains
  cases attached : later.entries.find? kind.name with
  | none =>
    have absent : ∀ entry ∈ later.entries.items, entry.1 ≠ kind.name := by
      simpa using List.find?_eq_none.mp attached
    rw [Keyed.find?_insertAll_of_absent _ absent]
    rfl
  | some entry =>
    have kept := Keyed.find?_insertAll_of_mem earlier.entries later.entries.distinct
      (Keyed.mem_of_find? attached)
    rw [Keyed.key_of_find? attached] at kept
    rw [kept]
    rfl

/-- An entity with the clauses on its parts added. -/
def EntityDecl.addAll (entity : EntityDecl) (clauses : List TypeClause) : EntityDecl where
  casing := (TypeClause.last? TypeClause.casing? clauses).getD entity.casing
  attributes := entity.attributes.insertAll (clauses.filterMap TypeClause.attribute?)

/-- Without further attributes there is nothing to add but how names are compared. -/
theorem EntityDecl.addAll_of_bare (entity : EntityDecl) {clauses : List TypeClause}
    (bare : ∀ clause ∈ clauses, clause.attribute? = none) :
    entity.addAll clauses =
      ⟨(TypeClause.last? TypeClause.casing? clauses).getD entity.casing, entity.attributes⟩ := by
  unfold addAll
  rw [List.filterMap_eq_nil_iff.mpr bare]
  rfl

namespace TypeSketch

/-- Whether a sketch enables a capability. -/
def enables (sketch : TypeSketch) : Capability → Bool
  | .operator operator => sketch.operators.has operator
  | .predicate predicate => sketch.predicates.has predicate

theorem enables_add (sketch : TypeSketch) (clause : TypeClause) (capability : Capability) :
    (sketch.add clause).enables capability =
      (sketch.enables capability || clause.enables capability) := by
  cases clause with
  | operators =>
    cases capability with
    | operator operator => rfl
    | predicate predicate => exact (Bool.or_false _).symm
  | predicates =>
    cases capability with
    | operator operator => exact (Bool.or_false _).symm
    | predicate predicate => rfl
  | tag | metadata => exact (Bool.or_false _).symm
  | _ =>
    unfold add
    cases sketch.decl.body <;> exact (Bool.or_false _).symm

theorem enables_addAll (sketch : TypeSketch) (clauses : List TypeClause)
    (capability : Capability) :
    (sketch.addAll clauses).enables capability =
      (sketch.enables capability || clauses.any (·.enables capability)) := by
  unfold addAll
  induction clauses generalizing sketch with
  | nil => exact (Bool.or_false _).symm
  | cons head rest inductionHypothesis =>
    rw [List.foldl_cons, inductionHypothesis, enables_add, List.any_cons, Bool.or_assoc]

/-- An entity stays an entity, whatever is said of it. -/
theorem decl_add_entity {sketch : TypeSketch} {entity : EntityDecl}
    (body : sketch.decl.body = .entity entity) (clause : TypeClause) :
    (sketch.add clause).decl =
      { name := sketch.decl.name
        tag := clause.tag?.or sketch.decl.tag
        metadata := clause.metadata?.elim sketch.decl.metadata sketch.decl.metadata.extend
        body := .entity (entity.addAll [clause]) } := by
  obtain ⟨⟨name, tag, metadata, made⟩, operators, predicates⟩ := sketch
  obtain rfl : made = .entity entity := body
  cases clause <;> rfl

theorem decl_addAll_entity {sketch : TypeSketch} {entity : EntityDecl}
    (body : sketch.decl.body = .entity entity) (clauses : List TypeClause) :
    (sketch.addAll clauses).decl =
      { name := sketch.decl.name
        tag := (TypeClause.last? TypeClause.tag? clauses).or sketch.decl.tag
        metadata :=
          (clauses.filterMap TypeClause.metadata?).foldl Metadata.extend sketch.decl.metadata
        body := .entity (entity.addAll clauses) } := by
  unfold addAll
  induction clauses generalizing sketch entity with
  | nil =>
    obtain ⟨⟨name, tag, metadata, made⟩, operators, predicates⟩ := sketch
    obtain rfl : made = .entity entity := body
    rfl
  | cons head rest inductionHypothesis =>
    have first := decl_add_entity body head
    have further : (entity.addAll [head]).addAll rest = entity.addAll (head :: rest) := by
      unfold EntityDecl.addAll
      rw [TypeClause.last?_cons TypeClause.casing? head rest, List.filterMap_cons]
      cases head <;> cases TypeClause.last? TypeClause.casing? rest <;> rfl
    rw [List.foldl_cons, inductionHypothesis (congrArg TypeDecl.body first), first, further,
      TypeClause.last?_cons, Option.or_assoc, List.filterMap_cons]
    cases head <;> rfl

end TypeSketch

/-! ### Sealed attributes -/

/-- What a copy of a sealed attribute calls the type: the name of the type, or that of the elements
if the attribute holds a collection. -/
def AttributeInfo.spokenName (info : AttributeInfo) : String := info.elementName.getD info.typeName

/-- A declaration that says what a sealed attribute says, with names for places. -/
structure AttributeDecl.Restates (decl : AttributeDecl) (info : AttributeInfo) : Prop where
  name : decl.name = info.name
  type : decl.type = .named info.spokenName
  collection : decl.collection = info.isCollection
  metadata : decl.metadata = info.metadata

theorem Draft.restates_attributeOf (info : AttributeInfo) : (attributeOf info).Restates info :=
  ⟨rfl, rfl, rfl, rfl⟩

theorem AttributeDecl.Restates.eq_attributeOf {decl : AttributeDecl} {info : AttributeInfo}
    (restates : decl.Restates info) : decl = Draft.attributeOf info := by
  obtain ⟨name, type, collection, metadata⟩ := decl
  obtain ⟨rfl, rfl, rfl, rfl⟩ := restates
  rfl

/-- How an entity compares the names of its attributes. -/
def TypeInfo.attributeCasing? (type : TypeInfo) : Option Casing :=
  match type.shape with
  | .entity attributes => some attributes.casing
  | _ => none

namespace Model

variable {model : Model} {name : String} {type : TypeInfo}

theorem mem_arena_of_entityType? (found : model.entityType? name = some type) :
    type ∈ model.arena := by
  obtain ⟨named, -⟩ := Option.filter_eq_some_iff.mp found
  obtain ⟨handle, -, there⟩ := Option.bind_eq_some_iff.mp named
  exact List.mem_of_getElem? there

theorem attributeCasing?_of_entityType? (found : model.entityType? name = some type) :
    type.attributeCasing? = some (Draft.entityOf type).casing := by
  have entity : type.kind = .entity := of_decide_eq_true (Option.filter_eq_some_iff.mp found).2
  unfold TypeInfo.kind at entity
  unfold TypeInfo.attributeCasing? Draft.entityOf
  cases shape : type.shape with
  | entity attributes => rfl
  | basic | enum | collection =>
    rw [shape] at entity
    cases entity

end Model

/-- No entity has two attributes of one name. -/
def Model.AttributesDistinct (model : Model) : Prop :=
  ∀ type ∈ model.arena, (type.attributes.map AttributeInfo.name).Nodup

namespace Draft

variable {draft : Draft}

/-- The table of attributes keeps them apart by their names as they are compared. -/
theorem nodup_attributes_sealType (draft : Draft) (decl : TypeDecl) (handle : TypeHandle) :
    ((draft.sealType decl handle).attributes.map AttributeInfo.name).Nodup := by
  unfold TypeInfo.attributes sealType sealBody
  cases decl.body with
  | basic | enum => exact List.nodup_nil
  | entity entity =>
    let sealed := (entity.attributes.items.filterMap draft.sealAttribute?).map
      fun info => (info.name, info)
    have distinct := (NameTable.ofList entity.casing sealed).entries.distinct
    have names : ((NameTable.ofList entity.casing sealed).toList.map Prod.snd).map
        AttributeInfo.name = (NameTable.ofList entity.casing sealed).toList.map Prod.fst := by
      rw [List.map_map]
      refine List.map_congr_left fun entry listed => ?_
      obtain ⟨info, -, rfl⟩ := List.mem_map.mp (NameTable.mem_of_mem_ofList listed)
      rfl
    show (((NameTable.ofList entity.casing sealed).toList.map Prod.snd).map _).Nodup
    rw [names]
    refine List.Nodup.of_map (NameTable.ofList entity.casing sealed).casing.key ?_
    rw [List.map_map]
    exact distinct

theorem attributesDistinct_assemble (ground : draft.ground.WellFormed)
    (distinct : draft.ground.AttributesDistinct) : draft.assemble.AttributesDistinct := by
  intro type member
  obtain ⟨handle, found⟩ := List.getElem?_of_mem member
  cases origin ground found with
  | inherited below => exact distinct type (List.mem_of_getElem? below)
  | own there place made =>
    rw [made]
    exact nodup_attributes_sealType draft _ handle
  | collection there place made =>
    rw [made]
    exact List.nodup_nil

end Draft

theorem Model.Built.attributesDistinct {model : Model} (built : model.Built) :
    model.AttributesDistinct :=
  built.invariant (fun _ member => nomatch member) fun _ grounded _ distinct =>
    Draft.attributesDistinct_assemble grounded.wellFormed distinct

namespace Draft

variable {draft : Draft}

theorem Grounded.attributesDistinct (grounded : draft.Grounded) :
    draft.ground.AttributesDistinct := by
  cases standing : draft.base with
  | none =>
    unfold ground
    rw [standing]
    exact fun _ member => nomatch member
  | some base =>
    rw [ground_of_standing standing]
    exact (grounded base standing).attributesDistinct

/-! ### The source of an extension -/

/-- What an extension of an entity begins with. -/
inductive BeginsWith (draft : Draft) (source : String) : EntityDecl → Prop
  /-- The draft declares the entity itself. -/
  | declared {decl : TypeDecl} {entity : EntityDecl}
      (own : draft.types.find? source = some decl) (body : decl.body = .entity entity) :
      BeginsWith draft source entity
  /-- The draft does not declare an entity of the name, whatever else it declares under it, and the
  model below has one. -/
  | inherited {type : TypeInfo} {entity : EntityDecl}
      (absent : ∀ decl, draft.types.find? source = some decl → decl.kind ≠ .entity)
      (found : draft.ground.entityType? source = some type)
      (attributes : List.Forall₂ AttributeDecl.Restates entity.attributes.items type.attributes)
      (keeps : entity.attributes.KeepsNames) (casing : type.attributeCasing? = some entity.casing) :
      BeginsWith draft source entity

theorem declaredEntity?_eq_none_iff (draft : Draft) (name : String) :
    draft.declaredEntity? name = none ↔
      ∀ decl, draft.types.find? name = some decl → decl.kind ≠ .entity := by
  unfold declaredEntity?
  cases draft.types.find? name with
  | none => exact ⟨fun _ _ found => (nomatch found), fun _ => rfl⟩
  | some decl =>
    rw [Option.bind_some]
    unfold TypeDecl.entity? TypeDecl.kind
    cases body : decl.body <;> simp [body]

theorem declaredEntity?_eq_some_iff (draft : Draft) (name : String) (entity : EntityDecl) :
    draft.declaredEntity? name = some entity ↔
      ∃ decl, draft.types.find? name = some decl ∧ decl.body = .entity entity := by
  unfold declaredEntity?
  rw [Option.bind_eq_some_iff]
  refine exists_congr fun decl => and_congr_right fun _ => ?_
  unfold TypeDecl.entity?
  cases decl.body <;> simp

/-- All attributes of a sealed entity are put into words, in their order. -/
theorem items_entityOf {type : TypeInfo}
    (distinct : (type.attributes.map AttributeInfo.name).Nodup) :
    (entityOf type).attributes.items = type.attributes.map attributeOf := by
  refine Members.items_ofList ?_
  rw [List.map_map]
  exact distinct

theorem restates_entityOf {type : TypeInfo}
    (distinct : (type.attributes.map AttributeInfo.name).Nodup) :
    List.Forall₂ AttributeDecl.Restates (entityOf type).attributes.items type.attributes := by
  rw [items_entityOf distinct, List.forall₂_map_left_iff, List.forall₂_same]
  exact fun info _ => restates_attributeOf info

theorem beginsWith_entityOf (distinct : draft.ground.AttributesDistinct) {source : String}
    {type : TypeInfo} (absent : draft.declaredEntity? source = none)
    (found : draft.ground.entityType? source = some type) :
    draft.BeginsWith source (entityOf type) :=
  .inherited ((draft.declaredEntity?_eq_none_iff source).mp absent) found
    (restates_entityOf (distinct type (Model.mem_arena_of_entityType? found)))
    (Members.keepsNames_ofList _) (Model.attributeCasing?_of_entityType? found)

/-- The entity that is looked up is what the extension begins with. -/
theorem entitySource_eq_ok_iff (distinct : draft.ground.AttributesDistinct) (source : String)
    (entity : EntityDecl) :
    draft.entitySource source = .ok entity ↔ draft.BeginsWith source entity := by
  constructor
  · intro found
    rcases entitySource_cases found with declared | ⟨absent, type, below, rfl⟩
    · obtain ⟨decl, own, body⟩ := (draft.declaredEntity?_eq_some_iff source entity).mp declared
      exact .declared own body
    · exact beginsWith_entityOf distinct absent below
  · intro begins
    cases begins with
    | declared own body =>
      exact entitySource_of_declared
        ((draft.declaredEntity?_eq_some_iff source entity).mpr ⟨_, own, body⟩)
    | @inherited type _ absent found attributes keeps casing =>
      have none := (draft.declaredEntity?_eq_none_iff source).mpr absent
      rw [entitySource_of_ground none found]
      have sameCasing := Option.some.inj
        ((Model.attributeCasing?_of_entityType? found).symm.trans casing)
      have items : entity.attributes.items = type.attributes.map attributeOf := by
        rw [← List.forall₂_eq_eq_eq, List.forall₂_map_right_iff]
        exact attributes.imp fun _ _ restates => restates.eq_attributeOf
      have sameAttributes : (entityOf type).attributes = entity.attributes := by
        refine Members.KeepsNames.eq_of_items_eq (Members.keepsNames_ofList _) keeps ?_
        rw [items_entityOf (distinct type (Model.mem_arena_of_entityType? found)), items]
      exact congrArg Except.ok (congrArg₂ EntityDecl.mk sameCasing sameAttributes)

/-- There is nothing else to complain of than an entity that is not there. -/
theorem entitySource_eq_error {source : String} {error : DeclarationError}
    (refused : draft.entitySource source = .error error) : error = .unknownEntity source := by
  unfold entitySource at refused
  split at refused
  · cases refused
  · split at refused <;> cases refused
    rfl

/-! ### What the draft has after that -/

/-- The draft `next` is the given one with an entity of a name that begins with the parts of another
one. Nothing in the clauses shows but what they say of the new entity. -/
structure Extended (draft : Draft) (name : String) (entity : EntityDecl)
    (clauses : List TypeClause) (next : Draft) : Prop where
  /-- Tag and attached values are those of the clauses only. -/
  declared : next.types.find? name = some
    { name
      tag := TypeClause.last? TypeClause.tag? clauses
      metadata := (clauses.filterMap TypeClause.metadata?).foldl Metadata.extend .empty
      body := .entity (entity.addAll clauses) }
  others : ∀ other, other ≠ name → next.types.find? other = draft.types.find? other
  enables : ∀ type capability, next.enables type capability =
    (draft.enables type capability || (name = type && clauses.any (·.enables capability)))
  rest : next =
    { draft with types := next.types, operators := next.operators, predicates := next.predicates }

/-- A type that is declared adds to what is enabled for its name. -/
theorem enables_declareType (draft : Draft) (sketch : TypeSketch) (name : String)
    (capability : Capability) :
    (draft.declareType sketch).enables name capability =
      (draft.enables name capability ||
        (sketch.decl.name = name && sketch.enables capability)) := by
  cases capability with
  | operator operator => exact draft.enables_define (.type sketch) name (.operator operator)
  | predicate predicate => exact draft.enables_define (.type sketch) name (.predicate predicate)

theorem extended_declareType (draft : Draft) (name : String) (entity : EntityDecl)
    (clauses : List TypeClause) :
    draft.Extended name entity clauses
      (draft.declareType ((TypeSketch.ofBody name (.entity entity)).addAll clauses)) := by
  have decl : ((TypeSketch.ofBody name (.entity entity)).addAll clauses).decl =
      { name
        tag := TypeClause.last? TypeClause.tag? clauses
        metadata := (clauses.filterMap TypeClause.metadata?).foldl Metadata.extend .empty
        body := .entity (entity.addAll clauses) } := by
    rw [TypeSketch.decl_addAll_entity rfl]
    exact congrArg (TypeDecl.mk name · _ _) Option.or_none
  have same := congrArg TypeDecl.name decl
  refine ⟨?_, ?_, ?_, rfl⟩
  · unfold declareType registerType
    rw [decl]
    exact Keyed.find?_insert_self draft.types _
  · intro other different
    exact Keyed.find?_insert_other draft.types _ fun equal => different (equal.trans same)
  · intro type capability
    rw [enables_declareType, same, TypeSketch.enables_addAll]
    cases capability <;> rfl

/-! ### Extensions -/

theorem BeginsWith.exists_declareExtension {source : String} {entity : EntityDecl}
    (begins : draft.BeginsWith source entity) (distinct : draft.ground.AttributesDistinct)
    (name : String) (clauses : List TypeClause) :
    ∃ next, draft.declareExtension name source clauses = .ok next ∧
      draft.Extended name entity clauses next := by
  have found := (entitySource_eq_ok_iff distinct source entity).mpr begins
  exact ⟨_, declareExtension_eq_ok_iff.mpr ⟨entity, found, rfl⟩,
    extended_declareType draft name entity clauses⟩

/-- An extension of an entity is refused if there is no such entity in the draft or below, and for
no other reason. Otherwise the new entity begins with the attributes of the other one, in the order
they have there, and compares their names in the same way. -/
theorem Grounded.declareExtension_exact (grounded : draft.Grounded) (name source : String)
    (clauses : List TypeClause) :
    ((∀ entity, ¬ draft.BeginsWith source entity) →
        draft.declareExtension name source clauses = .error (.unknownEntity source)) ∧
      ∀ entity, draft.BeginsWith source entity →
        ∃ next, draft.declareExtension name source clauses = .ok next ∧
          draft.Extended name entity clauses next := by
  refine ⟨fun missing => ?_, fun entity begins => ?_⟩
  · have source_iff := entitySource_eq_ok_iff grounded.attributesDistinct source
    unfold declareExtension
    cases found : draft.entitySource source with
    | ok entity => exact absurd ((source_iff entity).mp found) (missing entity)
    | error error => exact congrArg Except.error (entitySource_eq_error found)
  · exact begins.exists_declareExtension grounded.attributesDistinct name clauses

/-- The persons of a household may be extended on top of it, and nobody else. -/
theorem declareExtension_exact_shelter :
    let clauses := [.attribute { name := "cages", type := .named "Cage", collection := true },
      .casing .insensitive]
    shelter.Grounded ∧ (∀ entity, ¬ shelter.BeginsWith "Nobody" entity) ∧
      shelter.declareExtension "Keeper" "Nobody" clauses = .error (.unknownEntity "Nobody") ∧
      ∃ entity next, shelter.BeginsWith "Person" entity ∧
        shelter.declareExtension "Keeper" "Person" clauses = .ok next ∧
          shelter.Extended "Keeper" entity clauses next := by
  intro clauses
  have nobody : ∀ entity, ¬ shelter.BeginsWith "Nobody" entity := by
    intro entity begins
    have accepted :=
      (entitySource_eq_ok_iff grounded_shelter.attributesDistinct _ entity).mpr begins
    have refused : (shelter.entitySource "Nobody").toOption.isSome = false := by decide
    rw [accepted] at refused
    cases refused
  have absent : shelter.declaredEntity? "Person" = none := rfl
  have known : (shelter.ground.entityType? "Person").isSome = true := by decide
  obtain ⟨person, found⟩ := Option.isSome_iff_exists.mp known
  have begins := beginsWith_entityOf grounded_shelter.attributesDistinct absent found
  have refused := (Grounded.declareExtension_exact grounded_shelter "Keeper" "Nobody" clauses).1
  have accepted := (Grounded.declareExtension_exact grounded_shelter "Keeper" "Person" clauses).2
  obtain ⟨next, said, extended⟩ := accepted _ begins
  exact ⟨grounded_shelter, nobody, refused nobody, _, next, begins, said, extended⟩

/-! ### A name that is taken, and what is left behind -/

/-- A club that says what its members are. -/
def club : Draft :=
  standalone.declareType (.addAll (.ofBody "Member" (.entity {}))
    [.metadata (.documented "Pays a fee."),
      .attribute { name := "number", type := .named "Count" }])

/-- A type that is no entity does not hide the entity below of which it has taken the name, and the
values that are attached to an entity do not show in its extensions. -/
theorem not_declareExtension_shadowed :
    (¬ ∀ (draft : Draft), draft.Grounded → ∀ (name source : String) (decl : TypeDecl),
        draft.types.find? source = some decl → decl.kind ≠ .entity →
          draft.declareExtension name source [] = .error (.unknownEntity source)) ∧
      ¬ ∀ (draft : Draft), draft.Grounded → ∀ (name source : String) (decl : TypeDecl)
        (next : Draft), draft.types.find? source = some decl →
          draft.declareExtension name source [] = .ok next →
            ∃ copy, next.types.find? name = some copy ∧ copy.metadata = decl.metadata := by
  constructor
  · intro hides
    have refused := hides census grounded_census "Keeper" "Person" _ rfl
      (by decide)
    have accepted : (census.declareExtension "Keeper" "Person" []).toOption.isSome = true := by
      decide
    rw [refused] at accepted
    cases accepted
  · intro shows
    have alone : club.Grounded := fun _ standing => nomatch standing
    obtain ⟨copy, found, same⟩ := shows club alone "President" "Member" _ _ rfl rfl
    cases found
    cases same

end Draft

end Metamodel
