/-
Declarations in layers or at once.

Suppose that some declarations are made to a draft which is then built, and that others are made on
top of the model. The same declarations may be made to one draft, all of them one after the other.
If the second ones keep to types and functions of their own, it makes no difference.

There is one thing to look at, which is an entity that begins as a copy of another one. What a copy
says is not the same before the other entity is sealed and afterwards, and there may even be nothing
to copy in one place and something in the other. Where neither is the case, the two runs go side by
side: after each declaration the one draft is the second draft laid over the first, in other words,
and a declaration is refused in both or in neither.
-/

import Metamodel.Proofs.ByName
import Metamodel.Proofs.Declaring
import Metamodel.Proofs.LayeredRules

namespace Metamodel

namespace Draft

theorem declaredEntity?_together_of_own (first : Draft) {second : Draft} {name : String}
    {decl : TypeDecl} (own : second.types.find? name = some decl) :
    (first.together second).declaredEntity? name = second.declaredEntity? name := by
  unfold declaredEntity? together
  rw [Keyed.find?_merge, own]
  rfl

theorem declaredEntity?_together_of_absent (first : Draft) {second : Draft} {name : String}
    (absent : second.types.find? name = none) :
    (first.together second).declaredEntity? name = first.declaredEntity? name := by
  unfold declaredEntity? together
  rw [Keyed.find?_merge, absent]
  rfl

/-! ### The same said to the draft below -/

/-- What is needed of a draft on top of the model of another one while declarations are still made
to it. -/
structure Above (first second : Draft) : Prop where
  ground : first.ground.WellFormed
  buildable : first.Buildable
  standing : second.base = some first.assemble
  apart : ∀ name, second.Owns (.named name) → ¬ first.Knows (.named name)

/-- A draft to which the same was said as to one draft after the other, except that the attributes
of copies may be in other words. -/
def Follows (first second single : Draft) : Prop :=
  single.rephrase first.byName = (first.together second).rephrase first.byName

section Follow

variable {first second single : Draft}

theorem Follows.ground_eq (follows : Follows first second single) :
    single.ground = first.ground :=
  (congrArg ground follows).trans (ground_together first second)

theorem Follows.declaredEntity? (follows : Follows first second single) (name : String) :
    (single.declaredEntity? name).map (EntityDecl.rephrase first.byName) =
      ((first.together second).declaredEntity? name).map (EntityDecl.rephrase first.byName) := by
  rw [← declaredEntity?_rephrase, ← declaredEntity?_rephrase, follows]

/-- No entity below has a name that the draft above uses. -/
theorem Above.entityType?_eq_none (above : Above first second) {name : String}
    (own : second.Owns (.named name)) :
    first.assemble.entityType? name = none ∧ first.ground.entityType? name = none := by
  have unknown := above.apart name own
  have missing := (resolve?_eq_none_iff above.ground above.buildable.tags _).mpr unknown
  have absent : first.ground.resolve? (.named name) = none := by
    rw [first.knows_iff, not_or] at unknown
    exact Option.eq_none_iff_forall_ne_some.mpr fun type found => unknown.2 ⟨type, found⟩
  exact ⟨congrArg (Option.filter _) missing, congrArg (Option.filter _) absent⟩

/-- An extension begins with the same above and in the one draft, in other words, or in neither with
anything. -/
theorem Above.rephrase_entity? (above : Above first second) (follows : Follows first second single)
    {name : String}
    (alike : ∀ decl ∈ first.types.items, decl.name = name → first.CopiesAlike decl) :
    (single.entity? name).map (EntityDecl.rephrase first.byName) =
      (second.entity? name).map (EntityDecl.rephrase first.byName) := by
  have ground : second.ground = first.assemble := ground_of_standing above.standing
  have words := follows.declaredEntity? name
  cases own : second.types.find? name with
  | none =>
    rw [entity?_of_absent own, ground, Option.map_map]
    refine Eq.trans ?_ (rephrase_entity?_assemble above.ground above.buildable alike).symm
    rw [declaredEntity?_together_of_absent first own] at words
    unfold entity?
    rw [Option.map_or, Option.map_or, words, follows.ground_eq]
  | some decl =>
    have absent := above.entityType?_eq_none
      ⟨decl, Keyed.mem_of_find? own, Keyed.key_of_find? own⟩
    rw [declaredEntity?_together_of_own first own] at words
    unfold entity?
    rw [follows.ground_eq, ground, absent.1, absent.2, Option.map_none, Option.or_none,
      Option.or_none, words]

/-! ### One declaration -/

/-- Two results that come to the same are both had or both refused. -/
theorem alike_results {fault α β γ : Type} {first : Except fault α} {second : Except fault β}
    {read : α → γ} {readOther : β → γ} (same : first.map read = second.map readOther) :
    (∃ value other, first = .ok value ∧ second = .ok other ∧ read value = readOther other) ∨
      ∃ error, first = .error error ∧ second = .error error := by
  cases first with
  | error error =>
    cases second with
    | error other => exact Or.inr ⟨error, rfl, congrArg Except.error (Except.error.inj same).symm⟩
    | ok other => cases same
  | ok value =>
    cases second with
    | error other => cases same
    | ok other => exact Or.inl ⟨value, other, rfl, rfl, Except.ok.inj same⟩

theorem Follows.rephrase_declare (follows : Follows first second single)
    {declaration : Declaration} (plain : declaration.Plain) :
    (single.declare declaration).map (rephrase first.byName) =
      (second.declare declaration).map fun next => (first.together next).rephrase first.byName := by
  rw [← Draft.rephrase_declare _ single plain, follows, Draft.rephrase_declare _ _ plain,
    together_declare first second plain]
  cases second.declare declaration <;> rfl

/-- An extension as a function of what it begins with. -/
theorem declareExtension_eq (draft : Draft) (name source : String) (clauses : List TypeClause) :
    draft.declareExtension name source clauses =
      (draft.entity? source).elim (.error (.unknownEntity source)) fun entity =>
        .ok (draft.declareType ((TypeSketch.ofBody name (.entity entity)).addAll clauses)) := by
  unfold declareExtension
  rw [entitySource_eq]
  cases draft.entity? source <;> rfl

theorem Above.rephrase_declareExtension (above : Above first second)
    (follows : Follows first second single) {source : String}
    (alike : ∀ decl ∈ first.types.items, decl.name = source → first.CopiesAlike decl)
    (name : String) (clauses : List TypeClause) :
    (single.declareExtension name source clauses).map (rephrase first.byName) =
      (second.declareExtension name source clauses).map
        fun next => (first.together next).rephrase first.byName := by
  have words := above.rephrase_entity? follows alike
  rw [declareExtension_eq, declareExtension_eq]
  cases found : second.entity? source with
  | none =>
    rw [found, Option.map_none, Option.map_eq_none_iff] at words
    rw [words]
    rfl
  | some entity =>
    rw [found, Option.map_some, Option.map_eq_some_iff] at words
    obtain ⟨other, otherFound, same⟩ := words
    have sketch : (TypeSketch.ofBody name (.entity other)).rephrase first.byName =
        (TypeSketch.ofBody name (.entity entity)).rephrase first.byName :=
      congrArg (fun entity => TypeSketch.ofBody name (.entity entity)) same
    rw [otherFound]
    refine congrArg Except.ok (?_ : rephrase _ _ = rephrase _ (first.together _))
    rw [together_declareType, rephrase_declareType, rephrase_declareType,
      TypeSketch.rephrase_addAll, TypeSketch.rephrase_addAll, sketch, follows]

/-- Whatever is said above may be said to the one draft, and the other way round. -/
theorem Above.rephrase_declare (above : Above first second) (follows : Follows first second single)
    {declaration : Declaration}
    (alike : ∀ name source clauses, declaration = .extension name source clauses →
      ∀ decl ∈ first.types.items, decl.name = source → first.CopiesAlike decl) :
    (single.declare declaration).map (rephrase first.byName) =
      (second.declare declaration).map fun next => (first.together next).rephrase first.byName := by
  by_cases plain : declaration.Plain
  · exact follows.rephrase_declare plain
  · cases declaration with
    | extension name source clauses =>
      exact above.rephrase_declareExtension follows (alike name source clauses rfl) name clauses
    | _ => exact absurd trivial plain

/-! ### All declarations -/

/-- The declarations lead to the same in both places, or are refused in both. What the second draft
will own is read off the declarations without their copies. -/
theorem rephrase_declareAll (ground : first.ground.WellFormed) (buildable : first.Buildable)
    {declarations : List Declaration} {plain last : Draft}
    (standing : second.base = some first.assemble)
    (outline : second.headings = plain.headings)
    (saidPlain : plain.declareAll (declarations.map Declaration.withoutCopy) = .ok last)
    (apart : ∀ name, last.Owns (.named name) → ¬ first.Knows (.named name))
    (alike : ∀ name source clauses, .extension name source clauses ∈ declarations →
      ∀ decl ∈ first.types.items, decl.name = source → first.CopiesAlike decl)
    (follows : Follows first second single) :
    (single.declareAll declarations).map (rephrase first.byName) =
      (second.declareAll declarations).map
        fun last => (first.together last).rephrase first.byName := by
  induction declarations generalizing second single plain with
  | nil => exact congrArg Except.ok follows
  | cons head rest inductionHypothesis =>
    have above : Above first second :=
      { ground, buildable, standing
        apart := fun name own => apart name <| owns_declareAll saidPlain <| by
          rw [← owns_headings_iff, ← outline, owns_headings_iff]
          exact own }
    have step := above.rephrase_declare follows fun name source clauses same =>
      alike name source clauses (same ▸ List.mem_cons_self)
    obtain ⟨middlePlain, headPlain, restPlain⟩ := declareAll_cons_eq_ok_iff.mp saidPlain
    rw [declareAll_cons, declareAll_cons]
    rcases alike_results step with ⟨middle, next, saidSingle, said, same⟩ | ⟨_, saidSingle, said⟩
    · obtain ⟨other, otherSaid, sameOutline⟩ := exists_declare_withoutCopy outline said
      obtain rfl : middlePlain = other := Except.ok.inj (headPlain.symm.trans otherSaid)
      rw [saidSingle, said]
      exact inductionHypothesis ((declare_cases said).1.trans standing) sameOutline restPlain
        (fun name source clauses member =>
          alike name source clauses (List.mem_cons_of_mem head member)) same
    · rw [saidSingle, said]
      rfl

theorem Layered.denote?_byName_together (layered : Layered first second) (reference : Reference) :
    (first.together second).denote? (first.byName reference) =
      (first.together second).denote? reference := by
  have foreign : ∀ reference target, first.denote? reference = some target →
      (first.together second).denote? reference = some target := by
    intro reference target denoted
    have known : first.Knows reference := by
      by_contra unknown
      rw [(denote?_eq_none_iff layered.wellFormed reference).mpr unknown] at denoted
      cases denoted
    rw [layered.denote?_together_of_foreign fun own => layered.apart reference own known]
    exact denoted
  cases denoted : first.denote? reference with
  | none =>
    unfold byName
    rw [denoted]
  | some target =>
    rw [foreign _ target denoted, foreign _ target ((denote?_byName first reference).trans denoted)]

/-- The one draft is built as the two drafts laid over each other are. -/
theorem Layered.build_of_follows (layered : Layered first second)
    (follows : Follows first second single) (model : Model) :
    single.build = .ok model ↔ (first.together second).build = .ok model := by
  have wellFormed : single.ground.WellFormed := by
    rw [follows.ground_eq]
    exact layered.wellFormed
  have keeps := layered.denote?_byName_together
  have denote? : single.denote? = (first.together second).denote? := by
    rw [← single.denote?_rephrase first.byName, follows, denote?_rephrase]
  have singleKeeps : ∀ reference, single.denote? (first.byName reference) =
      single.denote? reference := by
    rw [denote?]
    exact keeps
  rw [← build_rephrase wellFormed singleKeeps, follows,
    build_rephrase layered.wellFormed_together keeps]

end Follow

/-! ### In layers or at once -/

/-- A draft to which the declarations are made, one after the other, is built and comes to the model;
no declaration is refused. -/
def Makes (draft : Draft) (declarations : List Declaration) (model : Model) : Prop :=
  ∃ last, draft.declareAll declarations = .ok last ∧ last.build = .ok model

/-- Declarations `later` on top of a model that comes of others, which are made to a draft `first`
upon a base. They keep to types and functions of their own, whatever they copy. -/
structure Stacked (base : Option Model) (earlier later : List Declaration) (first : Draft)
    (below : Model) : Prop where
  standing : ∀ model ∈ base, model.Built
  said : (upon base).declareAll earlier = .ok first
  built : first.build = .ok below
  apart : ∀ plain, (extending below).declareAll (later.map Declaration.withoutCopy) = .ok plain →
    Apart first plain

/-- Declarations that are accepted in one of the two places are accepted in the other one. -/
theorem exists_declareAll {first : Draft} (grounded : first.Grounded)
    (buildable : first.Buildable) {later : List Declaration}
    (apart : ∀ plain, (extending first.assemble).declareAll (later.map Declaration.withoutCopy) =
      .ok plain → Apart first plain)
    (alike : ∀ name source clauses, .extension name source clauses ∈ later →
      ∀ decl ∈ first.types.items, decl.name = source → first.CopiesAlike decl)
    (accepted : (∃ second, (extending first.assemble).declareAll later = .ok second) ∨
      ∃ single, first.declareAll later = .ok single) :
    ∃ second single, (extending first.assemble).declareAll later = .ok second ∧
      first.declareAll later = .ok single ∧ Apart first second ∧ Follows first second single := by
  have laid := together_declareAll first (extending first.assemble)
    (List.forall_mem_map.mpr fun declaration (_ : declaration ∈ later) =>
      declaration.plain_withoutCopy)
  rw [together_extending] at laid
  obtain ⟨plain, saidPlain⟩ : ∃ plain,
      (extending first.assemble).declareAll (later.map Declaration.withoutCopy) = .ok plain := by
    rcases accepted with ⟨second, said⟩ | ⟨single, said⟩
    · obtain ⟨plain, saidPlain, -⟩ := exists_declareAll_withoutCopy rfl said
      exact ⟨plain, saidPlain⟩
    · obtain ⟨plain, saidPlain, -⟩ := exists_declareAll_withoutCopy rfl said
      rw [laid] at saidPlain
      cases above : (extending first.assemble).declareAll (later.map Declaration.withoutCopy) with
      | ok plain => exact ⟨plain, rfl⟩
      | error error =>
        rw [above] at saidPlain
        cases saidPlain
  have both := rephrase_declareAll grounded.wellFormed buildable rfl rfl saidPlain
    (fun name => (apart plain saidPlain).apart (.named name)) alike
    (congrArg (rephrase first.byName) first.together_extending.symm)
  rcases alike_results both with ⟨single, second, saidSingle, saidSecond, follows⟩ |
    ⟨error, saidSingle, saidSecond⟩
  · obtain ⟨other, otherSaid, outline⟩ := exists_declareAll_withoutCopy rfl saidSecond
    obtain rfl : plain = other := Except.ok.inj (saidPlain.symm.trans otherSaid)
    exact ⟨second, single, saidSecond, saidSingle, (apart plain saidPlain).of_headings outline,
      follows⟩
  · rw [saidSecond, saidSingle] at accepted
    rcases accepted with ⟨_, impossible⟩ | ⟨_, impossible⟩ <;> cases impossible

/-- Declarations that are made on top of the model of others may be made together with these, if
they keep to types and functions of their own and what they copy is copied alike. One of the two
comes to a model if and only if the other does, so nothing is refused in one place only, and the
models are the same but for the places of the types that are new. -/
theorem Stacked.build_at_once {base : Option Model} {earlier later : List Declaration}
    {first : Draft} {below : Model} (stacked : Stacked base earlier later first below)
    (alike : ∀ name source clauses, .extension name source clauses ∈ later →
      ∀ decl ∈ first.types.items, decl.name = source → first.CopiesAlike decl) :
    ((∃ model, (extending below).Makes later model) ↔
        ∃ model, (upon base).Makes (earlier ++ later) model) ∧
      ∀ model other, (extending below).Makes later model →
        (upon base).Makes (earlier ++ later) other →
          ∃ move : Equiv.Perm TypeHandle,
            (∀ handle < (base.getD .empty).arena.length, move handle = handle) ∧
              model.SameUpTo move other := by
  obtain ⟨standing, said, built, apart⟩ := stacked
  have firstBase : first.base = base := (base_declareAll said).trans (base_upon base)
  have grounded : first.Grounded := fun model same => standing model (firstBase.symm.trans same)
  obtain ⟨buildable, rfl⟩ := (build_eq_ok_iff grounded.wellFormed below).mp built
  have ground : first.ground = base.getD .empty :=
    congrArg (fun base : Option Model => base.getD .empty) firstBase
  have meet := exists_declareAll grounded buildable apart alike
  have layered {second : Draft} (saidAbove : (extending first.assemble).declareAll later =
      .ok second) (apart : Apart first second) : Layered first second :=
    { apart with
      grounded := grounded
      standing := ⟨_, built, base_declareAll saidAbove⟩ }
  unfold Makes
  rw [declareAll_append said]
  refine ⟨⟨?_, ?_⟩, ?_⟩
  · rintro ⟨model, second, saidSecond, secondBuilt⟩
    obtain ⟨_, single, same, saidSingle, apart, follows⟩ := meet (Or.inl ⟨second, saidSecond⟩)
    obtain rfl := Except.ok.inj (saidSecond.symm.trans same)
    have layered := layered saidSecond apart
    obtain ⟨other, otherBuilt⟩ := layered.build_together.1.mp ⟨model, secondBuilt⟩
    exact ⟨other, single, saidSingle, (layered.build_of_follows follows other).mpr otherBuilt⟩
  · rintro ⟨other, single, saidSingle, singleBuilt⟩
    obtain ⟨second, _, saidSecond, same, apart, follows⟩ := meet (Or.inr ⟨single, saidSingle⟩)
    obtain rfl := Except.ok.inj (saidSingle.symm.trans same)
    have layered := layered saidSecond apart
    have together := (layered.build_of_follows follows other).mp singleBuilt
    obtain ⟨model, secondBuilt⟩ := layered.build_together.1.mpr ⟨other, together⟩
    exact ⟨model, second, saidSecond, secondBuilt⟩
  · rintro model other ⟨second, saidSecond, secondBuilt⟩ ⟨single, saidSingle, singleBuilt⟩
    obtain ⟨_, _, sameSecond, sameSingle, apart, follows⟩ := meet (Or.inl ⟨second, saidSecond⟩)
    obtain rfl := Except.ok.inj (saidSecond.symm.trans sameSecond)
    obtain rfl := Except.ok.inj (saidSingle.symm.trans sameSingle)
    have layered := layered saidSecond apart
    rw [← ground]
    exact layered.build_together.2 model other secondBuilt
      ((layered.build_of_follows follows other).mp singleBuilt)

/-! ### When a draft keeps to itself -/

/-- Every capability that the draft enables is entered for a type of its own. -/
def EnablesOwn (draft : Draft) : Prop :=
  (∀ entry ∈ draft.operators.items, draft.Owns (.named entry.1)) ∧
    ∀ entry ∈ draft.predicates.items, draft.Owns (.named entry.1)

instance (draft : Draft) : Decidable draft.EnablesOwn :=
  inferInstanceAs (Decidable (_ ∧ _))

theorem EnablesOwn.owns {draft : Draft} (own : draft.EnablesOwn) (name : String)
    (capability : Capability) (enabled : draft.enables name capability = true) :
    draft.Owns (.named name) := by
  have entered : ∀ {α : Type} (table : Table String (CapabilitySet α)) (member : α),
      ((table.get? name).getD .empty).has member = true →
        ∃ entry ∈ table.items, entry.1 = name := by
    intro α table member has
    cases found : table.get? name with
    | none =>
      rw [found] at has
      cases has
    | some set => exact ⟨_, (Table.get?_eq_some_iff table).mp found, rfl⟩
  cases capability with
  | operator operator =>
    obtain ⟨entry, listed, rfl⟩ := entered draft.operators operator enabled
    exact own.1 entry listed
  | predicate predicate =>
    obtain ⟨entry, listed, rfl⟩ := entered draft.predicates predicate enabled
    exact own.2 entry listed

/-- Two drafts whose entries, looked through one by one, keep to themselves. -/
def LooksApart (first second : Draft) : Prop :=
  (∀ decl ∈ second.types.items, first.denote? (.named decl.name) = none) ∧
    (∀ decl ∈ second.types.items, ∀ tag ∈ decl.tag, first.denote? (.tagged tag) = none) ∧
    (∀ decl ∈ second.functions.items, ¬ first.HasFunction decl.name) ∧
    first.EnablesOwn ∧ second.EnablesOwn ∧
    (∀ registration ∈ second.registrations, second.Owns registration.target) ∧
    ∀ entry ∈ second.functionRules.items, ∃ decl ∈ second.functions.items,
      second.functionCasing.key decl.name = second.functionCasing.key entry.1

instance (first second : Draft) : Decidable (LooksApart first second) :=
  inferInstanceAs (Decidable (_ ∧ _))

theorem LooksApart.apart {first second : Draft} (looks : LooksApart first second)
    (ground : first.ground.WellFormed) (casing : second.functionCasing = first.functionCasing) :
    Apart first second := by
  obtain ⟨names, tags, functions, below, above, rules, functionRules⟩ := looks
  refine ⟨casing, fun reference own => ?_, functions, below.owns, above.owns, rules, functionRules⟩
  rw [← denote?_eq_none_iff ground]
  exact (second.forall_owns_iff fun reference => first.denote? reference = none).mpr ⟨names, tags⟩
    reference own

/-- Declarations that are accepted may be looked at without their copies. -/
theorem apart_withoutCopy {first second : Draft} {below : Model} {later : List Declaration}
    (said : (extending below).declareAll later = .ok second) (apart : Apart first second)
    (plain : Draft)
    (saidPlain : (extending below).declareAll (later.map Declaration.withoutCopy) = .ok plain) :
    Apart first plain := by
  obtain ⟨other, otherSaid, outline⟩ := exists_declareAll_withoutCopy rfl said
  obtain rfl : plain = other := Except.ok.inj (saidPlain.symm.trans otherSaid)
  exact apart.of_headings outline.symm

/-! ### A clinic for the pets of a shelter -/

/-- What is said of a shelter. -/
def shelterDeclarations : List Declaration :=
  [.type (.addAll (.ofBody "Cage" (.entity {}))
      [.attribute { name := "label", type := .named "String" },
        .attribute { name := "inmates", type := .named "Pet", collection := true }]),
    .type (.addAll (.ofBody "String" .basic) [.tag .text, .operators [.plus]]),
    .wholeFunction
      { name := "keepers"
        arguments := [{ type := some (.named "Cage") }]
        result := some (.named "Person")
        resultCollection := true },
    .rule
      { target := .tagged .text
        capability := .operator .plus
        rule := .fixed (.named "String") }]

theorem said_shelter :
    (upon (some household.assemble)).declareAll shelterDeclarations = .ok shelter := rfl

/-- What is said of a clinic, where vets are paid in a number type of their own and look after birds
in a cage. -/
def clinicDeclarations : List Declaration :=
  [.type (.addAll (.ofBody "Vet" (.entity {}))
      [.attribute { name := "name", type := .tagged .text },
        .attribute { name := "colleagues", type := .named "Vet", collection := true },
        .attribute { name := "patients", type := .named "Pet", collection := true },
        .attribute { name := "fee", type := .tagged .decimal }]),
    .type (.addAll (.ofBody "Fee" .basic) [.tag .decimal, .operators [.plus]]),
    .extension "Aviary" "Cage" [.attribute { name := "vet", type := .named "Vet" }],
    .function "treats"
      [.argument { type := some (.named "Cage") }, .collectionResult (.named "Vet")],
    .rule
      { target := .tagged .decimal
        capability := .operator .plus
        rule := .fixed (.named "Fee") },
    .functionRule "treats" (.fixed (.named "Vet"))]

def clinic : Draft := said ((extending shelter.assemble).declareAll clinicDeclarations)

theorem said_clinic : (extending shelter.assemble).declareAll clinicDeclarations = .ok clinic :=
  eq_ok_said (by decide)

theorem apart_clinic : Apart shelter clinic :=
  LooksApart.apart (by decide) grounded_shelter.wellFormed rfl

theorem build_clinic : clinic.build = .ok clinic.assemble := build_of_faults (by decide)

theorem built_of_mem_household : ∀ model ∈ some household.assemble, model.Built := by
  rintro _ ⟨⟩
  exact built_household

theorem stacked_clinic : Stacked (some household.assemble) shelterDeclarations clinicDeclarations
    shelter shelter.assemble where
  standing := built_of_mem_household
  said := said_shelter
  built := build_shelter
  apart := apart_withoutCopy said_clinic apart_clinic

/-- A clinic on a shelter on a household is a shelter with a clinic on a household. -/
theorem build_at_once_clinic :
    (extending shelter.assemble).Makes clinicDeclarations clinic.assemble ∧
      ∃ other, (upon (some household.assemble)).Makes
          (shelterDeclarations ++ clinicDeclarations) other ∧
        ∃ move : Equiv.Perm TypeHandle,
          (∀ handle < household.assemble.arena.length, move handle = handle) ∧
            clinic.assemble.SameUpTo move other := by
  have alike : ∀ decl ∈ shelter.types.items, shelter.CopiesAlike decl := by decide
  obtain ⟨both, same⟩ := Stacked.build_at_once stacked_clinic
    fun _ _ _ _ decl member _ => alike decl member
  have above : (extending shelter.assemble).Makes clinicDeclarations clinic.assemble :=
    ⟨clinic, said_clinic, build_clinic⟩
  obtain ⟨other, single⟩ := both.mp ⟨_, above⟩
  exact ⟨above, other, single, same _ _ above single⟩

/-! ### A name that is taken -/

/-- A census, in which persons are no more than marks on a list. -/
def censusDeclarations : List Declaration := [.type (.ofBody "Person" .basic)]

def census : Draft := (extending household.assemble).declareType (.ofBody "Person" .basic)

/-- Clerks begin like persons. -/
def clerkDeclarations : List Declaration := [.extension "Clerk" "Person" []]

/-- A census with clerks that begin like nobody. -/
def office : Draft :=
  said ((extending census.assemble).declareAll (clerkDeclarations.map Declaration.withoutCopy))

theorem said_office : (extending census.assemble).declareAll
    (clerkDeclarations.map Declaration.withoutCopy) = .ok office := eq_ok_said (by decide)

theorem grounded_census : census.Grounded := grounded_of_standing rfl built_household

theorem apart_office : Apart census office :=
  LooksApart.apart (by decide) grounded_census.wellFormed rfl

theorem stacked_clerks : Stacked (some household.assemble) censusDeclarations clerkDeclarations
    census census.assemble where
  standing := built_of_mem_household
  said := rfl
  built := build_of_faults (by decide)
  apart plain said := by
    obtain rfl : office = plain := Except.ok.inj (said_office.symm.trans said)
    exact apart_office

/-- There are no clerks on top of the census, where persons are no entities. -/
theorem not_makes_clerks (model : Model) :
    ¬ (extending census.assemble).Makes clerkDeclarations model := by
  intro ⟨last, accepted, _⟩
  have refused : ((extending census.assemble).declareAll clerkDeclarations).toOption.isSome =
      false := by decide
  rw [accepted] at refused
  cases refused

/-- At once, clerks are persons of the household. -/
theorem exists_makes_clerks :
    ∃ model, (upon (some household.assemble)).Makes
      (censusDeclarations ++ clerkDeclarations) model :=
  ⟨_, _, eq_ok_said (by decide), build_of_faults (by decide)⟩

/-! ### A copy of what has lost its name -/

/-- A letter, the body of which is said to be a text of the host program. -/
def letterDeclarations : List Declaration :=
  [.type (.addAll (.ofBody "Letter" (.entity {}))
    [.attribute { name := "body", type := .tagged .text }])]

def letters : Draft := said ((upon (some archive.assemble)).declareAll letterDeclarations)

theorem said_letters :
    (upon (some archive.assemble)).declareAll letterDeclarations = .ok letters := rfl

/-- Postcards begin like letters. -/
def postcardDeclarations : List Declaration := [.extension "Postcard" "Letter" []]

/-- Postcards on top of the model of letters. -/
def postcards : Draft := said ((extending letters.assemble).declareAll postcardDeclarations)

theorem said_postcards :
    (extending letters.assemble).declareAll postcardDeclarations = .ok postcards :=
  eq_ok_said (by decide)

/-- Letters and postcards at once. -/
def mail : Draft := said (letters.declareAll postcardDeclarations)

theorem said_mail : letters.declareAll postcardDeclarations = .ok mail :=
  eq_ok_said (by decide)

theorem grounded_letters : letters.Grounded := grounded_of_standing rfl built_archive

theorem apart_postcards : Apart letters postcards :=
  LooksApart.apart (by decide) grounded_letters.wellFormed rfl

/-- The places of the types of a postcard's attributes. -/
def postcardPlaces (model : Model) : List TypeHandle :=
  (model.types.filter fun type => type.name = "Postcard").flatMap fun type =>
    type.attributes.map AttributeInfo.handle

theorem stacked_postcards : Stacked (some archive.assemble) letterDeclarations
    postcardDeclarations letters letters.assemble where
  standing := by
    rintro _ ⟨⟩
    exact built_archive
  said := said_letters
  built := build_of_faults (by decide)
  apart := apart_withoutCopy said_postcards apart_postcards

/-- A postcard on top of letters has a body of the new texts, a postcard among letters one of the
old texts, like a letter. -/
theorem not_sameUpTo_postcards (move : Equiv.Perm TypeHandle)
    (fixed : ∀ handle < archive.assemble.arena.length, move handle = handle) :
    ¬ postcards.assemble.SameUpTo move mail.assemble := by
  intro alike
  have above : postcardPlaces postcards.assemble = [6] := by decide
  have single : postcardPlaces mail.assemble = [2] := by decide
  have moved : postcardPlaces mail.assemble = (postcardPlaces postcards.assemble).map move := by
    unfold postcardPlaces
    rw [alike.types, List.filter_map, List.flatMap_map, List.map_flatMap]
    simp only [TypeInfo.attributes_rename, List.map_map]
    rfl
  have stays : move 6 = 6 := fixed 6 (by decide)
  rw [above, single, List.map_singleton, stays] at moved
  cases moved

/-- It is not so for all copies. Where a name is taken from an entity, what is refused in layers is
accepted at once, and where a type has lost its name the copies are of different types. -/
theorem not_build_at_once :
    (¬ ∀ (base : Option Model) (earlier later : List Declaration) (first : Draft) (below : Model),
        Stacked base earlier later first below →
          ((∃ model, (extending below).Makes later model) ↔
            ∃ model, (upon base).Makes (earlier ++ later) model)) ∧
      ¬ ∀ (base : Option Model) (earlier later : List Declaration) (first : Draft) (below : Model),
        Stacked base earlier later first below →
          ∀ model other, (extending below).Makes later model →
            (upon base).Makes (earlier ++ later) other →
              ∃ move : Equiv.Perm TypeHandle,
                (∀ handle < (base.getD .empty).arena.length, move handle = handle) ∧
                  model.SameUpTo move other := by
  constructor
  · intro claim
    obtain ⟨model, made⟩ := (claim _ _ _ _ _ stacked_clerks).mpr exists_makes_clerks
    exact not_makes_clerks model made
  · intro claim
    obtain ⟨move, fixed, alike⟩ := claim _ _ _ _ _ stacked_postcards postcards.assemble
      mail.assemble ⟨postcards, said_postcards, build_of_faults (by decide)⟩
      ⟨mail, (declareAll_append said_letters).trans said_mail,
        build_of_faults (by decide)⟩
    exact not_sameUpTo_postcards move fixed alike

end Draft

end Metamodel
