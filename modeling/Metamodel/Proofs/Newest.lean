/-
What a name or a tag finds is the newest type that answers to it.

The tables of names and tags are laid over those of the model below entry by entry, so a type is
found under a name until the name is given to another type, and under a tag until the tag is. In
terms of the types themselves this is a matter of their age, which their places tell: of all types
of the chain of models that answer to a reference, the one that stands last is found.

The two tables know nothing of each other. A type that is declared again without its tag gives the
name away and keeps the tag, and from then on the tag finds a type that its name does not.
-/

import Metamodel.Proofs.CollectionTypes
import Metamodel.Proofs.RuleRows

namespace Metamodel

namespace Model

/-- Of the types that answer to a reference, the one that stands last. Collections answer to
nothing. -/
structure Newest (model : Model) (reference : Reference) (type : TypeInfo) : Prop where
  member : type ∈ model.arena
  plain : type.isCollection = false
  answers : type.AnswersTo reference
  last : ∀ other ∈ model.arena, other.isCollection = false → other.AnswersTo reference →
    other.handle ≤ type.handle

/-- No reference to which a type answers finds an older one or nothing. -/
def FindsNewest (model : Model) : Prop :=
  ∀ reference, ∀ type ∈ model.arena, type.isCollection = false → type.AnswersTo reference →
    ∃ handle, model.handle? reference = some handle ∧ type.handle ≤ handle

theorem WellFormed.answers_of_resolve? {model : Model} (sound : model.WellFormed)
    {reference : Reference} {type : TypeInfo} (found : model.resolve? reference = some type) :
    type.isCollection = false ∧ type.AnswersTo reference := by
  obtain ⟨handle, listed, there⟩ := Option.bind_eq_some_iff.mp found
  obtain ⟨other, otherThere, plain⟩ := sound.typeAt?_of_handle? listed
  obtain rfl := Option.some.inj (there.symm.trans otherThere)
  refine ⟨plain, ?_⟩
  cases reference with
  | named name =>
    obtain ⟨other, otherThere, answers, -⟩ := sound.named listed
    obtain rfl := Option.some.inj (there.symm.trans otherThere)
    exact answers
  | tagged tag =>
    obtain ⟨other, otherThere, answers⟩ := sound.tagged listed
    obtain rfl := Option.some.inj (there.symm.trans otherThere)
    exact answers

end Model

namespace Draft

variable {draft : Draft}

/-- A collection shares neither its name nor a tag with a declared type. -/
theorem not_answers_of_collection {model : Model} (sound : model.WellFormed) {type : TypeInfo}
    (member : type ∈ model.arena) (collection : type.isCollection = true) {decl : TypeDecl}
    (name : decl.name ≠ collectionTypeName) {reference : Reference}
    (answers : decl.AnswersTo reference) : ¬ type.AnswersTo reference := by
  obtain ⟨element, holds⟩ := type.isCollection_eq_true_iff.mp collection
  obtain ⟨inner, -, -, made⟩ := sound.eq_collectionOf (sound.typeAt?_of_mem member) holds
  rw [made]
  intro shared
  cases reference with
  | named _ => exact name (answers.trans (Eq.symm shared))
  | tagged _ => cases shared

/-- A registered type is in the model and answers to the target. -/
theorem mem_of_registeredType? {model : Model} (sound : model.WellFormed)
    {registration : Registration} {type : TypeInfo}
    (registered : registeredType? model registration = some type) :
    type ∈ model.arena ∧ type.AnswersTo registration.target := by
  have resolved := ((registeredType?_eq_some_iff _ _ _).mp registered).1
  obtain ⟨handle, -, there⟩ := Option.bind_eq_some_iff.mp resolved
  exact ⟨List.mem_of_getElem? there, (sound.answers_of_resolve? resolved).2⟩

/-- One build adds its types at the end and puts them before all others in the tables. -/
theorem findsNewest_assemble (ground : draft.ground.WellFormed) (unique : draft.UniqueTags)
    (below : draft.ground.FindsNewest) : draft.assemble.FindsNewest := by
  intro reference type member plain answers
  obtain ⟨handle, found⟩ := List.getElem?_of_mem member
  have place : type.handle = handle := (wellFormed_skeleton ground unique).handle_eq found
  rw [place]
  show ∃ place, draft.skeleton.handle? reference = some place ∧ handle ≤ place
  rw [handle?_skeleton unique]
  cases origin ground found with
  | inherited there =>
    cases own : draft.ownIndex? reference with
    | some index =>
      have before := (List.getElem?_eq_some_iff.mp there).1
      rw [denote?_of_ownIndex? own]
      exact ⟨_, rfl, Nat.le_of_lt (Nat.lt_of_lt_of_le before (Nat.le_add_right _ index))⟩
    | none =>
      obtain ⟨newest, listed, older⟩ := below reference type (List.mem_of_getElem? there) plain
        answers
      rw [denote?_of_absent own, listed]
      rw [place] at older
      exact ⟨newest, rfl, older⟩
  | own there place made =>
    rw [made, answersTo_sealType] at answers
    have own := unique.ownIndex?_eq_some there answers
    rw [denote?_of_ownIndex? own]
    exact ⟨_, rfl, Nat.le_of_eq place⟩
  | collection there place made =>
    rw [made] at plain
    cases plain

end Draft

namespace Model

theorem Built.findsNewest {model : Model} (built : model.Built) : model.FindsNewest :=
  built.invariant (fun _ _ member => nomatch member) fun _ grounded buildable below =>
    Draft.findsNewest_assemble grounded.wellFormed buildable.tags below

/-- What is found under a reference is the newest type that answers to it. -/
theorem Built.resolve?_eq_some_iff {model : Model} (built : model.Built) (reference : Reference)
    (type : TypeInfo) :
    model.resolve? reference = some type ↔ model.Newest reference type := by
  have sound := built.wellFormed
  have newest : ∀ found, model.resolve? reference = some found →
      model.Newest reference found := by
    intro found resolved
    obtain ⟨plain, answers⟩ := sound.answers_of_resolve? resolved
    obtain ⟨handle, listed, there⟩ := Option.bind_eq_some_iff.mp resolved
    refine ⟨List.mem_of_getElem? there, plain, answers, ?_⟩
    intro other member otherPlain otherAnswers
    obtain ⟨place, otherListed, older⟩ :=
      built.findsNewest reference other member otherPlain otherAnswers
    rw [sound.handle_eq there, ← Option.some.inj (otherListed.symm.trans listed)]
    exact older
  constructor
  · exact newest type
  · intro ⟨member, plain, answers, last⟩
    obtain ⟨handle, listed, older⟩ := built.findsNewest reference type member plain answers
    obtain ⟨found, there, -⟩ := sound.typeAt?_of_handle? listed
    have resolved : model.resolve? reference = some found := by
      unfold resolve?
      rw [listed]
      exact there
    obtain ⟨foundMember, foundPlain, foundAnswers, foundLast⟩ := newest found resolved
    have same : found.handle = type.handle := Nat.le_antisymm
      (last found foundMember foundPlain foundAnswers) (foundLast type member plain answers)
    rw [resolved, sound.eq_of_handle_eq foundMember member same]

/-- What a type answers to finds the type itself or one that stands after it. -/
theorem Built.exists_resolve? {model : Model} (built : model.Built) {reference : Reference}
    {type : TypeInfo} (member : type ∈ model.arena) (plain : type.isCollection = false)
    (answers : type.AnswersTo reference) :
    ∃ current, model.resolve? reference = some current ∧
      (current = type ∨ type.handle < current.handle) := by
  obtain ⟨handle, listed, older⟩ := built.findsNewest reference type member plain answers
  obtain ⟨current, there, -⟩ := built.wellFormed.typeAt?_of_handle? listed
  refine ⟨current, Option.bind_eq_some_iff.mpr ⟨handle, listed, there⟩, ?_⟩
  rw [← built.wellFormed.handle_eq there] at older
  rcases Nat.lt_or_eq_of_le older with younger | same
  · exact Or.inr younger
  · exact Or.inl
      (built.wellFormed.eq_of_handle_eq (List.mem_of_getElem? there) member same.symm)

/-- Nothing answers to what a declaration answers to if it is not known to the model. -/
theorem Built.not_answers_of_unknown {model : Model} (built : model.Built) {decl : TypeDecl}
    (name : decl.name ≠ collectionTypeName) {reference : Reference}
    (answers : decl.AnswersTo reference) (unknown : model.resolve? reference = none)
    {type : TypeInfo} (member : type ∈ model.arena) : ¬ type.AnswersTo reference := by
  cases collection : type.isCollection with
  | true =>
    exact Draft.not_answers_of_collection built.wellFormed member collection name answers
  | false =>
    intro shared
    obtain ⟨current, found, -⟩ := built.exists_resolve? member collection shared
    rw [unknown] at found
    cases found

/-- A tag finds the newest type that carries it. The name of that type finds the same one unless
the name was given away to a newer type, and the newer type does not carry the tag. -/
theorem Built.tag_finds_newest {model : Model} (built : model.Built) {tag : HostTag}
    {type : TypeInfo} (found : model.typeByTag? tag = some type) :
    model.Newest (.tagged tag) type ∧ ∃ current, model.type? type.name = some current ∧
      model.Newest (.named type.name) current ∧
        (current = type ∨ type.handle < current.handle ∧ current.tag ≠ some tag) := by
  have newest := (built.resolve?_eq_some_iff (.tagged tag) type).mp found
  obtain ⟨handle, listed, older⟩ :=
    built.findsNewest (.named type.name) type newest.member newest.plain rfl
  obtain ⟨current, there, -⟩ := built.wellFormed.typeAt?_of_handle? listed
  have named : model.type? type.name = some current := by
    show (model.handle? (.named type.name)).bind model.typeAt? = some current
    rw [listed]
    exact there
  have current_newest := (built.resolve?_eq_some_iff (.named type.name) current).mp named
  refine ⟨newest, current, named, current_newest, ?_⟩
  rw [← built.wellFormed.handle_eq there] at older
  rcases Nat.lt_or_eq_of_le older with younger | same
  · refine Or.inr ⟨younger, fun carries => ?_⟩
    have last := newest.last current current_newest.member current_newest.plain carries
    exact Nat.not_le_of_gt younger last
  · exact Or.inl (built.wellFormed.eq_of_handle_eq current_newest.member newest.member same.symm)

end Model

/-! ### A name given away without its tag -/

namespace Draft

/-- Notes, with texts of their own for the titles. The new texts are not said to be those of the
host program. -/
def archive : Draft :=
  let text : TypeSketch := .addAll (.ofBody "String" .basic) [.operators [.plus]]
  let note : TypeSketch := .addAll (.ofBody "Note" (.entity {}))
    [.attribute { name := "title", type := .named "String" },
      .attribute { name := "body", type := .tagged .text }]
  [text, note].foldl declareType (extending household.assemble)

theorem built_archive : archive.assemble.Built :=
  .build (grounded_of_standing rfl built_household) (build_of_faults (by decide))

end Draft

namespace Model

/-- In the archive the tag of texts finds the old ones and their name the new ones. -/
theorem Built.tag_finds_newest_text :
    Draft.archive.assemble.Built ∧ ∃ text current,
      Draft.archive.assemble.typeByTag? .text = some text ∧
        Draft.archive.assemble.Newest (.tagged .text) text ∧
          Draft.archive.assemble.type? text.name = some current ∧
            (current = text ∨ text.handle < current.handle ∧ current.tag ≠ some .text) := by
  have known : (Draft.archive.assemble.typeByTag? .text).isSome = true := by decide
  obtain ⟨text, found⟩ := Option.isSome_iff_exists.mp known
  obtain ⟨newest, current, named, -, apart⟩ := Built.tag_finds_newest Draft.built_archive found
  exact ⟨Draft.built_archive, text, current, found, newest, named, apart⟩

/-- It is not true that a tag finds what the name of its type finds. -/
theorem not_tag_finds_named :
    ¬ ∀ model : Model, model.Built → ∀ tag type, model.typeByTag? tag = some type →
      model.type? type.name = some type := by
  intro agree
  have old : (Draft.archive.assemble.typeByTag? .text).map (fun type => (type.name, type.handle)) =
      some ("String", 2) := by
    decide
  have new : (Draft.archive.assemble.type? "String").map TypeInfo.handle = some 6 := by
    decide
  obtain ⟨text, found, shown⟩ := Option.map_eq_some_iff.mp old
  obtain ⟨name, handle⟩ := Prod.mk.inj shown
  have named := agree _ Draft.built_archive .text text found
  rw [name] at named
  rw [named, Option.map_some, handle] at new
  cases new

end Model

end Metamodel
