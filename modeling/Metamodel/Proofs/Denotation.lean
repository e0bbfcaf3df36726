/-
What a reference denotes in a draft, said without places.

While a draft is built, a reference is looked up among the draft's own declarations and then in the
model below, and what is found is a place. Here the same is said in terms of the declarations: a
declaration answers to its name and to its tag, and what a draft offers under a reference is the
declaration that answers or, if none does, the type that the model below has there. Finding a place
and being offered a type come to the same thing over a well-formed model.
-/

import Metamodel.Draft.Fault
import Metamodel.Proofs.WellFormed

namespace Metamodel

/-- A declaration is spoken of by its name or by its tag. -/
def TypeDecl.AnswersTo (decl : TypeDecl) : Reference → Prop
  | .named name => decl.name = name
  | .tagged tag => decl.tag = some tag

instance (decl : TypeDecl) (reference : Reference) : Decidable (decl.AnswersTo reference) :=
  match reference with
  | .named name => inferInstanceAs (Decidable (decl.name = name))
  | .tagged tag => inferInstanceAs (Decidable (decl.tag = some tag))

namespace Draft

/-- Whether the draft enables a capability for types of a name. -/
def enables (draft : Draft) (name : String) : Capability → Bool
  | .operator operator => ((draft.operators.get? name).getD .empty).has operator
  | .predicate predicate => ((draft.predicates.get? name).getD .empty).has predicate

/-- What the draft has to offer under a reference, as a name and the enabled capabilities. Its own
declarations go before the types of the model below. -/
inductive Offers (draft : Draft) (reference : Reference) : String → (Capability → Bool) → Prop
  | own {decl : TypeDecl} (member : decl ∈ draft.types.items)
      (answers : decl.AnswersTo reference) :
      Offers draft reference decl.name (draft.enables decl.name)
  | inherited {type : TypeInfo}
      (absent : ∀ decl ∈ draft.types.items, ¬ decl.AnswersTo reference)
      (found : draft.ground.resolve? reference = some type) :
      Offers draft reference type.name type.enables

/-- A reference that is not left hanging. -/
def Knows (draft : Draft) (reference : Reference) : Prop :=
  ∃ name enabled, draft.Offers reference name enabled

/-- No two of the draft's own types claim the same tag. -/
def UniqueTags (draft : Draft) : Prop := (draft.types.items.filterMap TypeDecl.tag).Nodup

variable {draft : Draft}

/-! ### Own types -/

theorem ownIndex?_eq_none_iff (reference : Reference) :
    draft.ownIndex? reference = none ↔
      ∀ decl ∈ draft.types.items, ¬ decl.AnswersTo reference := by
  cases reference with
  | named name => exact draft.types.index?_eq_none_iff
  | tagged tag =>
    unfold ownIndex?
    rw [List.findIdx?_eq_none_iff]
    simp only [decide_eq_false_iff_not, TypeDecl.AnswersTo]

theorem answers_of_ownIndex? {reference : Reference} {index : Nat}
    (found : draft.ownIndex? reference = some index) :
    ∃ decl, draft.types.items[index]? = some decl ∧ decl.AnswersTo reference := by
  cases reference with
  | named name => exact draft.types.index?_eq_some_iff.mp found
  | tagged tag =>
    obtain ⟨bound, answers, -⟩ := List.findIdx?_eq_some_iff_getElem.mp found
    have carries : draft.types.items[index].tag = some tag := of_decide_eq_true answers
    exact ⟨_, List.getElem?_eq_getElem bound, carries⟩

/-- With unique tags only one declaration answers to a reference. -/
theorem UniqueTags.answers_unique (unique : draft.UniqueTags) {reference : Reference}
    {first second : Nat} {decl other : TypeDecl}
    (atFirst : draft.types.items[first]? = some decl)
    (atSecond : draft.types.items[second]? = some other)
    (answers : decl.AnswersTo reference) (otherAnswers : other.AnswersTo reference) :
    first = second := by
  cases reference with
  | named name => exact draft.types.place_unique atFirst atSecond (answers.trans otherAnswers.symm)
  | tagged tag =>
    have apart := List.pairwise_iff_getElem.mp (List.pairwise_filterMap.mp unique)
    obtain ⟨firstBound, rfl⟩ := List.getElem?_eq_some_iff.mp atFirst
    obtain ⟨secondBound, rfl⟩ := List.getElem?_eq_some_iff.mp atSecond
    rcases Nat.lt_trichotomy first second with before | same | after
    · exact absurd rfl (apart _ _ firstBound secondBound before tag answers tag otherAnswers)
    · exact same
    · exact absurd rfl (apart _ _ secondBound firstBound after tag otherAnswers tag answers)

theorem UniqueTags.ownIndex?_eq_some (unique : draft.UniqueTags) {reference : Reference}
    {index : Nat} {decl : TypeDecl} (there : draft.types.items[index]? = some decl)
    (answers : decl.AnswersTo reference) : draft.ownIndex? reference = some index := by
  cases found : draft.ownIndex? reference with
  | none =>
    exact absurd answers
      ((ownIndex?_eq_none_iff reference).mp found decl (List.mem_of_getElem? there))
  | some other =>
    obtain ⟨otherDecl, otherThere, otherAnswers⟩ := answers_of_ownIndex? found
    rw [unique.answers_unique otherThere there otherAnswers answers]

/-- With unique tags there is one thing on offer under a reference. -/
theorem Offers.unique (unique : draft.UniqueTags) {reference : Reference} {name other : String}
    {enabled otherEnabled : Capability → Bool} (offer : draft.Offers reference name enabled)
    (otherOffer : draft.Offers reference other otherEnabled) :
    name = other ∧ enabled = otherEnabled := by
  cases offer with
  | own member answers =>
    cases otherOffer with
    | own otherMember otherAnswers =>
      obtain ⟨first, there⟩ := List.getElem?_of_mem member
      obtain ⟨second, otherThere⟩ := List.getElem?_of_mem otherMember
      obtain rfl := unique.answers_unique there otherThere answers otherAnswers
      obtain rfl := Option.some.inj (there.symm.trans otherThere)
      exact ⟨rfl, rfl⟩
    | inherited absent found => exact absurd answers (absent _ member)
  | inherited absent found =>
    cases otherOffer with
    | own otherMember otherAnswers => exact absurd otherAnswers (absent _ otherMember)
    | inherited _ otherFound =>
      obtain rfl := Option.some.inj (found.symm.trans otherFound)
      exact ⟨rfl, rfl⟩

/-! ### Places -/

theorem denote?_of_ownIndex? {reference : Reference} {index : Nat}
    (found : draft.ownIndex? reference = some index) :
    draft.denote? reference = some (.own index) := by
  unfold denote?
  rw [found]

theorem denote?_of_absent {reference : Reference} (absent : draft.ownIndex? reference = none) :
    draft.denote? reference = (draft.ground.handle? reference).map .inherited := by
  unfold denote?
  rw [absent]

/-- A denotation that there is a type for. -/
inductive Holds (draft : Draft) : Denotation → Prop
  | own {index : Nat} (bound : index < draft.types.items.length) : Holds draft (.own index)
  | inherited {handle : TypeHandle} {type : TypeInfo}
      (found : draft.ground.typeAt? handle = some type) (plain : type.isCollection = false) :
      Holds draft (.inherited handle)

theorem holds_of_denote? (ground : draft.ground.WellFormed) {reference : Reference}
    {target : Denotation} (denoted : draft.denote? reference = some target) :
    draft.Holds target := by
  cases found : draft.ownIndex? reference with
  | some index =>
    rw [denote?_of_ownIndex? found] at denoted
    obtain ⟨decl, there, -⟩ := answers_of_ownIndex? found
    cases denoted
    exact .own (List.getElem?_eq_some_iff.mp there).1
  | none =>
    rw [denote?_of_absent found, Option.map_eq_some_iff] at denoted
    obtain ⟨handle, below, rfl⟩ := denoted
    obtain ⟨type, there, plain⟩ := ground.typeAt?_of_handle? below
    exact .inherited there plain

/-- A reference denotes nothing exactly if the draft has nothing to offer under it. -/
theorem denote?_eq_none_iff (ground : draft.ground.WellFormed) (reference : Reference) :
    draft.denote? reference = none ↔ ¬ draft.Knows reference := by
  cases found : draft.ownIndex? reference with
  | some index =>
    obtain ⟨decl, there, answers⟩ := answers_of_ownIndex? found
    rw [denote?_of_ownIndex? found]
    simp only [reduceCtorEq, false_iff, not_not]
    exact ⟨_, _, .own (List.mem_of_getElem? there) answers⟩
  | none =>
    have absent := (ownIndex?_eq_none_iff reference).mp found
    rw [denote?_of_absent found, Option.map_eq_none_iff, ← ground.resolve?_eq_none_iff]
    constructor
    · rintro missing ⟨name, enabled, offer⟩
      cases offer with
      | own member answers => exact absent _ member answers
      | inherited _ there => rw [missing] at there; cases there
    · intro unknown
      refine Option.eq_none_iff_forall_ne_some.mpr fun type there => unknown ?_
      exact ⟨_, _, .inherited absent there⟩

theorem isUnknown_iff (ground : draft.ground.WellFormed) (reference : Reference) :
    draft.isUnknown reference = true ↔ ¬ draft.Knows reference := by
  unfold isUnknown
  rw [Option.isNone_iff_eq_none, denote?_eq_none_iff ground]

end Draft

end Metamodel
