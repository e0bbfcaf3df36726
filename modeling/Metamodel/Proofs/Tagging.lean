/-
Which declaration a draft shows for a tag.

Until a draft is built several of its types may carry one tag, and asked for the tag the draft shows
one of them. It goes through the names from the last one back. But a type that is declared again
stays where its name came up first, and so what is shown is the type whose name came up last, which
need not be the type that was declared last. The two are the same where no tag is claimed twice, as
in every draft that can be built.
-/

import Metamodel.Proofs.Redeclaring
import Mathlib.Data.List.Pairwise

namespace Metamodel

namespace Keyed

variable {α κ : Type} [DecidableEq κ] {key : α → κ}

/-- The items that no later one replaces, in the order in which they were given. -/
def remaining (key : α → κ) (items : List α) : List α :=
  items.pwFilter fun earlier later => key earlier ≠ key later

theorem mem_remaining_cons (head : α) (rest : List α) (item : α) :
    item ∈ remaining key (head :: rest) ↔
      item ∈ remaining key rest ∨ item = head ∧ ∀ later ∈ rest, key later ≠ key head := by
  have apart : (∀ later ∈ remaining key rest, key head ≠ key later) ↔
      ∀ later ∈ rest, key later ≠ key head := by
    refine Iff.trans (List.forall_mem_pwFilter ?_ head rest) ?_
    · intro first second third different
      by_cases same : key first = key second
      · exact Or.inr fun equal => different (same.trans equal)
      · exact Or.inl same
    · exact forall₂_congr fun _ _ => ne_comm
  by_cases new : ∀ later ∈ rest, key later ≠ key head
  · rw [remaining, List.pwFilter_cons_of_pos (apart.mpr new), List.mem_cons, or_comm,
      and_iff_left new]
    rfl
  · rw [remaining, List.pwFilter_cons_of_neg (mt apart.mp new), or_iff_left fun both => new both.2]
    rfl

/-- An item remains exactly if it is the last one with its key. -/
theorem mem_remaining_iff (items : List α) (item : α) :
    item ∈ remaining key items ↔
      items.reverse.find? (fun other => key other = key item) = some item := by
  induction items with
  | nil => simp [remaining]
  | cons head rest inductionHypothesis =>
    rw [mem_remaining_cons, inductionHypothesis, List.reverse_cons, List.find?_append,
      Option.or_eq_some_iff]
    refine or_congr_right ?_
    constructor
    · rintro ⟨rfl, new⟩
      have absent : rest.reverse.find? (fun other => key other = key item) = none := by
        simpa using new
      exact ⟨absent, by simp⟩
    · intro ⟨absent, found⟩
      obtain rfl := List.mem_singleton.mp (List.mem_of_find?_eq_some found)
      exact ⟨rfl, by simpa using absent⟩

/-- A table holds the items that remain, whatever their order. -/
theorem items_perm_remaining (items : List α) :
    (ofList items : Keyed key).items.Perm (remaining key items) := by
  have distinct : (remaining key items).Nodup :=
    (List.pairwise_pwFilter items).imp fun apart same => apart (congrArg key same)
  refine (List.perm_ext_iff_of_nodup (List.Nodup.of_map key (ofList items).distinct) distinct).mpr
    fun item => ?_
  have found := find?_insertAll (empty : Keyed key) items (key item)
  rw [mem_remaining_iff, ← Option.or_none (o := items.reverse.find? _)]
  exact (((ofList items : Keyed key).find?_eq_some_iff).trans (and_iff_left rfl)).symm.trans
    (iff_of_eq (congrArg (· = some item) found))

end Keyed

namespace TypeDecl

/-- The last of some declarations of a name. -/
def last? (declared : List TypeDecl) (name : String) : Option TypeDecl :=
  declared.reverse.find? fun decl => decl.name = name

/-- Of the declarations that no later one of their name replaces the last one with a tag. -/
def latestWithTag? (declared : List TypeDecl) (tag : HostTag) : Option TypeDecl :=
  (Keyed.remaining name declared).reverse.find? fun decl => decl.tag = some tag

/-- Of the names whose last declaration has a tag the one that came up last, where it does not count
that a name came up again. -/
def newestNameWithTag? (declared : List TypeDecl) (tag : HostTag) : Option String :=
  (declared.map name).eraseDups.reverse.find? fun name =>
    (last? declared name).any fun decl => decl.tag = some tag

variable {declared : List TypeDecl} {tag : HostTag}

/-- What is latest is the last declaration of its name. -/
theorem last?_of_latestWithTag? {latest : TypeDecl}
    (found : latestWithTag? declared tag = some latest) :
    last? declared latest.name = some latest ∧ latest.tag = some tag := by
  have member := List.mem_reverse.mp (List.mem_of_find?_eq_some found)
  exact ⟨(Keyed.mem_remaining_iff declared latest).mp member, by simpa using List.find?_some found⟩

theorem name_of_last? {name : String} {last : TypeDecl} (found : last? declared name = some last) :
    last.name = name := by
  simpa using List.find?_some found

/-- The newest name with a tag has a last declaration. -/
theorem exists_last?_of_newestNameWithTag? {newest : String}
    (found : newestNameWithTag? declared tag = some newest) :
    ∃ last, last? declared newest = some last := by
  have carries := List.find?_some found
  obtain ⟨last, lastFound, -⟩ := (Option.any_eq_true _ _).mp carries
  exact ⟨last, lastFound⟩

end TypeDecl

namespace Draft

variable {draft : Draft} {declarations : List Declaration}

/-- The types that are declared by one declaration after the other, those that are replaced later on
among them. -/
def declaredTypes (draft : Draft) (declarations : List Declaration) : List TypeDecl :=
  (draft.sketches declarations).map TypeSketch.decl

theorem ComesOf.types_eq (made : draft.ComesOf declarations) :
    draft.types = Keyed.ofList ((upon draft.base).declaredTypes declarations) := by
  have empty : (upon draft.base).types = Keyed.empty := by
    cases draft.base <;> rfl
  rw [(declareAll_sketches made).1, empty]
  rfl

/-- What the draft shows is the last declaration of the newest name. -/
theorem ComesOf.typeDeclByTag?_eq (made : draft.ComesOf declarations) (tag : HostTag) :
    draft.typeDeclByTag? tag =
      (TypeDecl.newestNameWithTag? ((upon draft.base).declaredTypes declarations) tag).bind
        (TypeDecl.last? ((upon draft.base).declaredTypes declarations)) := by
  let declared := (upon draft.base).declaredTypes declarations
  have last : ∀ name, draft.types.find? name = TypeDecl.last? declared name := by
    intro name
    rw [made.types_eq]
    exact (Keyed.find?_insertAll Keyed.empty declared name).trans Option.or_none
  have names : draft.types.items.map TypeDecl.name = (declared.map TypeDecl.name).eraseDups := by
    rw [made.types_eq]
    exact Keyed.keys_ofList declared
  -- A declaration in the table is the last one of its name, so its tag may be read off the name.
  have carries : ∀ decl ∈ draft.types.items.reverse, decide (decl.tag = some tag) =
      (TypeDecl.last? declared decl.name).any fun other => other.tag = some tag := by
    intro decl member
    rw [← last, (draft.types.find?_eq_some_iff).mpr ⟨List.mem_reverse.mp member, rfl⟩]
    rfl
  unfold typeDeclByTag?
  rw [← List.head?_filter, List.filter_congr carries, List.head?_filter,
    draft.types.find?_reverse_items fun name =>
      (TypeDecl.last? declared name).any fun other => other.tag = some tag, names]
  exact congrArg (Option.bind _) (funext last)

theorem ComesOf.typeDeclByTag?_eq_none_iff (made : draft.ComesOf declarations) (tag : HostTag) :
    draft.typeDeclByTag? tag = none ↔ TypeDecl.latestWithTag?
      ((upon draft.base).declaredTypes declarations) tag = none := by
  unfold typeDeclByTag? TypeDecl.latestWithTag?
  have perm : draft.types.items.Perm _ :=
    made.types_eq ▸ Keyed.items_perm_remaining ((upon draft.base).declaredTypes declarations)
  rw [List.find?_eq_none, List.find?_eq_none]
  simp only [List.mem_reverse, perm.mem_iff]

/-- With unique tags one declaration carries a tag. -/
theorem UniqueTags.eq_of_tag (unique : draft.UniqueTags) {decl other : TypeDecl} {tag : HostTag}
    (member : decl ∈ draft.types.items) (otherMember : other ∈ draft.types.items)
    (carries : decl.tag = some tag) (otherCarries : other.tag = some tag) : decl = other := by
  obtain ⟨place, there⟩ := List.getElem?_of_mem member
  obtain ⟨otherPlace, otherThere⟩ := List.getElem?_of_mem otherMember
  have answers : decl.AnswersTo (.tagged tag) := carries
  obtain rfl := unique.answers_unique there otherThere answers otherCarries
  exact Option.some.inj (there.symm.trans otherThere)

theorem uniqueTags_of_build {model : Model} (built : draft.build = .ok model) :
    draft.UniqueTags := by
  have none := (faults_of_build built).1
  unfold faults at none
  split at none
  · next some => exact absurd none some
  · next clean =>
    have references : draft.referenceFaults = [] := not_not.mp clean
    exact uniqueTags_of_tagFaults
      (List.append_eq_nil_iff.mp (List.append_eq_nil_iff.mp references).1).1

theorem ComesOf.typeDeclByTag?_of_uniqueTags (made : draft.ComesOf declarations)
    (unique : draft.UniqueTags) (tag : HostTag) :
    draft.typeDeclByTag? tag =
      TypeDecl.latestWithTag? ((upon draft.base).declaredTypes declarations) tag := by
  cases latest : TypeDecl.latestWithTag? ((upon draft.base).declaredTypes declarations) tag with
  | none => exact (made.typeDeclByTag?_eq_none_iff tag).mpr latest
  | some decl =>
    cases shown : draft.typeDeclByTag? tag with
    | none =>
      rw [(made.typeDeclByTag?_eq_none_iff tag).mp shown] at latest
      cases latest
    | some other =>
      have carries : other.tag = some tag := by simpa using List.find?_some shown
      have member := List.mem_reverse.mp (List.mem_of_find?_eq_some shown)
      have latestMember : decl ∈ draft.types.items := by
        rw [made.types_eq, (Keyed.items_perm_remaining _).mem_iff]
        exact List.mem_reverse.mp (List.mem_of_find?_eq_some latest)
      rw [unique.eq_of_tag member latestMember carries (TypeDecl.last?_of_latestWithTag? latest).2]

/-- For a tag the draft shows the last declaration of the name that came up last among the names
with the tag. This is the declaration made last of all that carry the tag and were not replaced
exactly if its name came up last too, as it did if no tag is claimed twice, which is so wherever the
draft can be built. -/
theorem ComesOf.shows_newest_name (made : draft.ComesOf declarations) (tag : HostTag) :
    let declared := (upon draft.base).declaredTypes declarations
    draft.typeDeclByTag? tag =
        (TypeDecl.newestNameWithTag? declared tag).bind (TypeDecl.last? declared) ∧
      (draft.typeDeclByTag? tag = TypeDecl.latestWithTag? declared tag ↔
        TypeDecl.newestNameWithTag? declared tag =
          (TypeDecl.latestWithTag? declared tag).map TypeDecl.name) ∧
        ∀ model, draft.build = .ok model →
          draft.typeDeclByTag? tag = TypeDecl.latestWithTag? declared tag := by
  intro declared
  have shown := made.typeDeclByTag?_eq tag
  refine ⟨shown, ?_, fun model built =>
    made.typeDeclByTag?_of_uniqueTags (uniqueTags_of_build built) tag⟩
  rw [shown]
  constructor
  · intro same
    cases newest : TypeDecl.newestNameWithTag? declared tag with
    | none =>
      rw [newest] at same
      rw [← same]
      rfl
    | some name =>
      obtain ⟨last, lastFound⟩ := TypeDecl.exists_last?_of_newestNameWithTag? newest
      rw [newest, Option.bind_some, lastFound] at same
      rw [← same, Option.map_some, TypeDecl.name_of_last? lastFound]
  · intro same
    rw [same]
    cases latest : TypeDecl.latestWithTag? declared tag with
    | none => rfl
    | some decl => exact (TypeDecl.last?_of_latestWithTag? latest).1

/-! ### Numbers that are declared once more -/

/-- Whole numbers and counts stand for one type of the host. The whole numbers are declared again
after the counts. -/
def numberDeclarations : List Declaration :=
  [.type (.addAll (.ofBody "Integer" .basic) [.tag .integer]),
    .bareType { name := "Count", tag := some .integer },
    .type (.addAll (.ofBody "Integer" .basic) [.tag .integer, .operators [.plus]])]

def numbers : Draft := said ((upon none).declareAll numberDeclarations)

theorem comesOf_numbers : numbers.ComesOf numberDeclarations := rfl

/-- The counts are shown, whose name came up last, and not the whole numbers. -/
theorem ComesOf.shows_newest_name_count :
    let declared := (upon numbers.base).declaredTypes numberDeclarations
    numbers.ComesOf numberDeclarations ∧
      (numbers.typeDeclByTag? .integer).map TypeDecl.name = some "Count" ∧
        (TypeDecl.latestWithTag? declared .integer).map TypeDecl.name = some "Integer" ∧
          numbers.typeDeclByTag? .integer ≠ TypeDecl.latestWithTag? declared .integer := by
  intro declared
  obtain ⟨shown, same_iff, -⟩ := ComesOf.shows_newest_name comesOf_numbers .integer
  have newest : TypeDecl.newestNameWithTag? declared .integer = some "Count" := by
    decide
  have latest : (TypeDecl.latestWithTag? declared .integer).map TypeDecl.name = some "Integer" := by
    decide
  refine ⟨comesOf_numbers, ?_, latest, fun same => ?_⟩
  · rw [shown, newest]
    rfl
  · have equal := newest.symm.trans ((same_iff.mp same).trans latest)
    exact absurd equal (by decide)

/-- A draft does not always show the latest declaration with a tag. -/
theorem not_typeDeclByTag?_latest :
    ¬ ∀ (draft : Draft) (declarations : List Declaration), draft.ComesOf declarations →
      ∀ tag, draft.typeDeclByTag? tag =
        TypeDecl.latestWithTag? ((upon draft.base).declaredTypes declarations) tag := by
  intro latest
  have same := congrArg (Option.map TypeDecl.name)
    (latest numbers numberDeclarations comesOf_numbers .integer)
  revert same
  decide

end Draft

end Metamodel
