/-
A model does not depend on the order in which its types and functions were declared.

The rules that were registered are filed in the order of their registration, which is the same in
both drafts, and for types that go by the same names and tags. After that the defaults are filled
in, in the order of the types. Here the order might matter, since a type for which a default is
filled in covers for others of its name. It does not, because a default is only ever missing for
types that come with the draft, and of these no two share a name or a tag, the collections apart,
which are all alike.
-/

import Metamodel.Proofs.Defaults
import Metamodel.Proofs.Definitions
import Metamodel.Proofs.LayeredRules

namespace Metamodel

namespace Model

/-- Renaming the places of the first model gives what the second one has under every name, every tag
and every place, whatever the order in which it is listed. -/
structure AlikeUpTo (move : Equiv.Perm TypeHandle) (first second : Model) : Prop where
  typeAt? : ∀ handle,
    second.typeAt? (move handle) = (first.typeAt? handle).map (TypeInfo.rename move)
  /-- Names and tags denote the same types. -/
  handle? : ∀ reference, second.handle? reference = (first.handle? reference).map move
  collectionHandle? : ∀ element,
    second.collectionHandle? (move element) = (first.collectionHandle? element).map move
  function? : ∀ name, second.function? name = (first.function? name).map (FunctionInfo.rename move)
  functionRule? : ∀ name, second.functionRule? name = first.functionRule? name
  rules : ∀ reference capability,
    second.rules.row? reference capability = first.rules.row? reference capability

end Model

namespace Draft

open RuleTable

namespace Reordered

variable {first second : Draft}

section Assembled

variable (reordered : first.Reordered second) (ground : first.ground.WellFormed)
  (buildable : first.Buildable)
include reordered ground buildable

/-! ### What the two models hold -/

theorem handle?_skeleton (reference : Reference) :
    second.skeleton.handle? reference =
      (first.skeleton.handle? reference).map (first.reorder second) :=
  reordered.handle?_reorder ground buildable.tags (reordered.buildable buildable).tags reference

theorem typeAt?_skeleton (handle : TypeHandle) :
    second.skeleton.typeAt? (first.reorder second handle) =
      (first.skeleton.typeAt? handle).map (TypeInfo.rename (first.reorder second)) :=
  reordered.typeAt?_reorder ground (reordered.buildable buildable).tags handle

theorem resolve?_skeleton (reference : Reference) :
    second.skeleton.resolve? reference =
      (first.skeleton.resolve? reference).map (TypeInfo.rename (first.reorder second)) :=
  Model.resolve?_rename (reordered.typeAt?_skeleton ground buildable)
    (reordered.handle?_skeleton ground buildable) reference

theorem collectionHandle?_skeleton (element : TypeHandle) :
    second.skeleton.collectionHandle? (first.reorder second element) =
      (first.skeleton.collectionHandle? element).map (first.reorder second) := by
  have sound := wellFormed_skeleton ground buildable.tags
  have otherSound := wellFormed_skeleton (reordered.ground_eq ▸ ground)
    (reordered.buildable buildable).tags
  have renamed : ∀ handle, second.skeleton.typeAt? (reordered.perm handle) =
      (first.skeleton.typeAt? handle).map (TypeInfo.rename reordered.perm) :=
    reordered.typeAt?_skeleton ground buildable
  exact Model.collectionHandle?_rename sound otherSound renamed element

/-! ### Rules -/

/-- Whatever the order, registrations are filed alike. -/
theorem filedRules_eq : second.filedRules = first.filedRules := by
  rw [filedRules, filedRules, reordered.registrations_eq, reordered.ground_eq]
  exact foldl_fileRule_rename
    (fun registration _ => reordered.resolve?_skeleton ground buildable registration.target) _

/-- Whatever the order, defaults are filled in for the same types. -/
theorem mem_ruledTypes {type : TypeInfo} (member : type ∈ first.ruledTypes) :
    type.rename (first.reorder second) ∈ second.ruledTypes := by
  rcases List.mem_append.mp member with named | collection
  · obtain ⟨handle, listed, there⟩ := List.mem_filterMap.mp named
    obtain ⟨name, found⟩ := first.named.get?_of_mem_values listed
    have resolved : first.skeleton.resolve? (.named name) = some type :=
      Option.bind_eq_some_iff.mpr ⟨handle, found, there⟩
    have moved := reordered.resolve?_skeleton ground buildable (.named name)
    rw [resolved] at moved
    exact List.mem_append_left _ (Model.mem_types_of_type? moved)
  · obtain ⟨handle, listed, there⟩ := List.mem_filterMap.mp collection
    obtain ⟨element, found⟩ := first.collections.get?_of_mem_values listed
    have foundHandle : first.skeleton.collectionHandle? element = some handle := found
    have moved := reordered.collectionHandle?_skeleton ground buildable element
    have movedThere := reordered.typeAt?_skeleton ground buildable handle
    rw [foundHandle] at moved
    rw [there] at movedThere
    exact List.mem_append_right _ (Model.mem_collectionTypes_of_handle? moved movedThere)

/-- What lacks a rule in the one order lacks it in the other one. -/
theorem lacks_rename {type : TypeInfo} {capability : Capability}
    (lacks : Lacks first.filedRules type capability) :
    Lacks second.filedRules (type.rename (first.reorder second)) capability := by
  rw [reordered.filedRules_eq ground buildable]
  refine ⟨?_, lacks.2⟩
  rw [TypeInfo.enables_rename]
  exact lacks.1

/-- Every row ends up the same, with what was registered or with a default. -/
theorem row?_sealedRules (covered : first.ground.Covered) (reference : Reference)
    (capability : Capability) :
    second.sealedRules.row? reference capability =
      first.sealedRules.row? reference capability := by
  have otherGround : second.ground.WellFormed := reordered.ground_eq ▸ ground
  have otherCovered : second.ground.Covered := reordered.ground_eq ▸ covered
  have otherBuildable := reordered.buildable buildable
  rw [sealedRules_eq, sealedRules_eq]
  by_cases lacking : ∃ type ∈ first.ruledTypes,
      Lacks first.filedRules type capability ∧ type.AnswersTo reference
  · obtain ⟨type, member, lacks, answers⟩ := lacking
    have moved := reordered.mem_ruledTypes ground buildable member
    have movedLacks := reordered.lacks_rename ground buildable lacks
    have movedAnswers : (type.rename (first.reorder second)).AnswersTo reference :=
      (answersTo_congr rfl rfl reference).mpr answers
    rw [row?_fillRules_of_lacks member lacks ?_ answers,
      row?_fillRules_of_lacks moved movedLacks ?_ movedAnswers]
    · exact congrArg some (defaultRule_congr rfl capability)
    · rintro other otherMember otherLacks ⟨shared, shares, otherShares⟩
      exact alike_of_lacks otherGround otherCovered otherBuildable (mem_arena_of_mem_types moved)
        (mem_arena_of_mem_types otherMember) movedLacks otherLacks shares otherShares
    · rintro other otherMember otherLacks ⟨shared, shares, otherShares⟩
      exact alike_of_lacks ground covered buildable (mem_arena_of_mem_types member)
        (mem_arena_of_mem_types otherMember) lacks otherLacks shares otherShares
  · rw [row?_fillRules_of_not_lacks, row?_fillRules_of_not_lacks,
      reordered.filedRules_eq ground buildable]
    · exact fun type member lacks answers => lacking ⟨type, member, lacks, answers⟩
    · intro type member lacks answers
      refine lacking ⟨_, reordered.symm.mem_ruledTypes otherGround otherBuildable member,
        reordered.symm.lacks_rename otherGround otherBuildable lacks, ?_⟩
      exact (answersTo_congr rfl rfl reference).mpr answers

/-! ### Both models -/

theorem alikeUpTo (covered : first.ground.Covered) :
    first.assemble.AlikeUpTo reordered.perm second.assemble where
  typeAt? := reordered.typeAt?_skeleton ground buildable
  handle? := reordered.handle?_skeleton ground buildable
  collectionHandle? := reordered.collectionHandle?_skeleton ground buildable
  function? := reordered.function?_reorder ground buildable
  functionRule? name := congrArg (NameTable.get? · name) reordered.sealedFunctionRules_eq
  rules := reordered.row?_sealedRules ground buildable covered

end Assembled

end Reordered

/-- Of two drafts that declare the same in different orders both are built or none. Their models are
the same but for the places of the types that are new. -/
theorem Grounded.build_reordered {first second : Draft} (grounded : first.Grounded)
    (reordered : first.Reordered second) :
    ((∃ model, first.build = .ok model) ↔ ∃ model, second.build = .ok model) ∧
      ∀ model other, first.build = .ok model → second.build = .ok other →
        ∃ move : Equiv.Perm TypeHandle,
          (∀ handle < first.ground.arena.length, move handle = handle) ∧
            model.AlikeUpTo move other := by
  have ground := grounded.wellFormed
  have one := build_eq_ok_iff ground
  have otherGround : second.ground.WellFormed := reordered.ground_eq ▸ ground
  have two := build_eq_ok_iff otherGround
  refine ⟨⟨?_, ?_⟩, ?_⟩
  · intro ⟨model, built⟩
    exact ⟨_, (two _).mpr ⟨reordered.buildable ((one model).mp built).1, rfl⟩⟩
  · intro ⟨model, built⟩
    exact ⟨_, (one _).mpr ⟨reordered.symm.buildable ((two model).mp built).1, rfl⟩⟩
  · intro model other built otherBuilt
    obtain ⟨buildable, rfl⟩ := (one model).mp built
    obtain ⟨-, rfl⟩ := (two other).mp otherBuilt
    exact ⟨reordered.perm, fun _ => Reordered.reorder_ground,
      reordered.alikeUpTo ground buildable grounded.covered⟩

/-! ### A shelter set up in another order -/

/-- What a shelter consists of. -/
def shelterDefinitions : List Definition :=
  [.type (.addAll (.ofBody "Cage" (.entity {}))
      [.attribute { name := "label", type := .named "String" },
        .attribute { name := "inmates", type := .named "Pet", collection := true }]),
    .type (.addAll (.ofBody "String" .basic) [.tag .text, .operators [.plus]]),
    .function
      { name := "keepers"
        arguments := [{ type := some (.named "Cage") }]
        result := some (.named "Person")
        resultCollection := true }]

/-- What a shelter begins with, over which it is not said in which order it is set up. -/
def shelterGround : Draft :=
  (extending household.assemble).registerRule
    { target := .tagged .text, capability := .operator .plus, rule := .fixed (.named "String") }

theorem build_reordered_shelter :
    (shelterDefinitions.foldl define shelterGround).Grounded ∧
      (shelterDefinitions.foldl define shelterGround).Reordered
        (shelterDefinitions.reverse.foldl define shelterGround) ∧
      ∃ model other, (shelterDefinitions.foldl define shelterGround).build = .ok model ∧
        (shelterDefinitions.reverse.foldl define shelterGround).build = .ok other ∧
          ∃ move : Equiv.Perm TypeHandle,
            (∀ handle < household.assemble.arena.length, move handle = handle) ∧
              model.AlikeUpTo move other := by
  have grounded : (shelterDefinitions.foldl define shelterGround).Grounded :=
    grounded_of_standing rfl built_household
  have reordered := reordered_define shelterGround (List.reverse_perm shelterDefinitions)
    (by decide) (by decide)
  have built : (shelterDefinitions.foldl define shelterGround).build = .ok _ :=
    build_of_faults (by decide)
  obtain ⟨both, same⟩ := Grounded.build_reordered grounded reordered
  obtain ⟨other, otherBuilt⟩ := both.mp ⟨_, built⟩
  exact ⟨grounded, reordered, _, other, built, otherBuilt, same _ other built otherBuilt⟩

end Draft

end Metamodel
