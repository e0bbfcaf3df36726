/-
The drafts behind a model.

That a model was built says that there is a chain of drafts from which it came, one on top of the
other, and for most purposes it does not matter what they were. Where it matters, because a
statement is about what some layer registered or how it compared names, the chain is spoken of
itself. What is shown of chains is shown from below: the lowest draft stands on nothing, every other
one on the model of the draft before.
-/

import Metamodel.Proofs.Built

namespace Metamodel

namespace Model

/-- The drafts from which a model was built layer by layer, the newest one first. -/
inductive Layers : Model → List Draft → Prop
  | alone {draft : Draft} {model : Model} (standing : draft.base = none)
      (built : draft.build = .ok model) : Layers model [draft]
  | upon {draft : Draft} {drafts : List Draft} {below model : Model}
      (layers : Layers below drafts) (standing : draft.base = some below)
      (built : draft.build = .ok model) : Layers model (draft :: drafts)

theorem Layers.built {model : Model} {drafts : List Draft} (layers : model.Layers drafts) :
    model.Built := by
  induction layers with
  | alone standing built =>
    refine .build (fun base onBase => ?_) built
    rw [standing] at onBase
    cases onBase
  | upon layers standing built inductionHypothesis =>
    exact .build (Draft.grounded_of_standing standing inductionHypothesis) built

theorem Built.exists_layers {model : Model} (built : model.Built) :
    ∃ drafts, model.Layers drafts := by
  induction built with
  | @build draft model below built inductionHypothesis =>
    cases standing : draft.base with
    | none => exact ⟨_, .alone standing built⟩
    | some base =>
      obtain ⟨drafts, layers⟩ := inductionHypothesis base standing
      exact ⟨_, .upon layers standing built⟩

/-- What holds of the empty model without drafts, and is handed on when a draft is built, holds of
every model with the drafts that it was built from. -/
theorem Layers.invariant {motive : List Draft → Model → Prop} (empty : motive [] .empty)
    (step : ∀ (draft : Draft) (drafts : List Draft), draft.Grounded → draft.Buildable →
      motive drafts draft.ground → motive (draft :: drafts) draft.assemble)
    {model : Model} {drafts : List Draft} (layers : model.Layers drafts) :
    motive drafts model := by
  induction layers with
  | @alone draft model standing built =>
    have grounded : draft.Grounded := by
      intro base onBase
      rw [standing] at onBase
      cases onBase
    have ground : draft.ground = .empty := by
      unfold Draft.ground
      rw [standing]
      rfl
    obtain ⟨buildable, rfl⟩ := (Draft.build_eq_ok_iff grounded.wellFormed model).mp built
    exact step draft [] grounded buildable (ground ▸ empty)
  | @upon draft drafts below model layers standing built inductionHypothesis =>
    have grounded := Draft.grounded_of_standing standing layers.built
    have ground : draft.ground = below := Draft.ground_of_standing standing
    obtain ⟨buildable, rfl⟩ := (Draft.build_eq_ok_iff grounded.wellFormed model).mp built
    exact step draft drafts grounded buildable (ground ▸ inductionHypothesis)

end Model

namespace Draft

/-- A draft stands on nothing or on a model that was built. -/
theorem Grounded.ground_cases {draft : Draft} (grounded : draft.Grounded) :
    draft.ground = .empty ∨ draft.ground.Built := by
  cases standing : draft.base with
  | none =>
    unfold ground
    rw [standing]
    exact Or.inl rfl
  | some base =>
    rw [ground_of_standing standing]
    exact Or.inr (grounded base standing)

end Draft

end Metamodel
