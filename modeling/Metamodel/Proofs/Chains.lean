/-
What comes of a chain of layers.

A layer is drafted on the model of the layers below it, which there is only if all of them were
built. The lowest layer that is in the way of a model decides what is reported, and since nothing is
drafted on top of it, what the layers above it declare is never looked at. If no layer is in the way,
the last one is drafted on the model of those below it, and it may or may not build. The steps of the
lower layers are not looked at in either case.
-/

import Metamodel.Proofs.Declaring
import Metamodel.Scenario

namespace Metamodel

/-! ### Declaring in order -/

namespace Draft

/-- Each of some declarations is taken by the draft that the ones before it led to. -/
inductive Takes : Draft → List (Draft → Except DeclarationError Draft) → Draft → Prop
  | nil (draft : Draft) : Takes draft [] draft
  | cons {draft next last : Draft} {declare : Draft → Except DeclarationError Draft}
      {rest : List (Draft → Except DeclarationError Draft)} (taken : declare draft = .ok next)
      (others : Takes next rest last) : Takes draft (declare :: rest) last

/-- One of some declarations is refused, and those before it are taken. -/
inductive Refuses : Draft → List (Draft → Except DeclarationError Draft) → DeclarationError → Prop
  | head {draft : Draft} {declare : Draft → Except DeclarationError Draft}
      {rest : List (Draft → Except DeclarationError Draft)} {error : DeclarationError}
      (refused : declare draft = .error error) : Refuses draft (declare :: rest) error
  | tail {draft next : Draft} {declare : Draft → Except DeclarationError Draft}
      {rest : List (Draft → Except DeclarationError Draft)} {error : DeclarationError}
      (taken : declare draft = .ok next) (later : Refuses next rest error) :
      Refuses draft (declare :: rest) error

variable {draft : Draft} {declarations : List (Draft → Except DeclarationError Draft)}

theorem foldlM_of_takes {last : Draft} (takes : draft.Takes declarations last) :
    declarations.foldlM (fun draft declare => declare draft) draft = .ok last := by
  induction takes with
  | nil draft => rfl
  | cons taken others inductionHypothesis =>
    rw [List.foldlM_cons, taken]
    exact inductionHypothesis

theorem foldlM_of_refuses {error : DeclarationError} (refuses : draft.Refuses declarations error) :
    declarations.foldlM (fun draft declare => declare draft) draft = .error error := by
  induction refuses with
  | head refused =>
    rw [List.foldlM_cons, refused]
    rfl
  | tail taken later inductionHypothesis =>
    rw [List.foldlM_cons, taken]
    exact inductionHypothesis

theorem takes_or_refuses (draft : Draft)
    (declarations : List (Draft → Except DeclarationError Draft)) :
    (∃ last, draft.Takes declarations last) ∨ ∃ error, draft.Refuses declarations error := by
  induction declarations generalizing draft with
  | nil => exact Or.inl ⟨draft, .nil draft⟩
  | cons declare rest inductionHypothesis =>
    cases said : declare draft with
    | error error => exact Or.inr ⟨error, .head said⟩
    | ok next =>
      rcases inductionHypothesis next with ⟨last, others⟩ | ⟨error, later⟩
      · exact Or.inl ⟨last, .cons said others⟩
      · exact Or.inr ⟨error, .tail said later⟩

end Draft

/-! ### Layers on layers -/

namespace Layer

/-- What a layer begins with: the model below it, if there is one, and the standard types if it asks
for them. -/
def start (layer : Layer) (base : Option Model) : Draft :=
  if layer.standard then (Draft.upon base).declareStandardTypes else Draft.upon base

/-- The layers, of which the nearest comes first, are all built, each on the model of the next one,
and this is the model they lead to. -/
inductive Carry : List Layer → Option Model → Prop
  | ground : Carry [] none
  | built {layer : Layer} {below : List Layer} {base : Option Model} {draft : Draft} {model : Model}
      (carry : Carry below base) (takes : (layer.start base).Takes layer.declarations draft)
      (built : draft.build = .ok model) : Carry (layer :: below) (some model)

/-- The layers below carry this one, and all of its declarations are taken. -/
inductive Drafted (layer : Layer) (below : List Layer) (draft : Draft) : Prop
  | intro {base : Option Model} (carry : Carry below base)
      (takes : (layer.start base).Takes layer.declarations draft)

/-- The layers below carry this one, and one of its declarations is refused. -/
inductive Refused (layer : Layer) (below : List Layer) (error : DeclarationError) : Prop
  | intro {base : Option Model} (carry : Carry below base)
      (refuses : (layer.start base).Refuses layer.declarations error)

variable {layer : Layer} {below : List Layer}

theorem draft_upon (layer : Layer) (base : Option Model) :
    layer.draft (.upon base) =
      match layer.declarations.foldlM (fun draft declare => declare draft) (layer.start base) with
      | .ok draft => .ok draft
      | .error error => .error (.declaration layer.name error) := rfl

theorem outcome_of_carry {base : Option Model} (carry : Carry below base) (layer : Layer) :
    layer.outcome below = (layer.draft (.upon base)).map Draft.build := by
  induction carry generalizing layer with
  | ground =>
    show _ = (layer.draft .standalone).map Draft.build
    rw [Layer.outcome]
    cases layer.draft .standalone <;> rfl
  | @built lower below base draft model carry takes built inductionHypothesis =>
    have outcome : lower.outcome below = .ok (.ok model) := by
      rw [inductionHypothesis, draft_upon, Draft.foldlM_of_takes takes, ← built]
      rfl
    rw [Layer.outcome, outcome]
    show (do let draft ← layer.draft (.extending model); return draft.build) =
      (layer.draft (.extending model)).map Draft.build
    cases layer.draft (.extending model) <;> rfl

theorem outcome_of_drafted {draft : Draft} (drafted : layer.Drafted below draft) :
    layer.outcome below = .ok draft.build := by
  obtain ⟨carry, takes⟩ := drafted
  rw [outcome_of_carry carry, draft_upon, Draft.foldlM_of_takes takes]
  rfl

theorem outcome_of_refused {error : DeclarationError} (refused : layer.Refused below error) :
    layer.outcome below = .error (.declaration layer.name error) := by
  obtain ⟨carry, refuses⟩ := refused
  rw [outcome_of_carry carry, draft_upon, Draft.foldlM_of_refuses refuses]
  rfl

/-! ### Layers in the way -/

theorem outcome_cons_of_error {error : ScenarioError} (failed : layer.outcome below = .error error)
    (top : Layer) : top.outcome (layer :: below) = .error error := by
  rw [Layer.outcome, failed]

theorem outcome_cons_of_failure {failure : BuildFailure}
    (failed : layer.outcome below = .ok (.error failure)) (top : Layer) :
    top.outcome (layer :: below) = .error (.baseBuild layer.name failure) := by
  rw [Layer.outcome, failed]

/-- What is reported on top of some layers, whatever is declared there, is reported by all layers
above. -/
theorem outcome_append {error : ScenarioError}
    (reported : ∀ top : Layer, top.outcome below = .error error) (above : List Layer)
    (top : Layer) : top.outcome (above ++ below) = .error error := by
  induction above generalizing top with
  | nil => exact reported top
  | cons next above inductionHypothesis => exact outcome_cons_of_error (inductionHypothesis next) top

/-- The layers below carry this one, but it does not lead to a model, and so nothing is drafted on
top of it. -/
inductive Blocks (layer : Layer) (below : List Layer) : ScenarioError → Prop
  | refused {error : DeclarationError} (refused : layer.Refused below error) :
      Blocks layer below (.declaration layer.name error)
  | unbuilt {draft : Draft} {failure : BuildFailure} (drafted : layer.Drafted below draft)
      (failed : draft.build = .error failure) : Blocks layer below (.baseBuild layer.name failure)

theorem Blocks.reported {error : ScenarioError} (blocks : layer.Blocks below error) (top : Layer) :
    top.outcome (layer :: below) = .error error := by
  cases blocks with
  | refused refused => exact outcome_cons_of_error (outcome_of_refused refused) top
  | unbuilt drafted failed =>
    exact outcome_cons_of_failure (failed ▸ outcome_of_drafted drafted) top

theorem Blocks.outcome_eq {layers : List Layer} {error : ScenarioError}
    (blocks : layer.Blocks below error) (lower : (layer :: below) <:+ layers) (top : Layer) :
    top.outcome layers = .error error := by
  obtain ⟨above, rfl⟩ := lower
  exact outcome_append blocks.reported above top

theorem drafted_or_refused {base : Option Model} (carry : Carry below base) (layer : Layer) :
    (∃ draft, layer.Drafted below draft) ∨ ∃ error, layer.Refused below error := by
  rcases Draft.takes_or_refuses (layer.start base) layer.declarations with
    ⟨draft, takes⟩ | ⟨error, refuses⟩
  · exact Or.inl ⟨draft, carry, takes⟩
  · exact Or.inr ⟨error, carry, refuses⟩

/-- Either all of some layers are built, or the lowest one that is not is in the way. -/
theorem carry_or_blocks (layers : List Layer) :
    (∃ base, Carry layers base) ∨
      ∃ layer below error, (layer :: below) <:+ layers ∧ layer.Blocks below error := by
  induction layers with
  | nil => exact Or.inl ⟨none, .ground⟩
  | cons layer below inductionHypothesis =>
    rcases inductionHypothesis with ⟨base, carry⟩ | ⟨lower, rest, error, suffix, blocks⟩
    · rcases drafted_or_refused carry layer with ⟨draft, drafted⟩ | ⟨error, refused⟩
      · cases built : draft.build with
        | ok model =>
          obtain ⟨carry, takes⟩ := drafted
          exact Or.inl ⟨some model, .built carry takes built⟩
        | error failure =>
          exact Or.inr ⟨layer, below, _, List.suffix_rfl, .unbuilt drafted built⟩
      · exact Or.inr ⟨layer, below, _, List.suffix_rfl, .refused refused⟩
    · exact Or.inr ⟨lower, rest, error, suffix.trans (List.suffix_cons layer below), blocks⟩

/-! ### Steps -/

/-- The layer without its steps. -/
def withoutSteps (layer : Layer) : Layer := { layer with steps := [] }

theorem outcome_withoutSteps (layer : Layer) (below : List Layer) :
    layer.withoutSteps.outcome (below.map withoutSteps) = layer.outcome below := by
  induction below generalizing layer with
  | nil => rfl
  | cons lower below inductionHypothesis =>
    rw [List.map_cons, Layer.outcome, Layer.outcome, inductionHypothesis]
    rfl

end Layer

/-! ### What is reported -/

namespace Scenario

/-- What a scenario answers, by the lowest of its layers that is in the way of a model. -/
structure ReportsLowest [CustomRules] (scenario : Scenario) : Prop where
  /-- The first declaration that is refused in the lowest such layer is reported. -/
  refused : ∀ layer below error, (layer :: below) <:+ (scenario.top :: scenario.below) →
    Layer.Refused layer below error → scenario.outcome = .error (.declaration layer.name error)
  /-- So is what is wrong with the lowest such layer, if it is not the last one. -/
  unbuilt : ∀ layer below draft failure, (layer :: below) <:+ scenario.below →
    Layer.Drafted layer below draft → draft.build = .error failure →
      scenario.outcome = .error (.baseBuild layer.name failure)
  /-- If the layers below carry the last one and its declarations are taken, it is built. -/
  built : ∀ draft, scenario.top.Drafted scenario.below draft → scenario.outcome = .ok draft.build
  /-- There is no other case. -/
  decided : (∃ draft, scenario.top.Drafted scenario.below draft) ∨
    (∃ error, scenario.top.Refused scenario.below error) ∨
      ∃ layer below error, (layer :: below) <:+ scenario.below ∧ Layer.Blocks layer below error
  /-- The layers above one that is in the way do not matter. -/
  higher : ∀ (other : Scenario) layer below error, Layer.Blocks layer below error →
    (layer :: below) <:+ scenario.below → (layer :: below) <:+ other.below →
      other.outcome = scenario.outcome
  /-- The steps of the lower layers do not matter. -/
  steps : ∀ other : Scenario, other.top = scenario.top →
    other.below.map Layer.withoutSteps = scenario.below.map Layer.withoutSteps →
      other.run = scenario.run

/-- Every scenario reports the lowest layer that is in the way. -/
theorem reportsLowest [CustomRules] (scenario : Scenario) : ReportsLowest scenario where
  refused layer below error lower refused := by
    rcases List.suffix_cons_iff.mp lower with same | lower
    · cases same
      exact Layer.outcome_of_refused refused
    · exact (Layer.Blocks.refused refused).outcome_eq lower scenario.top
  unbuilt layer below draft failure lower drafted failed :=
    (Layer.Blocks.unbuilt drafted failed).outcome_eq lower scenario.top
  built draft drafted := Layer.outcome_of_drafted drafted
  decided := by
    rcases Layer.carry_or_blocks scenario.below with ⟨base, carry⟩ | blocked
    · rcases Layer.drafted_or_refused carry scenario.top with drafted | refused
      · exact Or.inl drafted
      · exact Or.inr (Or.inl refused)
    · exact Or.inr (Or.inr blocked)
  higher other layer below error blocks lower otherLower :=
    (blocks.outcome_eq otherLower other.top).trans (blocks.outcome_eq lower scenario.top).symm
  steps other sameTop sameBelow := by
    have outcome : other.outcome = scenario.outcome := by
      unfold Scenario.outcome
      rw [← Layer.outcome_withoutSteps other.top, ← Layer.outcome_withoutSteps scenario.top,
        sameTop, sameBelow]
    unfold run
    rw [outcome, sameTop]

end Scenario

end Metamodel
