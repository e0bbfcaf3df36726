/-
Scenarios: chains of drafts with expectations on what comes of the last one.

Each layer of a scenario is drafted on the model of the layer below it. Only the last layer may fail
to build, and its failure is an outcome like any other; a lower layer that fails ends the scenario,
and so does a declaration that is refused in any layer.
-/

import Metamodel.Scenario.Expectation
import Metamodel.StandardTypes

namespace Metamodel

/-- A named expectation. -/
structure ScenarioStep where
  name : String
  expected : Expectation

/-- One draft of a scenario. -/
structure Layer where
  name : String
  /-- Declare the standard types first. -/
  standard : Bool := false
  declarations : List (Draft → Except DeclarationError Draft) := []
  steps : List ScenarioStep := []

/-- A layer and those below it, the nearest first. The steps of the layers below are not taken. -/
structure Scenario where
  top : Layer
  below : List Layer := []

inductive ScenarioError where
  | declaration (scenario : String) (error : DeclarationError)
  | baseBuild (scenario : String) (failure : BuildFailure)
  | build (scenario : String) (failure : BuildFailure)
  | unmet (step complaint : String)
deriving DecidableEq

def ScenarioError.message : ScenarioError → String
  | declaration scenario error =>
    "declaration rejected in scenario '" ++ scenario ++ "': " ++ error.message
  | baseBuild scenario failure =>
    "base scenario '" ++ scenario ++ "' failed to build: " ++ failure.message
  | build scenario failure =>
    "scenario '" ++ scenario ++ "' failed to build: " ++ failure.message
  | unmet step complaint => "assertion failed for step '" ++ step ++ "': " ++ complaint

/-- The draft of a layer, begun with what it stands on. -/
def Layer.draft (layer : Layer) (start : Draft) : Except ScenarioError Draft :=
  let start := if layer.standard then start.declareStandardTypes else start
  match layer.declarations.foldlM (fun draft declare => declare draft) start with
  | .ok draft => .ok draft
  | .error error => .error (.declaration layer.name error)

/-- What comes of building a layer on the ones below it, the nearest first. -/
def Layer.outcome (layer : Layer) : List Layer → Except ScenarioError Outcome
  | [] => do
    let draft ← layer.draft .standalone
    return draft.build
  | base :: below =>
    match base.outcome below with
    | .error error => .error error
    | .ok (.error failure) => .error (.baseBuild base.name failure)
    | .ok (.ok model) => do
      let draft ← layer.draft (.extending model)
      return draft.build

namespace Scenario

def name (scenario : Scenario) : String := scenario.top.name

def outcome (scenario : Scenario) : Except ScenarioError Outcome :=
  scenario.top.outcome scenario.below

/-- The model of the scenario, if it has one. -/
def model (scenario : Scenario) : Except ScenarioError Model :=
  match scenario.outcome with
  | .error error => .error error
  | .ok (.error failure) => .error (.build scenario.name failure)
  | .ok (.ok model) => .ok model

/-- Hold a step against an outcome; its first complaint counts. -/
def takeStep [CustomRules] (outcome : Outcome) (step : ScenarioStep) : Except ScenarioError Unit :=
  match (step.expected.complaints outcome).head? with
  | none => .ok ()
  | some complaint => .error (.unmet step.name complaint)

/-- Take all steps of the last layer; the first one that is not met ends the run. -/
def run [CustomRules] (scenario : Scenario) : Except ScenarioError Unit := do
  let outcome ← scenario.outcome
  scenario.top.steps.forM (takeStep outcome)

/-- The scenario in words. -/
def describe (scenario : Scenario) : String :=
  let step := fun (step : ScenarioStep) =>
    Text.described "Step"
      [("name", Text.quoted step.name), ("assertion", step.expected.describe)]
  Text.described "Scenario" [
    ("name", Text.quoted scenario.name),
    ("base", Text.presence (scenario.below.head?.map fun base => Text.quoted base.name)),
    ("universe", if scenario.top.standard then "true" else "false"),
    ("declarations", toString scenario.top.declarations.length),
    ("steps", Text.bracketed (scenario.top.steps.map step))]

end Scenario

end Metamodel
