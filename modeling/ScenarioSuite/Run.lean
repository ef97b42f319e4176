import ScenarioSuite.Glue.Basic

namespace ScenarioSuite

variable {W : Type}

structure ScenarioReport (W : Type) where
  name : String
  before : Except HookError Unit
  steps : List StepResult
  after : Except HookError Unit
  world : W

structure SuiteReport (W : Type) where
  beforeAll : Except HookError Unit × W
  scenarios : List (ScenarioReport W)
  afterAll : Except HookError Unit × W

namespace Glue

def runSteps (g : Glue W) : List ConcreteStep → W → List StepResult × W
  | [], world => ([],world)
  | step :: rest, world =>
      match g.steps.execute step world with
      | (.passed,world) =>
          let (results,world) := g.runSteps rest world
          (.passed :: results,world)
      | (result,world) => ([result],world)

-- A scenario in a world of its own. Its steps wait for the hooks before it, the
-- hooks after it run in any case.
def runScenario (g : Glue W) (scenario : ConcreteScenario) (world : W) : ScenarioReport W :=
  let (before,world) := g.hooks.executeBefore scenario.tags world
  let (steps,world) := match before with
    | .ok () => g.runSteps scenario.steps world
    | .error _ => ([],world)
  let (after,world) := g.hooks.executeAfter scenario.tags world
  ⟨scenario.name,before,steps,after,world⟩

-- The scenarios of a document, each in a fresh world like the hooks behind them; the
-- hooks before them all run in the world that is there.
def runDocument (g : Glue W) (opening fresh : W) (document : Option Feature)
    (filter : Option TagFilter) : SuiteReport W :=
  ⟨g.hooks.executeBeforeAll opening,
    (expandDocument document filter).map fun scenario => g.runScenario scenario fresh,
    g.hooks.executeAfterAll fresh⟩

end Glue

end ScenarioSuite
