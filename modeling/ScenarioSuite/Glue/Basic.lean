import ScenarioSuite.Hook
import ScenarioSuite.Step.Catalog

namespace ScenarioSuite

variable {W : Type}

structure Glue (W : Type) where
  steps : StepCatalog W
  hooks : HookRegistry W

namespace Glue

def empty : Glue W := ⟨.empty,.empty⟩

def step (g : Glue W) (location : Location) (pattern : StepPattern) (handler : StepHandler W) :
    Except PatternError (Glue W) :=
  (g.steps.register location pattern handler).map fun steps => { g with steps }

def hook (g : Glue W) (location : Location) (phase : Phase) (options : HookOptions)
    (handler : HookHandler W) : Except HookConfigError (Glue W) :=
  (g.hooks.registerWith location phase options handler).map fun hooks => { g with hooks }

def plainHook (g : Glue W) (location : Location) (phase : Phase) (handler : HookHandler W) :
    Glue W :=
  { g with hooks := g.hooks.register location phase handler }

def setPolicy (g : Glue W) (policy : MatchPolicy) : Glue W :=
  { g with steps := g.steps.setPolicy policy }

def setDefaultTimeout (g : Glue W) (timeout : Option Duration) : Glue W :=
  { g with hooks := g.hooks.setDefaultTimeout timeout }

end Glue

end ScenarioSuite
