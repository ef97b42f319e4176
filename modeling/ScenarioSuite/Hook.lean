import ScenarioSuite.Duration.Basic
import ScenarioSuite.Handler
import ScenarioSuite.Tag.Filter

namespace ScenarioSuite

variable {W : Type}

abbrev HookHandler (W : Type) := W → Outcome × W

inductive Phase
  | beforeScenario
  | afterScenario
  | beforeSuite
  | afterSuite
  deriving DecidableEq, Repr

namespace Phase

def display : Phase → String
  | beforeScenario => "before scenario"
  | afterScenario => "after scenario"
  | beforeSuite => "before suite"
  | afterSuite => "after suite"

def label : Phase → String
  | beforeScenario => "BeforeScenario"
  | afterScenario => "AfterScenario"
  | beforeSuite => "BeforeSuite"
  | afterSuite => "AfterSuite"

def isScenario : Phase → Bool
  | beforeScenario | afterScenario => true
  | beforeSuite | afterSuite => false

end Phase

structure HookOptions where
  tags : Option String := none
  timeout : Option Duration := none
  name : Option String := none
  deriving DecidableEq, Repr

structure Hook (W : Type) where
  phase : Phase
  name : Option String
  filter : Option TagFilter
  timeout : Option Duration
  location : Location
  handler : HookHandler W

-- Whether the hook runs for a scenario with these tags. Hooks around the suite
-- always run, whatever their filter says.
def Hook.runsFor (h : Hook W) (tags : List String) : Bool :=
  !h.phase.isScenario || h.filter.all fun filter => filter.accepts tags

structure HookConfigError where
  phase : Phase
  location : Location
  source : TagFilterError
  deriving DecidableEq, Repr

def HookConfigError.message (e : HookConfigError) : String :=
  "Invalid tags of " ++ e.phase.display ++ " hook at " ++ e.location.text ++ ": " ++ e.source.message

inductive HookCause
  | error (cause : Cause)
  | panic (message : String)
  deriving DecidableEq, Repr

def HookCause.message : HookCause → String
  | .error cause => cause.message
  | .panic message => message

-- The hook that failed, by its index among the hooks of the phase.
structure HookError where
  phase : Phase
  index : Nat
  name : Option String
  location : Location
  cause : HookCause
  deriving DecidableEq, Repr

def HookError.message (e : HookError) : String := "Hook failed: " ++ e.cause.message

def HookError.sources (e : HookError) : List String :=
  match e.cause with
  | .error cause => cause.chain
  | .panic _ => []

-- Hooks of all phases in the order of their registration.
structure HookRegistry (W : Type) where
  hooks : List (Hook W)
  defaultTimeout : Option Duration

namespace HookRegistry

def empty : HookRegistry W := ⟨[],none⟩

def setDefaultTimeout (r : HookRegistry W) (timeout : Option Duration) : HookRegistry W :=
  { r with defaultTimeout := timeout }

def add (r : HookRegistry W) (hook : Hook W) : HookRegistry W := { r with hooks := r.hooks ++ [hook] }

def register (r : HookRegistry W) (location : Location) (phase : Phase)
    (handler : HookHandler W) : HookRegistry W :=
  r.add ⟨phase,none,none,none,location,handler⟩

def registerWith (r : HookRegistry W) (location : Location) (phase : Phase)
    (options : HookOptions) (handler : HookHandler W) : Except HookConfigError (HookRegistry W) :=
  match options.tags.mapM TagFilter.ofSource with
  | .error source => .error ⟨phase,location,source⟩
  | .ok filter => .ok (r.add ⟨phase,options.name,filter,options.timeout,location,handler⟩)

def ofPhase (r : HookRegistry W) (phase : Phase) : List (Hook W) :=
  r.hooks.filter fun h => h.phase == phase

def timeout (r : HookRegistry W) (hook : Hook W) : Option Duration := hook.timeout.or r.defaultTimeout

-- Runs hooks one after the other up to the first that fails. Skipped hooks count.
def runFrom (phase : Phase) (tags : List String) (index : Nat) :
    List (Hook W) → W → Except HookError Unit × W
  | [], world => (.ok (),world)
  | hook :: rest, world =>
      if hook.runsFor tags then
        match hook.handler world with
        | (.passed,world) => runFrom phase tags (index + 1) rest world
        | (.failed cause,world) =>
            (.error ⟨phase,index,hook.name,hook.location,.error cause⟩,world)
        | (.panicked payload,world) =>
            (.error ⟨phase,index,hook.name,hook.location,.panic payload.message⟩,world)
      else runFrom phase tags (index + 1) rest world

def execute (r : HookRegistry W) (phase : Phase) (tags : List String) (world : W) :
    Except HookError Unit × W :=
  runFrom phase tags 0 (r.ofPhase phase) world

def executeBefore (r : HookRegistry W) (tags : List String) (world : W) : Except HookError Unit × W :=
  r.execute .beforeScenario tags world

def executeAfter (r : HookRegistry W) (tags : List String) (world : W) : Except HookError Unit × W :=
  r.execute .afterScenario tags world

def executeBeforeAll (r : HookRegistry W) (world : W) : Except HookError Unit × W :=
  r.execute .beforeSuite [] world

def executeAfterAll (r : HookRegistry W) (world : W) : Except HookError Unit × W :=
  r.execute .afterSuite [] world

end HookRegistry

end ScenarioSuite
