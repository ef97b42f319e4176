import ScenarioSuite.CommandLine
import ScenarioSuite.Error

namespace ScenarioSuite

variable {W : Type}

inductive Operation (W : Type)
  | step (location : Location) (pattern : StepPattern) (handler : StepHandler W)
  | plainHook (location : Location) (phase : Phase) (handler : HookHandler W)
  | hook (location : Location) (phase : Phase) (options : HookOptions) (handler : HookHandler W)
  | setPolicy (policy : MatchPolicy)
  | setDefaultTimeout (timeout : Option Duration)
  | apply (options : RunOptions)

-- Changes made in place, one after the other. A failure does not take back what was
-- changed before it.
abbrev InPlace (W : Type) := ExceptT Error (StateM (Glue W))

namespace InPlace

def addDefinition (definition : Definition W) : InPlace W Unit :=
  modify fun glue => { glue with steps :=
    { glue.steps with definitions := glue.steps.definitions ++ [definition] } }

def addHook (hook : Hook W) : InPlace W Unit :=
  modify fun glue => { glue with hooks := glue.hooks.add hook }

def setPolicy (policy : MatchPolicy) : InPlace W Unit :=
  modify fun glue => { glue with steps := { glue.steps with policy } }

def setDefaultTimeout (timeout : Option Duration) : InPlace W Unit :=
  modify fun glue => { glue with hooks := { glue.hooks with defaultTimeout := timeout } }

end InPlace

namespace Operation

def change : Operation W → InPlace W Unit
  | step location pattern handler => do
      let matcher ← liftExcept ((Matcher.compile pattern).mapError Error.pattern)
      InPlace.addDefinition ⟨pattern,matcher,handler,location⟩
  | plainHook location phase handler =>
      InPlace.addHook ⟨phase,none,none,none,location,handler⟩
  | hook location phase options handler => do
      let filter ← liftExcept ((options.tags.mapM TagFilter.ofSource).mapError fun source =>
        Error.hookConfig ⟨phase,location,source⟩)
      InPlace.addHook ⟨phase,options.name,filter,options.timeout,location,handler⟩
  | setPolicy policy => InPlace.setPolicy policy
  | setDefaultTimeout timeout => InPlace.setDefaultTimeout timeout
  | apply options => do
      InPlace.setPolicy options.policy
      if let some timeout := options.hookTimeout then
        InPlace.setDefaultTimeout (some timeout)

def perform (op : Operation W) (glue : Glue W) : Except Error Unit × Glue W :=
  op.change.run.run glue

-- The same by the functions that give new glue or an error.
def outcome (op : Operation W) (glue : Glue W) : Except Error (Glue W) :=
  match op with
  | step location pattern handler => (glue.step location pattern handler).mapError .pattern
  | plainHook location phase handler => .ok (glue.plainHook location phase handler)
  | hook location phase options handler =>
      (glue.hook location phase options handler).mapError .hookConfig
  | setPolicy policy => .ok (glue.setPolicy policy)
  | setDefaultTimeout timeout => .ok (glue.setDefaultTimeout timeout)
  | apply options => .ok (options.apply glue)

end Operation

end ScenarioSuite
