import ScenarioSuite.Hook
import ScenarioSuite.Step.Catalog
import ScenarioSuite.Table.Typed

namespace ScenarioSuite

inductive Error
  | tagFilter (e : TagFilterError)
  | table (e : TableError)
  | pattern (e : PatternError)
  | step (e : StepError)
  | hookConfig (e : HookConfigError)
  | hook (e : HookError)
  deriving DecidableEq, Repr

namespace Error

def message : Error → String
  | tagFilter e => e.message
  | table e => e.message
  | pattern e => e.message
  | step e => e.message
  | hookConfig e => e.message
  | hook e => e.message

def chain : Error → List String
  | tagFilter e => [e.message]
  | table e => [e.message]
  | pattern e => [e.message]
  | step e => e.message :: e.sources
  | hookConfig e => [e.message,e.source.message]
  | hook e => e.message :: e.sources

end Error

inductive Link
  | whole (e : Error)
  | tagFilter (e : TagFilterError)
  | table (e : TableError)
  | pattern (e : PatternError)
  | step (e : StepError)
  | ambiguous (e : AmbiguousMatch)
  | hookConfig (e : HookConfigError)
  | hook (e : HookError)
  | handler (c : Cause)
  deriving DecidableEq, Repr

namespace Link

def message : Link → String
  | whole e => e.message
  | tagFilter e => e.message
  | table e => e.message
  | pattern e => e.message
  | step e => e.message
  | ambiguous e => e.message
  | hookConfig e => e.message
  | hook e => e.message
  | handler c => c.message

def inside : Error → Link
  | .tagFilter e => tagFilter e
  | .table e => table e
  | .pattern e => pattern e
  | .step e => step e
  | .hookConfig e => hookConfig e
  | .hook e => hook e

-- The error right behind this one. A step that its handler failed shows the handler's error
-- as its own and goes on behind it, a hook has a text of its own and goes on with it.
def source? : Link → Option Link
  | whole e => some (inside e)
  | tagFilter _ | table _ | pattern _ | ambiguous _ => none
  | step (.undefined _) => none
  | step (.ambiguous e) => some (ambiguous e)
  | step (.failed _ cause) => cause.inner?.map handler
  | hookConfig e => some (tagFilter e.source)
  | hook e =>
      match e.cause with
      | .error cause => some (handler cause)
      | .panic _ => none
  | handler c => c.inner?.map handler

end Link

end ScenarioSuite
