import ScenarioSuite.Handler
import ScenarioSuite.Outline
import ScenarioSuite.Step.Matcher

namespace ScenarioSuite

structure Call where
  text : String
  args : List Argument
  table : Option Table
  docstring : Option String
  deriving Repr

namespace Call

def arg? (c : Call) (n : Nat) : Option Argument := c.args[n]?

def int (c : Call) (n : Nat) : Except String Int64 :=
  match (c.arg? n).bind Argument.asInt? with
  | some value => .ok value
  | none => .error ("no integer argument #" ++ toString n ++ " in `" ++ c.text ++ "`")

def str (c : Call) (n : Nat) : Except String String :=
  match (c.arg? n).bind Argument.asText? with
  | some value => .ok value
  | none => .error ("no text argument #" ++ toString n ++ " in `" ++ c.text ++ "`")

end Call

variable {W : Type}

-- A handler changes a world. What it did before a failure or a panic stays done.
abbrev StepHandler (W : Type) := Call → W → Outcome × W

inductive MatchPolicy
  | firstMatch
  | rejectAmbiguous
  deriving DecidableEq, Repr

structure Definition (W : Type) where
  pattern : StepPattern
  matcher : Matcher
  handler : StepHandler W
  location : Location

structure StepMatch (W : Type) where
  definition : Definition W
  args : List Argument

def Definition.accept? (d : Definition W) (text : String) : Option (StepMatch W) :=
  (d.matcher.captures? text).map fun args => ⟨d,args⟩

structure AmbiguousMatch where
  text : String
  candidates : List (StepPattern × Location)
  deriving DecidableEq, Repr

def AmbiguousMatch.message (e : AmbiguousMatch) : String :=
  "Step `" ++ e.text ++ "` is ambiguous, possible matches:" ++
    String.join (e.candidates.map fun c => "\n" ++ c.1.display ++ " --> " ++ c.2.text)

inductive StepError
  | undefined (text : String)
  | ambiguous (e : AmbiguousMatch)
  | failed (text : String) (cause : Cause)
  deriving DecidableEq, Repr

namespace StepError

def text : StepError → String
  | undefined text | failed text _ => text
  | ambiguous e => e.text

def message : StepError → String
  | undefined text => "No step definition matches `" ++ text ++ "`"
  | ambiguous e => e.message
  | failed _ cause => cause.message

def sources : StepError → List String
  | undefined _ => []
  | ambiguous e => [e.message]
  | failed _ cause => cause.sources

end StepError

-- The result of a step; a panic goes through to whoever runs it.
inductive StepResult
  | passed
  | error (e : StepError)
  | panicked (payload : Payload)
  deriving DecidableEq, Repr

structure StepCatalog (W : Type) where
  definitions : List (Definition W)
  policy : MatchPolicy

namespace StepCatalog

def empty : StepCatalog W := ⟨[],.firstMatch⟩

def setPolicy (c : StepCatalog W) (policy : MatchPolicy) : StepCatalog W := { c with policy }

def register (c : StepCatalog W) (location : Location) (pattern : StepPattern)
    (handler : StepHandler W) : Except PatternError (StepCatalog W) :=
  match Matcher.compile pattern with
  | .error e => .error e
  | .ok matcher =>
      .ok { c with definitions := c.definitions ++ [⟨pattern,matcher,handler,location⟩] }

def findAll (c : StepCatalog W) (text : String) : List (StepMatch W) :=
  c.definitions.filterMap fun d => d.accept? text

def find (c : StepCatalog W) (text : String) : Except AmbiguousMatch (Option (StepMatch W)) :=
  match c.policy with
  | .firstMatch => .ok (c.definitions.findSome? fun d => d.accept? text)
  | .rejectAmbiguous =>
      match c.findAll text with
      | [] => .ok none
      | [found] => .ok (some found)
      | all => .error ⟨text,all.map fun m => (m.definition.pattern,m.definition.location)⟩

def run (c : StepCatalog W) (text : String) (table : Option Table) (docstring : Option String)
    (world : W) : StepResult × W :=
  match c.find text with
  | .error e => (.error (.ambiguous e),world)
  | .ok none => (.error (.undefined text),world)
  | .ok (some found) =>
      match found.definition.handler ⟨text,found.args,table,docstring⟩ world with
      | (.passed,world) => (.passed,world)
      | (.failed cause,world) => (.error (.failed text cause),world)
      | (.panicked payload,world) => (.panicked payload,world)

def executeText (c : StepCatalog W) (text : String) (world : W) : StepResult × W :=
  c.run text none none world

def execute (c : StepCatalog W) (step : ConcreteStep) (world : W) : StepResult × W :=
  c.run step.text step.table step.docstring world

end StepCatalog

end ScenarioSuite
