import ScenarioSuite.Expression.Regex
import ScenarioSuite.Regex.Search

namespace ScenarioSuite

inductive StepPattern
  | expression (source : String)
  | regex (re : Regex)
  deriving DecidableEq, Repr

namespace StepPattern

def source : StepPattern → String
  | expression source => source
  | regex re => re.source

def display : StepPattern → String
  | expression source => source
  | regex re => "/" ++ re.source ++ "/"

def inspected : StepPattern → String
  | expression source => "Expression(" ++ Text.quoted source ++ ")"
  | regex re => "Regex(HashableRegex(Regex(" ++ Text.quoted re.source ++ ")))"

end StepPattern

inductive PatternError
  | expression (source detail : String)
  | unknownParameter (source name : String)
  deriving DecidableEq, Repr

def PatternError.message : PatternError → String
  | .expression source detail => "Invalid cucumber expression `" ++ source ++ "`: " ++ detail
  | .unknownParameter source name =>
      "Unknown parameter type `\x7b" ++ name ++ "\x7d` in `" ++ source ++ "`"

-- The texts between braces, as far as no backslash stands before the opening one. A
-- backslash takes the next character along unless that is a line break.
def bracedNames : List Char → List (List Char)
  | [] => []
  | '\\' :: c :: rest => if c = '\n' then bracedNames (c :: rest) else bracedNames rest
  | '\x7b' :: rest =>
      let name := rest.takeWhile fun c => c != '\x7b' && c != '\x7d'
      if (rest.drop name.length).head? = some '\x7d' then
        name :: bracedNames (rest.drop (name.length + 1))
      else bracedNames rest
  | _ :: rest => bracedNames rest
termination_by text => text.length
decreasing_by all_goals simp_all +arith [List.length_drop]

-- A pattern ready for matching. The arguments of an expression are converted by the
-- types of its parameters, those of a regular expression stay as captured.
structure Matcher where
  regex : Regex
  parameters : List Parameter
  typed : Bool
  deriving DecidableEq, Repr

namespace Matcher

def parametersOf (source : String) : List (List Char) → Except PatternError (List Parameter)
  | [] => .ok []
  | name :: rest =>
      match Parameter.ofName? (String.ofList name) with
      | some p => (parametersOf source rest).map (p :: ·)
      | none => .error (.unknownParameter source (String.ofList name))

-- Expressions are compiled elsewhere. The parameters are those that a scan for braces finds.
def compileWith (compiler : String → Except Expression.Fault Regex) :
    StepPattern → Except PatternError Matcher
  | .regex re => .ok ⟨re,[],false⟩
  | .expression source =>
      match compiler source with
      | .error fault => .error (.expression source fault.message)
      | .ok re => (parametersOf source (bracedNames source.toList)).map fun ps => ⟨re,ps,true⟩

def compile : StepPattern → Except PatternError Matcher := compileWith Expression.toRegex

def groupOwner? : Option String → Option (List Char)
  | none => none
  | some name =>
      match name.toList with
      | '_' :: '_' :: rest => some (rest.takeWhile (· != '_'))
      | _ => none

-- A value for one parameter: the groups it comes from belong to `owner`, or it is the
-- whole of an unnamed group and a string in it is still quoted.
structure Slot where
  owner : Option (List Char)
  value : Option String
  deriving DecidableEq, Repr

def Slot.quoted (s : Slot) : Bool := s.owner.isNone

-- Joins neighbouring groups of one owner; the first of them that took part gives the
-- value. The slots are kept last first.
def addGroup (slots : List Slot) (group : Option String × Option String) : List Slot :=
  match groupOwner? group.1 with
  | none => ⟨none,group.2⟩ :: slots
  | some owner =>
      match slots with
      | ⟨some previous,value⟩ :: rest =>
          if previous = owner then ⟨some previous,value.or group.2⟩ :: rest
          else ⟨some owner,group.2⟩ :: slots
      | _ => ⟨some owner,group.2⟩ :: slots

def slots (groups : List (Option String × Option String)) : List Slot :=
  (groups.foldl addGroup []).reverse

def wholes (groups : List (Option String × Option String)) : List Slot :=
  (groups.filter fun group => (groupOwner? group.1).isNone).map fun group => ⟨none,group.2⟩

def valuesFor (count : Nat) (groups : List (Option String × Option String)) : Option (List Slot) :=
  let whole := wholes groups
  let chosen := if whole.length = count then whole else slots groups
  if chosen.length = count then some chosen else none

def convertAll (parameters : List Parameter) (values : List Slot) : Option (List Argument) :=
  (parameters.zip values).mapM fun pair => do
    pair.1.convert? (← pair.2.value) pair.2.quoted

def arguments (m : Matcher) (groups : List (Option String × Option String)) :
    Option (List Argument) :=
  if m.typed then (valuesFor m.parameters.length groups).bind (convertAll m.parameters)
  else some (groups.map fun group => .capture group.2)

def captures? (m : Matcher) (text : String) : Option (List Argument) := do
  let values ← m.regex.captures? text
  m.arguments (m.regex.groupNames.zip values)

end Matcher

end ScenarioSuite
