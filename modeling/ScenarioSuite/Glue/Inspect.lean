import ScenarioSuite.Glue.Basic
import ScenarioSuite.Text.Character

namespace ScenarioSuite

variable {W : Type}

-- How values show themselves to someone who looks for a fault. Handlers and places
-- of registration differ from run to run and are not shown.
def record (name : String) (fields : List (String × String)) : String :=
  name ++ " \x7b " ++ ", ".intercalate (fields.map fun f => f.1 ++ ": " ++ f.2) ++ " \x7d"

def openRecord (name : String) (fields : List (String × String)) : String :=
  name ++ " \x7b " ++ String.join (fields.map fun f => f.1 ++ ": " ++ f.2 ++ ", ") ++ ".. \x7d"

def listed (items : List String) : String := "[" ++ ", ".intercalate items ++ "]"

def optional (item : Option String) : String :=
  match item with
  | some text => "Some(" ++ text ++ ")"
  | none => "None"

def Tag.Expr.inspected : Tag.Expr → String
  | .tag name => "Tag(" ++ Text.quoted name ++ ")"
  | .not operand => "Not(" ++ operand.inspected ++ ")"
  | .and left right => "And(" ++ left.inspected ++ ", " ++ right.inspected ++ ")"
  | .or left right => "Or(" ++ left.inspected ++ ", " ++ right.inspected ++ ")"

def TagFilter.inspected (f : TagFilter) : String :=
  record "TagFilter" [("expression",Text.quoted f.source),("op",f.expr.inspected)]

def MatchPolicy.inspected : MatchPolicy → String
  | .firstMatch => "FirstMatch"
  | .rejectAmbiguous => "RejectAmbiguous"

def Definition.inspected (d : Definition W) : String :=
  openRecord "Definition"
    [("pattern",d.pattern.inspected),("handler","PTR"),("location","LOCATION")]

def StepMatch.inspected (m : StepMatch W) : String :=
  record "StepMatch"
    [("definition",m.definition.inspected),("args",listed (m.args.map Argument.inspected))]

def StepCatalog.inspected (c : StepCatalog W) : String :=
  record "Collection"
    [("definitions",listed (c.definitions.map Definition.inspected)),("policy",c.policy.inspected)]

def Hook.inspected (h : Hook W) : String :=
  openRecord "Hook"
    [("phase",h.phase.label),("name",optional (h.name.map Text.quoted)),
     ("filter",optional (h.filter.map fun f => Text.quoted f.source)),
     ("timeout",optional (h.timeout.map Duration.inspected)),("location","LOCATION")]

def HookRegistry.inspected (r : HookRegistry W) : String :=
  record "Registry"
    [("hooks",listed (r.hooks.map Hook.inspected)),
     ("default_timeout",optional (r.defaultTimeout.map Duration.inspected))]

def Glue.inspected (g : Glue W) : String :=
  record "Support" [("steps",g.steps.inspected),("hooks",g.hooks.inspected)]

end ScenarioSuite
