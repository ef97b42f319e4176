import ScenarioSuite.Table.Basic
import ScenarioSuite.Tag.Filter
import ScenarioSuite.Text.Replace

namespace ScenarioSuite

structure Substitution where
  values : List (String × String)
  deriving DecidableEq, Repr

namespace Substitution

def ofRow (header row : List String) : Substitution := ⟨header.zip row⟩

def isEmpty (s : Substitution) : Bool := s.values.isEmpty

def get? (s : Substitution) (column : String) : Option String :=
  (s.values.find? fun entry => entry.1 == column).map Prod.snd

def token (column : String) : List Char := '<' :: column.toList ++ ['>']

-- Replaces the placeholders of one column after the other, so a value may bring in
-- the placeholder of a later column.
def applyChars (s : Substitution) (text : List Char) : List Char :=
  s.values.foldl (fun text entry => Text.replace (token entry.1) entry.2.toList text) text

def apply (s : Substitution) (text : String) : String := String.ofList (s.applyChars text.toList)

def display (s : Substitution) : String :=
  ", ".intercalate (s.values.map fun entry =>
    String.ofList (token entry.1) ++ " = " ++ entry.2)

end Substitution

structure ConcreteStep where
  keyword : String
  text : String
  table : Option Table
  docstring : Option String
  line : Nat
  deriving DecidableEq, Repr

def StepTemplate.fill (step : StepTemplate) (values : Substitution) : ConcreteStep where
  keyword := step.keyword
  text := values.apply step.text
  table := step.table.map fun table => (Table.ofSource table).mapCells values.apply
  docstring := step.docstring.map values.apply
  line := step.line

structure ConcreteScenario where
  id : ScenarioId
  keyword : String
  name : String
  steps : List ConcreteStep
  line : Nat
  examplesIndex : Nat
  rowIndex : Nat
  header : List String
  row : List String
  tags : List String
  deriving DecidableEq, Repr

def ConcreteScenario.values (s : ConcreteScenario) : Substitution := .ofRow s.header s.row

def unsigned (tag : String) : List Char := tag.toList.dropWhile (· == '@')

def ConcreteScenario.hasTag (s : ConcreteScenario) (tag : String) : Bool :=
  s.tags.any fun own => unsigned own == unsigned tag

-- Everything one row of a block makes. The line is counted from the header, as a
-- table keeps no lines of its rows.
def Scenario.fill (scenario : Scenario) (id : ScenarioId) (examplesIndex : Nat)
    (tags : List String) (rows : ExampleRows) (rowIndex : Nat) (row : List String) :
    ConcreteScenario :=
  let values := Substitution.ofRow rows.header row
  { id, examplesIndex, rowIndex, row, tags
    keyword := scenario.keyword
    name := values.apply scenario.name
    steps := scenario.steps.map (·.fill values)
    line := rows.line + 1 + rowIndex
    header := rows.header }

-- A block is left out if the filter rejects it or if it lacks a header or a body.
def expandBlock (feature : Feature) (id : ScenarioId) (rule : Option Rule) (scenario : Scenario)
    (filter : Option TagFilter) (examplesIndex : Nat) (examples : Examples) :
    List ConcreteScenario :=
  if filter.all fun f => f.acceptsExamples feature rule scenario examples then
    match examples.rows? with
    | some rows =>
        let tags := inheritedTags feature rule scenario (some examples)
        rows.body.mapIdx (scenario.fill id examplesIndex tags rows)
    | none => []
  else []

def expandScenario (feature : Feature) (id : ScenarioId) (filter : Option TagFilter) :
    List ConcreteScenario :=
  match id.resolve? feature with
  | some (rule,scenario) =>
      (scenario.examples.mapIdx (expandBlock feature id rule scenario filter)).flatten
  | none => []

def Feature.expand (feature : Feature) (filter : Option TagFilter) : List ConcreteScenario :=
  feature.scenarioIds.flatMap fun id => expandScenario feature id filter

def expandDocument (document : Option Feature) (filter : Option TagFilter) :
    List ConcreteScenario :=
  match document with
  | some feature => feature.expand filter
  | none => []

end ScenarioSuite
