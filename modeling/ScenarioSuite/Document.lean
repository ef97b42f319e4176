namespace ScenarioSuite

-- Cells as they stand in a document, the first row being the header, and the line
-- of that row.
structure SourceTable where
  rows : List (List String)
  line : Nat
  deriving DecidableEq, Repr

structure StepTemplate where
  keyword : String
  text : String
  table : Option SourceTable
  docstring : Option String
  line : Nat
  deriving DecidableEq, Repr

structure Examples where
  name : String
  tags : List String
  table : Option SourceTable
  line : Nat
  deriving DecidableEq, Repr

structure Scenario where
  keyword : String
  name : String
  tags : List String
  steps : List StepTemplate
  examples : List Examples
  line : Nat
  deriving DecidableEq, Repr

structure Rule where
  name : String
  tags : List String
  scenarios : List Scenario
  line : Nat
  deriving DecidableEq, Repr

structure Feature where
  name : String
  tags : List String
  scenarios : List Scenario
  rules : List Rule
  line : Nat
  deriving DecidableEq, Repr

structure ExampleRows where
  line : Nat
  header : List String
  body : List (List String)
  deriving DecidableEq, Repr

def Examples.rows? (e : Examples) : Option ExampleRows := do
  let table ← e.table
  match table.rows with
  | [] => none
  | header :: body => if header ≠ [] ∧ body ≠ [] then some ⟨table.line,header,body⟩ else none

-- The tags in force at a scenario, or at one of its examples, from the outermost
-- level to the innermost. A tag set on two levels comes twice.
def inheritedTags (feature : Feature) (rule : Option Rule) (scenario : Scenario)
    (examples : Option Examples) : List String :=
  feature.tags ++ (rule.map Rule.tags).getD [] ++ scenario.tags
    ++ (examples.map Examples.tags).getD []

-- A scenario by its place: the index of its rule, if it stands in one, and its index
-- among the scenarios there.
structure ScenarioId where
  rule : Option Nat
  scenario : Nat
  deriving DecidableEq, Repr

def ScenarioId.resolve? (id : ScenarioId) (feature : Feature) : Option (Option Rule × Scenario) :=
  match id.rule with
  | some r => do
      let rule ← feature.rules[r]?
      let scenario ← rule.scenarios[id.scenario]?
      some (some rule,scenario)
  | none => (feature.scenarios[id.scenario]?).map (none,·)

def ScenarioId.text (id : ScenarioId) : String :=
  let scenario := "scenario[" ++ toString id.scenario ++ "]"
  match id.rule with
  | some r => "rule[" ++ toString r ++ "]." ++ scenario
  | none => scenario

def ScenarioId.le (a b : ScenarioId) : Bool :=
  match a.rule,b.rule with
  | none,none => a.scenario ≤ b.scenario
  | none,some _ => true
  | some _,none => false
  | some r,some s => r < s || (r == s && a.scenario ≤ b.scenario)

def Feature.children (feature : Feature) : List (Nat × List ScenarioId) :=
  feature.scenarios.mapIdx (fun i scenario => (scenario.line,[⟨none,i⟩]))
    ++ feature.rules.mapIdx fun r rule =>
        (rule.line,(List.range rule.scenarios.length).map fun i => ⟨some r,i⟩)

-- All scenarios in the order of their lines; the sort is stable, so scenarios come
-- before rules on the same line.
def Feature.scenarioIds (feature : Feature) : List ScenarioId :=
  (feature.children.mergeSort fun a b => decide (a.1 ≤ b.1)).flatMap Prod.snd

def Feature.allScenarios (feature : Feature) : List Scenario :=
  feature.scenarios ++ feature.rules.flatMap Rule.scenarios

def Feature.countRows (feature : Feature) : Nat :=
  ((feature.allScenarios.flatMap Scenario.examples).filterMap Examples.rows?).foldl
    (fun total rows => total + rows.body.length) 0

end ScenarioSuite
