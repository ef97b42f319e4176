import ScenarioSuite.Document
import ScenarioSuite.Tag.Expr

namespace ScenarioSuite

structure TagFilter where
  source : String
  expr : Tag.Expr
  deriving DecidableEq, Repr

structure TagFilterError where
  expression : String
  detail : String
  deriving DecidableEq, Repr

def TagFilterError.message (e : TagFilterError) : String :=
  "Failed to parse tag expression " ++ "`" ++ e.expression ++ "`: " ++ e.detail

namespace TagFilter

def ofSource (source : String) : Except TagFilterError TagFilter :=
  match Tag.parse source with
  | .ok expr => .ok ⟨source,expr⟩
  | .error misfit => .error ⟨source,misfit.message⟩

def accepts (filter : TagFilter) (tags : List String) : Bool := filter.expr.eval tags

def acceptsScenario (filter : TagFilter) (feature : Feature) (rule : Option Rule)
    (scenario : Scenario) : Bool :=
  filter.accepts (feature.tags ++ rule.toList.flatMap Rule.tags ++ scenario.tags)

-- Whole blocks are chosen or not: the rows of examples have no tags of their own.
def acceptsExamples (filter : TagFilter) (feature : Feature) (rule : Option Rule)
    (scenario : Scenario) (examples : Examples) : Bool :=
  filter.accepts
    (feature.tags ++ rule.toList.flatMap Rule.tags ++ scenario.tags ++ examples.tags)

def acceptsDocument (filter : TagFilter) : Option Feature → Bool
  | none => false
  | some feature =>
      feature.scenarios.any (filter.acceptsScenario feature none) ||
        feature.rules.any fun rule =>
          rule.scenarios.any (filter.acceptsScenario feature (some rule))

-- The filter looks at the tags that an expanded scenario will carry.
theorem acceptsScenario_inherited (filter : TagFilter) (feature : Feature) (rule : Option Rule)
    (scenario : Scenario) : filter.acceptsScenario feature rule scenario =
      filter.accepts (inheritedTags feature rule scenario none) := by
  cases rule <;> simp [acceptsScenario,inheritedTags]

theorem acceptsExamples_inherited (filter : TagFilter) (feature : Feature) (rule : Option Rule)
    (scenario : Scenario) (examples : Examples) :
    filter.acceptsExamples feature rule scenario examples =
      filter.accepts (inheritedTags feature rule scenario (some examples)) := by
  cases rule <;> simp [acceptsExamples,inheritedTags]

end TagFilter

end ScenarioSuite
