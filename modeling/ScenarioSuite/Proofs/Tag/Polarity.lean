import Mathlib.Algebra.Ring.Parity
import ScenarioSuite.Proofs.Outline.Selection
import ScenarioSuite.Proofs.Tag.Names

namespace ScenarioSuite

namespace Tag

def Expr.negations : Expr → List Nat
  | .tag _ => [0]
  | .not operand => operand.negations.map (· + 1)
  | .and left right | .or left right => left.negations ++ right.negations

def Expr.Positive (e : Expr) : Prop := ∀ count ∈ e.negations, Even count

def Expr.Negative (e : Expr) : Prop := ∀ count ∈ e.negations, Odd count

def Covered (tags others : List String) : Prop := ∀ name ∈ tags.map bare, name ∈ others.map bare

theorem covered_append (tags more : List String) : Covered tags (tags ++ more) := by
  intro name member
  rw [List.map_append]
  exact List.mem_append_left _ member

theorem negative_tag (name : String) : ¬ (Expr.tag name).Negative := by
  simp [Expr.Negative,Expr.negations]

theorem positive_not {e : Expr} : (Expr.not e).Positive ↔ e.Negative := by
  simp [Expr.Positive,Expr.Negative,Expr.negations,Nat.even_add_one]

theorem negative_not {e : Expr} : (Expr.not e).Negative ↔ e.Positive := by
  simp [Expr.Positive,Expr.Negative,Expr.negations,Nat.odd_add_one]

-- More names can only help a positive expression and harm a negative one. Both at once, as a
-- negation turns the one into the other.
theorem eval_covered {tags others : List String} (covered : Covered tags others) (e : Expr) :
    (e.Positive → e.eval tags = true → e.eval others = true) ∧
    (e.Negative → e.eval others = true → e.eval tags = true) := by
  induction e with
  | tag name =>
      refine ⟨fun _ accepted => ?_,fun negative => absurd negative (negative_tag name)⟩
      exact (eval_tag name others).mpr (covered _ ((eval_tag name tags).mp accepted))
  | not operand ih =>
      obtain ⟨up,down⟩ := ih
      rw [positive_not,negative_not]
      simp only [Expr.eval,Bool.not_eq_true']
      constructor
      · intro negative refused
        exact Bool.eq_false_iff.mpr fun accepted =>
          Bool.eq_false_iff.mp refused (down negative accepted)
      · intro positive refused
        exact Bool.eq_false_iff.mpr fun accepted =>
          Bool.eq_false_iff.mp refused (up positive accepted)
  | and left right ihl ihr =>
      simp only [Expr.eval,Bool.and_eq_true]
      constructor
      · intro positive
        obtain ⟨first,second⟩ := List.forall_mem_append.mp positive
        exact And.imp (ihl.1 first) (ihr.1 second)
      · intro negative
        obtain ⟨first,second⟩ := List.forall_mem_append.mp negative
        exact And.imp (ihl.2 first) (ihr.2 second)
  | or left right ihl ihr =>
      simp only [Expr.eval,Bool.or_eq_true]
      constructor
      · intro positive
        obtain ⟨first,second⟩ := List.forall_mem_append.mp positive
        exact Or.imp (ihl.1 first) (ihr.1 second)
      · intro negative
        obtain ⟨first,second⟩ := List.forall_mem_append.mp negative
        exact Or.imp (ihl.2 first) (ihr.2 second)

end Tag

open Tag

theorem inheritedTags_block (feature : Feature) (rule : Option Rule) (scenario : Scenario)
    (examples : Examples) : inheritedTags feature rule scenario (some examples) =
      inheritedTags feature rule scenario none ++ examples.tags := by
  simp [inheritedTags]

theorem scenario_covered (feature : Feature) (rule : Option Rule) (scenario : Scenario)
    (examples : Examples) : Covered (inheritedTags feature rule scenario none)
      (inheritedTags feature rule scenario (some examples)) := by
  rw [inheritedTags_block]
  exact covered_append _ _

namespace TagFilter

theorem positive_examples {filter : TagFilter} (positive : filter.expr.Positive) {feature : Feature}
    {rule : Option Rule} {scenario : Scenario}
    (accepted : filter.acceptsScenario feature rule scenario = true) (examples : Examples) :
    filter.acceptsExamples feature rule scenario examples = true := by
  rw [acceptsScenario_inherited] at accepted
  rw [acceptsExamples_inherited]
  exact (eval_covered (scenario_covered feature rule scenario examples) filter.expr).1 positive accepted

theorem negative_scenario {filter : TagFilter} (negative : filter.expr.Negative) {feature : Feature}
    {rule : Option Rule} {scenario : Scenario} {examples : Examples}
    (accepted : filter.acceptsExamples feature rule scenario examples = true) :
    filter.acceptsScenario feature rule scenario = true := by
  rw [acceptsExamples_inherited] at accepted
  rw [acceptsScenario_inherited]
  exact (eval_covered (scenario_covered feature rule scenario examples) filter.expr).2 negative accepted

end TagFilter

theorem expandScenario_whole {feature : Feature} {id : ScenarioId} {filter : TagFilter}
    {rule : Option Rule} {scenario : Scenario} (found : id.resolve? feature = some (rule,scenario))
    (all : ∀ examples, filter.acceptsExamples feature rule scenario examples = true) :
    expandScenario feature id (some filter) = expandScenario feature id none := by
  have taken : ∀ block examples, expandBlock feature id rule scenario (some filter) block examples =
      expandBlock feature id rule scenario none block examples := by
    intro block examples
    simp only [expandBlock,Option.all_some,Option.all_none,all examples]
  simp only [expandScenario,found,funext₂ taken]

theorem selected_expanded {feature : Feature} {p : Place} (selected : Selected feature none p) :
    ∃ s ∈ expandScenario feature p.id none, s.place = p := by
  obtain ⟨s,made,same⟩ := List.mem_map.mp (selected_made feature none p selected)
  obtain ⟨id,inside⟩ := (mem_expand feature none s).mp made
  have own : p.id = id := by
    rw [← same]
    exact place_id inside
  exact ⟨s,own ▸ inside,same⟩

-- What a filter accepts it accepts with more tags as well, if its tags stand under even
-- numbers of negations, and with fewer tags, if under odd ones. Blocks have the tags of their
-- scenario and more: in the first case an accepted scenario is expanded as a whole, in the
-- second one a block is accepted together with its scenario only.
theorem polarity_exact (filter : TagFilter) :
    (filter.expr.Positive →
      (∀ tags others, Covered tags others → filter.accepts tags = true →
        filter.accepts others = true) ∧
      ∀ feature rule scenario, filter.acceptsScenario feature rule scenario = true →
        (∀ examples, filter.acceptsExamples feature rule scenario examples = true) ∧
        ∀ id : ScenarioId, id.resolve? feature = some (rule,scenario) →
          expandScenario feature id (some filter) = expandScenario feature id none ∧
          ∀ p, p.id = id → Selected feature none p →
            ∃ s ∈ expandScenario feature id (some filter), s.place = p) ∧
    (filter.expr.Negative →
      (∀ tags others, Covered tags others → filter.accepts others = true →
        filter.accepts tags = true) ∧
      ∀ feature rule scenario examples,
        filter.acceptsExamples feature rule scenario examples = true →
          filter.acceptsScenario feature rule scenario = true) := by
  constructor
  · intro positive
    refine ⟨fun tags others covered => (eval_covered covered filter.expr).1 positive,?_⟩
    intro feature rule scenario accepted
    have all := TagFilter.positive_examples positive accepted
    refine ⟨all,fun id found => ?_⟩
    have whole := expandScenario_whole found all
    refine ⟨whole,?_⟩
    rintro p rfl selected
    rw [whole]
    exact selected_expanded selected
  · intro negative
    exact ⟨fun tags others covered => (eval_covered covered filter.expr).2 negative,
      fun feature rule scenario examples => TagFilter.negative_scenario negative⟩

def foodAfterAll : TagFilter :=
  ⟨"(not (not @food)) or @slow",.or (.not (.not (.tag "food"))) (.tag "slow")⟩

def unhurried : TagFilter := ⟨"not @fast",.not (.tag "fast")⟩

theorem polarity_exact_food :
    TagFilter.ofSource "(not (not @food)) or @slow" = .ok foodAfterAll ∧ foodAfterAll.expr.Positive ∧
      (∃ s ∈ expandScenario cucumbers ⟨none,0⟩ (some foodAfterAll), s.place = ⟨⟨none,0⟩,2,0⟩) ∧
      unhurried.expr.Negative ∧
      (unhurried.accepts ["@food","@slow"] = true → unhurried.accepts ["food"] = true) := by
  have positive : foodAfterAll.expr.Positive := by
    simp [foodAfterAll,Tag.Expr.Positive,Tag.Expr.negations]
  have negative : unhurried.expr.Negative := by
    simp [unhurried,Tag.Expr.Negative,Tag.Expr.negations]
  obtain ⟨_,wholly⟩ := (polarity_exact foodAfterAll).1 positive
  obtain ⟨fewer,_⟩ := (polarity_exact unhurried).2 negative
  obtain ⟨_,expanded⟩ := wholly cucumbers none _ (by decide : foodAfterAll.acceptsScenario cucumbers none
    cucumbers.scenarios[0] = true)
  obtain ⟨_,kept⟩ := expanded ⟨none,0⟩ rfl
  have selected : Selected cucumbers none ⟨⟨none,0⟩,2,0⟩ :=
    ⟨none,_,_,_,["start","eat"],[["7"]],⟨rfl,rfl,rfl⟩,rfl,by decide,by decide,nofun⟩
  refine ⟨by decide,positive,kept _ rfl selected,negative,fewer ["food"] ["@food","@slow"] ?_⟩
  simp [Covered,bare,bareChars]

end ScenarioSuite
