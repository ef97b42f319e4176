import ScenarioSuite.Proofs.Outline.Selection

namespace ScenarioSuite

open Tag

def SinglySigned (tag : String) : Prop := ¬ ['@','@'] <+: tag.toList

instance (tag : String) : Decidable (SinglySigned tag) :=
  inferInstanceAs (Decidable (¬ ['@','@'] <+: tag.toList))

theorem unsigned_bare (tag : String) : unsigned (bare tag) = unsigned tag := by
  unfold unsigned bare
  rw [String.toList_ofList]
  cases tag.toList with
  | nil => rfl
  | cons c rest =>
      by_cases sign : c = '@'
      · rw [sign]
        rfl
      · simp [bareChars,sign]

theorem unsigned_single {tag : String} (single : SinglySigned tag) :
    unsigned tag = (bare tag).toList := by
  unfold SinglySigned at single
  unfold unsigned bare
  rw [String.toList_ofList]
  cases text : tag.toList with
  | nil => rfl
  | cons c rest =>
      by_cases sign : c = '@'
      · rw [text,sign] at single
        cases rest with
        | nil => simp [sign,bareChars]
        | cons d rest =>
            have plain : d ≠ '@' := fun again => single (by simp [again])
            simp [sign,bareChars,plain]
      · simp [bareChars,sign]

theorem unsigned_inj {tag other : String} (single : SinglySigned tag) (alone : SinglySigned other) :
    unsigned tag = unsigned other ↔ bare tag = bare other := by
  rw [unsigned_single single,unsigned_single alone,String.toList_inj]

namespace ConcreteScenario

theorem hasTag_exact (s : ConcreteScenario) (tag : String) :
    s.hasTag tag = true ↔ ∃ own ∈ s.tags, unsigned own = unsigned tag := by
  simp [hasTag]

theorem hasTag_of_eval {s : ConcreteScenario} {tag : String}
    (accepted : (Expr.tag tag).eval s.tags = true) : s.hasTag tag = true := by
  obtain ⟨own,member,same⟩ := List.mem_map.mp ((eval_tag tag s.tags).mp accepted)
  refine (s.hasTag_exact tag).mpr ⟨own,member,?_⟩
  rw [← unsigned_bare own,same,unsigned_bare]

theorem hasTag_eval {s : ConcreteScenario} {tag : String} (single : SinglySigned tag)
    (all : ∀ own ∈ s.tags, SinglySigned own) : s.hasTag tag = (Expr.tag tag).eval s.tags := by
  rw [Bool.eq_iff_iff,hasTag_exact,eval_tag,List.mem_map]
  exact exists_congr fun own => and_congr_right fun member => unsigned_inj (all own member) single

end ConcreteScenario

def Feature.writtenTags (feature : Feature) : List String :=
  feature.tags ++ feature.rules.flatMap Rule.tags ++
    feature.allScenarios.flatMap fun scenario =>
      scenario.tags ++ scenario.examples.flatMap Examples.tags

theorem mem_inheritedTags {feature : Feature} {rule : Option Rule} {scenario : Scenario}
    {examples : Examples} {tag : String} :
    tag ∈ inheritedTags feature rule scenario (some examples) ↔ tag ∈ feature.tags ∨
      (∃ own, rule = some own ∧ tag ∈ own.tags) ∨ tag ∈ scenario.tags ∨ tag ∈ examples.tags := by
  cases rule <;> simp [inheritedTags]

theorem Feature.rule_stored {feature : Feature} {rule : Rule} {scenario : Scenario}
    (listed : (some rule,scenario) ∈ feature.outlines) : rule ∈ feature.rules := by
  rcases List.mem_append.mp listed with direct | ruled
  · obtain ⟨_,_,same⟩ := List.mem_map.mp direct
    cases same
  · obtain ⟨own,member,inside⟩ := List.mem_flatMap.mp ruled
    obtain ⟨_,_,same⟩ := List.mem_map.mp inside
    cases same
    exact member

theorem Feature.scenario_stored {feature : Feature} {rule : Option Rule} {scenario : Scenario}
    (listed : (rule,scenario) ∈ feature.outlines) : scenario ∈ feature.allScenarios := by
  rw [feature.allScenarios_outlines]
  exact List.mem_map_of_mem listed

theorem tags_written {feature : Feature} {filter : Option TagFilter} {s : ConcreteScenario}
    (made : s ∈ feature.expand filter) {tag : String} (carried : tag ∈ s.tags) :
    tag ∈ feature.writtenTags := by
  obtain ⟨id,inScenario⟩ := (mem_expand _ _ _).mp made
  obtain ⟨rule,scenario,found,block,examples,atBlock,inBlock⟩ :=
    (mem_expandScenario _ _ _ _).mp inScenario
  obtain ⟨_,_,_,_,_,_,rfl⟩ := (mem_expandBlock _ _ _ _ _ _ _ _).mp inBlock
  have listed : (rule,scenario) ∈ feature.outlines := (feature.mem_outlines _).mpr ⟨id,found⟩
  have stored := Feature.scenario_stored listed
  simp only [Feature.writtenTags,List.mem_append,List.mem_flatMap]
  rcases mem_inheritedTags.mp carried with own | ⟨ruled,rfl,own⟩ | own | own
  · exact .inl (.inl own)
  · exact .inl (.inr ⟨ruled,Feature.rule_stored listed,own⟩)
  · exact .inr ⟨scenario,stored,.inl own⟩
  · exact .inr ⟨scenario,stored,.inr ⟨examples,List.mem_of_getElem? atBlock,own⟩⟩

-- Looking a tag up leaves out all signs, a tag expression leaves out one. So what a
-- single tag accepts is always found, and with no more than one sign anywhere nothing else
-- is: the scenarios that are kept for the tag are those of the whole expansion that have it.
theorem lookup_agrees (tag : String) :
    (∀ s : ConcreteScenario, (Expr.tag tag).eval s.tags = true → s.hasTag tag = true) ∧
    (∀ feature filter, filter.expr = .tag tag →
      ∀ s ∈ expandDocument (some feature) (some filter), s.hasTag tag = true) ∧
    (SinglySigned tag →
      (∀ s : ConcreteScenario, (∀ own ∈ s.tags, SinglySigned own) →
        (s.hasTag tag = true ↔ (Expr.tag tag).eval s.tags = true)) ∧
      ∀ feature filter, filter.expr = .tag tag →
        (∀ s ∈ expandDocument (some feature) none, (∀ own ∈ s.tags, SinglySigned own) →
          (s ∈ expandDocument (some feature) (some filter) ↔ s.hasTag tag = true)) ∧
        ((∀ own ∈ feature.writtenTags, SinglySigned own) →
          expandDocument (some feature) (some filter) =
            (expandDocument (some feature) none).filter (·.hasTag tag))) := by
  have kept : ∀ feature (filter : TagFilter), filter.expr = .tag tag →
      expandDocument (some feature) (some filter) =
        (expandDocument (some feature) none).filter fun s => (Expr.tag tag).eval s.tags := by
    intro feature filter alone
    rw [← alone]
    exact expand_filter feature filter
  refine ⟨fun s => ConcreteScenario.hasTag_of_eval,?_,fun single => ⟨?_,?_⟩⟩
  · intro feature filter alone s emitted
    rw [kept feature filter alone,List.mem_filter] at emitted
    exact ConcreteScenario.hasTag_of_eval emitted.2
  · intro s all
    rw [ConcreteScenario.hasTag_eval single all]
  · intro feature filter alone
    rw [kept feature filter alone]
    constructor
    · intro s made all
      rw [List.mem_filter,ConcreteScenario.hasTag_eval single all]
      exact and_iff_right made
    · intro all
      refine List.filter_congr fun s made => (ConcreteScenario.hasTag_eval single ?_).symm
      exact fun own carried => all own (tags_written made carried)

def nameless : ConcreteScenario := { eatingFour with tags := ["@food",""] }

theorem lookup_agrees_fast :
    SinglySigned "fast" ∧ fast.expr = .tag "fast" ∧ (∀ own ∈ cucumbers.writtenTags, SinglySigned own) ∧
      expandDocument (some cucumbers) (some fast) =
        (expandDocument (some cucumbers) none).filter (·.hasTag "fast") ∧
      eatingAny ∉ expandDocument (some cucumbers) (some fast) ∧
      SinglySigned "@" ∧ (∀ own ∈ nameless.tags, SinglySigned own) ∧ nameless.hasTag "@" = true := by
  obtain ⟨_,_,agrees⟩ := lookup_agrees "fast"
  obtain ⟨accepted,_,_⟩ := lookup_agrees "@"
  obtain ⟨chosen,selected⟩ := (agrees (by decide)).2 cucumbers fast rfl
  have written : ∀ own ∈ cucumbers.writtenTags, SinglySigned own := by decide
  have made : eatingAny ∈ expandDocument (some cucumbers) none :=
    (mem_expand _ _ _).mpr ⟨⟨none,0⟩,by decide⟩
  have dropped : eatingAny ∉ expandDocument (some cucumbers) (some fast) := by
    rw [chosen eatingAny made (by decide)]
    decide
  exact ⟨by decide,rfl,written,selected written,dropped,by decide,by decide,
    accepted nameless (by decide)⟩

-- With two signs the tag is found and not accepted.
example : ({ eatingFour with tags := ["@@a"] } : ConcreteScenario).hasTag "a" = true ∧
    (Expr.tag "a").eval ["@@a"] = false := by decide

end ScenarioSuite
