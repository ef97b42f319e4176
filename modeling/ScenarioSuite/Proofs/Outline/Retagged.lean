import ScenarioSuite.Proofs.Outline.Documents
import ScenarioSuite.Proofs.Tag.Names

namespace ScenarioSuite

open Tag

theorem forall₂_getElem {α β : Type} {R : α → β → Prop} {l : List α} {others : List β}
    (all : List.Forall₂ R l others) (i : Nat) : Option.Rel R l[i]? others[i]? := by
  induction all generalizing i with
  | nil => exact .none
  | cons first _ ih =>
      cases i with
      | zero => exact .some first
      | succ i => exact ih i

theorem forall₂_mapIdx {α β γ δ : Type} {R : α → β → Prop} {P : γ → δ → Prop} {f : Nat → α → γ}
    {g : Nat → β → δ} {l : List α} {others : List β} (all : List.Forall₂ R l others)
    (each : ∀ i x y, R x y → P (f i x) (g i y)) : List.Forall₂ P (l.mapIdx f) (others.mapIdx g) := by
  induction all generalizing f g with
  | nil => exact .nil
  | cons first _ ih =>
      rw [List.mapIdx_cons,List.mapIdx_cons]
      exact .cons (each 0 _ _ first) (ih fun i => each (i + 1))

theorem rel_parts {α β : Type} {R : α → β → Prop} {x : Option α} {y : Option β}
    (related : Option.Rel R x y) :
    x = none ∧ y = none ∨ ∃ a b, x = some a ∧ y = some b ∧ R a b := by
  cases related with
  | none => exact .inl ⟨rfl,rfl⟩
  | some own => exact .inr ⟨_,_,rfl,rfl,own⟩

theorem rel_bind {α β γ δ : Type} {R : α → β → Prop} {P : γ → δ → Prop} {x : Option α} {y : Option β}
    {f : α → Option γ} {g : β → Option δ} (related : Option.Rel R x y)
    (each : ∀ a b, R a b → Option.Rel P (f a) (g b)) : Option.Rel P (x.bind f) (y.bind g) := by
  cases related with
  | none => exact .none
  | some own => exact each _ _ own

-- Trees that differ in their tags only, and so that on every level the tags in force name the
-- same, the ones from above and the level's own together: `above` and `others` are the tags that
-- the two get from above.
structure Examples.Retagged (above others : List String) (examples other : Examples) : Prop where
  tags : SameNames (above ++ examples.tags) (others ++ other.tags)
  rest : { examples with tags := other.tags } = other

structure Scenario.Retagged (above others : List String) (scenario other : Scenario) : Prop where
  tags : SameNames (above ++ scenario.tags) (others ++ other.tags)
  examples : List.Forall₂ (Examples.Retagged (above ++ scenario.tags) (others ++ other.tags))
    scenario.examples other.examples
  rest : { scenario with tags := other.tags, examples := other.examples } = other

structure Rule.Retagged (above others : List String) (rule other : Rule) : Prop where
  scenarios : List.Forall₂ (Scenario.Retagged (above ++ rule.tags) (others ++ other.tags))
    rule.scenarios other.scenarios
  rest : { rule with tags := other.tags, scenarios := other.scenarios } = other

structure Feature.Retagged (feature other : Feature) : Prop where
  scenarios : List.Forall₂ (Scenario.Retagged feature.tags other.tags)
    feature.scenarios other.scenarios
  rules : List.Forall₂ (Rule.Retagged feature.tags other.tags) feature.rules other.rules
  rest : { feature with
    tags := other.tags, scenarios := other.scenarios, rules := other.rules } = other

structure ConcreteScenario.Retagged (s other : ConcreteScenario) : Prop where
  tags : SameNames s.tags other.tags
  rest : { s with tags := other.tags } = other

def tagsAbove (feature : Feature) (rule : Option Rule) : List String :=
  feature.tags ++ (rule.map Rule.tags).getD []

def OutlineRetagged (feature other : Feature) (outline another : Option Rule × Scenario) : Prop :=
  outline.2.Retagged (tagsAbove feature outline.1) (tagsAbove other another.1) another.2

theorem resolve_retagged {feature other : Feature} (whole : feature.Retagged other)
    (id : ScenarioId) : Option.Rel (OutlineRetagged feature other) (id.resolve? feature)
      (id.resolve? other) := by
  obtain ⟨rule,scenario⟩ := id
  cases rule with
  | none =>
      simp only [ScenarioId.resolve?,Option.map_eq_bind]
      refine rel_bind (forall₂_getElem whole.scenarios scenario) fun _ _ own => .some ?_
      simpa [OutlineRetagged,tagsAbove] using own
  | some r =>
      exact rel_bind (forall₂_getElem whole.rules r) fun rule another within =>
        rel_bind (forall₂_getElem within.scenarios scenario) fun _ _ own => .some own

theorem inheritedTags_above (feature : Feature) (rule : Option Rule) (scenario : Scenario) :
    inheritedTags feature rule scenario none = tagsAbove feature rule ++ scenario.tags :=
  List.append_nil _

theorem fill_retagged {above beyond : List String} {scenario next : Scenario}
    (own : scenario.Retagged above beyond next) (id : ScenarioId) (block : Nat)
    {tags others : List String} (same : SameNames tags others) (rows : ExampleRows) (i : Nat)
    (row : List String) :
    (scenario.fill id block tags rows i row).Retagged (next.fill id block others rows i row) := by
  have keyword : scenario.keyword = next.keyword := (congrArg Scenario.keyword own.rest :)
  have name : scenario.name = next.name := (congrArg Scenario.name own.rest :)
  have steps : scenario.steps = next.steps := (congrArg Scenario.steps own.rest :)
  refine ⟨same,?_⟩
  simp only [Scenario.fill,keyword,name,steps]

theorem block_retagged {feature other : Feature} {rule another : Option Rule}
    {scenario next : Scenario} {examples block : Examples}
    (own : scenario.Retagged (tagsAbove feature rule) (tagsAbove other another) next)
    (below : examples.Retagged (tagsAbove feature rule ++ scenario.tags)
      (tagsAbove other another ++ next.tags) block)
    (id : ScenarioId) (filter : Option TagFilter) (i : Nat) :
    List.Forall₂ ConcreteScenario.Retagged (expandBlock feature id rule scenario filter i examples)
      (expandBlock other id another next filter i block) := by
  have accepted : (filter.all fun f => f.acceptsExamples feature rule scenario examples) =
      filter.all fun f => f.acceptsExamples other another next block := by
    cases filter with
    | none => rfl
    | some f =>
        simp only [Option.all_some,TagFilter.acceptsExamples_inherited]
        exact eval_same below.tags f.expr
  have rows : examples.rows? = block.rows? := by
    have table : examples.table = block.table := (congrArg Examples.table below.rest :)
    rw [Examples.rows?,Examples.rows?,table]
  unfold expandBlock
  rw [accepted,rows]
  split
  · cases block.rows? with
    | none => exact .nil
    | some made =>
        refine forall₂_mapIdx (List.forall₂_same.mpr fun row _ => rfl) fun i row _ equal => ?_
        subst equal
        exact fill_retagged own id _ below.tags made i row
  · exact .nil

theorem scenario_retagged {feature other : Feature} (whole : feature.Retagged other) (id : ScenarioId)
    (filter : Option TagFilter) :
    List.Forall₂ ConcreteScenario.Retagged (expandScenario feature id filter)
      (expandScenario other id filter) := by
  unfold expandScenario
  rcases rel_parts (resolve_retagged whole id) with ⟨first,second⟩ | ⟨_,_,first,second,own⟩
  · rw [first,second]
    exact .nil
  · rw [first,second]
    exact List.rel_flatten (forall₂_mapIdx own.examples fun i _ _ below =>
      block_retagged own below id filter i)

theorem scenarioIds_retagged {feature other : Feature} (whole : feature.Retagged other) :
    feature.scenarioIds = other.scenarioIds := by
  have direct : ∀ (i : Nat) (scenario next : Scenario), scenario.Retagged feature.tags other.tags next →
      (scenario.line,[(⟨none,i⟩ : ScenarioId)]) = (next.line,[⟨none,i⟩]) := by
    intro i scenario next own
    have line : scenario.line = next.line := (congrArg Scenario.line own.rest :)
    rw [line]
  have ruled : ∀ (r : Nat) (rule another : Rule), rule.Retagged feature.tags other.tags another →
      (rule.line,(List.range rule.scenarios.length).map fun i => (⟨some r,i⟩ : ScenarioId)) =
        (another.line,(List.range another.scenarios.length).map fun i => ⟨some r,i⟩) := by
    intro r rule another own
    have line : rule.line = another.line := (congrArg Rule.line own.rest :)
    rw [line,own.scenarios.length_eq]
  have children : feature.children = other.children := by
    have first := forall₂_mapIdx whole.scenarios direct
    have second := forall₂_mapIdx whole.rules ruled
    rw [List.forall₂_eq_eq_eq] at first second
    exact congrArg₂ (· ++ ·) first second
  rw [Feature.scenarioIds,children]
  rfl

theorem expand_retagged {feature other : Feature} (whole : feature.Retagged other)
    (filter : Option TagFilter) :
    List.Forall₂ ConcreteScenario.Retagged (feature.expand filter) (other.expand filter) := by
  rw [Feature.expand,Feature.expand,scenarioIds_retagged whole]
  refine List.rel_flatMap (List.forall₂_same.mpr fun id _ => rfl) ?_
  rintro id _ rfl
  exact scenario_retagged whole id filter

theorem acceptsDocument_retagged {feature other : Feature} (whole : feature.Retagged other)
    (filter : TagFilter) :
    filter.acceptsDocument (some feature) = filter.acceptsDocument (some other) := by
  have each : ∀ id, filter.acceptsId feature id = filter.acceptsId other id := by
    intro id
    unfold TagFilter.acceptsId
    rcases rel_parts (resolve_retagged whole id) with ⟨first,second⟩ | ⟨_,_,first,second,own⟩
    · rw [first,second]
    · rw [first,second]
      simp only [TagFilter.acceptsScenario_inherited,inheritedTags_above]
      exact eval_same own.tags filter.expr
  rw [Bool.eq_iff_iff,acceptsDocument_ids,acceptsDocument_ids,scenarioIds_retagged whole]
  simp only [each]

theorem runsFor_same {W : Type} {tags others : List String} (same : SameNames tags others)
    (hook : Hook W) : hook.runsFor tags = hook.runsFor others := by
  have asked : (hook.filter.all fun filter => filter.accepts tags) =
      hook.filter.all fun filter => filter.accepts others := by
    cases hook.filter with
    | none => rfl
    | some filter => exact eval_same same filter.expr
  rw [Hook.runsFor,Hook.runsFor,asked]

-- How tags are written says nothing. Lists answer all expressions alike just if they name the
-- same tags, and an expression answers alike with and without the signs of its own tags. So
-- hooks, scenarios and blocks are chosen alike, and trees that differ in nothing but how the
-- tags in force are written make the same scenarios.
theorem names_decide {W : Type} :
    (∀ tags others, SameNames tags others ↔ ∀ e : Expr, e.eval tags = e.eval others) ∧
    (∀ e f, Resigned e f → ∀ tags, e.eval tags = f.eval tags) ∧
    (∀ tags others, SameNames tags others →
      (∀ filter : TagFilter, filter.accepts tags = filter.accepts others) ∧
      (∀ hook : Hook W, hook.runsFor tags = hook.runsFor others) ∧
      ∀ (r : HookRegistry W) phase world,
        r.execute phase tags world = r.execute phase others world) ∧
    (∀ (filter : TagFilter) feature other rule another scenario next,
      (SameNames (inheritedTags feature rule scenario none) (inheritedTags other another next none) →
        filter.acceptsScenario feature rule scenario = filter.acceptsScenario other another next) ∧
      ∀ examples block, SameNames (inheritedTags feature rule scenario (some examples))
          (inheritedTags other another next (some block)) →
        filter.acceptsExamples feature rule scenario examples =
          filter.acceptsExamples other another next block) ∧
    ∀ feature other : Feature, feature.Retagged other →
      (∀ filter : TagFilter,
        filter.acceptsDocument (some feature) = filter.acceptsDocument (some other)) ∧
      (∀ id filter, List.Forall₂ ConcreteScenario.Retagged (expandScenario feature id filter)
        (expandScenario other id filter)) ∧
      ∀ filter, List.Forall₂ ConcreteScenario.Retagged (expandDocument (some feature) filter)
        (expandDocument (some other) filter) := by
  refine ⟨fun tags others => ⟨eval_same,same_of_eval⟩,fun e f resigned => eval_resigned resigned,
    ?_,?_,?_⟩
  · intro tags others same
    exact ⟨fun filter => eval_same same filter.expr,runsFor_same same,fun r phase world =>
      HookRegistry.runFrom_congr (fun hook _ => runsFor_same same hook) phase 0 world⟩
  · intro filter feature other rule another scenario next
    simp only [TagFilter.acceptsScenario_inherited,TagFilter.acceptsExamples_inherited]
    exact ⟨fun same => eval_same same filter.expr,fun examples block same =>
      eval_same same filter.expr⟩
  · intro feature other whole
    exact ⟨acceptsDocument_retagged whole,scenario_retagged whole,expand_retagged whole⟩

def cucumbersRepeated : Feature :=
  ⟨"Hungry",["@food","@food"],[⟨"Scenario Outline","eating <eat>",["food"],
    [⟨"Given ","there are <start> cucumbers",none,none,4⟩],
    [⟨"",[],none,6⟩,⟨"",["fast"],some ⟨[["start","eat"],["12","5"],["20","4"]],9⟩,8⟩,
      ⟨"",["@slow"],some ⟨[["start","eat"],["7"]],14⟩,13⟩],3⟩],[],1⟩

theorem names_decide_repeated :
    cucumbers.Retagged cucumbersRepeated ∧
      List.Forall₂ ConcreteScenario.Retagged (expandDocument (some cucumbers) (some fast))
        (expandDocument (some cucumbersRepeated) (some fast)) ∧
      guarded.execute .beforeScenario ["@food","@fast"] 0 =
        guarded.execute .beforeScenario ["fast","food","@fast"] 0 := by
  obtain ⟨_,_,same,_,retagged⟩ := @names_decide Nat
  have whole : cucumbers.Retagged cucumbersRepeated :=
    ⟨.cons ⟨by decide,.cons ⟨by decide,rfl⟩ (.cons ⟨by decide,rfl⟩ (.cons ⟨by decide,rfl⟩ .nil)),rfl⟩
      .nil,.nil,rfl⟩
  obtain ⟨_,_,hooks⟩ := same ["@food","@fast"] ["fast","food","@fast"] (by decide)
  exact ⟨whole,(retagged _ _ whole).2.2 (some fast),hooks guarded .beforeScenario 0⟩

end ScenarioSuite
