import ScenarioSuite.Proofs.Outline.Selection

namespace ScenarioSuite

theorem flatMap_chosen {α β : Type} (p : α → Bool) (f : α → List β) (l : List α) :
    l.flatMap (fun x => if p x then f x else []) = (l.filter p).flatMap f := by
  induction l with
  | nil => rfl
  | cons x l ih => cases chosen : p x <;> simp [chosen,ih]

def TagFilter.acceptsId (filter : TagFilter) (feature : Feature) (id : ScenarioId) : Bool :=
  match id.resolve? feature with
  | some (rule,scenario) => filter.acceptsScenario feature rule scenario
  | none => false

theorem acceptsId_exact (filter : TagFilter) (feature : Feature) (id : ScenarioId) :
    filter.acceptsId feature id = true ↔ ∃ rule scenario,
      id.resolve? feature = some (rule,scenario) ∧
        filter.acceptsScenario feature rule scenario = true := by
  unfold TagFilter.acceptsId
  cases id.resolve? feature with
  | none => simp
  | some outline =>
      obtain ⟨rule,scenario⟩ := outline
      simp

theorem acceptsDocument_outlines (filter : TagFilter) (feature : Feature) :
    filter.acceptsDocument (some feature) =
      feature.outlines.any fun outline => filter.acceptsScenario feature outline.1 outline.2 := by
  rw [Feature.outlines,List.any_append,List.any_map,List.any_flatMap]
  simp only [List.any_map]
  rfl

theorem acceptsDocument_ids (filter : TagFilter) (feature : Feature) :
    filter.acceptsDocument (some feature) = true ↔
      ∃ id ∈ feature.scenarioIds, filter.acceptsId feature id = true := by
  rw [acceptsDocument_outlines,List.any_eq_true]
  constructor
  · rintro ⟨⟨rule,scenario⟩,member,accepted⟩
    obtain ⟨id,found⟩ := (feature.mem_outlines _).mp member
    have listed : id ∈ feature.scenarioIds := by
      rw [feature.mem_scenarioIds,found]
      rfl
    exact ⟨id,listed,(acceptsId_exact filter feature id).mpr ⟨rule,scenario,found,accepted⟩⟩
  · rintro ⟨id,_,accepted⟩
    obtain ⟨rule,scenario,found,taken⟩ := (acceptsId_exact filter feature id).mp accepted
    exact ⟨(rule,scenario),(feature.mem_outlines _).mpr ⟨id,found⟩,taken⟩

def Feature.PlainBlocks (feature : Feature) : Prop :=
  ∀ scenario ∈ feature.allScenarios, ∀ examples ∈ scenario.examples, examples.tags = []

theorem inheritedTags_plain {examples : Examples} (plain : examples.tags = []) (feature : Feature)
    (rule : Option Rule) (scenario : Scenario) :
    inheritedTags feature rule scenario (some examples) = inheritedTags feature rule scenario none := by
  simp [inheritedTags,plain]

theorem expandScenario_tags {feature : Feature} (plain : feature.PlainBlocks) {id : ScenarioId}
    {filter : Option TagFilter} {s : ConcreteScenario} (made : s ∈ expandScenario feature id filter) :
    ∃ rule scenario, id.resolve? feature = some (rule,scenario) ∧
      s.tags = inheritedTags feature rule scenario none := by
  obtain ⟨rule,scenario,found,block,examples,atBlock,inBlock⟩ := (mem_expandScenario _ _ _ _).mp made
  obtain ⟨_,_,_,_,_,_,rfl⟩ := (mem_expandBlock _ _ _ _ _ _ _ _).mp inBlock
  have stored : scenario ∈ feature.allScenarios := by
    rw [feature.allScenarios_outlines]
    exact List.mem_map_of_mem ((feature.mem_outlines (rule,scenario)).mpr ⟨id,found⟩)
  have untagged : examples.tags = [] := plain scenario stored examples (List.mem_of_getElem? atBlock)
  exact ⟨rule,scenario,found,inheritedTags_plain untagged feature rule scenario⟩

theorem expandScenario_plain {feature : Feature} (plain : feature.PlainBlocks) (filter : TagFilter)
    (id : ScenarioId) : expandScenario feature id (some filter) =
      if filter.acceptsId feature id then expandScenario feature id none else [] := by
  have same : ∀ s ∈ expandScenario feature id none,
      filter.accepts s.tags = filter.acceptsId feature id := by
    intro s made
    obtain ⟨rule,scenario,found,tags⟩ := expandScenario_tags plain made
    rw [TagFilter.acceptsId,found,tags]
    exact (filter.acceptsScenario_inherited feature rule scenario).symm
  rw [scenario_filter,List.filter_congr same]
  cases filter.acceptsId feature id <;> simp

-- A document is accepted if some scenario that an id stands for is. If no block has tags
-- of its own, its expansion goes by scenarios as well: it is that of the accepted scenarios
-- without a filter, in the order of the ids, and empty for a document that is not accepted.
theorem document_selection (filter : TagFilter) (feature : Feature) :
    (filter.acceptsDocument (some feature) = true ↔ ∃ id ∈ feature.scenarioIds, ∃ rule scenario,
      id.resolve? feature = some (rule,scenario) ∧
        filter.acceptsScenario feature rule scenario = true) ∧
    (feature.PlainBlocks →
      expandDocument (some feature) (some filter) =
        (feature.scenarioIds.filter (filter.acceptsId feature)).flatMap
          (expandScenario feature · none) ∧
      (filter.acceptsDocument (some feature) = false →
        expandDocument (some feature) (some filter) = [])) := by
  refine ⟨?_,fun plain => ?_⟩
  · rw [acceptsDocument_ids]
    simp only [acceptsId_exact]
  · have whole : expandDocument (some feature) (some filter) =
        (feature.scenarioIds.filter (filter.acceptsId feature)).flatMap
          (expandScenario feature · none) := by
      rw [← flatMap_chosen]
      exact List.flatMap_congr fun id _ => expandScenario_plain plain filter id
    refine ⟨whole,fun refused => ?_⟩
    have nothing : feature.scenarioIds.filter (filter.acceptsId feature) = [] := by
      rw [List.filter_eq_nil_iff]
      intro id listed accepted
      have taken := (acceptsDocument_ids filter feature).mpr ⟨id,listed,accepted⟩
      exact absurd (refused.symm.trans taken) Bool.false_ne_true
    rw [whole,nothing]
    rfl

def ruled : Feature :=
  ⟨"Hungry",[],[⟨"Scenario Outline","cooking <food>",[],[],
      [⟨"",[],some ⟨[["food"],["rice"]],12⟩,11⟩],9⟩],
    [⟨"Meals",["@slow"],[⟨"Scenario Outline","eating <food>",[],[],
      [⟨"",[],some ⟨[["food"],["soup"],["stew"]],6⟩,5⟩],4⟩],3⟩],1⟩

def slow : TagFilter := ⟨"@slow",.tag "slow"⟩

theorem document_selection_ruled :
    ruled.PlainBlocks ∧ slow.acceptsDocument (some ruled) = true ∧
      expandDocument (some ruled) (some slow) = expandScenario ruled ⟨some 0,0⟩ none := by
  have plain : ruled.PlainBlocks := by
    simp [Feature.PlainBlocks,Feature.allScenarios,ruled]
  have listed : ruled.scenarioIds = [⟨some 0,0⟩,⟨none,0⟩] := by
    simp [Feature.scenarioIds,Feature.children,ruled,List.mergeSort]
  have kept : ruled.scenarioIds.filter (slow.acceptsId ruled) = [⟨some 0,0⟩] := by
    rw [listed]
    decide +kernel
  obtain ⟨accepted,chosen⟩ := document_selection slow ruled
  refine ⟨plain,accepted.mpr ⟨⟨some 0,0⟩,by simp [listed],_,_,rfl,by decide⟩,?_⟩
  rw [(chosen plain).1,kept,List.flatMap_singleton]

-- A block with a tag of its own is expanded though its document is not accepted.
example : fast.acceptsDocument (some cucumbers) = false ∧
    (expandDocument (some cucumbers) (some fast)).map ConcreteScenario.name =
      ["eating 5","eating 4"] := by
  decide +kernel

end ScenarioSuite
