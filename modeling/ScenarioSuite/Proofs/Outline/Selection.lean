import ScenarioSuite.Outline
import ScenarioSuite.Proofs.Hook.Pass
import ScenarioSuite.Proofs.Outline.Places

namespace ScenarioSuite

theorem block_filter (feature : Feature) (id : ScenarioId) (rule : Option Rule)
    (scenario : Scenario) (filter : TagFilter) (block : Nat) (examples : Examples) :
    expandBlock feature id rule scenario (some filter) block examples =
      (expandBlock feature id rule scenario none block examples).filter
        fun s => filter.accepts s.tags := by
  unfold expandBlock
  simp only [Option.all_some,Option.all_none,if_true]
  cases examples.rows? with
  | none => simp
  | some rows =>
      cases taken : filter.acceptsExamples feature rule scenario examples with
      | true =>
          symm
          rw [if_pos rfl,List.filter_eq_self]
          intro s made
          obtain ⟨_,_,rfl⟩ := List.mem_mapIdx.mp made
          exact (filter.acceptsExamples_inherited feature rule scenario examples).symm.trans taken
      | false =>
          symm
          rw [if_neg Bool.false_ne_true,List.filter_eq_nil_iff]
          intro s made accepted
          obtain ⟨_,_,rfl⟩ := List.mem_mapIdx.mp made
          rw [filter.acceptsExamples_inherited] at taken
          exact absurd (taken.symm.trans accepted) Bool.false_ne_true

theorem scenario_filter (feature : Feature) (id : ScenarioId) (filter : TagFilter) :
    expandScenario feature id (some filter) =
      (expandScenario feature id none).filter fun s => filter.accepts s.tags := by
  unfold expandScenario
  cases id.resolve? feature with
  | none => rfl
  | some outline =>
      obtain ⟨rule,scenario⟩ := outline
      simp only [List.filter_flatten,map_enumerated]
      congr 2
      funext block examples
      exact block_filter feature id rule scenario filter block examples

theorem expand_filter (feature : Feature) (filter : TagFilter) :
    feature.expand (some filter) =
      (feature.expand none).filter fun s => filter.accepts s.tags := by
  unfold Feature.expand
  rw [List.filter_flatMap]
  congr 1
  funext id
  exact scenario_filter feature id filter

theorem runsFor_filter {W : Type} {hook : Hook W} {filter : TagFilter}
    (scenario : hook.phase.isScenario = true) (same : hook.filter = some filter)
    (tags : List String) : hook.runsFor tags = filter.accepts tags := by
  simp [Hook.runsFor,scenario,same]

theorem register_filter {W : Type} (r : HookRegistry W) (location : Location) (phase : Phase)
    (options : HookOptions) (handler : HookHandler W) {expression : String} {filter : TagFilter}
    (parsed : TagFilter.ofSource expression = .ok filter) (tags : options.tags = some expression) :
    r.registerWith location phase options handler =
      .ok (r.add ⟨phase,options.name,some filter,options.timeout,location,handler⟩) := by
  unfold HookRegistry.registerWith
  rw [tags]
  simp only [Option.mapM_some]
  rw [parsed]
  rfl

-- Expanding under a filter is expanding and then keeping what the filter accepts by
-- the tags it carries. So a scenario hook that is registered with the expression of the
-- filter has its turn at a scenario that was kept, and none at one that was dropped,
-- wherever it stands among the hooks.
theorem selection_agrees {W : Type} (feature : Feature) (filter : TagFilter) :
    (∀ id, expandScenario feature id (some filter) =
      (expandScenario feature id none).filter fun s => filter.accepts s.tags) ∧
    expandDocument (some feature) (some filter) =
      (expandDocument (some feature) none).filter (fun s => filter.accepts s.tags) ∧
    (∀ expression, TagFilter.ofSource expression = .ok filter →
      ∀ (r : HookRegistry W) location phase options handler, options.tags = some expression →
        ∃ hook, r.registerWith location phase options handler = .ok (r.add hook) ∧
          hook.phase = phase ∧ hook.filter = some filter ∧ hook.handler = handler) ∧
    ∀ (r : HookRegistry W) phase index hook, phase.isScenario = true →
      (r.ofPhase phase)[index]? = some hook → hook.filter = some filter →
        ∀ s ∈ expandDocument (some feature) none,
          (s ∈ expandDocument (some feature) (some filter) → r.RunsAt phase s.tags index hook) ∧
          (s ∉ expandDocument (some feature) (some filter) → r.SkipsAt phase s.tags index) := by
  have commutes := expand_filter feature filter
  refine ⟨fun id => scenario_filter feature id filter,commutes,?_,?_⟩
  · intro expression parsed r location phase options handler tags
    exact ⟨_,register_filter r location phase options handler parsed tags,rfl,rfl,rfl⟩
  · intro r phase index hook scenario present same s made
    have inPhase := (HookRegistry.mem_ofPhase present).2
    have selects := runsFor_filter (inPhase ▸ scenario) same s.tags
    have kept : s ∈ expandDocument (some feature) (some filter) ↔ filter.accepts s.tags = true := by
      change s ∈ feature.expand (some filter) ↔ _
      rw [commutes,List.mem_filter]
      exact and_iff_right made
    constructor
    · intro inside
      exact HookRegistry.runs_at present (selects.trans (kept.mp inside))
    · intro outside
      have refused : filter.accepts s.tags = false := by
        rw [← Bool.not_eq_true,← kept]
        exact outside
      exact HookRegistry.skips_at present (selects.trans refused)

def eatingAny : ConcreteScenario :=
  ⟨⟨none,0⟩,"Scenario Outline","eating <eat>",
    [⟨"Given ","there are 7 cucumbers",none,none,4⟩],15,2,0,["start","eat"],["7"],
    ["@food","@slow"]⟩

def fast : TagFilter := ⟨"@fast",.tag "fast"⟩

def fastHook : Hook Nat :=
  ⟨.beforeScenario,none,some fast,none,⟨"hooks.rs",7,1⟩,fun world => (.passed,world + 10)⟩

def guarded : HookRegistry Nat :=
  (HookRegistry.empty.register ⟨"hooks.rs",5,1⟩ .beforeScenario fun world => (.passed,world + 1)).add
    fastHook

theorem selection_agrees_fast :
    (∃ hook, guarded.registerWith ⟨"hooks.rs",9,1⟩ .afterScenario ⟨some "@fast",none,none⟩
        (fun world => (.passed,world)) = .ok (guarded.add hook) ∧ hook.filter = some fast) ∧
      guarded.RunsAt .beforeScenario eatingFour.tags 1 fastHook ∧
      guarded.SkipsAt .beforeScenario eatingAny.tags 1 := by
  obtain ⟨_,keeps,registers,decides⟩ := @selection_agrees Nat cucumbers fast
  have madeFour : eatingFour ∈ expandDocument (some cucumbers) none :=
    (mem_expand _ _ _).mpr ⟨⟨none,0⟩,by decide⟩
  have madeAny : eatingAny ∈ expandDocument (some cucumbers) none :=
    (mem_expand _ _ _).mpr ⟨⟨none,0⟩,by decide⟩
  have kept : eatingFour ∈ expandDocument (some cucumbers) (some fast) := by
    rw [keeps,List.mem_filter]
    exact ⟨madeFour,by decide⟩
  have dropped : eatingAny ∉ expandDocument (some cucumbers) (some fast) := by
    rw [keeps,List.mem_filter]
    exact fun inside => absurd inside.2 (by decide)
  obtain ⟨hook,registered,_,same,_⟩ := registers "@fast" (by decide) guarded ⟨"hooks.rs",9,1⟩
    .afterScenario ⟨some "@fast",none,none⟩ (fun world => (.passed,world)) rfl
  exact ⟨⟨hook,registered,same⟩,
    (decides guarded .beforeScenario 1 fastHook rfl rfl rfl eatingFour madeFour).1 kept,
    (decides guarded .beforeScenario 1 fastHook rfl rfl rfl eatingAny madeAny).2 dropped⟩

end ScenarioSuite
