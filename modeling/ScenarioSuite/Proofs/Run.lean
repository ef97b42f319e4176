import ScenarioSuite.Proofs.Hook.Phases
import ScenarioSuite.Proofs.Outline.Selection
import ScenarioSuite.Proofs.Step.Execution
import ScenarioSuite.Run

namespace ScenarioSuite

variable {W : Type} {P : W → Prop}

namespace StepCatalog

theorem execute_named {c : StepCatalog W} {step : ConcreteStep} {world : W} {e : StepError}
    (failed : (c.execute step world).1 = .error e) : e.text = step.text := by
  obtain ⟨calls,result,handled⟩ := handled_total c step.text step.table step.docstring world
  rw [execute,(handled_run handled).1] at failed
  cases handled with
  | undefined | ambiguous =>
      cases failed
      rfl
  | @called d others args outcome last earliest sole taken ran =>
      cases outcome <;> cases failed
      rfl

theorem execute_keeps {c : StepCatalog W}
    (keeps : ∀ d ∈ c.definitions, ∀ call world, P world → P (d.handler call world).2)
    (step : ConcreteStep) {world : W} (own : P world) : P (c.execute step world).2 := by
  obtain ⟨calls,result,handled⟩ := handled_total c step.text step.table step.docstring world
  rw [execute,(handled_run handled).1]
  cases handled with
  | undefined | ambiguous => exact own
  | @called d others args outcome last earliest sole taken ran =>
      have listed : d ∈ c.accepting step.text := earliest ▸ List.mem_cons_self
      have left := keeps d (List.mem_filter.mp listed).1 ⟨step.text,args,step.table,step.docstring⟩
        world own
      rwa [ran] at left

end StepCatalog

theorem Hook.run_keeps {hook : Hook W} (keeps : ∀ world, P world → P (hook.handler world).2)
    (phase : Phase) (index : Nat) {world : W} (own : P world) : P (hook.run phase index world).2 := by
  have left := keeps world own
  rw [Hook.run]
  cases handled : hook.handler world with
  | mk outcome last =>
      rw [handled] at left
      cases outcome <;> exact left

namespace HookRegistry

theorem runFrom_keeps {hooks : List (Hook W)}
    (keeps : ∀ hook ∈ hooks, ∀ world, P world → P (hook.handler world).2) (phase : Phase)
    (tags : List String) (index : Nat) {world : W} (own : P world) :
    P (runFrom phase tags index hooks world).2 := by
  induction hooks generalizing index world with
  | nil => exact own
  | cons hook hooks ih =>
      have rest := @ih fun other member => keeps other (List.mem_cons_of_mem hook member)
      cases asked : hook.runsFor tags with
      | false =>
          rw [runFrom_skipped asked]
          exact rest (index + 1) own
      | true =>
          have left := Hook.run_keeps (keeps hook List.mem_cons_self) phase index own
          rw [runFrom_selected asked]
          cases ran : hook.run phase index world with
          | mk status last =>
              rw [ran] at left
              cases status with
              | error e => exact left
              | ok => exact rest (index + 1) left

theorem execute_keeps {r : HookRegistry W}
    (keeps : ∀ hook ∈ r.hooks, ∀ world, P world → P (hook.handler world).2) (phase : Phase)
    (tags : List String) {world : W} (own : P world) : P (r.execute phase tags world).2 :=
  runFrom_keeps (fun hook member => keeps hook (List.mem_of_mem_filter member)) phase tags 0 own

end HookRegistry

namespace Glue

variable {g : Glue W}

structure Keeps (g : Glue W) (P : W → Prop) : Prop where
  steps : ∀ d ∈ g.steps.definitions, ∀ call world, P world → P (d.handler call world).2
  hooks : ∀ hook ∈ g.hooks.hooks, ∀ world, P world → P (hook.handler world).2

inductive StepsPass (g : Glue W) : W → List ConcreteStep → W → Prop
  | done : StepsPass g world [] world
  | next {step : ConcreteStep} : g.steps.execute step world = (.passed,reached) →
      StepsPass g reached rest last → StepsPass g world (step :: rest) last

-- What steps come to: all pass, or the results end with the first that is none.
inductive StepsRun (g : Glue W) (steps : List ConcreteStep) (world : W) :
    List StepResult × W → Prop
  | passed : StepsPass g world steps last →
      StepsRun g steps world (steps.map fun _ => .passed,last)
  | stopped {step : ConcreteStep} : steps = before ++ step :: behind →
      StepsPass g world before reached → g.steps.execute step reached = (result,last) →
      result ≠ .passed → StepsRun g steps world ((before.map fun _ => .passed) ++ [result],last)

theorem runSteps_passed {step : ConcreteStep} {world next : W}
    (passed : g.steps.execute step world = (.passed,next)) (rest : List ConcreteStep) :
    g.runSteps (step :: rest) world =
      (.passed :: (g.runSteps rest next).1,(g.runSteps rest next).2) := by
  rw [runSteps,passed]

theorem runSteps_stopped {step : ConcreteStep} {world last : W} {result : StepResult}
    (ran : g.steps.execute step world = (result,last)) (stops : result ≠ .passed)
    (rest : List ConcreteStep) : g.runSteps (step :: rest) world = ([result],last) := by
  rw [runSteps,ran]
  cases result with
  | passed => exact absurd rfl stops
  | error | panicked => rfl

theorem runSteps_append {before : List ConcreteStep} {world reached : W}
    (pass : StepsPass g world before reached) (rest : List ConcreteStep) :
    g.runSteps (before ++ rest) world =
      ((before.map fun _ => .passed) ++ (g.runSteps rest reached).1,(g.runSteps rest reached).2) := by
  induction pass with
  | done => rfl
  | next passed _ ih =>
      rw [List.cons_append,runSteps_passed passed,ih]
      rfl

theorem StepsRun.prepend {step : ConcreteStep} {steps : List ConcreteStep} {world next : W}
    {results : List StepResult} {last : W} (passed : g.steps.execute step world = (.passed,next))
    (rest : StepsRun g steps next (results,last)) :
    StepsRun g (step :: steps) world (.passed :: results,last) := by
  cases rest with
  | passed pass => exact .passed (.next passed pass)
  | stopped parts pass ran stops =>
      rw [parts]
      exact .stopped (List.cons_append ..).symm (.next passed pass) ran stops

theorem steps_run (g : Glue W) (steps : List ConcreteStep) (world : W) :
    StepsRun g steps world (g.runSteps steps world) := by
  induction steps generalizing world with
  | nil => exact .passed .done
  | cons step steps ih =>
      cases ran : g.steps.execute step world with
      | mk result next =>
          by_cases passed : result = .passed
          · rw [passed] at ran
            rw [runSteps_passed ran]
            exact (ih next).prepend ran
          · rw [runSteps_stopped ran passed]
            exact .stopped (List.nil_append _).symm .done ran passed

theorem runSteps_exact {steps : List ConcreteStep} {world : W} {result : List StepResult × W} :
    StepsRun g steps world result ↔ g.runSteps steps world = result := by
  constructor
  · intro run
    cases run with
    | passed pass =>
        have whole := runSteps_append pass []
        rwa [List.append_nil,runSteps,List.append_nil] at whole
    | stopped parts pass ran stops => rw [parts,runSteps_append pass,runSteps_stopped ran stops]
  · rintro rfl
    exact steps_run g steps world

theorem runSteps_named {steps : List ConcreteStep} {world : W} {e : StepError}
    (failed : .error e ∈ (g.runSteps steps world).1) :
    (g.runSteps steps world).1.getLast? = some (.error e) ∧ ∃ step ∈ steps, e.text = step.text := by
  have run := steps_run g steps world
  generalize g.runSteps steps world = result at run failed
  cases run with
  | passed pass => simp at failed
  | @stopped before behind reached stop last step parts pass ran stops =>
      obtain rfl : .error e = stop := by simpa using failed
      refine ⟨List.getLast?_concat,step,?_,StepCatalog.execute_named (congrArg Prod.fst ran)⟩
      rw [parts]
      exact List.mem_append_right before List.mem_cons_self

theorem runSteps_keeps (keeps : g.Keeps P) (steps : List ConcreteStep) {world : W} (own : P world) :
    P (g.runSteps steps world).2 := by
  induction steps generalizing world with
  | nil => exact own
  | cons step steps ih =>
      have left := StepCatalog.execute_keeps keeps.steps step own
      cases ran : g.steps.execute step world with
      | mk result next =>
          rw [ran] at left
          by_cases passed : result = .passed
          · rw [passed] at ran
            rw [runSteps_passed ran]
            exact ih left
          · rwa [runSteps_stopped ran passed]

-- A scenario from its hooks to its hooks: the world goes through all of them, and without
-- the hooks before it no step is run.
theorem runScenario_exact (g : Glue W) (scenario : ConcreteScenario) (world : W) :
    let report := g.runScenario scenario world
    ∃ ready left, g.hooks.executeBefore scenario.tags world = (report.before,ready) ∧
      (report.before = .ok () → StepsRun g scenario.steps ready (report.steps,left)) ∧
      (∀ e, report.before = .error e → report.steps = [] ∧ left = ready) ∧
      g.hooks.executeAfter scenario.tags left = (report.after,report.world) := by
  simp only [runScenario]
  cases before : g.hooks.executeBefore scenario.tags world with
  | mk status ready =>
      cases status with
      | ok => exact ⟨ready,_,rfl,fun _ => steps_run g scenario.steps ready,nofun,rfl⟩
      | error e => exact ⟨ready,ready,rfl,nofun,fun _ _ => ⟨rfl,rfl⟩,rfl⟩

theorem runScenario_keeps (keeps : g.Keeps P) (scenario : ConcreteScenario) {world : W}
    (own : P world) : P (g.runScenario scenario world).world := by
  obtain ⟨ready,left,before,passed,failed,after⟩ := g.runScenario_exact scenario world
  have prepared : P ready := by
    have first := HookRegistry.execute_keeps keeps.hooks .beforeScenario scenario.tags own
    rwa [← HookRegistry.executeBefore,before] at first
  have done : P left := by
    cases status : (g.runScenario scenario world).before with
    | ok =>
        have ran := runSteps_keeps keeps scenario.steps prepared
        rwa [runSteps_exact.mp (passed status)] at ran
    | error e => rwa [(failed e status).2]
  have last := HookRegistry.execute_keeps keeps.hooks .afterScenario scenario.tags done
  rwa [← HookRegistry.executeAfter,after] at last

theorem runDocument_keeps (keeps : g.Keeps P) {opening fresh : W} (first : P opening)
    (others : P fresh) (document : Option Feature) (filter : Option TagFilter) :
    let report := g.runDocument opening fresh document filter
    P report.beforeAll.2 ∧ (∀ scenario ∈ report.scenarios, P scenario.world) ∧
      P report.afterAll.2 := by
  refine ⟨HookRegistry.execute_keeps keeps.hooks .beforeSuite [] first,?_,
    HookRegistry.execute_keeps keeps.hooks .afterSuite [] others⟩
  intro report member
  obtain ⟨scenario,_,rfl⟩ := List.mem_map.mp member
  exact runScenario_keeps keeps scenario others

theorem runDocument_filter (g : Glue W) (opening fresh : W) (feature : Feature) (filter : TagFilter) :
    let all := g.runDocument opening fresh (some feature) none
    let kept := g.runDocument opening fresh (some feature) (some filter)
    kept.scenarios = ((expandDocument (some feature) none).filter fun s =>
        filter.accepts s.tags).map (fun s => g.runScenario s fresh) ∧
      kept.scenarios.Sublist all.scenarios ∧ kept.beforeAll = all.beforeAll ∧
      kept.afterAll = all.afterAll := by
  intro all kept
  have chosen : expandDocument (some feature) (some filter) =
      (expandDocument (some feature) none).filter fun s => filter.accepts s.tags :=
    expand_filter feature filter
  have reports : kept.scenarios = ((expandDocument (some feature) none).filter fun s =>
      filter.accepts s.tags).map (fun s => g.runScenario s fresh) := by
    rw [← chosen]
    rfl
  refine ⟨reports,?_,rfl,rfl⟩
  rw [reports]
  exact List.filter_sublist.map _

theorem runSteps_alike {other : Glue W} (same : g.steps = other.steps) (steps : List ConcreteStep)
    (world : W) : g.runSteps steps world = other.runSteps steps world := by
  induction steps generalizing world with
  | nil => rfl
  | cons step steps ih => simp only [runSteps,same,ih]

theorem runDocument_alike {other : Glue W} (steps : g.steps = other.steps)
    (hooks : ∀ phase, g.hooks.ofPhase phase = other.hooks.ofPhase phase) (opening fresh : W)
    (document : Option Feature) (filter : Option TagFilter) :
    g.runDocument opening fresh document filter = other.runDocument opening fresh document filter := by
  have around (phase : Phase) (tags : List String) (world : W) :=
    HookRegistry.execute_ofPhase (hooks phase) tags world
  have scenarios : (g.runScenario · fresh) = (other.runScenario · fresh) := by
    funext scenario
    simp only [runScenario,HookRegistry.executeBefore,HookRegistry.executeAfter,around,
      runSteps_alike steps]
  simp only [runDocument,HookRegistry.executeBeforeAll,HookRegistry.executeAfterAll,around,scenarios]

-- So a whole suite runs alike, however registrations for different phases and of steps are
-- woven together and whatever calls fail between them.
theorem runDocument_replay (glue : Glue W) {first second : List (Operation W)}
    (definitions : first.filterMap Operation.definition? = second.filterMap Operation.definition?)
    (policies : first.filterMap Operation.policy? = second.filterMap Operation.policy?)
    (hooks : ∀ phase, first.filterMap (Operation.hookFor? phase) =
      second.filterMap (Operation.hookFor? phase)) :
    (glue.replay first).runDocument = (glue.replay second).runDocument := by
  funext opening fresh document filter
  refine runDocument_alike ?_ (fun phase => ?_) opening fresh document filter
  · rw [replay_extends,replay_extends,definitions,policies]
  · rw [ofPhase_replay,ofPhase_replay,hooks phase]

end Glue

end ScenarioSuite
