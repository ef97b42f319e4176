import ScenarioSuite.Hook

namespace ScenarioSuite

variable {W : Type}

def Hook.run (phase : Phase) (index : Nat) (hook : Hook W) (world : W) :
    Except HookError Unit × W :=
  match hook.handler world with
  | (.passed,after) => (.ok (),after)
  | (.failed cause,after) => (.error ⟨phase,index,hook.name,hook.location,.error cause⟩,after)
  | (.panicked payload,after) =>
      (.error ⟨phase,index,hook.name,hook.location,.panic payload.message⟩,after)

namespace HookRegistry

def proceed (next : W → Except HookError Unit × W) :
    Except HookError Unit × W → Except HookError Unit × W
  | (.ok (),world) => next world
  | (.error e,world) => (.error e,world)

theorem proceed_proceed (first second : W → Except HookError Unit × W)
    (result : Except HookError Unit × W) :
    proceed second (proceed first result) = proceed (fun world => proceed second (first world)) result := by
  obtain ⟨status,world⟩ := result
  cases status <;> rfl

theorem runFrom_selected {tags : List String} {hook : Hook W} (selected : hook.runsFor tags = true)
    (phase : Phase) (index : Nat) (rest : List (Hook W)) (world : W) :
    runFrom phase tags index (hook :: rest) world =
      proceed (runFrom phase tags (index + 1) rest) (hook.run phase index world) := by
  rw [runFrom,if_pos selected,Hook.run]
  rcases hook.handler world with ⟨outcome,after⟩
  cases outcome <;> rfl

theorem runFrom_skipped {tags : List String} {hook : Hook W} (skipped : hook.runsFor tags = false)
    (phase : Phase) (index : Nat) (rest : List (Hook W)) (world : W) :
    runFrom phase tags index (hook :: rest) world = runFrom phase tags (index + 1) rest world := by
  rw [runFrom,if_neg (by simp [skipped])]

theorem runFrom_append (phase : Phase) (tags : List String) (index : Nat)
    (first rest : List (Hook W)) (world : W) :
    runFrom phase tags index (first ++ rest) world =
      proceed (runFrom phase tags (index + first.length) rest)
        (runFrom phase tags index first world) := by
  induction first generalizing index world with
  | nil => rfl
  | cons hook hooks ih =>
      have position : index + (hook :: hooks).length = index + 1 + hooks.length := by
        simp only [List.length_cons]
        omega
      rw [position,List.cons_append]
      cases asked : hook.runsFor tags with
      | true =>
          rw [runFrom_selected asked,runFrom_selected asked,proceed_proceed]
          congr 1
          funext after
          exact ih (index + 1) after
      | false =>
          rw [runFrom_skipped asked,runFrom_skipped asked]
          exact ih (index + 1) world

theorem runFrom_congr {tags others : List String} {hooks : List (Hook W)}
    (alike : ∀ hook ∈ hooks, hook.runsFor tags = hook.runsFor others) (phase : Phase) (index : Nat)
    (world : W) : runFrom phase tags index hooks world = runFrom phase others index hooks world := by
  induction hooks generalizing index world with
  | nil => rfl
  | cons hook hooks ih =>
      have rest := ih fun other member => alike other (List.mem_cons_of_mem hook member)
      have own := alike hook List.mem_cons_self
      cases asked : hook.runsFor tags with
      | true =>
          rw [runFrom_selected asked,runFrom_selected (own.symm.trans asked)]
          congr 1
          funext after
          exact rest (index + 1) after
      | false =>
          rw [runFrom_skipped asked,runFrom_skipped (own.symm.trans asked)]
          exact rest (index + 1) world

theorem ofPhase_filter (r : HookRegistry W) (phase : Phase) :
    r.ofPhase phase = r.hooks.filter fun hook => hook.phase = phase := rfl

theorem phase_ofPhase {r : HookRegistry W} {phase : Phase} {hook : Hook W}
    (member : hook ∈ r.ofPhase phase) : hook.phase = phase := by
  rw [ofPhase_filter] at member
  simpa using (List.mem_filter.mp member).2

theorem execute_suite (r : HookRegistry W) {phase : Phase} (suite : phase.isScenario = false)
    (tags others : List String) (world : W) :
    r.execute phase tags world = r.execute phase others world := by
  refine runFrom_congr ?_ phase 0 world
  intro hook member
  have always : hook.phase.isScenario = false := by rw [phase_ofPhase member,suite]
  simp [Hook.runsFor,always]

-- The hooks before the index have their turn, then the hook itself, then those behind it.
def RunsAt (r : HookRegistry W) (phase : Phase) (tags : List String) (index : Nat)
    (hook : Hook W) : Prop :=
  ∀ world, r.execute phase tags world =
    proceed (fun reached => proceed (runFrom phase tags (index + 1) ((r.ofPhase phase).drop (index + 1)))
      (hook.run phase index reached)) (runFrom phase tags 0 ((r.ofPhase phase).take index) world)

def SkipsAt (r : HookRegistry W) (phase : Phase) (tags : List String) (index : Nat) : Prop :=
  ∀ world, r.execute phase tags world =
    proceed (runFrom phase tags (index + 1) ((r.ofPhase phase).drop (index + 1)))
      (runFrom phase tags 0 ((r.ofPhase phase).take index) world)

theorem execute_around (r : HookRegistry W) (phase : Phase) (tags : List String) {index : Nat}
    {hook : Hook W} (present : (r.ofPhase phase)[index]? = some hook) (world : W) :
    r.execute phase tags world =
      proceed (runFrom phase tags index (hook :: (r.ofPhase phase).drop (index + 1)))
        (runFrom phase tags 0 ((r.ofPhase phase).take index) world) := by
  obtain ⟨bound,rfl⟩ := List.getElem?_eq_some_iff.mp present
  have length : 0 + ((r.ofPhase phase).take index).length = index := by
    rw [List.length_take]
    omega
  have parts := runFrom_append phase tags 0 ((r.ofPhase phase).take index)
    ((r.ofPhase phase).drop index) world
  rwa [List.take_append_drop,length,List.drop_eq_getElem_cons bound] at parts

theorem runs_at {r : HookRegistry W} {phase : Phase} {tags : List String} {index : Nat}
    {hook : Hook W} (present : (r.ofPhase phase)[index]? = some hook)
    (selected : hook.runsFor tags = true) : r.RunsAt phase tags index hook := by
  intro world
  rw [execute_around r phase tags present world]
  congr 1
  funext reached
  exact runFrom_selected selected phase index _ reached

theorem skips_at {r : HookRegistry W} {phase : Phase} {tags : List String} {index : Nat}
    {hook : Hook W} (present : (r.ofPhase phase)[index]? = some hook)
    (skipped : hook.runsFor tags = false) : r.SkipsAt phase tags index := by
  intro world
  rw [execute_around r phase tags present world]
  congr 1
  funext reached
  exact runFrom_skipped skipped phase index _ reached

theorem mem_ofPhase {r : HookRegistry W} {phase : Phase} {index : Nat} {hook : Hook W}
    (present : (r.ofPhase phase)[index]? = some hook) : hook ∈ r.hooks ∧ hook.phase = phase := by
  have member := List.mem_of_getElem? present
  simpa [ofPhase] using member

end HookRegistry

end ScenarioSuite
