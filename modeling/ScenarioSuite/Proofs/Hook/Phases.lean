import ScenarioSuite.Proofs.Glue.Replay

namespace ScenarioSuite

variable {W : Type}

namespace Operation

def phase? : Operation W → Option Phase
  | plainHook _ phase _ | hook _ phase _ _ => some phase
  | step .. | setPolicy _ | setDefaultTimeout _ | apply _ => none

def hookFor? (phase : Phase) (op : Operation W) : Option (Hook W) :=
  op.hook?.filter fun hook => hook.phase == phase

theorem hook_phase {op : Operation W} {made : Hook W} (registers : op.hook? = some made) :
    op.phase? = some made.phase := by
  cases op with
  | plainHook location phase handler =>
      cases registers
      rfl
  | hook location phase options handler =>
      obtain ⟨filter,_,rfl⟩ := Option.map_eq_some_iff.mp registers
      rfl
  | step | setPolicy | setDefaultTimeout | apply => cases registers

theorem hookFor_other {op : Operation W} {own phase : Phase} (registers : op.phase? = some own)
    (other : phase ≠ own) : op.hookFor? phase = none := by
  cases made : op.hook? with
  | none => simp [hookFor?,made]
  | some hook =>
      obtain rfl := Option.some.inj (registers.symm.trans (hook_phase made))
      simp [hookFor?,made,other.symm]

theorem extend_hook {op : Operation W} {own : Phase} (registers : op.phase? = some own)
    (glue : Glue W) : (op.extend glue).steps = glue.steps ∧
      (op.extend glue).hooks.defaultTimeout = glue.hooks.defaultTimeout := by
  cases op with
  | plainHook | hook => simp [extend,definition?,policy?,defaultTimeout?]
  | step | setPolicy | setDefaultTimeout | apply => cases registers

theorem ofPhase_extend (op : Operation W) (glue : Glue W) (phase : Phase) :
    (op.extend glue).hooks.ofPhase phase =
      glue.hooks.ofPhase phase ++ (op.hookFor? phase).toList := by
  rw [hookFor?,Option.toList_filter]
  exact List.filter_append _ _

end Operation

theorem Glue.ofPhase_replay (glue : Glue W) (ops : List (Operation W)) (phase : Phase) :
    (glue.replay ops).hooks.ofPhase phase =
      glue.hooks.ofPhase phase ++ ops.filterMap (Operation.hookFor? phase) := by
  induction ops generalizing glue with
  | nil => simp [Glue.replay]
  | cons op ops ih =>
      rw [Glue.replay_cons,ih,Operation.ofPhase_extend,List.append_assoc]
      cases found : op.hookFor? phase <;> simp [found]

theorem HookRegistry.execute_ofPhase {r other : HookRegistry W} {phase : Phase}
    (same : r.ofPhase phase = other.ofPhase phase) (tags : List String) (world : W) :
    r.execute phase tags world = other.execute phase tags world := by
  rw [HookRegistry.execute,HookRegistry.execute,same]

-- Two sequences of calls that register the same hooks for a phase, in the same order, make
-- glue that runs this phase alike, however calls for other phases, calls that fail and all
-- others stand between them. A single registration leaves everything as it was but the
-- hooks of its own phase, and these too if it fails.
theorem phases_independent (glue : Glue W) :
    (∀ (phase : Phase) (first second : List (Operation W)),
      first.filterMap (Operation.hookFor? phase) = second.filterMap (Operation.hookFor? phase) →
      ∀ tags world, (glue.replay first).hooks.execute phase tags world =
        (glue.replay second).hooks.execute phase tags world) ∧
    ∀ (op : Operation W) (own : Phase), op.phase? = some own →
      let left := (op.perform glue).2
      left.steps = glue.steps ∧ left.hooks.defaultTimeout = glue.hooks.defaultTimeout ∧
      ∀ phase, phase ≠ own ∨ (∃ e, (op.perform glue).1 = .error e) →
        left.hooks.ofPhase phase = glue.hooks.ofPhase phase ∧
        ∀ tags world, left.hooks.execute phase tags world = glue.hooks.execute phase tags world := by
  constructor
  · intro phase first second same tags world
    refine HookRegistry.execute_ofPhase ?_ tags world
    rw [Glue.ofPhase_replay,Glue.ofPhase_replay,same]
  · intro op own registers left
    have extended : left = op.extend glue := congrArg Prod.snd (op.perform_exact glue)
    obtain ⟨steps,timeout⟩ := Operation.extend_hook registers glue
    refine ⟨by rw [extended,steps],by rw [extended,timeout],fun phase outside => ?_⟩
    have still : left.hooks.ofPhase phase = glue.hooks.ofPhase phase := by
      rw [extended]
      rcases outside with other | ⟨e,failed⟩
      · rw [Operation.ofPhase_extend,Operation.hookFor_other registers other]
        exact List.append_nil _
      · rw [Operation.extend_failed (Operation.perform_failed.mp failed)]
    exact ⟨still,HookRegistry.execute_ofPhase still⟩

def countsUp : Operation Nat :=
  .plainHook ⟨"hooks.rs",3,1⟩ .beforeScenario fun world => (.passed,world + 1)

def refuses : Operation Nat :=
  .hook ⟨"hooks.rs",5,1⟩ .beforeScenario ⟨some "@slow",none,some "guard"⟩ fun world =>
    (.failed ⟨"too slow",[]⟩,world)

def clears : Operation Nat := .plainHook ⟨"hooks.rs",7,1⟩ .afterScenario fun _ => (.passed,0)

def malformed : Operation Nat :=
  .hook ⟨"hooks.rs",9,1⟩ .beforeScenario ⟨some "@a and",none,none⟩ fun world => (.passed,world)

-- The second hook of its phase fails, wherever the others and a refused one stand.
theorem phases_independent_woven :
    (Glue.empty.replay [clears,countsUp,malformed,refuses]).hooks.execute .beforeScenario ["@slow"] 6 =
      (Glue.empty.replay [countsUp,refuses,clears]).hooks.execute .beforeScenario ["@slow"] 6 ∧
    (Glue.empty.replay [countsUp,refuses,clears]).hooks.execute .beforeScenario ["@slow"] 6 =
      (.error ⟨.beforeScenario,1,some "guard",⟨"hooks.rs",5,1⟩,.error ⟨"too slow",[]⟩⟩,7) := by
  obtain ⟨alike,_⟩ := phases_independent (Glue.empty : Glue Nat)
  exact ⟨alike .beforeScenario _ _ rfl ["@slow"] 6,rfl⟩

end ScenarioSuite
