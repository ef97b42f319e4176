import ScenarioSuite.Proofs.Hook.Pass

namespace ScenarioSuite

variable {W : Type}

def Outcome.hookCause? : Outcome → Option HookCause
  | .passed => none
  | .failed cause => some (.error cause)
  | .panicked payload => some (.panic payload.message)

theorem Outcome.passed_of_hookCause {outcome : Outcome} (nothing : outcome.hookCause? = none) :
    outcome = .passed := by
  cases outcome with
  | passed => rfl
  | failed | panicked => cases nothing

namespace Hook

def Chosen (phase : Phase) (tags : List String) (hook : Hook W) : Prop :=
  phase.isScenario = true → ∀ filter ∈ hook.filter, filter.accepts tags = true

instance (phase : Phase) (tags : List String) (hook : Hook W) :
    Decidable (hook.Chosen phase tags) :=
  inferInstanceAs (Decidable (phase.isScenario = true →
    ∀ filter ∈ hook.filter, filter.accepts tags = true))

def logged (hook : Hook W) : Hook (W × List (Hook W × W)) :=
  ⟨hook.phase,hook.name,hook.filter,hook.timeout,hook.location,fun found =>
    let (outcome,left) := hook.handler found.1
    (outcome,(left,found.2 ++ [(hook,found.1)]))⟩

end Hook

namespace HookRegistry

def logged (r : HookRegistry W) : HookRegistry (W × List (Hook W × W)) :=
  ⟨r.hooks.map Hook.logged,r.defaultTimeout⟩

-- The hooks to run: those of the phase in the order of their registration, each with its
-- index there, as far as the tags choose them.
def selected (r : HookRegistry W) (phase : Phase) (tags : List String) : List (Hook W × Nat) :=
  (r.hooks.filter fun hook => hook.phase = phase).zipIdx.filter fun place =>
    place.1.Chosen phase tags

def executeOwn (r : HookRegistry W) : Phase → List String → W → Except HookError Unit × W
  | .beforeScenario, tags => r.executeBefore tags
  | .afterScenario, tags => r.executeAfter tags
  | .beforeSuite, _ => r.executeBeforeAll
  | .afterSuite, _ => r.executeAfterAll

inductive Passes : W → List (Hook W × W) → W → Prop
  | done : Passes world [] world
  | call : hook.handler world = (.passed,next) → Passes next calls last →
      Passes world ((hook,world) :: calls) last

-- What selected hooks come to: all are called and pass, or the calls end with a hook that
-- does not, and the hooks behind it are left out.
inductive Execution (phase : Phase) (selected : List (Hook W × Nat)) (world : W) :
    List (Hook W × W) → Except HookError Unit × W → Prop
  | passed : calls.map Prod.fst = selected.map Prod.fst → Passes world calls last →
      Execution phase selected world calls (.ok (),last)
  | stopped : selected = before ++ (hook,index) :: behind →
      calls.map Prod.fst = before.map Prod.fst → Passes world calls reached →
      hook.handler reached = (outcome,last) → outcome.hookCause? = some cause →
      Execution phase selected world (calls ++ [(hook,reached)])
        (.error ⟨phase,index,hook.name,hook.location,cause⟩,last)

theorem runsFor_chosen {phase : Phase} {hook : Hook W} (inPhase : hook.phase = phase)
    (tags : List String) : hook.runsFor tags = true ↔ hook.Chosen phase tags := by
  subst inPhase
  unfold Hook.runsFor Hook.Chosen
  cases hook.phase.isScenario <;> cases hook.filter <;> simp

theorem run_passed {hook : Hook W} {world next : W} (passed : hook.handler world = (.passed,next))
    (phase : Phase) (index : Nat) : hook.run phase index world = (.ok (),next) := by
  rw [Hook.run,passed]

theorem run_failed {hook : Hook W} {world last : W} {outcome : Outcome} {cause : HookCause}
    (fails : hook.handler world = (outcome,last)) (because : outcome.hookCause? = some cause)
    (phase : Phase) (index : Nat) :
    hook.run phase index world = (.error ⟨phase,index,hook.name,hook.location,cause⟩,last) := by
  rw [Hook.run,fails]
  cases outcome <;> cases because <;> rfl

theorem ofPhase_logged (r : HookRegistry W) (phase : Phase) :
    r.logged.ofPhase phase = (r.ofPhase phase).map Hook.logged := by
  unfold ofPhase logged
  rw [List.filter_map]
  rfl

theorem Execution.prepend {phase : Phase} {hook : Hook W} {world next : W}
    {places : List (Hook W × Nat)} (passed : hook.handler world = (.passed,next)) (index : Nat)
    (rest : Execution phase places next calls result) :
    Execution phase ((hook,index) :: places) world ((hook,world) :: calls) result := by
  cases rest with
  | passed all path => exact .passed (by simp [all]) (.call passed path)
  | @stopped before failing place behind ran reached outcome last cause parts same path fails because =>
      have calls : ((hook,world) :: ran).map Prod.fst = ((hook,index) :: before).map Prod.fst := by
        simp [same]
      exact .stopped (by rw [parts]; rfl) calls (.call passed path) fails because

-- What a run leaves in the log, behind whatever was there before it.
def Notes (phase : Phase) (tags : List String) (index : Nat) (hooks : List (Hook W)) (world : W)
    (calls : List (Hook W × W)) : Prop :=
  ∀ log, runFrom phase tags index (hooks.map Hook.logged) (world,log) =
    ((runFrom phase tags index hooks world).1,
      ((runFrom phase tags index hooks world).2,log ++ calls))

theorem handler_logged {hook : Hook W} {world left : W} {outcome : Outcome}
    (handled : hook.handler world = (outcome,left)) (log : List (Hook W × W)) :
    hook.logged.handler (world,log) = (outcome,(left,log ++ [(hook,world)])) := by
  simp only [Hook.logged,handled]

variable {tags : List String} {hook : Hook W} {hooks : List (Hook W)} {world last next : W}
  {index : Nat} {calls : List (Hook W × W)} {outcome : Outcome} {cause : HookCause}

theorem notes_skipped {phase : Phase} (skips : hook.runsFor tags = false)
    (rest : Notes phase tags (index + 1) hooks world calls) :
    Notes phase tags index (hook :: hooks) world calls := by
  intro log
  have logged : hook.logged.runsFor tags = false := skips
  rw [List.map_cons,runFrom_skipped logged,runFrom_skipped skips]
  exact rest log

theorem notes_passed {phase : Phase} (runs : hook.runsFor tags = true)
    (passed : hook.handler world = (.passed,next))
    (rest : Notes phase tags (index + 1) hooks next calls) :
    Notes phase tags index (hook :: hooks) world ((hook,world) :: calls) := by
  intro log
  have logged : hook.logged.runsFor tags = true := runs
  rw [List.map_cons,runFrom_selected logged,run_passed (handler_logged passed log),
    runFrom_selected runs,run_passed passed]
  simpa [proceed] using rest (log ++ [(hook,world)])

theorem notes_stopped {phase : Phase} (runs : hook.runsFor tags = true)
    (fails : hook.handler world = (outcome,last)) (because : outcome.hookCause? = some cause) :
    Notes phase tags index (hook :: hooks) world [(hook,world)] := by
  intro log
  have logged : hook.logged.runsFor tags = true := runs
  rw [List.map_cons,runFrom_selected logged,run_failed (handler_logged fails log) because,
    runFrom_selected runs,run_failed fails because]
  rfl

-- Hooks of one phase from some index on: the calls in the log are those of the selected hooks
-- up to the first that does not pass.
theorem runFrom_execution (phase : Phase) (tags : List String) (hooks : List (Hook W))
    (inPhase : ∀ hook ∈ hooks, hook.phase = phase) (index : Nat) (world : W) :
    ∃ calls, Notes phase tags index hooks world calls ∧
      Execution phase ((hooks.zipIdx index).filter fun place => place.1.Chosen phase tags) world
        calls (runFrom phase tags index hooks world) := by
  induction hooks generalizing index world with
  | nil => exact ⟨[],fun log => by simp [runFrom],.passed rfl .done⟩
  | cons hook hooks ih =>
      have own := inPhase hook List.mem_cons_self
      have others := fun other member => inPhase other (List.mem_cons_of_mem hook member)
      rw [List.zipIdx_cons]
      by_cases chosen : hook.Chosen phase tags
      · have runs : hook.runsFor tags = true := (runsFor_chosen own tags).mpr chosen
        rw [List.filter_cons_of_pos (by simpa using chosen),runFrom_selected runs]
        cases handled : hook.handler world with
        | mk outcome left =>
            cases because : outcome.hookCause? with
            | none =>
                obtain rfl := Outcome.passed_of_hookCause because
                obtain ⟨calls,notes,execution⟩ := ih others (index + 1) left
                rw [run_passed handled]
                exact ⟨_,notes_passed runs handled notes,execution.prepend handled index⟩
            | some cause =>
                rw [run_failed handled because]
                exact ⟨[] ++ [(hook,world)],notes_stopped runs handled because,
                  .stopped (List.nil_append _).symm rfl .done handled because⟩
      · have skips : hook.runsFor tags = false := by
          rw [← Bool.not_eq_true,runsFor_chosen own tags]
          exact chosen
        obtain ⟨calls,notes,execution⟩ := ih others (index + 1) world
        rw [List.filter_cons_of_neg (by simpa using chosen),runFrom_skipped skips]
        exact ⟨calls,notes_skipped skips notes,execution⟩

theorem passes_append {first rest : List (Hook W × W)} {world last : W}
    (path : Passes world (first ++ rest) last) :
    ∃ reached, Passes world first reached ∧ Passes reached rest last := by
  induction first generalizing world with
  | nil => exact ⟨world,.done,path⟩
  | cons call calls ih =>
      cases path with
      | call passed onward =>
          obtain ⟨reached,before,after⟩ := ih onward
          exact ⟨reached,.call passed before,after⟩

theorem passes_unique {calls others : List (Hook W × W)} {world last final : W}
    (path : Passes world calls last) (other : Passes world others final)
    (same : calls.map Prod.fst = others.map Prod.fst) : last = final := by
  induction path generalizing others with
  | done =>
      obtain rfl : others = [] := by simpa using same.symm
      cases other
      rfl
  | call passed onward ih =>
      cases other with
      | done => simp at same
      | call again further =>
          simp only [List.map_cons,List.cons.injEq] at same
          obtain ⟨rfl,rest⟩ := same
          rw [passed] at again
          obtain rfl := (Prod.mk.inj again).2
          exact ih further rest

theorem Execution.ok_exact {phase : Phase} {selected : List (Hook W × Nat)} {world : W}
    {calls : List (Hook W × W)} {result : Except HookError Unit × W}
    (execution : Execution phase selected world calls result) :
    result.1 = .ok () ↔
      ∃ all last, all.map Prod.fst = selected.map Prod.fst ∧ Passes world all last := by
  cases execution with
  | passed same path => exact ⟨fun _ => ⟨calls,_,same,path⟩,fun _ => rfl⟩
  | @stopped before hook index behind ran reached outcome last cause parts same path fails because =>
      constructor
      · intro ok
        cases ok
      · -- Any path through all of the selected hooks begins with the one that led to the
        -- failing hook, and meets it in the same world.
        rintro ⟨all,final,every,whole⟩
        exfalso
        rw [parts,List.map_append,List.map_cons] at every
        obtain ⟨first,rest,rfl,early,late⟩ := List.map_eq_append_iff.mp every
        obtain ⟨met,start,onward⟩ := passes_append whole
        obtain rfl := passes_unique path start (same.trans early.symm)
        cases onward with
        | done => simp at late
        | call passed _ =>
            simp only [List.map_cons,List.cons.injEq] at late
            obtain ⟨rfl,_⟩ := late
            rw [fails] at passed
            obtain rfl := (Prod.mk.inj passed).1
            cases because

theorem Execution.error_parts {phase : Phase} {places : List (Hook W × Nat)} {world : W}
    {calls : List (Hook W × W)} {result : Except HookError Unit × W} {e : HookError}
    (execution : Execution phase places world calls result) (failed : result.1 = .error e) :
    ∃ hook reached outcome, (hook,e.index) ∈ places ∧ calls.getLast? = some (hook,reached) ∧
      hook.handler reached = (outcome,result.2) ∧ outcome.hookCause? = some e.cause ∧
      e.phase = phase ∧ e.name = hook.name ∧ e.location = hook.location := by
  cases execution with
  | passed same path => cases failed
  | @stopped before hook index behind ran reached outcome last cause parts same path fails because =>
      cases failed
      refine ⟨hook,reached,outcome,?_,List.getLast?_concat,fails,because,rfl,rfl,rfl⟩
      rw [parts]
      exact List.mem_append_right before List.mem_cons_self

theorem mem_selected {r : HookRegistry W} {phase : Phase} {tags : List String} {hook : Hook W}
    {index : Nat} : (hook,index) ∈ r.selected phase tags ↔
      (r.ofPhase phase)[index]? = some hook ∧ hook.Chosen phase tags := by
  rw [selected,List.mem_filter,List.mem_zipIdx_iff_getElem?,ofPhase_filter]
  simp

theorem executeOwn_exact (r : HookRegistry W) (phase : Phase) (tags : List String) (world : W) :
    r.executeOwn phase tags world = r.execute phase tags world := by
  cases phase with
  | beforeScenario | afterScenario => rfl
  | beforeSuite | afterSuite => exact r.execute_suite rfl [] tags world

-- The selected hooks are called in order, each once and in the world that the one before
-- it left, up to the first that fails or panics; the log shows all calls there are. The
-- error has the index among all hooks of the phase, and what the failed handler did to the
-- world stays. The function of the phase does just this.
theorem execution_exact (r : HookRegistry W) (phase : Phase) (tags : List String) (world : W) :
    let own := r.hooks.filter fun hook => hook.phase = phase
    let result := r.execute phase tags world
    r.ofPhase phase = own ∧ (∀ hook, (r.add hook).hooks = r.hooks ++ [hook]) ∧
    r.executeOwn phase tags world = result ∧
    ∃ calls, r.logged.execute phase tags (world,[]) = (result.1,(result.2,calls)) ∧
      Execution phase (r.selected phase tags) world calls result ∧
      (result.1 = .ok () ↔ ∃ all last,
        all.map Prod.fst = (r.selected phase tags).map Prod.fst ∧ Passes world all last) ∧
      ∀ e, result.1 = .error e → ∃ hook reached outcome,
        own[e.index]? = some hook ∧ hook.Chosen phase tags ∧
          calls.getLast? = some (hook,reached) ∧ hook.handler reached = (outcome,result.2) ∧
          outcome.hookCause? = some e.cause ∧
          e.phase = phase ∧ e.name = hook.name ∧ e.location = hook.location := by
  intro own result
  refine ⟨r.ofPhase_filter phase,fun _ => rfl,r.executeOwn_exact phase tags world,?_⟩
  obtain ⟨calls,logs,execution⟩ :=
    runFrom_execution phase tags (r.ofPhase phase) (fun _ => phase_ofPhase) 0 world
  refine ⟨calls,?_,execution,execution.ok_exact,?_⟩
  · rw [execute,ofPhase_logged]
    exact logs []
  · intro e failed
    obtain ⟨hook,reached,outcome,place,rest⟩ := execution.error_parts failed
    obtain ⟨present,chosen⟩ := mem_selected.mp place
    exact ⟨hook,reached,outcome,present,chosen,rest⟩

def noting (phase : Phase) (name : String) (filter : Option TagFilter) (outcome : Outcome) :
    Hook (List String) :=
  ⟨phase,some name,filter,none,⟨"hooks.rs",3,1⟩,fun world => (outcome,world ++ [name])⟩

def crowded : HookRegistry (List String) :=
  ⟨[noting .afterScenario "sweep" none .passed,noting .beforeScenario "open" none .passed,
    noting .beforeSuite "start" (some ⟨"@slow",.tag "@slow"⟩) (.failed ⟨"no disk",[]⟩),
    noting .beforeScenario "wait" (some ⟨"@slow",.tag "@slow"⟩) .passed,
    noting .beforeScenario "guard" (some ⟨"not @slow",.not (.tag "@slow")⟩)
      (.panicked (.text "no guard")),
    noting .beforeScenario "late" none .passed],none⟩

-- Of four hooks of the phase the second is skipped and the third panics at index 2; the hook
-- around the suite runs although its filter rejects the tags.
theorem execution_exact_crowded :
    crowded.executeBefore ["@fast"] [] =
      (.error ⟨.beforeScenario,2,some "guard",⟨"hooks.rs",3,1⟩,.panic "no guard"⟩,["open","guard"]) ∧
    (∃ calls, crowded.logged.execute .beforeScenario ["@fast"] ([],[]) =
        ((crowded.execute .beforeScenario ["@fast"] []).1,(["open","guard"],calls)) ∧
      calls.map (fun call => (call.1.name,call.2)) = [(some "open",[]),(some "guard",["open"])] ∧
      Execution .beforeScenario (crowded.selected .beforeScenario ["@fast"]) [] calls
        (crowded.execute .beforeScenario ["@fast"] [])) ∧
    (crowded.selected .beforeScenario ["@fast"]).map (fun place => (place.1.name,place.2)) =
      [(some "open",0),(some "guard",2),(some "late",3)] ∧
    crowded.executeBeforeAll [] = crowded.execute .beforeSuite ["@fast"] [] ∧
    (crowded.executeBeforeAll []).1 =
      .error ⟨.beforeSuite,0,some "start",⟨"hooks.rs",3,1⟩,.error ⟨"no disk",[]⟩⟩ := by
  obtain ⟨_,_,own,calls,logs,execution,_,_⟩ := execution_exact crowded .beforeScenario ["@fast"] []
  obtain ⟨_,_,around,_⟩ := execution_exact crowded .beforeSuite ["@fast"] []
  refine ⟨own,⟨calls,logs,?_,execution⟩,by decide,around,rfl⟩
  have told : calls = (crowded.logged.execute .beforeScenario ["@fast"] ([],[])).2.2 := by rw [logs]
  rw [told]
  rfl

end HookRegistry

end ScenarioSuite
