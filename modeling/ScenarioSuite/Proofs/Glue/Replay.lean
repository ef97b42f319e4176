import ScenarioSuite.Glue.Operation

namespace ScenarioSuite

variable {W : Type}

namespace Operation

def error? : Operation W → Option Error
  | step _ pattern _ =>
      match Matcher.compile pattern with
      | .error e => some (.pattern e)
      | .ok _ => none
  | hook location phase options _ =>
      match options.tags.mapM TagFilter.ofSource with
      | .error source => some (.hookConfig ⟨phase,location,source⟩)
      | .ok _ => none
  | _ => none

def definition? : Operation W → Option (Definition W)
  | step location pattern handler =>
      (Matcher.compile pattern).toOption.map fun matcher => ⟨pattern,matcher,handler,location⟩
  | _ => none

def hook? : Operation W → Option (Hook W)
  | plainHook location phase handler => some ⟨phase,none,none,none,location,handler⟩
  | hook location phase options handler =>
      (options.tags.mapM TagFilter.ofSource).toOption.map fun filter =>
        ⟨phase,options.name,filter,options.timeout,location,handler⟩
  | _ => none

def policy? : Operation W → Option MatchPolicy
  | setPolicy policy => some policy
  | apply options => some options.policy
  | _ => none

def defaultTimeout? : Operation W → Option (Option Duration)
  | setDefaultTimeout timeout => some timeout
  | apply options => options.hookTimeout.map some
  | _ => none

def extend (op : Operation W) (glue : Glue W) : Glue W :=
  ⟨⟨glue.steps.definitions ++ op.definition?.toList,op.policy?.getD glue.steps.policy⟩,
    ⟨glue.hooks.hooks ++ op.hook?.toList,op.defaultTimeout?.getD glue.hooks.defaultTimeout⟩⟩

theorem run_failed_lift {α : Type} (e : Error) (next : α → InPlace W Unit) (glue : Glue W) :
    (liftExcept (.error e : Except Error α) >>= next : InPlace W Unit).run.run glue = (.error e,glue) := rfl

theorem run_lift {α : Type} (value : α) (next : α → InPlace W Unit) (glue : Glue W) :
    (liftExcept (.ok value : Except Error α) >>= next : InPlace W Unit).run.run glue = (next value).run.run glue := rfl

-- All that can fail is done before anything is changed.
theorem perform_outcome (op : Operation W) (glue : Glue W) : op.perform glue =
    match op.outcome glue with
    | .ok next => (.ok (),next)
    | .error e => (.error e,glue) := by
  cases op with
  | step location pattern handler =>
      simp only [perform,change,outcome,Glue.step,StepCatalog.register]
      cases Matcher.compile pattern with
      | error e => exact run_failed_lift _ _ _
      | ok matcher => exact run_lift _ _ _
  | hook location phase options handler =>
      simp only [perform,change,outcome,Glue.hook,HookRegistry.registerWith]
      cases options.tags.mapM TagFilter.ofSource with
      | error source => exact run_failed_lift _ _ _
      | ok filter => exact run_lift _ _ _
  | apply options =>
      simp only [perform,change,outcome,RunOptions.apply]
      cases options.hookTimeout <;> rfl
  | plainHook | setPolicy | setDefaultTimeout => rfl

theorem mapError_ok {ε ε' α : Type} (f : ε → ε') (x : α) :
    (Except.ok x : Except ε α).mapError f = .ok x := rfl

theorem outcome_exact (op : Operation W) (glue : Glue W) : op.outcome glue =
    match op.error? with
    | some e => .error e
    | none => .ok (op.extend glue) := by
  cases op with
  | step location pattern handler =>
      simp only [outcome,error?,extend,definition?,hook?,policy?,defaultTimeout?,Glue.step,
        StepCatalog.register]
      cases Matcher.compile pattern with
      | error e => rfl
      | ok matcher => simp [Except.map,mapError_ok,Except.toOption]
  | hook location phase options handler =>
      simp only [outcome,error?,extend,definition?,hook?,policy?,defaultTimeout?,Glue.hook,
        HookRegistry.registerWith]
      cases options.tags.mapM TagFilter.ofSource with
      | error source => rfl
      | ok filter => simp [Except.map,mapError_ok,Except.toOption,HookRegistry.add]
  | apply options =>
      simp only [outcome,error?,extend,definition?,hook?,policy?,defaultTimeout?,RunOptions.apply]
      cases options.hookTimeout <;> simp [Glue.setPolicy,Glue.setDefaultTimeout,
        StepCatalog.setPolicy,HookRegistry.setDefaultTimeout]
  | plainHook location phase handler =>
      simp [outcome,error?,extend,definition?,hook?,policy?,defaultTimeout?,Glue.plainHook,
        HookRegistry.register,HookRegistry.add]
  | setPolicy policy =>
      simp [outcome,error?,extend,definition?,hook?,policy?,defaultTimeout?,Glue.setPolicy,
        StepCatalog.setPolicy]
  | setDefaultTimeout timeout =>
      simp [outcome,error?,extend,definition?,hook?,policy?,defaultTimeout?,
        Glue.setDefaultTimeout,HookRegistry.setDefaultTimeout]

theorem extend_failed {op : Operation W} {e : Error} (failed : op.error? = some e)
    (glue : Glue W) : op.extend glue = glue := by
  cases op with
  | step location pattern handler =>
      cases compiled : Matcher.compile pattern with
      | error fault =>
          simp [extend,definition?,hook?,policy?,defaultTimeout?,compiled,Except.toOption]
      | ok matcher => simp [error?,compiled] at failed
  | hook location phase options handler =>
      cases parsed : options.tags.mapM TagFilter.ofSource with
      | error source =>
          simp [extend,definition?,hook?,policy?,defaultTimeout?,parsed,Except.toOption]
      | ok filter => simp [error?,parsed] at failed
  | plainHook | setPolicy | setDefaultTimeout | apply => cases failed

theorem perform_exact (op : Operation W) (glue : Glue W) :
    op.perform glue = (op.error?.elim (.ok ()) .error,op.extend glue) := by
  rw [perform_outcome,outcome_exact]
  cases failed : op.error? with
  | none => rfl
  | some e => simp [extend_failed failed]

theorem perform_failed {op : Operation W} {glue : Glue W} {e : Error} :
    (op.perform glue).1 = .error e ↔ op.error? = some e := by
  rw [perform_exact]
  cases op.error? <;> simp

end Operation

namespace Glue

def replay (glue : Glue W) (ops : List (Operation W)) : Glue W :=
  ops.foldl (fun glue op => (op.perform glue).2) glue

theorem replay_cons (glue : Glue W) (op : Operation W) (ops : List (Operation W)) :
    glue.replay (op :: ops) = (op.extend glue).replay ops := by
  simp only [replay,List.foldl_cons,Operation.perform_exact]

theorem replay_append (glue : Glue W) (first rest : List (Operation W)) :
    glue.replay (first ++ rest) = (glue.replay first).replay rest :=
  List.foldl_append

theorem last_or {α : Type} (first : α) (setting : Option α) (later : List α) :
    (setting.toList ++ later).getLast?.getD first = later.getLast?.getD (setting.getD first) := by
  cases setting <;> cases later <;> simp [List.getLast?_cons]

theorem replay_extends (glue : Glue W) (ops : List (Operation W)) : glue.replay ops =
    ⟨⟨glue.steps.definitions ++ ops.filterMap Operation.definition?,
        ((ops.filterMap Operation.policy?).getLast?).getD glue.steps.policy⟩,
      ⟨glue.hooks.hooks ++ ops.filterMap Operation.hook?,
        ((ops.filterMap Operation.defaultTimeout?).getLast?).getD glue.hooks.defaultTimeout⟩⟩ := by
  induction ops generalizing glue with
  | nil => simp [replay]
  | cons op ops ih =>
      have split {α : Type} (f : Operation W → Option α) :
          (op :: ops).filterMap f = (f op).toList ++ ops.filterMap f := by
        cases found : f op <;> simp [found]
      rw [replay_cons,ih]
      simp only [Operation.extend,split,last_or,List.append_assoc]

theorem replay_succeeded (glue : Glue W) (ops : List (Operation W)) :
    glue.replay (ops.filter fun op => op.error?.isNone) = glue.replay ops := by
  induction ops generalizing glue with
  | nil => rfl
  | cons op ops ih =>
      cases failed : op.error? with
      | none => rw [List.filter_cons_of_pos (by simp [failed]),replay_cons,replay_cons,ih]
      | some e =>
          rw [List.filter_cons_of_neg (by simp [failed]),replay_cons,
            Operation.extend_failed failed,ih]

-- Glue is what its successful calls made of it. A call that fails leaves it as it is, and
-- whatever follows goes on as if the call had not been made; definitions and hooks stand in
-- the order of their registration, the last policy and the last default timeout count, and
-- the default is that of all hooks that have no timeout of their own.
theorem replay_exact (ops : List (Operation W)) :
    let glue := Glue.empty.replay ops
    let default := ((ops.filterMap Operation.defaultTimeout?).getLast?).getD none
    glue.steps.definitions = ops.filterMap Operation.definition? ∧
    glue.hooks.hooks = ops.filterMap Operation.hook? ∧
    glue.steps.policy = ((ops.filterMap Operation.policy?).getLast?).getD .firstMatch ∧
    glue.hooks.defaultTimeout = default ∧
    (∀ hook ∈ glue.hooks.hooks, glue.hooks.timeout hook = hook.timeout.or default) ∧
    glue = Glue.empty.replay (ops.filter fun op => op.error?.isNone) ∧
    ∀ before op behind, ops = before ++ op :: behind →
      let reached := Glue.empty.replay before
      op.perform reached = (match op.outcome reached with
        | .ok next => (.ok (),next)
        | .error e => (.error e,reached)) ∧
      (op.perform reached).1 = op.error?.elim (.ok ()) .error ∧
      ∀ e, op.error? = some e →
        (op.perform reached).2 = reached ∧ glue = Glue.empty.replay (before ++ behind) := by
  intro glue default
  have whole : glue = _ := replay_extends Glue.empty ops
  have timeout : glue.hooks.defaultTimeout = default := by rw [whole]; rfl
  refine ⟨by rw [whole]; rfl,by rw [whole]; rfl,by rw [whole]; rfl,timeout,?_,
    (replay_succeeded Glue.empty ops).symm,?_⟩
  · intro hook _
    rw [HookRegistry.timeout,timeout]
  · rintro before op behind rfl reached
    refine ⟨Operation.perform_outcome op reached,by rw [Operation.perform_exact],?_⟩
    intro e failed
    have still : op.extend reached = reached := Operation.extend_failed failed reached
    refine ⟨by rw [Operation.perform_exact,still],?_⟩
    change Glue.empty.replay (before ++ op :: behind) = _
    rw [replay_append,replay_append,replay_cons]
    exact congrArg (Glue.replay · behind) still

end Glue

end ScenarioSuite
