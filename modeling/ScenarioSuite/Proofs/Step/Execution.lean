import ScenarioSuite.Proofs.Step.Lookup

namespace ScenarioSuite

variable {W : Type}

structure HandlerCall (W : Type) where
  definition : Definition W
  call : Call
  world : W

def Outcome.stepResult (text : String) : Outcome → StepResult
  | .passed => .passed
  | .failed cause => .error (.failed text cause)
  | .panicked payload => .panicked payload

def Definition.logged (d : Definition W) : Definition (W × List (HandlerCall W)) :=
  ⟨d.pattern,d.matcher,fun call found =>
    let (outcome,left) := d.handler call found.1
    (outcome,(left,found.2 ++ [⟨d,call,found.1⟩])),d.location⟩

namespace StepCatalog

def logged (c : StepCatalog W) : StepCatalog (W × List (HandlerCall W)) :=
  ⟨c.definitions.map Definition.logged,c.policy⟩

def accepting (c : StepCatalog W) (text : String) : List (Definition W) :=
  c.definitions.filter fun d => (d.matcher.captures? text).isSome

-- What a step comes to: too few or too many definitions accept its text and nothing is
-- called, or the handler of the first that accepts it is called, once.
inductive Handled (c : StepCatalog W) (text : String) (table : Option Table)
    (docstring : Option String) (world : W) : List (HandlerCall W) → StepResult × W → Prop
  | undefined : c.accepting text = [] →
      Handled c text table docstring world [] (.error (.undefined text),world)
  | ambiguous : c.policy = .rejectAmbiguous → 2 ≤ (c.accepting text).length →
      Handled c text table docstring world []
        (.error (.ambiguous ⟨text,(c.accepting text).map fun d => (d.pattern,d.location)⟩),world)
  | called : c.accepting text = d :: others → (c.policy = .rejectAmbiguous → others = []) →
      d.matcher.captures? text = some args →
      d.handler ⟨text,args,table,docstring⟩ world = (outcome,last) →
      Handled c text table docstring world [⟨d,⟨text,args,table,docstring⟩,world⟩]
        (outcome.stepResult text,last)

theorem findAll_accepting (c : StepCatalog W) (text : String) :
    (c.findAll text).map StepMatch.definition = c.accepting text := by
  rw [findAll,accepting,List.map_filterMap,← List.filterMap_eq_filter]
  congr 1
  funext d
  cases taken : d.matcher.captures? text <;> simp [Definition.accept?,taken,Option.guard]

theorem findAll_captures {c : StepCatalog W} {text : String} {m : StepMatch W}
    (found : m ∈ c.findAll text) : m.definition.matcher.captures? text = some m.args := by
  obtain ⟨d,_,accepted⟩ := List.mem_filterMap.mp found
  obtain ⟨taken,rfl⟩ := accept_some.mp accepted
  exact taken

theorem find_nothing {c : StepCatalog W} {text : String} (nothing : c.accepting text = []) :
    c.find text = .ok none := by
  rw [← findAll_accepting,List.map_eq_nil_iff] at nothing
  rw [find_unambiguous (by simp [nothing]),nothing]
  rfl

theorem find_too_many {c : StepCatalog W} {text : String} (strict : c.policy = .rejectAmbiguous)
    (several : 2 ≤ (c.accepting text).length) : c.find text =
      .error ⟨text,(c.accepting text).map fun d => (d.pattern,d.location)⟩ := by
  rw [← findAll_accepting] at several ⊢
  rw [List.length_map] at several
  rw [find_several strict several,List.map_map]
  rfl

theorem find_earliest {c : StepCatalog W} {text : String} {d : Definition W}
    {others : List (Definition W)} {args : List Argument} (earliest : c.accepting text = d :: others)
    (sole : c.policy = .rejectAmbiguous → others = [])
    (taken : d.matcher.captures? text = some args) : c.find text = .ok (some ⟨d,args⟩) := by
  rw [← findAll_accepting] at earliest
  obtain ⟨m,rest,found,rfl,behind⟩ := List.map_eq_cons_iff.mp earliest
  have own := findAll_captures (found ▸ List.mem_cons_self : m ∈ c.findAll text)
  obtain rfl := Option.some.inj (own.symm.trans taken)
  have head : c.find text = .ok (c.findAll text).head? := by
    cases policy : c.policy with
    | firstMatch => exact find_first policy text
    | rejectAmbiguous =>
        have alone : rest = [] := by simpa [sole policy] using behind
        exact find_sole policy (by simp [found,alone])
  rw [head,found]
  rfl

theorem accepting_logged (c : StepCatalog W) (text : String) :
    c.logged.accepting text = (c.accepting text).map Definition.logged := by
  rw [accepting,logged,List.filter_map]
  rfl

theorem run_undefined {c : StepCatalog W} {text : String} (nothing : c.accepting text = [])
    (table : Option Table) (docstring : Option String) (world : W) :
    c.run text table docstring world = (.error (.undefined text),world) := by
  rw [run,find_nothing nothing]

theorem run_ambiguous {c : StepCatalog W} {text : String} (strict : c.policy = .rejectAmbiguous)
    (several : 2 ≤ (c.accepting text).length) (table : Option Table) (docstring : Option String)
    (world : W) : c.run text table docstring world =
      (.error (.ambiguous ⟨text,(c.accepting text).map fun d => (d.pattern,d.location)⟩),world) := by
  rw [run,find_too_many strict several]

theorem run_called {c : StepCatalog W} {text : String} {d : Definition W}
    {others : List (Definition W)} {args : List Argument} {table : Option Table}
    {docstring : Option String} {world last : W} {outcome : Outcome}
    (earliest : c.accepting text = d :: others) (sole : c.policy = .rejectAmbiguous → others = [])
    (taken : d.matcher.captures? text = some args)
    (handled : d.handler ⟨text,args,table,docstring⟩ world = (outcome,last)) :
    c.run text table docstring world = (outcome.stepResult text,last) := by
  rw [run,find_earliest earliest sole taken]
  simp only [handled]
  cases outcome <;> rfl

theorem handled_run {c : StepCatalog W} {text : String} {table : Option Table}
    {docstring : Option String} {world : W} {calls : List (HandlerCall W)} {result : StepResult × W}
    (handled : Handled c text table docstring world calls result) :
    c.run text table docstring world = result ∧
      ∀ log, c.logged.run text table docstring (world,log) = (result.1,(result.2,log ++ calls)) := by
  cases handled with
  | undefined nothing =>
      have logged : c.logged.accepting text = [] := by rw [accepting_logged,nothing]; rfl
      refine ⟨run_undefined nothing table docstring world,fun log => ?_⟩
      rw [run_undefined logged,List.append_nil]
  | ambiguous strict several =>
      have logged : 2 ≤ (c.logged.accepting text).length := by
        rwa [accepting_logged,List.length_map]
      refine ⟨run_ambiguous strict several table docstring world,fun log => ?_⟩
      rw [run_ambiguous (c := c.logged) strict logged,accepting_logged,List.map_map,List.append_nil]
      rfl
  | @called d others args outcome last earliest sole taken ran =>
      have logged : c.logged.accepting text = d.logged :: others.map Definition.logged := by
        rw [accepting_logged,earliest]
        rfl
      refine ⟨run_called earliest sole taken ran,fun log => ?_⟩
      refine run_called logged (fun strict => ?_) taken ?_
      · rw [sole strict]
        rfl
      · simp only [Definition.logged,ran]

theorem handled_total (c : StepCatalog W) (text : String) (table : Option Table)
    (docstring : Option String) (world : W) :
    ∃ calls result, Handled c text table docstring world calls result := by
  cases accepted : c.accepting text with
  | nil => exact ⟨_,_,.undefined accepted⟩
  | cons d others =>
      by_cases refused : c.policy = .rejectAmbiguous ∧ others ≠ []
      · refine ⟨_,_,.ambiguous refused.1 ?_⟩
        rw [accepted,List.length_cons]
        exact Nat.succ_le_succ (List.length_pos_iff.mpr refused.2)
      · have member : d ∈ c.accepting text := accepted ▸ List.mem_cons_self
        obtain ⟨args,taken⟩ := Option.isSome_iff_exists.mp (List.mem_filter.mp member).2
        refine ⟨_,_,.called accepted (fun strict => ?_) taken rfl⟩
        exact Classical.not_not.mp fun more => refused ⟨strict,more⟩

theorem run_exact (c : StepCatalog W) (text : String) (table : Option Table)
    (docstring : Option String) (world : W) : ∃ calls,
      c.logged.run text table docstring (world,[]) = ((c.run text table docstring world).1,
        ((c.run text table docstring world).2,calls)) ∧
      ∀ others result, Handled c text table docstring world others result ↔
        others = calls ∧ result = c.run text table docstring world := by
  obtain ⟨calls,result,handled⟩ := handled_total c text table docstring world
  obtain ⟨rfl,logs⟩ := handled_run handled
  refine ⟨calls,logs [],fun others other => ⟨fun again => ?_,?_⟩⟩
  · obtain ⟨rfl,logged⟩ := handled_run again
    have same := (logged []).symm.trans (logs [])
    simp only [List.nil_append,Prod.mk.injEq,true_and] at same
    exact ⟨same,rfl⟩
  · rintro ⟨rfl,rfl⟩
    exact handled

-- A step is handled by the rules and in no other way: the log shows all calls there are.
-- If lookup fails, nothing is called and the world stays; else the first definition that
-- accepts the text is called once, with what it takes from the text and with the table and
-- the doc string of the step, of which a bare text has neither.
theorem execute_exact (c : StepCatalog W) (world : W) :
    (∀ step : ConcreteStep, ∃ calls, c.logged.execute step (world,[]) =
        ((c.execute step world).1,((c.execute step world).2,calls)) ∧
      ∀ others result, Handled c step.text step.table step.docstring world others result ↔
        others = calls ∧ result = c.execute step world) ∧
    ∀ text, ∃ calls, c.logged.executeText text (world,[]) =
        ((c.executeText text world).1,((c.executeText text world).2,calls)) ∧
      ∀ others result, Handled c text none none world others result ↔
        others = calls ∧ result = c.executeText text world :=
  ⟨fun step => run_exact c step.text step.table step.docstring world,
    fun text => run_exact c text none none world⟩

end StepCatalog

end ScenarioSuite
