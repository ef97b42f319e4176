import ScenarioSuite.Proofs.Glue.Replay
import ScenarioSuite.Proofs.Step.Lookup
import ScenarioSuite.Proofs.Step.Typing

namespace ScenarioSuite

variable {W : Type}

inductive Earliest (text : String) : List (Definition W) → Option (StepMatch W) → Prop
  | nothing : (∀ d ∈ definitions, d.matcher.captures? text = none) → Earliest text definitions none
  | accepted : (∀ d ∈ before, d.matcher.captures? text = none) →
      d.matcher.captures? text = some args →
      Earliest text (before ++ d :: behind) (some ⟨d,args⟩)

theorem findSome_earliest (definitions : List (Definition W)) (text : String) :
    Earliest text definitions (definitions.findSome? fun d => d.accept? text) := by
  cases found : definitions.findSome? fun d => d.accept? text with
  | none =>
      rw [List.findSome?_eq_none_iff] at found
      exact .nothing fun d member => accept_none.mp (found d member)
  | some m =>
      obtain ⟨before,d,behind,rfl,accepts,refused⟩ := List.findSome?_eq_some_iff.mp found
      obtain ⟨taken,rfl⟩ := accept_some.mp accepts
      exact .accepted (fun other member => accept_none.mp (refused other member)) taken

namespace StepCatalog

structure Extends (c : StepCatalog W) (new : List (Definition W)) (later : StepCatalog W) : Prop where
  definitions : later.definitions = c.definitions ++ new
  policy : later.policy = c.policy

variable {c later : StepCatalog W} {new : List (Definition W)}

theorem Extends.findAll (grown : c.Extends new later) (text : String) :
    later.findAll text = c.findAll text ++ new.filterMap fun d => d.accept? text := by
  rw [StepCatalog.findAll,grown.definitions,List.filterMap_append]
  rfl

theorem Extends.first_kept (grown : c.Extends new later) (first : c.policy = .firstMatch)
    {text : String} {m : StepMatch W} (found : c.find text = .ok (some m)) :
    later.find text = .ok (some m) := by
  rw [find_first first,Except.ok.injEq] at found
  rw [find_first (grown.policy.trans first),grown.findAll text,List.head?_append,found,Option.some_or]

theorem Extends.first_new (grown : c.Extends new later) (first : c.policy = .firstMatch)
    {text : String} (found : c.find text = .ok none) :
    later.find text = .ok (new.findSome? fun d => d.accept? text) := by
  rw [find_first first,Except.ok.injEq] at found
  rw [find_first (grown.policy.trans first),grown.findAll text,List.head?_append,found,
    Option.none_or,List.head?_filterMap]

theorem Extends.strict_unique (grown : c.Extends new later) (strict : c.policy = .rejectAmbiguous)
    {text : String} {m : StepMatch W} (found : c.find text = .ok (some m)) :
    later.find text = .ok (some m) ∨ ∃ e, later.find text = .error e ∧ e.text = text ∧
      e.candidates.head? = some (m.definition.pattern,m.definition.location) := by
  have still : later.policy = .rejectAmbiguous := grown.policy.trans strict
  have head : (later.findAll text).head? = some m := by
    rw [grown.findAll text,List.head?_append,← ((strict_ok strict text _).mp found).2]
    rfl
  by_cases sole : (later.findAll text).length ≤ 1
  · left
    rw [find_sole still sole,head]
  · right
    refine ⟨_,find_several still (by omega),rfl,?_⟩
    rw [List.head?_map,head]
    rfl

theorem Extends.strict_ambiguous (grown : c.Extends new later)
    (strict : c.policy = .rejectAmbiguous) {text : String} {e : AmbiguousMatch}
    (refused : c.find text = .error e) :
    ∃ more, later.find text = .error more ∧ more.text = e.text ∧ e.candidates <+: more.candidates := by
  obtain ⟨several,rfl⟩ := (strict_error strict text e).mp refused
  have longer : 2 ≤ (later.findAll text).length := by
    rw [grown.findAll text,List.length_append]
    omega
  refine ⟨_,find_several (grown.policy.trans strict) longer,rfl,?_⟩
  rw [grown.findAll text,List.map_append]
  exact List.prefix_append _ _

end StepCatalog

theorem Glue.steps_extended (glue : Glue W) {ops : List (Operation W)}
    (kept : ∀ op ∈ ops, op.policy? = none) :
    glue.steps.Extends (ops.filterMap Operation.definition?) (glue.replay ops).steps := by
  have silent : ops.filterMap Operation.policy? = [] := List.filterMap_eq_nil_iff.mpr kept
  rw [Glue.replay_extends,silent]
  exact ⟨rfl,rfl⟩

-- Registrations set no policy. Whatever is registered later, with success or without, an
-- answer stays or gives way to an ambiguity that it is the first candidate of; an ambiguity
-- stays one and gets candidates at the end; and a text without an answer gets the earliest
-- of the new definitions that accepts it.
theorem lookup_stable (glue : Glue W) (ops : List (Operation W))
    (kept : ∀ op ∈ ops, op.policy? = none) (text : String) :
    let c := glue.steps
    let later := (glue.replay ops).steps
    c.findAll text <+: later.findAll text ∧
    (c.policy = .firstMatch →
      (∀ m, c.find text = .ok (some m) → later.find text = .ok (some m)) ∧
      (c.find text = .ok none → ∃ found, later.find text = .ok found ∧
        Earliest text (ops.filterMap Operation.definition?) found)) ∧
    (c.policy = .rejectAmbiguous →
      (∀ m, c.find text = .ok (some m) → later.find text = .ok (some m) ∨
        ∃ e, later.find text = .error e ∧ e.text = text ∧
          e.candidates.head? = some (m.definition.pattern,m.definition.location)) ∧
      ∀ e, c.find text = .error e → ∃ more, later.find text = .error more ∧
        more.text = e.text ∧ e.candidates <+: more.candidates) := by
  intro c later
  have grown : c.Extends (ops.filterMap Operation.definition?) later := glue.steps_extended kept
  refine ⟨?_,fun first => ⟨fun m found => grown.first_kept first found,fun found => ?_⟩,
    fun strict => ⟨fun m found => grown.strict_unique strict found,
      fun e refused => grown.strict_ambiguous strict refused⟩⟩
  · rw [grown.findAll text]
    exact List.prefix_append _ _
  · exact ⟨_,grown.first_new first found,findSome_earliest _ text⟩

def watched : Glue Nat := ⟨⟨[StepCatalog.watching],.firstMatch⟩,.empty⟩

def watchedAgain : List (Operation Nat) :=
  [.step ⟨"more.rs",2,1⟩ (.expression "see {thing}") fun _ world => (.passed,world),
    .step ⟨"more.rs",3,1⟩ (.expression "see {word}") fun _ world => (.passed,world + 1),
    .hook ⟨"more.rs",4,1⟩ .afterScenario ⟨some "@a and",none,none⟩ fun world => (.passed,world)]

theorem lookup_stable_watched :
    (∀ op ∈ watchedAgain, op.policy? = none) ∧
    watchedAgain.map (fun op => op.error?.isSome) = [true,false,true] ∧
    ∃ args, watched.steps.find "see 3" = .ok (some ⟨StepCatalog.watching,args⟩) ∧
      (watched.replay watchedAgain).steps.find "see 3" = .ok (some ⟨StepCatalog.watching,args⟩) := by
  have kept : ∀ op ∈ watchedAgain, op.policy? = none := by
    simp [watchedAgain,Operation.policy?]
  have reads : (StepCatalog.seeWord.captures? "see 3").isSome = true := by decide +kernel
  obtain ⟨args,taken⟩ := Option.isSome_iff_exists.mp reads
  have accepts : StepCatalog.watching.accept? "see 3" = some ⟨StepCatalog.watching,args⟩ :=
    accept_some.mpr ⟨taken,rfl⟩
  have found : watched.steps.find "see 3" = .ok (some ⟨StepCatalog.watching,args⟩) := by
    rw [StepCatalog.find_first rfl]
    simp [StepCatalog.findAll,watched,accepts]
  obtain ⟨_,first,_⟩ := lookup_stable watched watchedAgain kept "see 3"
  exact ⟨kept,by decide +kernel,args,found,(first rfl).1 _ found⟩

end ScenarioSuite
