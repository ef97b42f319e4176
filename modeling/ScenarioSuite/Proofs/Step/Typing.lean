import ScenarioSuite.Proofs.Step.Agreement
import ScenarioSuite.Proofs.Step.Execution

namespace ScenarioSuite

theorem forall₂_present {α β : Type} {R : α → β → Prop} {l : List α} {others : List β} {i : Nat}
    {x : α} (all : List.Forall₂ R l others) (present : l[i]? = some x) :
    ∃ y, others[i]? = some y ∧ R x y := by
  obtain ⟨bound,rfl⟩ := List.getElem?_eq_some_iff.mp present
  have enough : i < others.length := all.length_eq ▸ bound
  exact ⟨others[i],List.getElem?_eq_getElem enough,all.get bound enough⟩

namespace Parameter

inductive Admits : Parameter → Argument → Prop
  | int : Admits .int (.int value)
  | float : Admits .float (.float value)
  | word : Admits .word (.word value)
  | string : Admits .string (.str value)
  | anonymous : Admits .anonymous (.anonymous value)

theorem convert_admits {p : Parameter} {raw : String} {quoted : Bool} {arg : Argument}
    (converted : p.convert? raw quoted = some arg) : p.Admits arg := by
  cases p with
  | int =>
      obtain ⟨_,_,rfl⟩ := Option.map_eq_some_iff.mp converted
      exact .int
  | float =>
      obtain ⟨_,_,rfl⟩ := Option.map_eq_some_iff.mp converted
      exact .float
  | word =>
      obtain rfl := Option.some.inj converted
      exact .word
  | string =>
      obtain ⟨_,_,rfl⟩ := Option.map_eq_some_iff.mp converted
      exact .string
  | anonymous =>
      obtain rfl := Option.some.inj converted
      exact .anonymous

end Parameter

namespace Matcher

open Expression

theorem valuesFor_length {count : Nat} {groups : List (Option String × Option String)}
    {values : List Slot} (chosen : valuesFor count groups = some values) : values.length = count := by
  simp only [valuesFor,Option.ite_none_right_eq_some,Option.some.injEq] at chosen
  obtain ⟨enough,rfl⟩ := chosen
  exact enough

theorem convertAll_admits {parameters : List Parameter} {values : List Slot}
    {args : List Argument} (enough : values.length = parameters.length)
    (converted : convertAll parameters values = some args) :
    List.Forall₂ Parameter.Admits parameters args := by
  induction parameters generalizing values args with
  | nil =>
      obtain rfl := Option.some.inj converted
      exact .nil
  | cons p parameters ih =>
      cases values with
      | nil => cases enough
      | cons value values =>
          simp only [convertAll,List.zip_cons_cons,List.mapM_cons,Option.bind_eq_bind,
            Option.bind_eq_some_iff,Option.pure_def,Option.some.injEq] at converted
          obtain ⟨arg,⟨raw,_,own⟩,rest,others,rfl⟩ := converted
          exact .cons (Parameter.convert_admits own) (ih (by simpa using enough) others)

theorem arguments_admitted {m : Matcher} (typed : m.typed = true)
    {groups : List (Option String × Option String)} {args : List Argument}
    (taken : m.arguments groups = some args) : List.Forall₂ Parameter.Admits m.parameters args := by
  rw [arguments,if_pos typed] at taken
  obtain ⟨values,chosen,converted⟩ := Option.bind_eq_some_iff.mp taken
  exact convertAll_admits (valuesFor_length chosen) converted

theorem captures_admitted {m : Matcher} (typed : m.typed = true) {text : String}
    {args : List Argument} (taken : m.captures? text = some args) :
    List.Forall₂ Parameter.Admits m.parameters args := by
  obtain ⟨values,_,given⟩ := Option.bind_eq_some_iff.mp taken
  exact arguments_admitted typed given

theorem captures_regex {re : Regex} {text : String} {args : List Argument}
    (taken : captures? ⟨re,[],false⟩ text = some args) :
    ∃ values, re.captures? text = some values ∧ args = values.map .capture ∧
      args.length = re.groupCount := by
  obtain ⟨values,captured,given⟩ := Option.bind_eq_some_iff.mp taken
  have named := captures_length re text values captured
  have each : args = values.map .capture := by
    have seconds : (re.groupNames.zip values).map Prod.snd = values := List.map_snd_zip named.le
    obtain rfl := Option.some.inj given
    conv_rhs => rw [← seconds,List.map_map]
    rfl
  refine ⟨values,captured,each,?_⟩
  rw [each,List.length_map,named]
  simp [Regex.groupNames]

theorem compileWith_typed {compiler : String → Except Fault Regex} {source : String} {m : Matcher}
    (made : compileWith compiler (.expression source) = .ok m) : m.typed = true := by
  cases compiled : compiler source with
  | error fault => simp [compileWith,compiled] at made
  | ok re =>
      simp only [compileWith,compiled] at made
      cases parameters : parametersOf source (bracedNames source.toList) with
      | error e =>
          rw [parameters] at made
          cases made
      | ok ps =>
          rw [parameters] at made
          obtain rfl := Except.ok.inj made
          rfl

end Matcher

variable {W : Type}

namespace StepCatalog

inductive Made : StepCatalog W → Prop
  | empty : Made .empty
  | register : Made c → c.register location pattern handler = .ok next → Made next
  | setPolicy (policy : MatchPolicy) : Made c → Made (c.setPolicy policy)

def Compiled (c : StepCatalog W) : Prop :=
  ∀ d ∈ c.definitions, Matcher.compile d.pattern = .ok d.matcher

theorem register_compiled {c next : StepCatalog W} {location : Location} {pattern : StepPattern}
    {handler : StepHandler W} (compiled : c.Compiled)
    (registered : c.register location pattern handler = .ok next) : next.Compiled := by
  unfold register at registered
  split at registered
  · cases registered
  · rename_i matcher own
    obtain rfl := Except.ok.inj registered
    intro d member
    rcases List.mem_append.mp member with old | new
    · exact compiled d old
    · obtain rfl := List.mem_singleton.mp new
      exact own

theorem made_compiled {c : StepCatalog W} (made : c.Made) : c.Compiled := by
  induction made with
  | empty => exact List.forall_mem_nil _
  | register _ registered ih => exact register_compiled ih registered
  | setPolicy _ _ ih => exact ih

end StepCatalog

namespace HandlerCall

def Declared (h : HandlerCall W) : Prop :=
  ∀ source, h.definition.pattern = .expression source →
    ∀ i p, h.definition.matcher.parameters[i]? = some p →
      (p = .int → ∃ value, h.call.int i = .ok value) ∧
      (p = .word ∨ p = .string ∨ p = .anonymous → ∃ value, h.call.str i = .ok value)

theorem declared_of_admitted {h : HandlerCall W}
    (admitted : List.Forall₂ Parameter.Admits h.definition.matcher.parameters h.call.args) :
    h.Declared := by
  intro source _ i p present
  obtain ⟨arg,given,admits⟩ := forall₂_present admitted present
  cases admits with
  | int => simp [Call.int,Call.arg?,given,Argument.asInt?]
  | float => simp
  | word | string | anonymous => simp [Call.str,Call.arg?,given,Argument.asText?]

end HandlerCall

namespace StepCatalog

theorem handled_declared {c : StepCatalog W} (compiled : c.Compiled) {text : String}
    {table : Option Table} {docstring : Option String} {world : W} {calls : List (HandlerCall W)}
    {result : StepResult × W} (handled : Handled c text table docstring world calls result) :
    ∀ entry ∈ calls, entry.Declared := by
  cases handled with
  | undefined | ambiguous => exact List.forall_mem_nil _
  | @called d others args outcome last earliest sole taken ran =>
      intro entry member
      obtain rfl := List.mem_singleton.mp member
      intro source expression
      have own : d ∈ c.definitions := by
        have listed : d ∈ c.accepting text := earliest ▸ List.mem_cons_self
        exact (List.mem_filter.mp listed).1
      have typed : d.matcher.typed = true := by
        have made := compiled d own
        rw [expression,Matcher.compile_toRegex] at made
        exact Matcher.compileWith_typed made
      exact HandlerCall.declared_of_admitted (Matcher.captures_admitted typed taken) source expression

theorem logged_declared {c : StepCatalog W} (made : c.Made) (text : String) (table : Option Table)
    (docstring : Option String) (world : W) :
    ∀ entry ∈ (c.logged.run text table docstring (world,[])).2.2, entry.Declared := by
  obtain ⟨calls,result,handled⟩ := handled_total c text table docstring world
  rw [(handled_run handled).2 []]
  exact handled_declared (made_compiled made) handled

-- Whatever the compiler of expressions makes of an expression, arguments are as many as the
-- parameters and of their types; a regular expression gives a capture for each group. So
-- whoever handles a step of an expression finds numbers and texts where it declares them.
theorem arguments_declared :
    (∀ compiler pattern m text args, Matcher.compileWith compiler pattern = .ok m →
      m.captures? text = some args → match pattern with
      | .expression _ => List.Forall₂ Parameter.Admits m.parameters args
      | .regex re => ∃ values, re.captures? text = some values ∧ args = values.map .capture ∧
          args.length = re.groupCount) ∧
    Matcher.compile = Matcher.compileWith Expression.toRegex ∧
    ∀ c : StepCatalog W, c.Made → ∀ world,
      (∀ step : ConcreteStep, ∀ entry ∈ (c.logged.execute step (world,[])).2.2, entry.Declared) ∧
      ∀ text, ∀ entry ∈ (c.logged.executeText text (world,[])).2.2, entry.Declared := by
  refine ⟨fun compiler pattern m text args compiled taken => ?_,Matcher.compile_toRegex,
    fun c made world => ⟨fun step => logged_declared made step.text step.table step.docstring world,
      fun text => logged_declared made text none none world⟩⟩
  cases pattern with
  | expression source => exact Matcher.captures_admitted (Matcher.compileWith_typed compiled) taken
  | regex re =>
      obtain rfl := Except.ok.inj compiled
      exact Matcher.captures_regex taken

def seeWord : Matcher :=
  ⟨Expression.assemble [.plain "see".toList (Expression.literalNode "see".toList),
    .plain [' '] (Expression.literalNode [' ']),.typed .word 0 0],[.word],true⟩

theorem seeWord_compiled : Matcher.compile (.expression "see {word}") = .ok seeWord := by
  have compiled : (Expression.toRegex "see {word}").toOption = some seeWord.regex := by
    decide +kernel
  have named : bracedNames "see {word}".toList = Expression.names [.word] := by
    simp [bracedNames,Expression.names,Parameter.name]
  cases made : Expression.toRegex "see {word}" with
  | error fault => simp [made,Except.toOption] at compiled
  | ok re =>
      obtain rfl : re = seeWord.regex := by simpa [made,Except.toOption] using compiled
      simp only [Matcher.compile,Matcher.compileWith,made,named,Matcher.parametersOf_names]
      rfl

def watching : Definition Nat :=
  ⟨.expression "see {word}",seeWord,fun call world => (.passed,world + call.args.length),
    ⟨"steps.rs",3,1⟩⟩

theorem arguments_declared_word :
    ∃ c args, (empty : StepCatalog Nat).register watching.location watching.pattern watching.handler =
        .ok c ∧ seeWord.captures? "see 3" = some args ∧
      args.map Argument.asText? = [some "3"] ∧ List.Forall₂ Parameter.Admits seeWord.parameters args ∧
      ∃ entry ∈ (c.logged.executeText "see 3" (0,[])).2.2,
        entry.call.args = args ∧ entry.Declared := by
  let c : StepCatalog Nat := ⟨[watching],.firstMatch⟩
  have registered : (empty : StepCatalog Nat).register watching.location watching.pattern
      watching.handler = .ok c := by
    rw [register,watching,seeWord_compiled]
    rfl
  have read : (seeWord.captures? "see 3").map (·.map Argument.asText?) = some [some "3"] := by
    decide +kernel
  obtain ⟨args,taken,texts⟩ := Option.map_eq_some_iff.mp read
  obtain ⟨typed,real,reads⟩ := arguments_declared (W := Nat)
  have admitted := typed Expression.toRegex _ seeWord "see 3" args (real ▸ seeWord_compiled) taken
  have earliest : c.accepting "see 3" = [watching] := by
    have accepts : watching.matcher.captures? "see 3" = some args := taken
    simp [c,accepting,accepts]
  let call : HandlerCall Nat := ⟨watching,⟨"see 3",args,none,none⟩,0⟩
  have handled : Handled c "see 3" none none 0 [call] (.passed,0 + args.length) :=
    .called earliest (fun _ => rfl) taken rfl
  have logged : call ∈ (c.logged.executeText "see 3" (0,[])).2.2 := by
    rw [executeText,(handled_run handled).2 []]
    exact List.mem_singleton_self call
  exact ⟨c,args,registered,taken,texts,admitted,call,logged,rfl,
    (reads c (.register .empty registered) 0).2 "see 3" call logged⟩

end StepCatalog

end ScenarioSuite
