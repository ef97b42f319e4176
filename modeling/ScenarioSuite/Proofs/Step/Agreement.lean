import ScenarioSuite.Proofs.Expression.Passage
import ScenarioSuite.Proofs.Step.Slots

namespace ScenarioSuite

open Regex

namespace Expression

-- What is asked of a compiler of expressions: it takes only texts that read as expressions
-- with known parameters, and the groups of its result are those of the parameters.
def Conforms (compiler : String → Except Fault Regex) : Prop :=
  ∀ source re, compiler source = .ok re → ∃ parameters,
    Reads source.toList (names parameters) ∧ re.groupNames = layout 0 parameters

theorem toRegex_conforms : Conforms toRegex := by
  intro source re compiled
  obtain ⟨parameters,reads,groups,_⟩ := toRegex_exact compiled
  exact ⟨parameters,reads,groups⟩

theorem bracedNames_known {text : List Char} {parameters : List Parameter}
    (reads : Reads text (names parameters)) : bracedNames text = names parameters := by
  refine bracedNames_reads reads fun name member => ?_
  obtain ⟨p,_,rfl⟩ := List.mem_map.mp member
  exact (name_closed p).1

theorem names_injective {parameters others : List Parameter}
    (same : names parameters = names others) : parameters = others := by
  refine List.map_injective_iff.mpr (fun p q equal => ?_) same
  have text : p.name = q.name := String.toList_injective equal
  have known := Parameter.ofName_name p
  rw [text,Parameter.ofName_name] at known
  exact (Option.some.inj known).symm

end Expression

namespace Matcher

open Expression

theorem compile_toRegex : compile = compileWith toRegex := rfl

theorem parametersOf_names (source : String) (parameters : List Parameter) :
    parametersOf source (names parameters) = .ok parameters := by
  induction parameters with
  | nil => rfl
  | cons p parameters ih =>
      have known : Parameter.ofName? (String.ofList p.name.toList) = some p := by
        rw [String.ofList_toList,Parameter.ofName_name]
      change parametersOf source (p.name.toList :: names parameters) = _
      rw [parametersOf,known,ih]
      rfl

def Converts (parameters : List Parameter) (values : List (Option String)) : Prop :=
  ∀ pair ∈ parameters.zip (captured parameters values),
    ∃ raw, pair.2 = some raw ∧ (pair.1.convert? raw false).isSome

theorem convertAll_isSome {index : Nat} {parameters : List Parameter}
    {values : List (Option String)} :
    (convertAll parameters (shares index parameters values)).isSome ↔ Converts parameters values := by
  rw [convertAll_shares,mapM_isSome]
  refine forall₂_congr fun pair _ => ?_
  rw [Option.isSome_bind]
  cases pair.2 <;> simp

theorem captures_shared {re : Regex} {text : String} {parameters : List Parameter}
    {values : List (Option String)} (groups : re.groupNames = layout 0 parameters)
    (captures : re.captures? text = some values) : Shared 0 parameters values := by
  refine shared_of_length ?_
  rw [← groups]
  exact captures_length re text values captures

theorem slice_passed {text : List Char} {marks : Marks} {group : Nat}
    (first : 2 * group ∈ marks.map Prod.fst) (last : 2 * group + 1 ∈ marks.map Prod.fst) :
    (slice text marks group).isSome := by
  have found : ∀ slot ∈ marks.map Prod.fst, (marks.lookup slot).isSome := by
    intro slot member
    obtain ⟨mark,inside,rfl⟩ := List.mem_map.mp member
    rw [List.lookup_isSome_iff]
    exact ⟨mark,inside,by simp⟩
  obtain ⟨start,begins⟩ := Option.isSome_iff_exists.mp (found _ first)
  obtain ⟨stop,ends⟩ := Option.isSome_iff_exists.mp (found _ last)
  simp [slice,begins,ends]

theorem captured_passed {index groups : Nat} {parameters : List Parameter}
    {values : List (Option String)} {text : List Char} {marks : Marks}
    (passed : PassedAll groups parameters (marks.map Prod.fst))
    (enough : values.length = (layout index parameters).length)
    (own : ∀ i < values.length, values[i]? = some (slice text marks (groups + 1 + i))) :
    ∀ value ∈ captured parameters values, value.isSome := by
  induction parameters generalizing index groups values with
  | nil => exact List.forall_mem_nil _
  | cons p parameters ih =>
      rw [layout,List.length_append,Parameter.groupNames_length] at enough
      obtain ⟨⟨i,inside,first,last⟩,others⟩ := passed
      intro value member
      rcases List.mem_cons.mp member with rfl | later
      · rw [List.findSome?_isSome_iff]
        refine ⟨slice text marks (groups + 1 + i),?_,slice_passed first last⟩
        refine List.mem_of_getElem? (i := i) ?_
        rw [List.getElem?_take_of_lt inside]
        exact own i (by omega)
      · have fewer : (values.drop p.groupCount).length = (layout (index + 1) parameters).length := by
          rw [List.length_drop]
          omega
        refine ih others fewer (fun j below => ?_) value later
        rw [List.length_drop] at below
        rw [List.getElem?_drop,own _ (by omega)]
        congr 2
        omega

-- A matcher knows the parameters that are in the text of its expression, every match has one
-- value for each of them, and the arguments are there once these values convert.
structure Agrees (source : String) (m : Matcher) : Prop where
  listed : ∀ parameters, Reads source.toList (names parameters) ↔ parameters = m.parameters
  counted : ∀ text values, m.regex.captures? text = some values →
    (valuesFor m.parameters.length (m.regex.groupNames.zip values)).isSome
  converted : ∀ text, (m.captures? text).isSome ↔ m.regex.isMatch text = true ∧
    ∀ values, m.regex.captures? text = some values → Converts m.parameters values

theorem agrees_laid {source : String} {re : Regex} {parameters : List Parameter}
    (reads : Reads source.toList (names parameters)) (groups : re.groupNames = layout 0 parameters) :
    Agrees source ⟨re,parameters,true⟩ := by
  have shared : ∀ {text values}, re.captures? text = some values → valuesFor parameters.length
      (re.groupNames.zip values) = some (shares 0 parameters values) := by
    intro text values captures
    rw [groups]
    exact valuesFor_layout (captures_shared groups captures)
  refine ⟨fun others => ⟨fun alike => ?_,?_⟩,fun text values captures => ?_,fun text => ?_⟩
  · exact names_injective ((bracedNames_known alike).symm.trans (bracedNames_known reads))
  · rintro rfl
    exact reads
  · rw [shared captures]
    rfl
  · rw [← captures_iff_match]
    cases captures : re.captures? text with
    | none => simp [captures?,captures]
    | some values =>
        have taken : captures? ⟨re,parameters,true⟩ text =
            convertAll parameters (shares 0 parameters values) := by
          simp [captures?,captures,arguments,shared captures]
        rw [taken,convertAll_isSome]
        simp

theorem compileWith_reads {compiler : String → Except Fault Regex} {source : String} {re : Regex}
    {parameters : List Parameter} (compiled : compiler source = .ok re)
    (reads : Reads source.toList (names parameters)) :
    compileWith compiler (.expression source) = .ok ⟨re,parameters,true⟩ := by
  simp only [compileWith,compiled,bracedNames_known reads,parametersOf_names]
  rfl

theorem compileWith_conforms {compiler : String → Except Fault Regex} (conforms : Conforms compiler)
    {source : String} {re : Regex} (compiled : compiler source = .ok re) :
    ∃ m, compileWith compiler (.expression source) = .ok m ∧ m.regex = re ∧ Agrees source m := by
  obtain ⟨parameters,reads,groups⟩ := conforms source re compiled
  exact ⟨⟨re,parameters,true⟩,compileWith_reads compiled reads,rfl,agrees_laid reads groups⟩

theorem compile_passed {source text : String} {m : Matcher} {values : List (Option String)}
    (made : compile (.expression source) = .ok m) (captures : m.regex.captures? text = some values) :
    ∀ value ∈ captured m.parameters values, value.isSome := by
  rw [compile_toRegex] at made
  cases compiled : toRegex source with
  | error fault => simp [compileWith,compiled] at made
  | ok re =>
      obtain ⟨parameters,reads,groups,passed⟩ := toRegex_exact compiled
      rw [compileWith_reads compiled reads] at made
      obtain rfl := Except.ok.inj made
      have enough := captures_length re text values captures
      obtain ⟨marks,matched,rfl⟩ := Option.map_eq_some_iff.mp captures
      rw [groups] at enough
      have own : ∀ i < re.groupCount,
          ((List.range re.groupCount).map fun i => slice text.toList marks (i + 1))[i]? =
            some (slice text.toList marks (0 + 1 + i)) := by
        intro i inside
        simp [inside,Nat.add_comm]
      exact captured_passed (passed marks (marks_accepted matched)) enough (by simpa using own)

-- The scan for braces agrees with every compiler that conforms: it never finds an unknown
-- name in what was compiled, and always the parameters that the groups belong to. The
-- compiler at hand is one of them, and no match of its result leaves a parameter out.
theorem compile_agrees :
    (∀ compiler, Conforms compiler → ∀ source,
      (∀ other name, compileWith compiler (.expression source) ≠ .error (.unknownParameter other name)) ∧
      ((∃ m, compileWith compiler (.expression source) = .ok m) ↔ ∃ re, compiler source = .ok re) ∧
      ∀ m, compileWith compiler (.expression source) = .ok m →
        compiler source = .ok m.regex ∧ Agrees source m) ∧
    compile = compileWith toRegex ∧ Conforms toRegex ∧
    ∀ source m text values, compile (.expression source) = .ok m →
      m.regex.captures? text = some values → ∀ value ∈ captured m.parameters values, value.isSome := by
  refine ⟨fun compiler conforms source => ?_,compile_toRegex,toRegex_conforms,?_⟩
  · cases compiled : compiler source with
    | error fault =>
        have failed : compileWith compiler (.expression source) =
            .error (.expression source fault.message) := by
          simp only [compileWith,compiled]
        rw [failed]
        exact ⟨nofun,by simp,nofun⟩
    | ok re =>
        obtain ⟨m,made,rfl,agrees⟩ := compileWith_conforms conforms compiled
        rw [made]
        refine ⟨nofun,by simp,fun other same => ?_⟩
        obtain rfl := Except.ok.inj same
        exact ⟨rfl,agrees⟩
  · exact fun source m text values made captures => compile_passed made captures

end Matcher

end ScenarioSuite
