import ScenarioSuite.Proofs.Expression.Grammar
import ScenarioSuite.Proofs.Expression.Groups
import ScenarioSuite.Proofs.Regex.Flow

namespace ScenarioSuite

open Regex

theorem code_sequential : Sequential Node.code :=
  ⟨rfl,fun _ _ => List.map_append,fun _ _ => rfl⟩

def Parameter.Passed (p : Parameter) (groups : Nat) (slots : List Nat) : Prop :=
  ∃ i < p.groupCount, 2 * (groups + 1 + i) ∈ slots ∧ 2 * (groups + 1 + i) + 1 ∈ slots

theorem Parameter.passed_stable (p : Parameter) (groups : Nat) : Stable (p.Passed groups) := by
  rintro slot slots ⟨i,own,first,last⟩
  exact ⟨i,own,List.mem_cons_of_mem slot first,List.mem_cons_of_mem slot last⟩

theorem stable_and {left right : List Nat → Prop} (first : Stable left) (second : Stable right) :
    Stable fun slots => left slots ∧ right slots :=
  fun slot slots held => ⟨first slot slots held.1,second slot slots held.2⟩

variable {before : List Nat → Prop}

theorem quoted_flows (stable : Stable before) (q : Char) (number : Nat) (name : String) :
    Flows before (Parameter.quotedText q number name).code fun slots =>
      before slots ∧ 2 * number ∈ slots ∧ 2 * number + 1 ∈ slots := by
  have held : Stable fun slots => before slots ∧ 2 * number ∈ slots ∧ 2 * number + 1 ∈ slots :=
    stable_and stable (stable_and (fun slot _ => List.mem_cons_of_mem slot)
      fun slot _ => List.mem_cons_of_mem slot)
  rw [Parameter.quotedText_parts]
  exact flows_append (flows_stable (node_within (.literal [q])) stable)
    (flows_append (flows_group stable) (flows_stable (node_within (.literal [q])) held))

theorem parameter_flows (p : Parameter) (index groups : Nat) (stable : Stable before) :
    Flows before (p.node index groups).code fun slots => before slots ∧ p.Passed groups slots := by
  cases p with
  | string =>
      rw [Parameter.string_node]
      refine flows_alt ((quoted_flows stable '"' (groups + 1) _).mono fun slots held => ?_)
        ((quoted_flows stable '\'' (groups + 2) _).mono fun slots held => ?_)
      · exact ⟨held.1,0,by decide,held.2⟩
      · exact ⟨held.1,1,by decide,held.2⟩
  | int | float | word | anonymous =>
      exact (flows_group stable).mono fun slots held => ⟨held.1,0,by decide,held.2⟩

def PassedAll : Nat → List Parameter → List Nat → Prop
  | _, [], _ => True
  | groups, p :: parameters, slots =>
      p.Passed groups slots ∧ PassedAll (groups + p.groupCount) parameters slots

theorem passedAll_stable (groups : Nat) (parameters : List Parameter) :
    Stable (PassedAll groups parameters) := by
  induction parameters generalizing groups with
  | nil => exact fun _ _ => id
  | cons p parameters ih => exact stable_and (p.passed_stable groups) (ih _)

namespace Expression

theorem laid_flows {index groups : Nat} {made : List Piece} {parameters : List Parameter}
    (laid : Laid index groups made parameters) (stable : Stable before) :
    Flows before (made.flatMap fun piece => piece.node.code) fun slots =>
      before slots ∧ PassedAll groups parameters slots := by
  induction laid generalizing before with
  | done => exact (flows_stable (within_nil 0 0) stable).mono fun slots held => ⟨held,trivial⟩
  | plain _ _ ih => exact flows_append (flows_stable (node_within _) stable) (ih stable)
  | @typed index groups rest parameters p _ ih =>
      have first := parameter_flows p index groups stable
      refine flows_append first ((ih (stable_and stable (p.passed_stable groups))).mono ?_)
      rintro slots ⟨⟨held,own⟩,others⟩
      exact ⟨held,own,others⟩

theorem assemble_code (made : List Piece) :
    (assemble made).root.code = (Node.anchor .textStart).code ++
      ((made.flatMap fun piece => piece.node.code) ++ (Node.anchor .textEnd).code) := by
  unfold assemble
  rw [code_sequential.concat]
  simp [List.flatMap_map,Node.code]

theorem assemble_passed {made : List Piece} {parameters : List Parameter} {marks : Marks}
    (laid : Laid 0 0 made parameters) (accepted : Accepted (assemble made).root.program marks) :
    PassedAll 0 parameters (marks.map Prod.fst) := by
  have free : Stable fun _ : List Nat => True := fun _ _ => id
  have stable := passedAll_stable 0 parameters
  refine accepted_flows stable ?_ accepted
  rw [assemble_code]
  exact flows_append (flows_stable (node_within _) free)
    (flows_append ((laid_flows laid free).mono fun slots held => held.2)
      (flows_stable (node_within _) stable))

theorem toRegex_made {source : String} {re : Regex} (compiled : toRegex source = .ok re) :
    ∃ parts made, parse source.toList = .ok parts ∧ pieces 0 0 parts = .ok made ∧
      re = assemble made := by
  unfold toRegex at compiled
  cases read : parse source.toList with
  | error fault => simp [read,bind,Except.bind] at compiled
  | ok parts =>
      cases assembled : pieces 0 0 parts with
      | error fault => simp [read,assembled,bind,Except.bind] at compiled
      | ok made =>
          simp only [read,assembled,bind,Except.bind] at compiled
          split at compiled
          · cases compiled
            exact ⟨parts,made,rfl,assembled,rfl⟩
          · cases compiled

def names (parameters : List Parameter) : List (List Char) := parameters.map fun p => p.name.toList

theorem name_closed (p : Parameter) : '\x7b' ∉ p.name.toList ∧ '\x7d' ∉ p.name.toList := by
  cases p <;> decide

theorem toRegex_exact {source : String} {re : Regex} (compiled : toRegex source = .ok re) :
    ∃ parameters, Reads source.toList (names parameters) ∧ re.groupNames = layout 0 parameters ∧
      ∀ marks, Accepted re.root.program marks → PassedAll 0 parameters (marks.map Prod.fst) := by
  obtain ⟨parts,made,read,assembled,rfl⟩ := toRegex_made compiled
  obtain ⟨parameters,laid,own⟩ := pieces_laid assembled
  refine ⟨parameters,?_,?_,fun marks accepted => assemble_passed laid accepted⟩
  · rw [names,← own]
    refine parse_reads read fun name member => ?_
    rw [own] at member
    obtain ⟨p,_,rfl⟩ := List.mem_map.mp member
    exact (name_closed p).2
  · refine groupNames_numbered ?_
    rw [assemble_groups,laid_groups laid]

end Expression

end ScenarioSuite
