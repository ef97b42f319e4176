import ScenarioSuite.Expression.Regex

namespace ScenarioSuite

namespace Regex

def numbered (first : Nat) : List (Option String) → List (Nat × Option String)
  | [] => []
  | name :: names => (first,name) :: numbered (first + 1) names

theorem numbered_append (first : Nat) (names more : List (Option String)) :
    numbered first (names ++ more) = numbered first names ++ numbered (first + names.length) more := by
  induction names generalizing first with
  | nil => rfl
  | cons name names ih =>
      simp only [List.cons_append,numbered,ih,List.length_cons]
      rw [Nat.add_assoc,Nat.add_comm 1]

theorem numbered_last (before : Nat) (names : List (Option String)) :
    ((numbered (before + 1) names).map Prod.fst).foldl max before = before + names.length := by
  induction names generalizing before with
  | nil => rfl
  | cons name names ih =>
      rw [numbered,List.map_cons,List.foldl_cons,Nat.max_eq_right (Nat.le_succ before),ih]
      simp only [List.length_cons]
      omega

theorem numbered_lookup (before : Nat) (names : List (Option String)) (i : Nat) :
    (numbered (before + 1) names).lookup (before + 1 + i) = names[i]? := by
  induction names generalizing before i with
  | nil => rfl
  | cons name names ih =>
      cases i with
      | zero => simp [numbered]
      | succ i =>
          have other : (before + 1 + (i + 1) == before + 1) = false := by
            rw [beq_eq_false_iff_ne]
            omega
          have place : before + 1 + (i + 1) = before + 1 + 1 + i := by omega
          rw [numbered,List.lookup_cons,other,List.getElem?_cons_succ,← ih (before + 1) i,place]

theorem groupCount_numbered {re : Regex} {names : List (Option String)}
    (groups : re.root.groups = numbered 1 names) : re.groupCount = names.length := by
  rw [Regex.groupCount,groups]
  simpa using numbered_last 0 names

theorem groupNames_numbered {re : Regex} {names : List (Option String)}
    (groups : re.root.groups = numbered 1 names) : re.groupNames = names := by
  rw [Regex.groupNames,groupCount_numbered groups,groups]
  apply List.ext_getElem?
  intro i
  by_cases inside : i < names.length
  · have found := numbered_lookup 0 names i
    rw [Nat.zero_add,Nat.add_comm 1] at found
    simp [inside,found]
  · simp [Nat.le_of_not_lt inside]

def Bare (n : Node) : Prop := n.groups = []

theorem bare_list {nodes : List Node} : nodes.flatMap Node.groups = [] ↔ ∀ n ∈ nodes, Bare n :=
  List.flatMap_eq_nil_iff

theorem groups_branches (n : Node) : n.branches.flatMap Node.groups = n.groups := by
  induction n with
  | alt a b left right => simp [Node.branches,Node.groups,left,right]
  | _ => simp [Node.branches,Node.groups]

theorem bare_set (s : CharSet) : Bare s.node := by
  unfold CharSet.node
  cases s.single? <;> rfl

theorem bare_concat {nodes : List Node} (bare : ∀ n ∈ nodes, Bare n) : Bare (Node.concat nodes) := by
  rw [Bare,groups_sequential.concat]
  exact bare_list.mpr bare

theorem bare_choice {nodes : List Node} (bare : ∀ n ∈ nodes, Bare n) : Bare (Node.choice nodes) := by
  rw [Bare,groups_choice]
  exact bare_list.mpr bare

theorem bare_factors {n : Node} (bare : Bare n) : ∀ factor ∈ n.factors, Bare factor :=
  bare_list.mp ((groups_sequential.factors n).trans bare)

theorem commonStart_sublist (a b : List Node) : (commonStart a b).Sublist a := by
  fun_induction commonStart a b with
  | case1 as a bs ih => exact ih.cons_cons a
  | case2 | case3 => exact List.nil_sublist _

theorem commonStarts_sublist (first : List Node) (rest : List (List Node)) :
    (rest.foldl commonStart first).Sublist first := by
  induction rest generalizing first with
  | nil => exact List.Sublist.refl first
  | cons other rest ih => exact (ih _).trans (commonStart_sublist first other)

theorem sharedStart_mem {lists : List (List Node)} {n : Node} (member : n ∈ sharedStart lists) :
    ∃ list ∈ lists, n ∈ list := by
  cases lists with
  | nil => cases member
  | cons first rest =>
      exact ⟨first,List.mem_cons_self,(commonStarts_sublist first rest).subset member⟩

theorem bare_alternate {fuel : Nat} {nodes : List Node} (bare : ∀ n ∈ nodes, Bare n) :
    Bare (Node.alternate fuel nodes) := by
  induction fuel generalizing nodes with
  | zero => exact bare_choice bare
  | succ fuel ih =>
      have branches : ∀ n ∈ nodes.flatMap Node.branches, Bare n := by
        apply bare_list.mp
        rw [List.flatMap_assoc,funext groups_branches]
        exact bare_list.mpr bare
      have factors : ∀ list ∈ (nodes.flatMap Node.branches).map Node.factors, ∀ n ∈ list, Bare n := by
        intro list member
        obtain ⟨branch,inside,rfl⟩ := List.mem_map.mp member
        exact bare_factors (branches branch inside)
      unfold Node.alternate
      dsimp only
      split
      · exact bare_choice branches
      · split
        · exact bare_set _
        · exact bare_set _
        · split
          · exact bare_choice branches
          · -- The shared start is taken out of the branches, and the rest is a smaller choice.
            refine bare_concat fun n member => ?_
            rcases List.mem_append.mp member with start | rest
            · obtain ⟨list,inside,own⟩ := sharedStart_mem start
              exact factors list inside n own
            · rw [List.mem_singleton.mp rest]
              refine ih fun other inside => ?_
              obtain ⟨list,own,rfl⟩ := List.mem_map.mp inside
              exact bare_concat fun factor dropped =>
                factors list own factor (List.mem_of_mem_drop dropped)

theorem bare_oneOf {nodes : List Node} (bare : ∀ n ∈ nodes, Bare n) : Bare (Node.oneOf nodes) :=
  bare_alternate bare

theorem bare_repeated {low : Nat} {high : Option Nat} {greedy : Bool} {body : Node}
    (bare : Bare body) : Bare (Node.repeated low high greedy body) := by
  unfold Node.repeated
  generalize (if body.onlyEmpty then min low 1 else low) = low
  generalize (if body.onlyEmpty then some (min (high.getD 1) 1) else high) = high
  dsimp only
  split
  · rfl
  · split
    · exact bare
    · exact bare

end Regex

open Regex

namespace Parameter

def quotedInside (q : Char) : Node :=
  let inside := zeroOrMore (.set (.compl (.union (.only q) (.only '\\'))))
  .concat [inside,zeroOrMore (.concat [chars "\\",notNewline,inside])]

theorem quotedText_parts (q : Char) (number : Nat) (name : String) :
    quotedText q number name = .seq (.literal [q])
      (.seq (.group number (some name) (quotedInside q)) (.literal [q])) := rfl

-- The two kinds of quotes have nothing in common that could stand before the choice.
theorem string_node (index groups : Nat) : string.node index groups =
    .alt (quotedText '"' (groups + 1) ("__" ++ toString index ++ "_0"))
      (quotedText '\'' (groups + 2) ("__" ++ toString index ++ "_1")) := rfl

def groupNames (p : Parameter) (index : Nat) : List (Option String) :=
  match p with
  | string => [some ("__" ++ toString index ++ "_0"),some ("__" ++ toString index ++ "_1")]
  | int | float | word | anonymous => [none]

theorem groupNames_length (p : Parameter) (index : Nat) :
    (p.groupNames index).length = p.groupCount := by
  cases p <;> rfl

theorem node_groups (p : Parameter) (index groups : Nat) :
    (p.node index groups).groups = numbered (groups + 1) (p.groupNames index) := by
  cases p with
  | string =>
      rw [string_node,quotedText_parts,quotedText_parts]
      rfl
  | int | float | word | anonymous => rfl

end Parameter

namespace Expression

def layout (index : Nat) : List Parameter → List (Option String)
  | [] => []
  | p :: parameters => p.groupNames index ++ layout (index + 1) parameters

theorem literal_bare (raw : List Char) : Bare (literalNode raw) :=
  bare_concat fun n member => by
    rw [List.mem_singleton.mp member]
    rfl

theorem optional_bare (raw : List Char) : Bare (optionalNode raw) := by
  unfold optionalNode
  exact bare_repeated (literal_bare raw)

theorem alternative_bare (a : Alternative) : Bare a.node := by
  cases a with
  | text raw => exact literal_bare raw
  | optional raw => exact optional_bare raw

theorem plain_bare {part : Part} : Bare part.plain.node := by
  cases part with
  | text raw => exact literal_bare raw
  | blanks count => exact literal_bare _
  | optional raw => exact optional_bare raw
  | parameter name => rfl
  | alternation branches =>
      refine bare_oneOf fun n member => ?_
      obtain ⟨branch,_,rfl⟩ := List.mem_map.mp member
      refine bare_concat fun n inside => ?_
      obtain ⟨a,_,rfl⟩ := List.mem_map.mp inside
      exact alternative_bare a

-- Pieces against the parameters among them: every one has its own place and stands behind
-- the groups of those before it, and the other pieces have no groups.
inductive Laid : Nat → Nat → List Piece → List Parameter → Prop
  | done : Laid index groups [] []
  | plain : Bare node → Laid index groups rest parameters →
      Laid index groups (.plain pattern node :: rest) parameters
  | typed : Laid (index + 1) (groups + p.groupCount) rest parameters →
      Laid index groups (.typed p index groups :: rest) (p :: parameters)

theorem plain_piece (part : Part) : ∃ pattern node, part.plain = .plain pattern node := by
  cases part <;> exact ⟨_,_,rfl⟩

theorem pieces_laid {index groups : Nat} {parts : List Part} {made : List Piece}
    (assembled : pieces index groups parts = .ok made) :
    ∃ parameters, Laid index groups made parameters ∧
      parameterNames parts = parameters.map fun p => p.name.toList := by
  fun_induction pieces index groups parts generalizing made with
  | case1 index groups =>
      cases assembled
      exact ⟨[],.done,rfl⟩
  | case2 => cases assembled
  | case3 index groups name rest p known ih =>
      cases more : pieces (index + 1) (groups + p.groupCount) rest with
      | error fault => simp [more,Except.map] at assembled
      | ok made =>
          obtain ⟨parameters,laid,names⟩ := ih more
          simp only [more,Except.map,Except.ok.injEq] at assembled
          subst assembled
          have own : p.name.toList = name := by
            rw [Parameter.name_of_ofName _ _ known,String.toList_ofList]
          refine ⟨p :: parameters,.typed laid,?_⟩
          rw [List.map_cons,own,← names]
          rfl
  | case4 index groups part rest other ih =>
      cases more : pieces index groups rest with
      | error fault => simp [more,Except.map] at assembled
      | ok made =>
          obtain ⟨parameters,laid,names⟩ := ih more
          simp only [more,Except.map,Except.ok.injEq] at assembled
          subst assembled
          have bare : Bare part.plain.node := plain_bare
          obtain ⟨pattern,node,plain⟩ := plain_piece part
          rw [plain] at bare ⊢
          refine ⟨parameters,.plain bare laid,?_⟩
          rw [← names]
          cases part with
          | parameter name => exact (other name rfl).elim
          | _ => rfl

theorem laid_groups {index groups : Nat} {made : List Piece} {parameters : List Parameter}
    (laid : Laid index groups made parameters) :
    made.flatMap (fun piece => piece.node.groups) =
      numbered (groups + 1) (layout index parameters) := by
  induction laid with
  | done => rfl
  | plain bare _ ih =>
      rw [List.flatMap_cons,ih]
      exact congrArg (· ++ _) bare
  | @typed index groups rest parameters p laid ih =>
      have own : (Piece.typed p index groups).node.groups = _ :=
        Parameter.node_groups p index groups
      rw [List.flatMap_cons,ih,own,layout,numbered_append,
        Parameter.groupNames_length,Nat.add_right_comm]

theorem assemble_groups (made : List Piece) :
    (assemble made).root.groups = made.flatMap fun piece => piece.node.groups := by
  unfold assemble
  rw [groups_sequential.concat]
  simp [List.flatMap_map,Node.groups]

end Expression

end ScenarioSuite
