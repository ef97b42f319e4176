import ScenarioSuite.Regex.Basic

namespace ScenarioSuite.Regex

-- Nodes in the shape that decides what is preferred and how large a program gets:
-- neighbouring literals are one, sequences and choices are flat, a choice between single
-- characters is a set, and what all branches of a choice start with stands before it.

def Node.factors : Node → List Node
  | .empty => []
  | .seq a b => a.factors ++ b.factors
  | n => [n]

def Node.branches : Node → List Node
  | .alt a b => a.branches ++ b.branches
  | n => [n]

def Node.sequence : List Node → Node
  | [] => .empty
  | [n] => n
  | n :: rest => .seq n (sequence rest)

def Node.choice : List Node → Node
  | [] => .empty
  | [n] => n
  | n :: rest => .alt n (choice rest)

def joinLiterals : List Node → List Node
  | .literal a :: rest =>
      match joinLiterals rest with
      | .literal b :: rest => .literal (a ++ b) :: rest
      | rest => .literal a :: rest
  | n :: rest => n :: joinLiterals rest
  | [] => []

def Node.concat (nodes : List Node) : Node :=
  Node.sequence (joinLiterals (nodes.flatMap Node.factors))

def CharSet.node (s : CharSet) : Node :=
  match s.single? with
  | some c => .literal [c]
  | none => .set s

def Node.char? : Node → Option CharSet
  | .literal [c] => some (.only c)
  | _ => none

def Node.set? : Node → Option CharSet
  | .set s => some s
  | _ => none

def commonStart : List Node → List Node → List Node
  | a :: as, b :: bs => if a = b then a :: commonStart as bs else []
  | _, _ => []

def sharedStart : List (List Node) → List Node
  | [] => []
  | first :: rest => rest.foldl commonStart first

def Node.size : Node → Nat
  | .empty | .literal _ | .set _ | .anchor _ => 1
  | .group _ _ body | .loop _ _ _ body => body.size + 1
  | .seq a b | .alt a b => a.size + b.size + 1

-- A choice between branches. Only branches that are sequences of at least two parts share
-- a start. Every call behind the first is about less, so the size bounds their number.
def Node.alternate : Nat → List Node → Node
  | 0, nodes => Node.choice nodes
  | fuel + 1, nodes =>
      let branches := nodes.flatMap Node.branches
      if branches.length ≤ 1 then Node.choice branches
      else match branches.mapM Node.char?,branches.mapM Node.set? with
        | some sets,_ | none,some sets => (CharSet.unions sets).node
        | none,none =>
            let lists := branches.map Node.factors
            let start := sharedStart lists
            if start.isEmpty || lists.any (·.length ≤ 1) then Node.choice branches
            else Node.concat (start ++ [Node.alternate fuel
              (lists.map fun list => Node.concat (list.drop start.length))])

def Node.oneOf (nodes : List Node) : Node :=
  Node.alternate (nodes.foldl (fun total node => total + node.size) 1) nodes

-- A repetition. What is always empty is there once or not at all; no rounds are nothing,
-- and a single one is the body itself.
def Node.repeated (low : Nat) (high : Option Nat) (greedy : Bool) (body : Node) : Node :=
  let low := if body.onlyEmpty then min low 1 else low
  let high := if body.onlyEmpty then some (min (high.getD 1) 1) else high
  if low = 0 ∧ high = some 0 then .empty
  else if low = 1 ∧ high = some 1 then body
  else .loop low high greedy body

structure Sequential {α : Type} (f : Node → List α) : Prop where
  empty : f .empty = []
  literal : ∀ a b, f (.literal (a ++ b)) = f (.literal a) ++ f (.literal b)
  seq : ∀ a b, f (.seq a b) = f a ++ f b

namespace Sequential

variable {α : Type} {f : Node → List α}

theorem sequence (row : Sequential f) (nodes : List Node) :
    f (Node.sequence nodes) = nodes.flatMap f := by
  fun_induction Node.sequence nodes with
  | case1 => exact row.empty
  | case2 n => simp
  | case3 n rest _ ih => rw [row.seq,ih,List.flatMap_cons]

theorem factors (row : Sequential f) (n : Node) : n.factors.flatMap f = f n := by
  induction n with
  | empty => exact row.empty.symm
  | seq a b left right => rw [Node.factors,List.flatMap_append,left,right,row.seq]
  | _ => simp [Node.factors]

theorem joinLiterals (row : Sequential f) (nodes : List Node) :
    (joinLiterals nodes).flatMap f = nodes.flatMap f := by
  fun_induction Regex.joinLiterals nodes with
  | case1 a rest b more joined ih => simp [← ih,joined,row.literal]
  | case2 a rest other ih => simp [ih]
  | case3 n rest other ih => simp [ih]
  | case4 => rfl

theorem concat (row : Sequential f) (nodes : List Node) :
    f (Node.concat nodes) = nodes.flatMap f := by
  rw [Node.concat,row.sequence,row.joinLiterals,List.flatMap_assoc]
  exact congrArg (nodes.flatMap ·) (funext row.factors)

end Sequential

theorem groups_sequential : Sequential Node.groups := ⟨rfl,fun _ _ => rfl,fun _ _ => rfl⟩

theorem groups_choice (nodes : List Node) :
    (Node.choice nodes).groups = nodes.flatMap Node.groups := by
  fun_induction Node.choice nodes <;> simp_all [Node.groups]

end ScenarioSuite.Regex
