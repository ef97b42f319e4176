import ScenarioSuite.Regex.Basic

namespace ScenarioSuite.Regex

-- Instructions with relative targets, so the code of a node does not depend on
-- where it stands. A branch prefers its first target.
inductive Instr
  | set (s : CharSet)
  | anchor (a : Anchor)
  | save (slot : Nat)
  | jump (offset : Int)
  | branch (preferred other : Int)
  | accept
  deriving DecidableEq, Repr

def enter (greedy : Bool) (inside outside : Int) : Instr :=
  if greedy then .branch inside outside else .branch outside inside

def optionalRounds (greedy : Bool) (body : List Instr) : Nat → List Instr
  | 0 => []
  | count + 1 =>
      enter greedy 1 ((body.length + 1) * (count + 1)) :: body ++ optionalRounds greedy body count

-- Any number of rounds after the ones that are required. A body that may be empty
-- is entered once before the loop, so an empty round cannot hide a longer one.
def endlessRounds (greedy consumes : Bool) (low : Nat) (body : List Instr) : List Instr :=
  let size : Int := body.length
  let again := body ++ [enter greedy (-size) 1]
  match low with
  | 0 =>
      if consumes then enter greedy 1 (size + 2) :: body ++ [.jump (-(size + 1))]
      else enter greedy 1 (size + 2) :: again
  | low + 1 => (List.replicate low body).flatten ++ again

-- The code of a node. Group `n` keeps its ends in the slots `2 * n` and `2 * n + 1`.
def Node.code : Node → List Instr
  | .empty => []
  | .literal text => text.map fun c => .set (.only c)
  | .set s => [.set s]
  | .anchor a => [.anchor a]
  | .group number _ body => .save (2 * number) :: body.code ++ [.save (2 * number + 1)]
  | .seq a b => a.code ++ b.code
  | .alt a b =>
      let left := a.code
      let right := b.code
      .branch 1 (left.length + 2) :: left ++ .jump (right.length + 1) :: right
  | .loop low high greedy body =>
      let round := body.code
      match high with
      | none => endlessRounds greedy body.consumes low round
      | some high =>
          (List.replicate low round).flatten ++ optionalRounds greedy round (high - low)

def Node.program (root : Node) : Array Instr :=
  (Instr.save 0 :: root.code ++ [Instr.save 1,Instr.accept]).toArray

abbrev Marks := List (Nat × Nat)

structure Thread where
  pc : Nat
  marks : Marks
  deriving DecidableEq, Repr

def Thread.next (t : Thread) : Thread := { t with pc := t.pc + 1 }

def Thread.jump (t : Thread) (offset : Int) : Thread := { t with pc := (t.pc + offset).toNat }

-- Threads that wait for a character, the most preferred one last, and for every
-- instruction the place behind the last one where some thread reached it.
structure Frontier where
  reached : Array Nat
  waiting : List Thread
  deriving DecidableEq, Repr

-- Follows a thread through the instructions that consume nothing. An instruction
-- reached before belongs to a preferred thread, so every call but those marks one
-- more, and the size of the program bounds the depth.
def follow (program : Array Instr) (place : Place) : Nat → Frontier → Thread → Frontier
  | 0, frontier, _ => frontier
  | fuel + 1, frontier, t =>
      let here := place.position + 1
      if frontier.reached.getD t.pc here = here then frontier
      else
        let marked := { frontier with reached := frontier.reached.setIfInBounds t.pc here }
        match program[t.pc]? with
        | some (.jump offset) => follow program place fuel marked (t.jump offset)
        | some (.branch preferred other) =>
            follow program place fuel
              (follow program place fuel marked (t.jump preferred)) (t.jump other)
        | some (.save slot) =>
            follow program place fuel marked
              { t.next with marks := (slot,place.position) :: t.marks }
        | some (.anchor a) =>
            if a.holds place then follow program place fuel marked t.next else marked
        | _ => { marked with waiting := t :: marked.waiting }

def gather (program : Array Instr) (place : Place) (reached : Array Nat)
    (threads : List Thread) : Frontier :=
  threads.foldl (follow program place (program.size + 1)) ⟨reached,[]⟩

-- What the threads of one place come to, most preferred first: those that go on behind
-- the next character, and the match that ends here. A match silences all less preferred
-- ones.
def advance (program : Array Instr) (next : Option Char) :
    List Thread → List Thread × Option Marks
  | [] => ([],none)
  | t :: rest =>
      match program[t.pc]? with
      | some .accept => ([],some t.marks)
      | some (.set s) =>
          let (onward,found) := advance program next rest
          if next.any s.has then (t.next :: onward,found) else (onward,found)
      | _ => advance program next rest

-- Runs all threads in step over the text. A search starts at every place until
-- something is found; what preferred threads find later replaces it.
def scan (program : Array Instr) (position : Nat) (before : Option Char) (reached : Array Nat)
    (threads : List Thread) (found : Option Marks) (text : List Char) : Option Marks :=
  let starting := if found.isNone then threads ++ [⟨0,[]⟩] else threads
  let ⟨reached,waiting⟩ := gather program ⟨position,before,text.head?⟩ reached starting
  let (onward,ended) := advance program text.head? waiting.reverse
  let found := ended.or found
  match text with
  | [] => found
  | c :: rest =>
      if onward.isEmpty && found.isSome then found
      else scan program (position + 1) (some c) reached onward found rest

def slice (text : List Char) (marks : Marks) (group : Nat) : Option String := do
  let first ← marks.lookup (2 * group)
  let last ← marks.lookup (2 * group + 1)
  some (String.ofList ((text.drop first).take (last - first)))

end ScenarioSuite.Regex

namespace ScenarioSuite

open Regex

def Regex.marks? (re : Regex) (text : List Char) : Option Marks :=
  let program := re.root.program
  scan program 0 none (Array.replicate program.size 0) [] none text

def Regex.isMatch (re : Regex) (text : String) : Bool := (re.marks? text.toList).isSome

def Regex.captures? (re : Regex) (text : String) : Option (List (Option String)) :=
  (re.marks? text.toList).map fun marks =>
    (List.range re.groupCount).map fun i => slice text.toList marks (i + 1)

theorem captures_length (re : Regex) (text : String) (groups : List (Option String))
    (h : re.captures? text = some groups) : groups.length = re.groupNames.length := by
  obtain ⟨marks,_,rfl⟩ := Option.map_eq_some_iff.mp h
  simp [Regex.groupNames]

theorem captures_iff_match (re : Regex) (text : String) :
    (re.captures? text).isSome = re.isMatch text := by
  simp [Regex.captures?,Regex.isMatch]

end ScenarioSuite
