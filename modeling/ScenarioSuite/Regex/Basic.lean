import ScenarioSuite.Regex.CharSet

namespace ScenarioSuite.Regex

inductive WordEdge
  | boundary
  | noBoundary
  | start
  | stop
  | startHalf
  | stopHalf
  deriving DecidableEq, Repr

-- Conditions on the place between two characters. Where `crlf` holds, a carriage return
-- ends a line as well, and together with a line feed behind it only once; where `ascii`
-- holds, words have ASCII characters only.
inductive Anchor
  | textStart
  | textEnd
  | lineStart (crlf : Bool)
  | lineEnd (crlf : Bool)
  | word (edge : WordEdge) (ascii : Bool)
  deriving DecidableEq, Repr

structure Place where
  position : Nat
  before : Option Char
  after : Option Char
  deriving DecidableEq, Repr

def WordEdge.holds (edge : WordEdge) (left right : Bool) : Bool :=
  match edge with
  | boundary => left != right
  | noBoundary => left == right
  | start => !left && right
  | stop => left && !right
  | startHalf => !left
  | stopHalf => !right

def Anchor.holds (anchor : Anchor) (place : Place) : Bool :=
  match anchor with
  | .textStart => place.before.isNone
  | .textEnd => place.after.isNone
  | .lineStart crlf =>
      place.before.all fun c => c == '\n' || crlf && c == '\r' && place.after != some '\n'
  | .lineEnd crlf =>
      place.after.all fun c =>
        if crlf then c == '\r' || c == '\n' && place.before != some '\r' else c == '\n'
  | .word edge ascii =>
      let inWord := if ascii then Text.isAsciiWord else Text.isWord
      edge.holds (place.before.any inWord) (place.after.any inWord)

-- A capturing group has the number of its opening parenthesis among all of them.
inductive Node
  | empty
  | literal (text : List Char)
  | set (s : CharSet)
  | anchor (a : Anchor)
  | group (number : Nat) (name : Option String) (body : Node)
  | seq (first second : Node)
  | alt (left right : Node)
  | loop (low : Nat) (high : Option Nat) (greedy : Bool) (body : Node)
  deriving DecidableEq, Repr

def Node.groups : Node → List (Nat × Option String)
  | .empty | .literal _ | .set _ | .anchor _ => []
  | .group number name body => (number,name) :: body.groups
  | .seq a b | .alt a b => a.groups ++ b.groups
  | .loop _ _ _ body => body.groups

def Node.minLength : Node → Option Nat
  | .empty | .anchor _ => some 0
  | .literal text => some text.length
  | .set s => if s.isEmpty then none else some 1
  | .group _ _ body => body.minLength
  | .seq a b => do some ((← a.minLength) + (← b.minLength))
  | .alt a b => do some (min (← a.minLength) (← b.minLength))
  | .loop low _ _ body => body.minLength.map (low * ·)

def Node.consumes (n : Node) : Bool := n.minLength.any (0 < ·)

def Node.onlyEmpty : Node → Bool
  | .empty | .anchor _ => true
  | .literal _ | .set _ => false
  | .group _ _ body => body.onlyEmpty
  | .seq a b | .alt a b => a.onlyEmpty && b.onlyEmpty
  | .loop _ high _ body => high.isSome && body.onlyEmpty

end ScenarioSuite.Regex

namespace ScenarioSuite

structure Regex where
  source : String
  root : Regex.Node
  deriving DecidableEq, Repr

def Regex.le (a b : Regex) : Bool := decide (a.source ≤ b.source)

def Regex.groupCount (re : Regex) : Nat := (re.root.groups.map Prod.fst).foldl max 0

def Regex.groupNames (re : Regex) : List (Option String) :=
  (List.range re.groupCount).map fun i => (re.root.groups.lookup (i + 1)).join

end ScenarioSuite
