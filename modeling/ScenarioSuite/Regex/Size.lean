import ScenarioSuite.Regex.Shape
import ScenarioSuite.Regex.Tally

namespace ScenarioSuite.Regex

-- An expression is run by two machines, one forward from where a match starts and one
-- backward from where it ends. Neither may get too large.

def runs (words : List (List Nat)) : List (List (List Nat)) :=
  words.foldr (fun word runs =>
    if word.isEmpty then [] :: runs
    else match runs with
      | [] => [[word]]
      | run :: rest => (word :: run) :: rest) [[]]

-- A choice between words is a tree of their bytes. A word that ends inside the tree parts
-- what was said before it from what is said later. No word has `fuel` bytes or more.
def spell : Nat → List (List Nat) → Tally → Tally
  | 0, _, t => t
  | fuel + 1, words, t =>
      let (ended,rest) := words.span List.isEmpty
      let runs := runs (ended.take 1 ++ rest)
      let ends := runs.length - 1
      let runs := runs.filter (!·.isEmpty)
      if runs.isEmpty then t
      else runs.foldl (fun t run =>
        let starts := (run.filterMap List.head?).eraseDups
        starts.foldl (fun t start =>
            spell fuel ((run.filter (·.head? == some start)).map List.tail) t)
          (t.add 1 (if starts.length = 1 then 0 else 8 * starts.length)))
        ((t.add 1 0).link (runs.length + ends))

-- A part of a machine. One that ends in a fork takes a link to whatever comes next.
structure Built where
  tally : Tally
  forked : Bool
  deriving DecidableEq, Repr

namespace Built

def linked (b : Built) : Tally := b.tally.link b.forked.toNat

def state (t : Tally) : Built := ⟨t.add 1 0,false⟩

-- More parts in a row. Nothing is added to what is too large already, as every part has a
-- state at least.
def rounds (part : Tally → Built) : Nat → Built → Built
  | 0, b => b
  | count + 1, b => if b.tally.fits then rounds part count (part b.linked) else b

def exactly (part : Tally → Built) (count : Nat) (t : Tally) : Built :=
  match count with
  | 0 => state t
  | count + 1 => rounds part count (part t)

def optional (part : Tally → Built) (t : Tally) : Built := part ((t.add 1 0).link 2)

-- A repetition. A part that may be empty has a fork of its own before the one behind it.
def loop (part : Tally → Built) (consumes : Bool) (low : Nat) (high : Option Nat) (t : Tally) :
    Built :=
  match low,high with
  | 0,some 1 => state (optional part t).linked
  | 0,none =>
      if consumes then ⟨(part ((t.add 1 0).link 1)).linked,true⟩
      else ⟨((part t).linked.add 3 0).link 4,false⟩
  | low,none => ⟨((exactly part low t).linked.add 1 0).link 1,true⟩
  | low,some high =>
      if low = high then exactly part low t
      else
        let required := exactly part low t
        let start : Built := { required with tally := required.tally.add 1 0 }
        ⟨(rounds (optional part) (high - low) start).linked,false⟩

-- The part as a branch of a choice, behind as many others. The fork before the branches
-- and the state behind them come after the second one.
def branch (b : Built) (others : Option Nat) : Built :=
  match others with
  | none => b
  | some others => ⟨(b.linked.link 1).add (if others = 1 then 2 else 0) 0,false⟩

end Built

def Node.word? : Node → Option (List Char)
  | .literal text => some text
  | _ => none

def wordBytes (text : List Char) : List Nat := text.flatMap fun c => bytesOf c.toNat

-- The machine for a node. A node that goes on with a choice is told how many branches
-- there are before it.
def Node.build (back : Bool) : Node → Option Nat → Tally → Built
  | .empty, others, t | .anchor _, others, t => (Built.state t).branch others
  | .literal text, others, t =>
      Built.branch ⟨t.add (text.foldl (fun total c => total + c.utf8Size) 0) 0,false⟩ others
  | .set s, others, t => Built.branch ⟨s.tally back t,false⟩ others
  | .group _ _ body, others, t =>
      if back then (body.build back none t).branch others
      else (Built.state (body.build back none (t.add 1 0)).linked).branch others
  | .seq a b, others, t =>
      if back then (a.build back none (b.build back none t).linked).branch others
      else (b.build back none (a.build back none t).linked).branch others
  | .loop low high _ body, others, t =>
      (Built.loop (body.build back none) body.consumes low high t).branch others
  | .alt a b, others, t =>
      match if others.isNone then (a.branches ++ b.branches).mapM Node.word? else none with
      | some words =>
          let words := words.map wordBytes
          let words := if back then words.map List.reverse else words
          ⟨spell ((words.map List.length).foldl max 0 + 1) words (t.add 1 0),false⟩
      | none =>
          let before := others.getD 0
          b.build back (some (before + 1)) ((a.build back none t).branch (some before)).tally

def Node.startsWith (anchor : Anchor) : Node → Bool
  | .anchor a => a = anchor
  | .empty | .literal _ | .set _ => false
  | .group _ _ body => body.startsWith anchor
  | .seq a b => a.startsWith anchor || a.onlyEmpty && b.startsWith anchor
  | .alt a b => a.startsWith anchor && b.startsWith anchor
  | .loop low _ _ body => 0 < low && body.startsWith anchor

def Node.endsWith (anchor : Anchor) : Node → Bool
  | .anchor a => a = anchor
  | .empty | .literal _ | .set _ => false
  | .group _ _ body => body.endsWith anchor
  | .seq a b => b.endsWith anchor || b.onlyEmpty && a.endsWith anchor
  | .alt a b => a.endsWith anchor && b.endsWith anchor
  | .loop low _ _ body => 0 < low && body.endsWith anchor

-- A machine that is not bound to the end of the text where it starts skips what comes
-- before a match.
def Node.tally (root : Node) (back : Bool) : Tally :=
  let anchored := if back then root.endsWith .textEnd else root.startsWith .textStart
  let start : Tally := if anchored then ⟨1,0⟩ else (Tally.table ⟨2,0⟩ 1).link 2
  if back then (root.build back none start).linked.add 1 0
  else (root.build back none (start.add 1 0)).linked.add 2 0

def Node.isWordList (root : Node) : Bool :=
  3000 ≤ root.branches.length && root.branches.all (·.word?.isSome)

def Node.fits (root : Node) : Bool :=
  root.isWordList || (root.tally false).fits && (root.tally true).fits

end ScenarioSuite.Regex
