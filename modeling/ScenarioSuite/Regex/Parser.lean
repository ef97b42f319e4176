import ScenarioSuite.Numeral.Integer
import ScenarioSuite.Regex.Brackets
import ScenarioSuite.Regex.Size
import ScenarioSuite.Text.Character

namespace ScenarioSuite.Regex

def readCount (flags : Flags) (text : List Char) : Option (Nat × List Char) := do
  let text := text.dropWhile Text.isBlank
  let (digits,rest) := flags.run (fun c => (Numeral.digitValue? c).isSome) text
  let (_,rest) := flags.run Text.isBlank rest
  if digits = [] then none
  else
    let n ← Numeral.digitsValue? 0 digits
    if n < UInt32.size then some (n,rest) else none

def readBounds (flags : Flags) (text : List Char) : Option (Nat × Option Nat × List Char) := do
  let (low,rest) ← readCount flags (flags.skip text)
  match rest with
  | '\x7d' :: rest => some (low,some low,rest)
  | ',' :: rest =>
      match flags.skip rest with
      | '\x7d' :: rest => some (low,none,rest)
      | rest => do
          let (high,rest) ← readCount flags rest
          match rest with
          | '\x7d' :: rest => if low ≤ high then some (low,some high,rest) else none
          | _ => none
  | _ => none

-- A group that is still open: its number and name if it captures, the settings to return
-- to, its finished branches and the elements of the current one, last first. A setting
-- takes the place of an element that is not there to be repeated.
structure Open where
  capture : Option (Nat × Option String)
  outer : Flags
  branches : List (Nested Node)
  elements : List (Option (Nested Node))
  deriving DecidableEq, Repr

namespace Open

def branch (o : Open) : Nested Node :=
  let elements := o.elements.reverse
  .ofParts (elements.map fun e => (e.map Nested.depth).getD 0)
    (Node.concat (elements.filterMap (·.map Nested.value)))

def body (o : Open) : Nested Node :=
  let branches := (o.branch :: o.branches).reverse
  .ofParts (branches.map Nested.depth) (Node.oneOf (branches.map Nested.value))

def close (o : Open) : Nested Node :=
  let body := o.body
  body.within <| match o.capture with
    | some (number,name) => .group number name body.value
    | none => body.value

def push (o : Open) (n : Nested Node) : Open := { o with elements := some n :: o.elements }

def pushSetting (o : Open) : Open := { o with elements := none :: o.elements }

def nextBranch (o : Open) : Open := { o with branches := o.branch :: o.branches, elements := [] }

def repeatLast (o : Open) (low : Nat) (high : Option Nat) (greedy : Bool) : Option Open :=
  match o.elements with
  | some n :: rest =>
      some { o with elements := some (n.within (n.value.repeated low high greedy)) :: rest }
  | _ => none

end Open

-- Names and numbers are given out even to groups that cannot take part.
structure State where
  flags : Flags
  current : Open
  outer : List Open
  groups : Nat
  names : List String
  deriving DecidableEq, Repr

namespace State

def start : State := ⟨{},⟨none,{},[],[]⟩,[],0,[]⟩

def push (s : State) (n : Nested Node) : State := { s with current := s.current.push n }

def enter (s : State) (capture : Option (Nat × Option String)) (flags : Flags) : State :=
  { s with flags, current := ⟨capture,s.flags,[],[]⟩, outer := s.current :: s.outer }

def enterGroup (s : State) : State :=
  { s.enter (some (s.groups + 1,none)) s.flags with groups := s.groups + 1 }

def enterNamed (s : State) (name : String) : Option State :=
  if s.names.contains name then none
  else some { s.enter (some (s.groups + 1,some name)) s.flags with
    groups := s.groups + 1, names := name :: s.names }

def leave (s : State) : Option State :=
  match s.outer with
  | parent :: rest =>
      let current := parent.push s.current.close
      some { s with flags := s.current.outer, current, outer := rest }
  | [] => none

def loop (s : State) (low : Nat) (high : Option Nat) (text : List Char) :
    Option (State × List Char) :=
  let (lazyMark,rest) := match text with
    | '?' :: rest => (true,rest)
    | rest => (false,rest)
  (s.current.repeatLast low high (lazyMark == s.flags.swapGreed)).map fun o =>
    ({ s with current := o },rest)

end State

def nameStart (c : Char) : Bool := c == '_' || Text.isLetter c

def namePart (c : Char) : Bool :=
  nameStart c || Text.isNumber c || c == '.' || c == '[' || c == ']'

def readName (text : List Char) : Option (String × List Char) :=
  let (name,rest) := text.span (· != '>')
  match name,rest with
  | c :: more,_ :: rest =>
      if nameStart c && more.all namePart then some (String.ofList name,rest) else none
  | _,_ => none

-- The letters of `(?…)` with the settings they lead to; no letter comes twice, and a
-- hyphen turns the ones behind it off. Ends before the colon or parenthesis.
def readFlags (negated : Option Bool) (seen : List Char) (flags : Flags) :
    List Char → Option (Flags × List Char)
  | [] => none
  | '-' :: rest => if negated.isNone then readFlags (some true) seen flags rest else none
  | c :: rest =>
      if c = ':' ∨ c = ')' then
        if negated = some true then none else some (flags,c :: rest)
      else if seen.contains c then none
      else match flags.set c negated.isNone with
        | some flags => readFlags (negated.map fun _ => false) (c :: seen) flags rest
        | none => none

def readGroup (s : State) (text : List Char) : Option (State × List Char) :=
  match s.flags.skip text with
  | '?' :: 'P' :: '<' :: rest | '?' :: '<' :: rest => do
      let (name,rest) ← readName rest
      (s.enterNamed name).map (·,rest)
  | '?' :: ')' :: _ => none
  | '?' :: rest => do
      let (flags,rest) ← readFlags none [] s.flags rest
      match rest with
      | ':' :: rest => some (s.enter none flags,rest)
      | _ :: rest => some ({ s with flags, current := s.current.pushSetting },rest)
      | [] => none
  | rest => some (s.enterGroup,rest)

def State.step (s : State) (fuel : Nat) (text : List Char) : Option (State × List Char) :=
  let flat (n : Node) : State := s.push (.flat n)
  match text with
  | [] => none
  | '(' :: rest => readGroup s rest
  | ')' :: rest => s.leave.map (·,rest)
  | '|' :: rest => some ({ s with current := s.current.nextBranch },rest)
  | '*' :: rest => s.loop 0 none rest
  | '+' :: rest => s.loop 1 none rest
  | '?' :: rest => s.loop 0 (some 1) rest
  | '\x7b' :: rest => do
      let (low,high,rest) ← readBounds s.flags rest
      s.loop low high (s.flags.skip rest)
  | '[' :: rest =>
      (readBrackets s.flags fuel rest).map fun (set,rest) =>
        (s.push ⟨set.value.node,set.depth⟩,rest)
  | '.' :: rest => s.flags.dot.map fun set => (flat set.node,rest)
  | '^' :: rest => some (flat (.anchor s.flags.lineStart),rest)
  | '$' :: rest => some (flat (.anchor s.flags.lineEnd),rest)
  | '\\' :: rest => do
      let (element,rest) ← readEscape s.flags rest
      (element.node? s.flags).map fun node => (flat node,rest)
  | c :: rest => some (flat (s.flags.literal c),rest)

-- Every step consumes a character, so the length of the text bounds their number.
def State.run : Nat → State → List Char → Option (Nested Node)
  | 0, _, _ => none
  | fuel + 1, s, text =>
      match s.flags.skip text with
      | [] => if s.outer.isEmpty then some s.current.body else none
      | text => do
          let (s,rest) ← s.step (fuel + 1) text
          State.run fuel s rest

end ScenarioSuite.Regex

namespace ScenarioSuite

open Regex

def Regex.ofSource? (source : String) : Option Regex :=
  match State.run (source.length + 1) .start source.toList with
  | some root =>
      if root.depth ≤ Nested.maxDepth && root.value.fits then some ⟨source,root.value⟩ else none
  | none => none

end ScenarioSuite
