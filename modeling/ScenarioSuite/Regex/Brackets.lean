import ScenarioSuite.Regex.Escape

namespace ScenarioSuite.Regex

-- What has been read, with the number of levels that its parts are nested in. The depth
-- is that of the text, and may be more than that of what the text comes to.
structure Nested (α : Type) where
  value : α
  depth : Nat
  deriving DecidableEq, Repr

namespace Nested

def flat (value : α) : Nested α := ⟨value,0⟩

def within (x : Nested α) (value : β) : Nested β := ⟨value,x.depth + 1⟩

-- Parts in a row make a level of their own, but a single part does not.
def ofParts (depths : List Nat) (value : β) : Nested β :=
  let deepest := depths.foldl max 0
  ⟨value,if depths.length ≤ 1 then deepest else deepest + 1⟩

def maxDepth : Nat := 250

end Nested

def namedSet? (name : List Char) : Option CharSet :=
  let letters : CharSet := .union (.range 'A' 'Z') (.range 'a' 'z')
  match String.ofList name with
  | "alnum" => some (.union (.range '0' '9') letters)
  | "alpha" => some letters
  | "ascii" => some (.range '\x00' '\x7f')
  | "blank" => some (.union (.only '\t') (.only ' '))
  | "cntrl" => some (.union (.range '\x00' '\x1f') (.only '\x7f'))
  | "digit" => some (.range '0' '9')
  | "graph" => some (.range '!' '~')
  | "lower" => some (.range 'a' 'z')
  | "print" => some (.range ' ' '~')
  | "punct" =>
      some (.unions [.range '!' '/',.range ':' '@',.range '[' (Char.ofNat 0x60),
        .range '\x7b' '~'])
  | "space" => some (.union (.range '\t' '\r') (.only ' '))
  | "upper" => some (.range 'A' 'Z')
  | "word" => some (.unions [.range '0' '9',letters,.only '_'])
  | "xdigit" => some (.unions [.range '0' '9',.range 'A' 'F',.range 'a' 'f'])
  | _ => none

def readNamed (text : List Char) : Option (Bool × CharSet × List Char) :=
  match text with
  | ':' :: rest =>
      let (negated,rest) := match rest with
        | '^' :: rest => (true,rest)
        | rest => (false,rest)
      let (name,after) := rest.span (· != ':')
      match after with
      | ':' :: ']' :: after => (namedSet? name).map (negated,·,after)
      | _ => none
  | _ => none

def readMember (flags : Flags) (text : List Char) : Option (Element × List Char) :=
  match text with
  | '\\' :: rest => readEscape flags rest
  | c :: rest => some (.char c,rest)
  | [] => none

def memberChar? (flags : Flags) (e : Element) : Option Char :=
  (e.char? flags).filter fun c => flags.unicode || c.toNat < 128

def memberSet? (flags : Flags) : Element → Option CharSet
  | .set s => some s
  | element => (memberChar? flags element).map .only

-- The character that decides what a hyphen before it means. In a verbose pattern it may
-- stand behind blanks, but behind one number sign only.
def behindHyphen? (flags : Flags) (text : List Char) : Option Char :=
  if flags.verbose then
    match text.dropWhile Text.isBlank with
    | '#' :: rest => (rest.dropWhile Text.isBlank).head?
    | rest => rest.head?
  else text.head?

def readInterval (flags : Flags) (text : List Char) : Option (CharSet × List Char) := do
  let (first,rest) ← readMember flags text
  let single (rest : List Char) : Option (CharSet × List Char) :=
    (memberSet? flags first).map (·,rest)
  match flags.skip rest with
  | [] => none
  | '-' :: more =>
      match behindHyphen? flags more with
      | some ']' | some '-' => single ('-' :: more)
      | _ => do
          let (last,after) ← readMember flags (flags.skip more)
          let low ← memberChar? flags first
          let high ← memberChar? flags last
          if low ≤ high then some (.range low high,after) else none
  | rest => single rest

inductive SetOperator
  | inter
  | diff
  | symmDiff
  deriving DecidableEq, Repr

def SetOperator.apply : SetOperator → CharSet → CharSet → CharSet
  | inter => CharSet.inter
  | diff => CharSet.diff
  | symmDiff => CharSet.symmDiff

-- Brackets that are still open: whether they are negated, the operand that waits for the
-- members being read, and these members, the last one first.
structure OpenSet where
  negated : Bool
  operand : Option (SetOperator × Nested CharSet)
  members : List (Nested CharSet)
  deriving DecidableEq, Repr

namespace OpenSet

def add (o : OpenSet) (s : Nested CharSet) : OpenSet := { o with members := s :: o.members }

-- Both operands lose their case before the operator looks at them.
def value (flags : Flags) (o : OpenSet) : Nested CharSet :=
  let members : Nested CharSet :=
    .ofParts (o.members.map Nested.depth) (.unions (o.members.map Nested.value))
  match o.operand with
  | none => members
  | some (op,left) =>
      ⟨op.apply (flags.fold left.value) (flags.fold members.value),
        max left.depth members.depth + 1⟩

def apply (flags : Flags) (o : OpenSet) (op : SetOperator) : OpenSet :=
  { o with operand := some (op,o.value flags), members := [] }

def close (flags : Flags) (o : OpenSet) : Option (Nested CharSet) :=
  let inside := o.value flags
  (flags.settled o.negated inside.value).map inside.within

end OpenSet

def readOpening (flags : Flags) (text : List Char) : OpenSet × List Char :=
  let (negated,rest) := match flags.skip text with
    | '^' :: rest => (true,flags.skip rest)
    | rest => (false,rest)
  match flags.run (· == '-') rest with
  | ([],']' :: rest) => (⟨negated,none,[.flat (.only ']')]⟩,rest)
  | (hyphens,rest) => (⟨negated,none,hyphens.map fun c => .flat (.only c)⟩,rest)

-- The text behind an opening bracket, up to the bracket that closes it; `outer` holds the
-- brackets around it, the innermost first. Every call consumes a character, so the length
-- of the text bounds their number.
def readMembers (flags : Flags) (current : OpenSet) (outer : List OpenSet) :
    Nat → List Char → Option (Nested CharSet × List Char)
  | 0, _ => none
  | fuel + 1, text =>
      match flags.skip text with
      | [] => none
      | ']' :: rest => do
          let s ← current.close flags
          match outer with
          | [] => some (s,rest)
          | parent :: outer => readMembers flags (parent.add s) outer fuel rest
      | '&' :: '&' :: rest => readMembers flags (current.apply flags .inter) outer fuel rest
      | '-' :: '-' :: rest => readMembers flags (current.apply flags .diff) outer fuel rest
      | '~' :: '~' :: rest => readMembers flags (current.apply flags .symmDiff) outer fuel rest
      | '[' :: rest =>
          match readNamed rest with
          | some (negated,s,after) => do
              let s ← flags.settled negated s
              readMembers flags (current.add (.flat s)) outer fuel after
          | none =>
              let (inner,after) := readOpening flags rest
              readMembers flags inner (current :: outer) fuel after
      | text => do
          let (s,after) ← readInterval flags text
          readMembers flags (current.add (.flat s)) outer fuel after

def readBrackets (flags : Flags) (fuel : Nat) (text : List Char) :
    Option (Nested CharSet × List Char) :=
  let (start,inner) := readOpening flags text
  readMembers flags start [] (fuel + 1) inner

end ScenarioSuite.Regex
