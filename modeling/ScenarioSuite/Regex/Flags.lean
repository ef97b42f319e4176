import ScenarioSuite.Regex.Shape

namespace ScenarioSuite.Regex

structure Flags where
  ignoreCase : Bool := false
  multiLine : Bool := false
  dotAll : Bool := false
  swapGreed : Bool := false
  crlf : Bool := false
  verbose : Bool := false
  unicode : Bool := true
  deriving DecidableEq, Repr

namespace Flags

def set (flags : Flags) (letter : Char) (value : Bool) : Option Flags :=
  match letter with
  | 'i' => some { flags with ignoreCase := value }
  | 'm' => some { flags with multiLine := value }
  | 's' => some { flags with dotAll := value }
  | 'U' => some { flags with swapGreed := value }
  | 'R' => some { flags with crlf := value }
  | 'x' => some { flags with verbose := value }
  | 'u' => some { flags with unicode := value }
  | _ => none

def skipComments (inComment : Bool) : List Char → List Char
  | [] => []
  | c :: rest =>
      if inComment then skipComments (c != '\n') rest
      else if Text.isBlank c then skipComments false rest
      else if c = '#' then skipComments true rest
      else c :: rest

def skip (flags : Flags) (text : List Char) : List Char :=
  if flags.verbose then skipComments false text else text

theorem skipComments_length (inComment : Bool) (text : List Char) :
    (skipComments inComment text).length ≤ text.length := by
  fun_induction skipComments inComment text <;> simp_all <;> omega

theorem skip_length (flags : Flags) (text : List Char) :
    (flags.skip text).length ≤ text.length := by
  unfold skip
  split
  · exact skipComments_length false text
  · exact Nat.le_refl _

def run (flags : Flags) (accept : Char → Bool) : List Char → List Char × List Char
  | [] => ([],[])
  | c :: rest =>
      if accept c then
        let (kept,after) := run flags accept (flags.skip rest)
        (c :: kept,after)
      else ([],c :: rest)
  termination_by text => text.length
  decreasing_by exact Nat.lt_succ_of_le (flags.skip_length rest)

def checked (flags : Flags) (s : CharSet) : Option CharSet :=
  if flags.unicode || s.isAscii then some s else none

def fold (flags : Flags) (s : CharSet) : CharSet :=
  if flags.ignoreCase then if flags.unicode then s.folded else s.asciiFolded else s

-- A set as its brackets make it: case comes before the negation.
def settled (flags : Flags) (negated : Bool) (s : CharSet) : Option CharSet :=
  flags.checked (if negated then (flags.fold s).compl else flags.fold s)

def digit (flags : Flags) : CharSet :=
  if flags.unicode then .digit else .range '0' '9'

def blank (flags : Flags) : CharSet :=
  if flags.unicode then .blank else .unions [.range '\t' '\r',.only ' ']

def word (flags : Flags) : CharSet :=
  if flags.unicode then .word
  else .unions [.range '0' '9',.range 'A' 'Z',.only '_',.range 'a' 'z']

def dot (flags : Flags) : Option CharSet :=
  if !flags.unicode then none
  else if flags.dotAll then some .everything
  else if flags.crlf then some (CharSet.unions [.only '\r',.only '\n']).compl
  else some (CharSet.only '\n').compl

def lineStart (flags : Flags) : Anchor :=
  if flags.multiLine then .lineStart flags.crlf else .textStart

def lineEnd (flags : Flags) : Anchor := if flags.multiLine then .lineEnd flags.crlf else .textEnd

def wordEdge (flags : Flags) (edge : WordEdge) : Anchor := .word edge (!flags.unicode)

-- A character outside brackets. Without Unicode, one beyond ASCII has no case.
def literal (flags : Flags) (c : Char) : Node :=
  if flags.ignoreCase && (flags.unicode || c.toNat < 128) then (flags.fold (.only c)).node
  else .literal [c]

end Flags

end ScenarioSuite.Regex
