import ScenarioSuite.Regex.Flags
import ScenarioSuite.Text.Property.Named

namespace ScenarioSuite.Regex

-- What one element outside or inside brackets stands for. A `byte` is a character written
-- as two hexadecimal digits.
inductive Element
  | char (c : Char)
  | byte (c : Char)
  | set (s : CharSet)
  | anchor (a : Anchor)
  deriving DecidableEq, Repr

def Element.char? (flags : Flags) : Element → Option Char
  | .char c => some c
  | .byte c => if flags.unicode || c.toNat < 128 then some c else none
  | .set _ | .anchor _ => none

def Element.node? (flags : Flags) : Element → Option Node
  | .set s => some s.node
  | .anchor a => some (.anchor a)
  | element => (element.char? flags).map flags.literal

def hexValue? (c : Char) : Option Nat :=
  if '0' ≤ c ∧ c ≤ '9' then some (c.toNat - '0'.toNat)
  else if 'a' ≤ c ∧ c ≤ 'f' then some (c.toNat - 'a'.toNat + 10)
  else if 'A' ≤ c ∧ c ≤ 'F' then some (c.toNat - 'A'.toNat + 10)
  else none

def hexNat? (digits : List Char) : Option Nat :=
  if digits = [] then none
  else digits.foldlM (fun n c => (hexValue? c).map fun d => 16 * n + d) 0

def scalar? (n : Nat) : Option Char := if h : n.isValidChar then some (Char.ofNatAux n h) else none

def readBraced (flags : Flags) (text : List Char) : Option (List Char × List Char) :=
  match flags.run (· != '\x7d') (flags.skip text) with
  | (inside,_ :: rest) => some (inside,rest)
  | _ => none

def readFixed (flags : Flags) : Nat → List Char → Option (List Char × List Char)
  | 0, text => some ([],text)
  | count + 1, text =>
      match flags.skip text with
      | c :: rest => (readFixed flags count rest).map fun (more,after) => (c :: more,after)
      | [] => none

def readHex (flags : Flags) (size : Nat) (text : List Char) : Option (Element × List Char) :=
  match flags.skip text with
  | '\x7b' :: rest => do
      let (digits,after) ← readBraced flags rest
      some (.char (← scalar? (← hexNat? digits)),after)
  | text => do
      let (digits,after) ← readFixed flags size text
      let c ← scalar? (← hexNat? digits)
      some (if size = 2 then .byte c else .char c,after)

-- The property between the braces. The first mark that is found parts it from a value;
-- all three mean the same.
def namedProperty? (inside : List Char) : Option Text.Ranges :=
  let parts (mark : List Char) : Option (List Char × List Char) :=
    ((List.range inside.length).find? fun i => mark.isPrefixOf (inside.drop i)).map fun i =>
      (inside.take i,inside.drop (i + mark.length))
  match ((parts ['!','=']).or (parts [':'])).or (parts ['=']) with
  | some (name,value) => Text.Property.ofValue? name value
  | none => Text.Property.ofName? inside

def readProperty (flags : Flags) (negated : Bool) (text : List Char) :
    Option (Element × List Char) := do
  let (name,rest) ← match flags.skip text with
    | '\x7b' :: rest => readBraced flags rest
    | '\\' :: _ | [] => none
    | c :: rest => some ([c],rest)
  let ranges ← namedProperty? name
  if flags.unicode then some (.set (← flags.settled negated ⟨ranges⟩),rest) else none

def boundaryNamed? (name : List Char) : Option WordEdge :=
  match String.ofList name with
  | "start" => some .start
  | "end" => some .stop
  | "start-half" => some .startHalf
  | "end-half" => some .stopHalf
  | _ => none

-- A word boundary may be followed by its kind in braces; braces that do not start
-- like a kind are a repetition.
def readBoundary (flags : Flags) (text : List Char) : Option (Element × List Char) :=
  let plain : Option (Element × List Char) := some (.anchor (flags.wordEdge .boundary),text)
  match text with
  | '\x7b' :: rest =>
      match flags.run (fun c => c.isAlpha || c == '-') (flags.skip rest) with
      | ([],[]) => none
      | ([],_) => plain
      | (name,'\x7d' :: after) =>
          (boundaryNamed? name).map fun edge => (.anchor (flags.wordEdge edge),after)
      | _ => none
  | _ => plain

def escapesItself (c : Char) : Bool := c.toNat < 128 && !c.isAlphanum && c != '<' && c != '>'

def readEscape (flags : Flags) (text : List Char) : Option (Element × List Char) :=
  let negated (s : CharSet) (rest : List Char) : Option (Element × List Char) :=
    (flags.checked s.compl).map fun s => (.set s,rest)
  let edge (e : WordEdge) (rest : List Char) : Option (Element × List Char) :=
    some (.anchor (flags.wordEdge e),rest)
  match text with
  | [] => none
  | 'd' :: rest => some (.set flags.digit,rest)
  | 'D' :: rest => negated flags.digit rest
  | 's' :: rest => some (.set flags.blank,rest)
  | 'S' :: rest => negated flags.blank rest
  | 'w' :: rest => some (.set flags.word,rest)
  | 'W' :: rest => negated flags.word rest
  | 'p' :: rest => readProperty flags false rest
  | 'P' :: rest => readProperty flags true rest
  | 'a' :: rest => some (.char '\x07',rest)
  | 'f' :: rest => some (.char '\x0c',rest)
  | 't' :: rest => some (.char '\t',rest)
  | 'n' :: rest => some (.char '\n',rest)
  | 'r' :: rest => some (.char '\r',rest)
  | 'v' :: rest => some (.char '\x0b',rest)
  | 'A' :: rest => some (.anchor .textStart,rest)
  | 'z' :: rest => some (.anchor .textEnd,rest)
  | 'b' :: rest => readBoundary flags rest
  | 'B' :: rest => edge .noBoundary rest
  | '<' :: rest => edge .start rest
  | '>' :: rest => edge .stop rest
  | 'x' :: rest => readHex flags 2 rest
  | 'u' :: rest => readHex flags 4 rest
  | 'U' :: rest => readHex flags 8 rest
  | c :: rest => if escapesItself c then some (.char c,rest) else none

end ScenarioSuite.Regex
