import ScenarioSuite.Expression.Parser
import ScenarioSuite.Regex.Size
import ScenarioSuite.Step.Parameter

namespace ScenarioSuite

open Regex

namespace Parameter

-- The regular expression of a parameter. A string has one group for each kind of
-- quotes, named after the place of the parameter among all of the expression.
def pattern (p : Parameter) (index : Nat) : String :=
  match p with
  | int => "((?:-?\\d+)|(?:\\d+))"
  | float => "([+-]?(?:inf|NaN|(?:\\d+|\\d+\\.\\d*|\\d*\\.\\d+)(?:[eE][+-]?\\d+)?))"
  | word => "([^\\s]+)"
  | anonymous => "(.*)"
  | string =>
      "(?:\"(?P<__" ++ toString index ++ "_0>[^\"\\\\]*(?:\\\\.[^\"\\\\]*)*)\"|'(?P<__" ++
        toString index ++ "_1>[^'\\\\]*(?:\\\\.[^'\\\\]*)*)')"

def zeroOrMore (n : Node) : Node := .repeated 0 none true n

def oneOrMore (n : Node) : Node := .repeated 1 none true n

def optionally (n : Node) : Node := .repeated 0 (some 1) true n

def chars (text : String) : Node := .literal text.toList

def digits : Node := oneOrMore (.set .digit)

def sign : Node := optionally (.set (.union (.only '+') (.only '-')))

def notNewline : Node := .set (.compl (.only '\n'))

def quotedText (q : Char) (number : Nat) (name : String) : Node :=
  let inside := zeroOrMore (.set (.compl (.union (.only q) (.only '\\'))))
  let escaped := zeroOrMore (.concat [chars "\\",notNewline,inside])
  .concat [.literal [q],.group number (some name) (.concat [inside,escaped]),.literal [q]]

def groupCount : Parameter → Nat
  | int | float | word | anonymous => 1
  | string => 2

def node (p : Parameter) (index groups : Nat) : Node :=
  match p with
  | int =>
      .group (groups + 1) none (.oneOf [.concat [optionally (chars "-"),digits],digits])
  | float =>
      let whole := zeroOrMore (.set .digit)
      let fraction := .oneOf [digits,.concat [digits,chars ".",whole],
        .concat [whole,chars ".",digits]]
      let exponent := optionally (.concat [.set (.union (.only 'e') (.only 'E')),sign,digits])
      .group (groups + 1) none
        (.concat [sign,.oneOf [chars "inf",chars "NaN",.concat [fraction,exponent]]])
  | word => .group (groups + 1) none (oneOrMore (.set (.compl .blank)))
  | anonymous => .group (groups + 1) none (zeroOrMore notNewline)
  | string =>
      .oneOf [quotedText '"' (groups + 1) ("__" ++ toString index ++ "_0"),
        quotedText '\'' (groups + 2) ("__" ++ toString index ++ "_1")]

end Parameter

namespace Expression

def unescaped : List Char → List Char
  | '\\' :: c :: rest => c :: unescaped rest
  | c :: rest => c :: unescaped rest
  | [] => []

def special (c : Char) : Bool :=
  ['^','$','[',']','(',')','\\','\x7b','\x7d','.','|','?','*','+'].contains c

def literalPattern (raw : List Char) : List Char :=
  (unescaped raw).flatMap fun c => if special c then ['\\',c] else [c]

def literalNode (raw : List Char) : Node := .concat [.literal (unescaped raw)]

def optionalPattern (raw : List Char) : List Char :=
  "(?:".toList ++ literalPattern raw ++ ")?".toList

def optionalNode (raw : List Char) : Node := .repeated 0 (some 1) true (literalNode raw)

def Alternative.pattern : Alternative → List Char
  | .text raw => literalPattern raw
  | .optional raw => optionalPattern raw

def Alternative.node : Alternative → Node
  | .text raw => literalNode raw
  | .optional raw => optionalNode raw

inductive Piece
  | plain (pattern : List Char) (node : Node)
  | typed (parameter : Parameter) (index groups : Nat)
  deriving DecidableEq, Repr

def Piece.pattern : Piece → List Char
  | .plain pattern _ => pattern
  | .typed p index _ => (p.pattern index).toList

def Piece.node : Piece → Node
  | .plain _ node => node
  | .typed p index groups => p.node index groups

def Part.plain : Part → Piece
  | .text raw => .plain (literalPattern raw) (literalNode raw)
  | .blanks count => .plain (List.replicate count ' ') (literalNode (List.replicate count ' '))
  | .optional raw => .plain (optionalPattern raw) (optionalNode raw)
  | .alternation branches =>
      .plain ("(?:".toList ++ ['|'].intercalate (branches.map (·.flatMap Alternative.pattern)) ++ [')'])
        (.oneOf (branches.map fun branch => .concat (branch.map Alternative.node)))
  | .parameter name => .plain name .empty

def pieces (index groups : Nat) : List Part → Except Fault (List Piece)
  | [] => .ok []
  | .parameter name :: rest =>
      match Parameter.ofName? (String.ofList name) with
      | none => .error (.unknownParameter name)
      | some p =>
          (pieces (index + 1) (groups + p.groupCount) rest).map (.typed p index groups :: ·)
  | part :: rest => (pieces index groups rest).map (part.plain :: ·)

def assemble (pieces : List Piece) : Regex :=
  ⟨String.ofList ('^' :: pieces.flatMap Piece.pattern ++ ['$']),
    .concat (.anchor .textStart :: pieces.map Piece.node ++ [.anchor .textEnd])⟩

def toRegex (source : String) : Except Fault Regex := do
  let parts ← parse source.toList
  let re := assemble (← pieces 0 0 parts)
  if re.root.fits then .ok re else .error .tooLarge

end Expression

end ScenarioSuite
