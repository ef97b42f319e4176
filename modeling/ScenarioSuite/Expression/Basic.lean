namespace ScenarioSuite.Expression

def reserved (c : Char) : Bool :=
  c == '\x7b' || c == '\x7d' || c == '(' || c == ')' || c == '\\' || c == '/' || c == ' '

-- One member of a branch of an alternation. Texts keep their backslashes.
inductive Alternative
  | text (raw : List Char)
  | optional (raw : List Char)
  deriving DecidableEq, Repr

inductive Part
  | text (raw : List Char)
  | blanks (count : Nat)
  | optional (raw : List Char)
  | alternation (branches : List (List Alternative))
  | parameter (name : List Char)
  deriving DecidableEq, Repr

def Alternative.isOptional : Alternative → Bool
  | .text _ => false
  | .optional _ => true

def Alternative.source : Alternative → List Char
  | .text raw => raw
  | .optional raw => '(' :: raw ++ [')']

def branchSource (branch : List Alternative) : List Char := branch.flatMap Alternative.source

def Part.source : Part → List Char
  | .text raw => raw
  | .blanks count => List.replicate count ' '
  | .optional raw => '(' :: raw ++ [')']
  | .alternation branches => ['/'].intercalate (branches.map branchSource)
  | .parameter name => '\x7b' :: name ++ ['\x7d']

def Part.parameter? : Part → Option (List Char)
  | .parameter name => some name
  | _ => none

def parameterNames (parts : List Part) : List (List Char) := parts.filterMap Part.parameter?

inductive Flaw
  | nestedParameter
  | optionalInParameter
  | unfinishedParameter
  | nestedOptional
  | parameterInOptional
  | emptyOptional
  | alternationInOptional
  | unfinishedOptional
  | emptyAlternation
  | onlyOptionalInAlternation
  | unescapedReserved
  | escapedNonReserved
  | escapedEnd
  deriving DecidableEq, Repr

def Flaw.explanation : Flaw → String
  | .nestedParameter =>
      "A parameter may not contain an other parameter.\nIf you did not mean to use an optional type you can use '\\\x7b' to escape the '\x7b'. For more complicated expressions consider using a regular expression instead."
  | .optionalInParameter =>
      "A parameter may not contain an optional.\nIf you did not mean to use an parameter type you can use '\\(' to escape the '('."
  | .unfinishedParameter =>
      "The '\x7b' does not have a matching '\x7d'.\nIf you did not intend to use a parameter you can use '\\\x7b' to escape the '\x7b'."
  | .nestedOptional =>
      "An optional may not contain an other optional.\nIf you did not mean to use an optional type you can use '\\(' to escape the '('. For more complicated expressions consider using a regular expression instead."
  | .parameterInOptional =>
      "An optional may not contain a parameter.\nIf you did not mean to use an parameter type you can use '\\\x7b' to escape the '\x7b'."
  | .emptyOptional =>
      "An optional must contain some text.\nIf you did not mean to use an optional you can use '\\(' to escape the '('."
  | .alternationInOptional =>
      "An alternation can not be used inside an optional.\nYou can use '\\/' to escape the '/'."
  | .unfinishedOptional =>
      "The '(' does not have a matching ')'.\nIf you did not intend to use an optional you can use '\\(' to escape the '('."
  | .emptyAlternation =>
      "An alternation can not be empty.\nIf you did not mean to use an alternative you can use '\\/' to escape the '/'."
  | .onlyOptionalInAlternation =>
      "An alternation may not exclusively contain optionals.\nIf you did not mean to use an optional you can use '\\(' to escape the '('."
  | .unescapedReserved => "Unescaped reserved character.\nYou can use an '\\' to escape it."
  | .escapedNonReserved =>
      "Only the characters '\x7b', '\x7d', '(', ')', '\\', '/' and whitespace can be escaped.\nIf you did mean to use an '\\' you can use '\\\\' to escape it."
  | .escapedEnd =>
      "The end of line can not be escaped.\nYou can use '\\' to escape the the ''."

inductive Fault
  | malformed (flaw : Flaw) (piece : List Char)
  | unknownParameter (name : List Char)
  | tooLarge
  deriving DecidableEq, Repr

def Fault.message : Fault → String
  | .malformed flaw piece => "Parsing failed: " ++ String.ofList piece ++ "\n" ++ flaw.explanation
  | .unknownParameter name =>
      "Failed to expand regex: Parameter `" ++ String.ofList name ++ "` not found."
  | .tooLarge => "Regex creation failed: Compiled regex exceeds size limit of 10485760 bytes."

end ScenarioSuite.Expression
