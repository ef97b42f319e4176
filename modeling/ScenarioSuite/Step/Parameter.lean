import ScenarioSuite.Numeral.Decimal
import ScenarioSuite.Numeral.Integer
import ScenarioSuite.Numeral.Shortest
import ScenarioSuite.Text.Character
import ScenarioSuite.Text.Replace

namespace ScenarioSuite

inductive Argument
  | int (value : Int64)
  | float (value : Float)
  | word (value : String)
  | str (value : String)
  | anonymous (value : String)
  | capture (value : Option String)
  deriving Repr

namespace Argument

def asInt? : Argument → Option Int64
  | int value => some value
  | _ => none

def asFloat? : Argument → Option Float
  | float value => some value
  | int value => some (Numeral.nearestFloat value.toInt)
  | _ => none

def asText? : Argument → Option String
  | word value | str value | anonymous value => some value
  | capture value => value
  | int _ | float _ => none

def display : Argument → String
  | int value => Numeral.integerText value
  | float value => Numeral.floatText value
  | word value | str value | anonymous value => value
  | capture value => value.getD ""

-- Equality as numbers have it: NaN differs from itself.
def same : Argument → Argument → Bool
  | int a, int b => a == b
  | float a, float b => a == b
  | word a, word b => a == b
  | str a, str b => a == b
  | anonymous a, anonymous b => a == b
  | capture a, capture b => a == b
  | _, _ => false

def inspected : Argument → String
  | int value => "Int(" ++ Numeral.integerText value ++ ")"
  | float value => "Float(" ++ Numeral.floatInspected value ++ ")"
  | word value => "Word(" ++ Text.quoted value ++ ")"
  | str value => "Str(" ++ Text.quoted value ++ ")"
  | anonymous value => "Anonymous(" ++ Text.quoted value ++ ")"
  | capture (some value) => "Capture(Some(" ++ Text.quoted value ++ "))"
  | capture none => "Capture(None)"

end Argument

inductive Parameter
  | int
  | float
  | word
  | string
  | anonymous
  deriving DecidableEq, Repr

namespace Parameter

def name : Parameter → String
  | int => "int"
  | float => "float"
  | word => "word"
  | string => "string"
  | anonymous => ""

def all : List Parameter := [int,float,word,string,anonymous]

def ofName? (text : String) : Option Parameter := all.find? fun p => p.name == text

theorem ofName_name (p : Parameter) : ofName? p.name = some p := by
  cases p <;> decide

theorem name_of_ofName (text : String) (p : Parameter) (h : ofName? text = some p) :
    p.name = text := by
  have found := List.find?_some h
  simpa using found

def unquote? : List Char → Option (List Char)
  | q :: rest => if (q = '"' ∨ q = '\'') ∧ rest.getLast? = some q then some rest.dropLast else none
  | [] => none

-- Escaped double quotes first, escaped single quotes after them.
def unescape (text : List Char) : List Char :=
  Text.replace ['\\','\''] ['\''] (Text.replace ['\\','"'] ['"'] text)

-- The argument that a captured text stands for. `quoted` tells whether a string still
-- has its quotes.
def convert? (p : Parameter) (raw : String) (quoted : Bool) : Option Argument :=
  match p with
  | int => (Numeral.readInteger raw.toList).toOption.map .int
  | float => (Numeral.readDecimal raw.toList).toOption.map .float
  | word => some (.word raw)
  | anonymous => some (.anonymous raw)
  | string =>
      let inner := if quoted then unquote? raw.toList else some raw.toList
      inner.map fun text => .str (String.ofList (unescape text))

end Parameter

end ScenarioSuite
