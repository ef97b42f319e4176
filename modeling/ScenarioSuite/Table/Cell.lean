import ScenarioSuite.Numeral.Decimal
import ScenarioSuite.Numeral.Shortest
import ScenarioSuite.Text.Ranges

namespace ScenarioSuite

inductive Cell
  | text (value : String)
  | int (value : Int64)
  | float (value : Float)
  | bool (value : Bool)
  deriving Repr

namespace Cell

def readInt (raw : String) : Except String Cell :=
  ((Numeral.readInteger (Text.trim raw.toList)).map int).mapError Numeral.IntegerError.message

def readFloat (raw : String) : Except String Cell :=
  ((Numeral.readDecimal (Text.trim raw.toList)).map float).mapError Numeral.DecimalError.message

def readBool (raw : String) : Except String Cell :=
  let word := String.ofList ((Text.trim raw.toList).map Char.toLower)
  if word = "true" ∨ word = "yes" then .ok (bool true)
  else if word = "false" ∨ word = "no" then .ok (bool false)
  else .error ("`" ++ word ++ "` is not a boolean")

def display : Cell → String
  | text value => value
  | int value => Numeral.integerText value
  | float value => Numeral.floatText value
  | bool value => if value then "true" else "false"

end Cell

end ScenarioSuite
