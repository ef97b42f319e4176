import ScenarioSuite.Numeral.Integer

namespace ScenarioSuite.Numeral

-- A finite double is `significand * 2 ^ exponent`, and every double of the exponent
-- range `lowestExponent` to 971 has a significand below `2 ^ 53`.
structure Binary64 where
  significand : Nat
  exponent : Int
  deriving DecidableEq, Repr

def lowestExponent : Int := -1074

structure Fraction where
  num : Nat
  den : Nat
  deriving DecidableEq, Repr

def Fraction.scale2 (f : Fraction) (e : Int) : Fraction :=
  if 0 ≤ e then ⟨f.num <<< e.toNat,f.den⟩ else ⟨f.num,f.den <<< (-e).toNat⟩

def Fraction.scale10 (f : Fraction) (e : Int) : Fraction :=
  if 0 ≤ e then ⟨f.num * Nat.pow 10 e.toNat,f.den⟩
  else ⟨f.num,f.den * Nat.pow 10 (-e).toNat⟩

def Fraction.floor (f : Fraction) : Nat := f.num / f.den

def Fraction.le (f g : Fraction) : Bool := f.num * g.den ≤ g.num * f.den

-- The nearest natural number, a half going to the even neighbour.
def Fraction.round (f : Fraction) : Nat :=
  let q := f.num / f.den
  let twice := 2 * (f.num % f.den)
  if twice < f.den then q
  else if f.den < twice then q + 1
  else if q % 2 == 0 then q else q + 1

-- The least exponent at which the number has a significand below `2 ^ 53`. The
-- lengths of numerator and denominator give it up to two steps.
def Fraction.binaryExponent (f : Fraction) : Int :=
  let guess := max ((f.num.log2 : Int) - f.den.log2 - 53) lowestExponent
  if (f.scale2 (-guess)).floor < 1 <<< 53 then guess
  else if (f.scale2 (-(guess + 1))).floor < 1 <<< 53 then guess + 1
  else guess + 2

def infinityBits : Nat := 0x7FF <<< 52

-- The bits of the double nearest to a positive number. A significand rounded up to
-- `2 ^ 53` carries into the exponent field, as it should.
def Fraction.nearestBits (f : Fraction) : Nat :=
  let e := f.binaryExponent
  let bits := (e - lowestExponent).toNat <<< 52 + (f.scale2 (-e)).round
  min bits infinityBits

def signedBits (negative : Bool) (bits : Nat) : Float :=
  Float.ofBits (UInt64.ofNat (if negative then bits + 1 <<< 63 else bits))

def nearestFloat (n : Int) : Float :=
  if n == 0 then signedBits false 0
  else signedBits (n < 0) (Fraction.nearestBits ⟨n.natAbs,1⟩)

inductive Magnitude
  | finite (value : Binary64)
  | infinite
  | notANumber
  deriving DecidableEq, Repr

def bitsSign (bits : Nat) : Bool := bits >>> 63 == 1

def bitsMagnitude (bits : Nat) : Magnitude :=
  let field : Nat := bits >>> 52 % 1 <<< 11
  let low : Nat := bits % 1 <<< 52
  if field == 0x7FF then (if low == 0 then .infinite else .notANumber)
  else if field == 0 then .finite ⟨low,lowestExponent⟩
  else .finite ⟨low + 1 <<< 52,lowestExponent + field - 1⟩

inductive DecimalError
  | empty
  | invalid
  deriving DecidableEq, Repr

def DecimalError.message : DecimalError → String
  | .empty => "cannot parse float from empty string"
  | .invalid => "invalid float literal"

inductive Decimal
  | infinite
  | notANumber
  | finite (digits : Nat) (exponent : Int)
  deriving DecidableEq, Repr

def isAsciiDigit (c : Char) : Bool := (digitValue? c).isSome

def digitsNat (digits : List Char) : Nat := (digitsValue? 0 digits).getD 0

def readExponent : List Char → Option Int
  | [] => some 0
  | mark :: rest =>
      if mark.toLower = 'e' then
        let (negative,digits) := match rest with
          | '-' :: digits => (true,digits)
          | '+' :: digits => (false,digits)
          | digits => (false,digits)
        if digits ≠ [] ∧ digits.all isAsciiDigit then
          some (if negative then -digitsNat digits else digitsNat digits)
        else none
      else none

def readUnsigned (text : List Char) : Option Decimal :=
  let word := String.ofList (text.map Char.toLower)
  if word == "inf" || word == "infinity" then some .infinite
  else if word == "nan" then some .notANumber
  else
    let (whole,rest) := text.span isAsciiDigit
    let (fraction,rest) := match rest with
      | '.' :: after => after.span isAsciiDigit
      | _ => ([],rest)
    if whole = [] ∧ fraction = [] then none
    else (readExponent rest).map fun e => .finite (digitsNat (whole ++ fraction)) (e - fraction.length)

-- Beyond these exponents of ten a value is infinite or zero whatever its digits are,
-- so no power of ten is computed there.
def decimalBits (digits : Nat) (exponent : Int) : Nat :=
  let lead := (Nat.toDigits 10 digits).length + exponent
  if digits = 0 ∨ lead < -400 then 0
  else if 400 < lead then infinityBits
  else Fraction.nearestBits (Fraction.scale10 ⟨digits,1⟩ exponent)

def Decimal.bits : Decimal → Nat
  | .infinite => infinityBits
  | .notANumber => infinityBits + 1 <<< 51
  | .finite digits exponent => decimalBits digits exponent

def readDecimal (text : List Char) : Except DecimalError Float :=
  let (negative,body) := match text with
    | '-' :: body => (true,body)
    | '+' :: body => (false,body)
    | body => (false,body)
  if text = [] then .error .empty
  else match readUnsigned body with
    | some value => .ok (signedBits negative value.bits)
    | none => .error .invalid

end ScenarioSuite.Numeral
