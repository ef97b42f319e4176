import ScenarioSuite.Numeral.Decimal

namespace ScenarioSuite.Numeral

-- The reals that round to a double, scaled by `2 ^ (exponent - 2)`: from `low` to
-- `high` around `value`. The ends belong to it when the significand is even.
structure Rounding where
  low : Nat
  value : Nat
  high : Nat
  exponent : Int
  closed : Bool
  deriving DecidableEq, Repr

-- The gap below a power of two is half the gap above it, down to the lowest exponent.
def Binary64.rounding (b : Binary64) : Rounding :=
  let below := if b.significand = 1 <<< 52 ∧ lowestExponent < b.exponent then 1 else 2
  ⟨4 * b.significand - below,4 * b.significand,4 * b.significand + 2,b.exponent - 2,
    b.significand % 2 == 0⟩

def Rounding.fraction (r : Rounding) (n : Nat) : Fraction := Fraction.scale2 ⟨n,1⟩ r.exponent

def Rounding.contains (r : Rounding) (x : Fraction) : Bool :=
  if r.closed then (r.fraction r.low).le x && x.le (r.fraction r.high)
  else !x.le (r.fraction r.low) && !(r.fraction r.high).le x

-- Digits `d₁d₂…` and a point position: the value is `0.d₁d₂… * 10 ^ point`.
structure Digits where
  digits : List Char
  point : Int
  deriving DecidableEq, Repr

def decimalPoint (x : Fraction) : Int :=
  let bits : Int := (x.num.log2 : Int) - x.den.log2
  let guess : Int := (bits - 1) * 30103 / 100000 - 1
  let above (p : Int) : Bool := !(Fraction.scale10 ⟨1,1⟩ p).le x
  ((List.range 6).map fun i : Nat => guess + (i : Int)).find? above |>.getD (guess + 6)

-- The best decimal with `count` digits inside the interval, if there is one: of the
-- two neighbours of the value on that grid the nearer, and the upper one on a tie.
def Rounding.onGrid? (r : Rounding) (point : Int) (count : Nat) : Option Nat :=
  let value := r.fraction r.value
  let unit : Int := point - count
  let down := (value.scale10 (-unit)).floor
  let at10 (n : Nat) : Fraction := Fraction.scale10 ⟨n,1⟩ unit
  let lowFits := r.contains (at10 down)
  let highFits := r.contains (at10 (down + 1))
  let scaled := value.scale10 (-unit)
  let nearerUp := scaled.den ≤ 2 * (scaled.num - down * scaled.den)
  if lowFits && highFits then some (if nearerUp then down + 1 else down)
  else if lowFits then some down
  else if highFits then some (down + 1)
  else none

def trimZeros (digits : List Char) : List Char :=
  (digits.reverse.dropWhile (· == '0')).reverse

-- The fewest digits that read back, and of those the nearest to the value; seventeen
-- are always enough.
def Binary64.shortest (b : Binary64) : Digits :=
  if b.significand = 0 then ⟨['0'],1⟩
  else
    let r := b.rounding
    let point := decimalPoint (r.fraction r.value)
    match (List.range 17).findSome? fun i => (r.onGrid? point (i + 1)).map (·,i + 1) with
    | some (n,count) =>
        let digits := Nat.toDigits 10 n
        ⟨trimZeros digits,point + digits.length - count⟩
    | none => ⟨['0'],1⟩

def zeros (n : Int) : List Char := List.replicate n.toNat '0'

def Digits.positional (d : Digits) : List Char :=
  let count : Int := d.digits.length
  if d.point ≤ 0 then ['0','.'] ++ zeros (-d.point) ++ d.digits
  else if count ≤ d.point then d.digits ++ zeros (d.point - count)
  else d.digits.take d.point.toNat ++ ['.'] ++ d.digits.drop d.point.toNat

def Digits.scientific (d : Digits) : List Char :=
  let fraction := match d.digits.drop 1 with
    | [] => []
    | rest => '.' :: rest
  d.digits.take 1 ++ fraction ++ ['e'] ++ (toString (d.point - 1)).toList

def floatTextWith (finite : Binary64 → List Char) (x : Float) : String :=
  let bits := x.toBits.toNat
  match bitsMagnitude bits with
  | .notANumber => "NaN"
  | .infinite => if bitsSign bits then "-inf" else "inf"
  | .finite b => String.ofList (if bitsSign bits then '-' :: finite b else finite b)

def floatText (x : Float) : String := floatTextWith (fun b => b.shortest.positional) x

def floatInspected (x : Float) : String :=
  floatTextWith (fun b =>
    let d := b.shortest
    if b.significand ≠ 0 ∧ (16 < d.point ∨ d.point < -3) then d.scientific
    else
      let text := d.positional
      if text.contains '.' then text else text ++ ['.','0']) x

end ScenarioSuite.Numeral
