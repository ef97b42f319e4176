namespace ScenarioSuite.Numeral

inductive IntegerError
  | empty
  | invalidDigit
  | tooLarge
  | tooSmall
  deriving DecidableEq, Repr

def IntegerError.message : IntegerError → String
  | .empty => "cannot parse integer from empty string"
  | .invalidDigit => "invalid digit found in string"
  | .tooLarge => "number too large to fit in target type"
  | .tooSmall => "number too small to fit in target type"

def digitValue? (c : Char) : Option Nat :=
  if '0' ≤ c ∧ c ≤ '9' then some (c.toNat - '0'.toNat) else none

def digitsValue? (sofar : Nat) : List Char → Option Nat
  | [] => some sofar
  | c :: rest =>
      match digitValue? c with
      | some d => digitsValue? (10 * sofar + d) rest
      | none => none

-- Reads the digits of a magnitude that may not pass `limit`. The first fault from
-- the left is reported, so a digit too many hides a stray character behind it.
def readMagnitude (limit : Nat) (overflow : IntegerError) (sofar : Nat) :
    List Char → Except IntegerError Nat
  | [] => .ok sofar
  | c :: rest =>
      match digitValue? c with
      | none => .error .invalidDigit
      | some d =>
          if 10 * sofar + d ≤ limit then readMagnitude limit overflow (10 * sofar + d) rest
          else .error overflow

def readInteger (text : List Char) : Except IntegerError Int64 :=
  match text with
  | [] => .error .empty
  | ['+'] | ['-'] => .error .invalidDigit
  | '-' :: digits => (readMagnitude (1 <<< 63) .tooSmall 0 digits).map fun n => Int64.ofInt (-n)
  | '+' :: digits => (readMagnitude (1 <<< 63 - 1) .tooLarge 0 digits).map fun n => Int64.ofInt n
  | digits => (readMagnitude (1 <<< 63 - 1) .tooLarge 0 digits).map fun n => Int64.ofInt n

def integerText (n : Int64) : String :=
  let digits := Nat.toDigits 10 n.toInt.natAbs
  String.ofList (if n.toInt < 0 then '-' :: digits else digits)

theorem digitsValue_grows {sofar n : Nat} {digits : List Char}
    (value : digitsValue? sofar digits = some n) : sofar ≤ n := by
  induction digits generalizing sofar with
  | nil => exact Nat.le_of_eq (Option.some.inj value)
  | cons c rest ih =>
      simp only [digitsValue?] at value
      cases read : digitValue? c with
      | none => simp [read] at value
      | some d =>
          have onward := ih (by simpa [read] using value)
          omega

-- The digit loop is the value with one test at the end: a magnitude never shrinks.
theorem readMagnitude_exact (limit : Nat) (overflow : IntegerError) (digits : List Char)
    (sofar n : Nat) (h : sofar ≤ limit) :
    readMagnitude limit overflow sofar digits = .ok n ↔
      digitsValue? sofar digits = some n ∧ n ≤ limit := by
  induction digits generalizing sofar with
  | nil =>
      simp only [readMagnitude,digitsValue?,Except.ok.injEq,Option.some.injEq]
      exact ⟨fun eq => ⟨eq,eq ▸ h⟩,fun both => both.1⟩
  | cons c rest ih =>
      simp only [readMagnitude,digitsValue?]
      cases digitValue? c with
      | none => simp
      | some d =>
          by_cases fits : 10 * sofar + d ≤ limit
          · simpa [fits] using ih (10 * sofar + d) fits
          · simp only [fits,if_false]
            constructor
            · intro eq; cases eq
            · intro both
              have grows := digitsValue_grows both.1
              omega

end ScenarioSuite.Numeral
