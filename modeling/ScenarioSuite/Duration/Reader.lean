import ScenarioSuite.Duration.Basic
import ScenarioSuite.Numeral.Integer
import ScenarioSuite.Text.Ranges

namespace ScenarioSuite.Duration

-- Why a text is no duration. Offsets count bytes of UTF-8.
inductive Fault
  | empty
  | numberExpected (offset : Nat)
  | invalidCharacter (offset : Nat)
  | unitNeeded (number : Nat)
  | unknownUnit (unit : List Char)
  | overflow
  | carryOverflow
  deriving DecidableEq, Repr

def Fault.message : Fault → String
  | .empty => "value was empty"
  | .numberExpected offset => "expected number at " ++ toString offset
  | .invalidCharacter offset => "invalid character at " ++ toString offset
  | .unitNeeded n =>
      "time unit needed, for example " ++ toString n ++ "sec or " ++ toString n ++ "ms"
  | .unknownUnit unit =>
      "unknown time unit \"" ++ String.ofList unit ++ "\", supported units: ns, us/µs, ms, sec, min, hours, days, weeks, months, years (and few variations)"
  | .overflow =>
      "number is too large or cannot be represented without a lack of precision (values below 1ns are not supported)"
  | .carryOverflow => "overflow in Duration::new"

-- The last carry ends the program; everything else is reported as a wrong value.
def Fault.aborts (fault : Fault) : Bool := fault == .carryOverflow

structure TimeUnit where
  secs : Nat
  nanos : Nat
  deriving DecidableEq, Repr

def units : List (TimeUnit × List String) :=
  [(⟨0,1⟩,["nanos","nsec","ns"]),
   (⟨0,1000⟩,["usec","us","µs"]),
   (⟨0,1000000⟩,["millis","msec","ms"]),
   (⟨1,0⟩,["seconds","second","secs","sec","s"]),
   (⟨60,0⟩,["minutes","minute","mins","min","m"]),
   (⟨3600,0⟩,["hours","hour","hrs","hr","h"]),
   (⟨86400,0⟩,["days","day","d"]),
   (⟨604800,0⟩,["weeks","week","wks","wk","w"]),
   (⟨2630016,0⟩,["months","month","M"]),
   (⟨31557600,0⟩,["years","year","yrs","yr","y"])]

def unitNamed? (name : List Char) : Option TimeUnit :=
  (units.find? fun unit => unit.2.contains (String.ofList name)).map Prod.fst

def checked (n : Nat) : Except Fault Nat := if n < UInt64.size then .ok n else .error .overflow

def dividing (n d : Nat) : Except Fault Nat := if n % d = 0 then .ok (n / d) else .error .overflow

-- Nanoseconds that make up one second exactly are carried after everything else.
def carry (secs nanos : Nat) : Except Fault Duration :=
  if nanos < nanosPerSec then .ok ⟨secs,nanos⟩
  else if secs + 1 < UInt64.size then .ok ⟨secs + 1,nanos - nanosPerSec⟩
  else .error .carryOverflow

def add (total : Duration) (secs nanos : Nat) : Except Fault Duration := do
  let nanos ← checked (total.nanos + nanos)
  let whole := if nanos = nanosPerSec then 0 else nanos / nanosPerSec
  let secs ← checked (secs + whole)
  let secs ← checked (total.secs + secs)
  carry secs (nanos - whole * nanosPerSec)

-- Adds `n` and a fraction of a unit. A fraction of an hour or more has to be a whole
-- number of seconds, one of a shorter unit a whole number of nanoseconds.
def addPart (total : Duration) (n : Nat) (fraction : Option (Nat × Nat)) (name : List Char) :
    Except Fault Duration :=
  if name = [] then .error (.unitNeeded n)
  else match unitNamed? name with
    | none => .error (.unknownUnit name)
    | some unit => do
        let total ← add total (← checked (n * unit.secs)) (← checked (n * unit.nanos))
        match fraction with
        | none => return total
        | some (part,whole) =>
            if unit.secs = 0 ∧ unit.nanos = 1 then throw .overflow
            else if 3600 ≤ unit.secs then
              add total (← dividing (← checked (part * unit.secs)) whole) 0
            else
              let nanos := unit.secs * nanosPerSec + unit.nanos
              add total 0 (← dividing (← checked (part * nanos)) whole)

-- Where the reader is: before a number, looking for one since `since`; inside a
-- number; inside its fraction, with the place to blame for a character that does not
-- belong there; or inside a unit, whose letters are kept last first.
inductive Phase
  | awaiting (since : Nat) (first : Bool)
  | number (n : Nat)
  | fraction (n part whole blame : Nat)
  | unit (n : Nat) (fraction : Option (Nat × Nat)) (letters : List Char)
  deriving DecidableEq, Repr

structure Reader where
  offset : Nat
  total : Duration
  phase : Phase
  deriving DecidableEq, Repr

def isUnitLetter (c : Char) : Bool := c.isAlpha || c == 'µ'

def Reader.advance (r : Reader) (c : Char) : Except Fault (Duration × Phase) :=
  let after := r.offset + c.utf8Size
  let digit := Numeral.digitValue? c
  match r.phase with
  | .awaiting since first =>
      match digit with
      | some d => .ok (r.total,.number d)
      | none =>
          if Text.isBlank c then .ok (r.total,.awaiting since first)
          else .error (.numberExpected since)
  | .number n =>
      match digit with
      | some d => do return (r.total,.number (← checked (10 * n + d)))
      | none =>
          if Text.isBlank c then .ok (r.total,.number n)
          else if isUnitLetter c then .ok (r.total,.unit n none [c])
          else if c = '.' then .ok (r.total,.fraction n 0 1 r.offset)
          else .error (.invalidCharacter r.offset)
  | .fraction n part whole blame =>
      match digit with
      | some d => do
          return (r.total,.fraction n (← checked (10 * part + d)) (← checked (10 * whole)) after)
      | none =>
          if Text.isBlank c then .ok (r.total,.fraction n part whole after)
          else if isUnitLetter c && whole != 1 then .ok (r.total,.unit n (some (part,whole)) [c])
          else .error (.invalidCharacter blame)
  | .unit n fraction letters =>
      match digit with
      | some d => do return (← addPart r.total n fraction letters.reverse,.number d)
      | none =>
          if Text.isBlank c then do
            return (← addPart r.total n fraction letters.reverse,.awaiting after false)
          else if isUnitLetter c then .ok (r.total,.unit n fraction (c :: letters))
          else .error (.invalidCharacter r.offset)

def Reader.step (r : Reader) (c : Char) : Except Fault Reader := do
  let (total,phase) ← r.advance c
  return ⟨r.offset + c.utf8Size,total,phase⟩

def Reader.finish (r : Reader) : Except Fault Duration :=
  match r.phase with
  | .awaiting _ first => if first then .error .empty else .ok r.total
  | .number n => addPart r.total n none []
  | .fraction n part whole blame =>
      if whole = 1 then .error (.invalidCharacter blame)
      else addPart r.total n (some (part,whole)) []
  | .unit n fraction letters => addPart r.total n fraction letters.reverse

def read (text : String) : Except Fault Duration :=
  if text = "0" then .ok zero
  else do (← text.toList.foldlM Reader.step ⟨0,zero,.awaiting 0 true⟩).finish

end ScenarioSuite.Duration
