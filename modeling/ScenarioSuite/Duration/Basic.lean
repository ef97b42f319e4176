namespace ScenarioSuite

structure Duration where
  secs : Nat
  nanos : Nat
  deriving DecidableEq, Repr

namespace Duration

def zero : Duration := ⟨0,0⟩

def nanosPerSec : Nat := 1000000000

def ofNanos (nanos : Nat) : Duration := ⟨nanos / nanosPerSec,nanos % nanosPerSec⟩

def ofMillis (millis : Nat) : Duration := ofNanos (millis * 1000000)

def fractionText (places part : Nat) : List Char :=
  let digits := Nat.toDigits 10 part
  let padded := List.replicate (places - digits.length) '0' ++ digits
  match (padded.reverse.dropWhile (· == '0')).reverse with
  | [] => []
  | kept => '.' :: kept

def inspected (d : Duration) : String :=
  let text (whole places part : Nat) (unit : String) :=
    toString whole ++ String.ofList (fractionText places part) ++ unit
  if 0 < d.secs then text d.secs 9 d.nanos "s"
  else if 1000000 ≤ d.nanos then text (d.nanos / 1000000) 6 (d.nanos % 1000000) "ms"
  else if 1000 ≤ d.nanos then text (d.nanos / 1000) 3 (d.nanos % 1000) "µs"
  else text d.nanos 0 0 "ns"

end Duration

end ScenarioSuite
