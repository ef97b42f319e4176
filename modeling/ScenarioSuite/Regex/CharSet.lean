import ScenarioSuite.Text.Property.Derived

namespace ScenarioSuite.Regex

structure CharSet where
  ranges : Text.Ranges
  deriving DecidableEq, Repr

namespace CharSet

def has (s : CharSet) (c : Char) : Bool := s.ranges.has c

def everything : CharSet := ⟨[(0,Text.Ranges.maxScalar)]⟩

def range (low high : Char) : CharSet := ⟨[(low.toNat,high.toNat)]⟩

def only (c : Char) : CharSet := range c c

def digit : CharSet := ⟨Text.Category.decimalNumber⟩

def blank : CharSet := ⟨Text.blankRanges⟩

def word : CharSet := ⟨Text.wordRanges⟩

def union (s t : CharSet) : CharSet := ⟨s.ranges.union t.ranges⟩

def unions (sets : List CharSet) : CharSet := ⟨.unions (sets.map ranges)⟩

def compl (s : CharSet) : CharSet := ⟨s.ranges.compl⟩

def inter (s t : CharSet) : CharSet := ⟨s.ranges.inter t.ranges⟩

def diff (s t : CharSet) : CharSet := ⟨s.ranges.diff t.ranges⟩

def symmDiff (s t : CharSet) : CharSet := (s.union t).diff (s.inter t)

def folded (s : CharSet) : CharSet := ⟨s.ranges.withVariants⟩

def asciiFolded (s : CharSet) : CharSet := ⟨s.ranges.withAsciiVariants⟩

def isAscii (s : CharSet) : Bool := s.ranges.all fun range => range.2 < 128

def isEmpty (s : CharSet) : Bool := s.ranges.isEmpty

def single? (s : CharSet) : Option Char :=
  match s.ranges with
  | [(low,high)] => if low = high then some (Char.ofNat low) else none
  | _ => none

end CharSet

abbrev ByteRange := Nat × Nat

def bytesOf (n : Nat) : List Nat := (String.utf8EncodeChar (Char.ofNat n)).map UInt8.toNat

def sameLength (low high : Nat) : List (Nat × Nat) :=
  [(0,0x7F),(0x80,0x7FF),(0x800,0xD7FF),(0xE000,0xFFFF),(0x10000,0x10FFFF)].filterMap
    fun (first,last) =>
      if max low first ≤ min high last then some (max low first,min high last) else none

-- Cuts a range into parts in which the bytes vary independently: blocks of `unit` values
-- that are there in part come first and last, the whole ones between them.
def independent (unit : Nat) : Nat → Nat → Nat → List (Nat × Nat)
  | 0, low, high => [(low,high)]
  | levels + 1, low, high =>
      let start := (low + unit - 1) / unit * unit
      let stop := (high + 1) / unit * unit
      if low / unit = high / unit then [(low,high)]
      else (if low < start then [(low,start - 1)] else []) ++
        (if start < stop then independent (64 * unit) levels start (stop - 1) else []) ++
        (if stop ≤ high then [(stop,high)] else [])

def byteRanges (low high : Nat) : List (List ByteRange) :=
  ((sameLength low high).flatMap fun (low,high) =>
    if high < 0x80 then [(low,high)] else independent 64 3 low high).map fun (low,high) =>
      (bytesOf low).zip (bytesOf high)

def CharSet.byteRanges (s : CharSet) : List (List ByteRange) :=
  s.ranges.flatMap fun (low,high) => Regex.byteRanges low high

end ScenarioSuite.Regex
