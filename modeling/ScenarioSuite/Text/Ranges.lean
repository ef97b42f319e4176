namespace ScenarioSuite.Text

-- A set of characters as closed ranges of scalar values. A set in normal form has its
-- ranges in order, and no two of them touch.
abbrev Ranges := List (Nat × Nat)

namespace Ranges

def has (ranges : Ranges) (c : Char) : Bool :=
  ranges.any fun range => range.1 ≤ c.toNat && c.toNat ≤ range.2

def join (low high : Nat) : Ranges → Ranges
  | [] => [(low,high)]
  | (first,last) :: rest =>
      if first ≤ high + 1 then join low (max high last) rest
      else (low,high) :: join first last rest

def normal (ranges : Ranges) : Ranges :=
  match ranges.mergeSort fun a b => a.1 ≤ b.1 with
  | [] => []
  | (low,high) :: rest => join low high rest

def union (s t : Ranges) : Ranges := normal (s ++ t)

def unions (sets : List Ranges) : Ranges := normal sets.flatten

def maxScalar : Nat := 0x10FFFF

-- The surrogates are no scalar values: the one before them and the one behind them are
-- neighbours.
def succ (n : Nat) : Nat := if n = 0xD7FF then 0xE000 else n + 1

def pred (n : Nat) : Nat := if n = 0xE000 then 0xD7FF else n - 1

def gaps (next : Nat) : Ranges → Ranges
  | [] => if next ≤ maxScalar then [(next,maxScalar)] else []
  | (first,last) :: rest =>
      if next < first then (next,pred first) :: gaps (succ last) rest else gaps (succ last) rest

def compl (ranges : Ranges) : Ranges := gaps 0 ranges

def inter (s t : Ranges) : Ranges := (s.compl.union t.compl).compl

def diff (s t : Ranges) : Ranges := s.inter t.compl

def hexDigit (c : Char) : Nat := if c ≤ '9' then c.toNat - '0'.toNat else c.toNat - 'A'.toNat + 10

-- Reads the rest of a table from the inside of a number: `n` is what was read of it, and
-- `first` the number before the hyphen.
def read (first : Option Nat) (n : Nat) : List Char → Ranges
  | [] => [(first.getD n,n)]
  | ' ' :: rest => (first.getD n,n) :: read none 0 rest
  | '-' :: rest => read (some n) 0 rest
  | c :: rest => read first (16 * n + hexDigit c) rest

-- A table written as hexadecimal numbers and ranges between blanks: `"41-5A 5F"`.
def ofText (text : String) : Ranges := read none 0 text.toList

end Ranges

theorem has_exact (ranges : Ranges) (c : Char) :
    ranges.has c = true ↔ ∃ range ∈ ranges, range.1 ≤ c.toNat ∧ c.toNat ≤ range.2 := by
  simp [Ranges.has]

def blankRanges : Ranges :=
  [(0x9,0xD), (0x20,0x20), (0x85,0x85), (0xA0,0xA0), (0x1680,0x1680), (0x2000,0x200A),
   (0x2028,0x2029), (0x202F,0x202F), (0x205F,0x205F), (0x3000,0x3000)]

def isBlank (c : Char) : Bool := blankRanges.has c

def trim (text : List Char) : List Char :=
  ((text.dropWhile isBlank).reverse.dropWhile isBlank).reverse

end ScenarioSuite.Text
