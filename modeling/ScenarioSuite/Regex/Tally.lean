import ScenarioSuite.Regex.CharSet

namespace ScenarioSuite.Regex

-- How large a machine is that runs an expression over bytes. A state takes 32 bytes. A
-- fork has a link of 4 bytes to each state it leads to, and a table 8 bytes for each
-- range of bytes.
structure Tally where
  states : Nat
  extra : Nat
  deriving DecidableEq, Repr

namespace Tally

def bytes (t : Tally) : Nat := 32 * t.states + t.extra

def limit : Nat := 10 * 1 <<< 20

def fits (t : Tally) : Bool := t.bytes ≤ limit

def add (t : Tally) (states extra : Nat) : Tally := ⟨t.states + states,t.extra + extra⟩

def link (t : Tally) (count : Nat) : Tally := t.add 0 (4 * count)

def table (t : Tally) (ranges : Nat) : Tally := t.add 1 (8 * ranges)

end Tally

-- What the slots hold: a key and the number of the state that has it. Slots are used in
-- no order, so the tree stays shallow.
inductive Slots
  | unused
  | slot (number : Nat) (key : List Nat) (state : Nat) (below above : Slots)
  deriving DecidableEq, Repr

namespace Slots

def get? (number : Nat) : Slots → Option (List Nat × Nat)
  | unused => none
  | slot other key state below above =>
      if number < other then below.get? number
      else if other < number then above.get? number
      else some (key,state)

def put (number : Nat) (key : List Nat) (state : Nat) : Slots → Slots
  | unused => slot number key state unused unused
  | slot other k s below above =>
      if number < other then slot other k s (below.put number key state) above
      else if other < number then slot other k s below (above.put number key state)
      else slot number key state below above

end Slots

def digest (numbers : List Nat) : Nat :=
  let mix (h : UInt64) (n : Nat) : UInt64 := (h ^^^ n.toUInt64) * 1099511628211
  (numbers.foldl mix 14695981039346656037).toNat

-- The states of a set may be shared. Each has a key and, by the digest of the key, one of
-- `size` slots, where a newer state takes the place of an older one.
structure Shelf where
  size : Nat
  tally : Tally
  slots : Slots
  deriving DecidableEq, Repr

def Shelf.place (shelf : Shelf) (key : List Nat) (extra : Nat) : Nat × Shelf :=
  let slot := digest key % shelf.size
  match (shelf.slots.get? slot).filter fun (other,_) => other == key with
  | some (_,state) => (state,shelf)
  | none =>
      let state := shelf.tally.states
      (state,{ shelf with
        tally := shelf.tally.add 1 extra, slots := shelf.slots.put slot key state })

-- A table for the first ranges of rows that lead to `target`, behind the tables for what
-- comes after them. No row has more than `fuel` ranges.
def placeRows (target : Nat) : Nat → List (List ByteRange) → Shelf → Nat × Shelf
  | 0, _, shelf => (target,shelf)
  | fuel + 1, rows, shelf =>
      let groups := rows.splitBy fun a b => a.head? == b.head?
      let (key,shelf) := groups.foldl (fun (key,shelf) group =>
        let tails := group.map List.tail
        let (next,shelf) :=
          if tails.all List.isEmpty then (target,shelf) else placeRows target fuel tails shelf
        match group.head?.bind List.head? with
        | some (low,high) => (key ++ [low,high,next],shelf)
        | none => (key,shelf)) ([],shelf)
      shelf.place key (8 * groups.length)

def placeRow (shelf : Shelf) (target : Nat) : List ByteRange → Shelf
  | [] => { shelf with tally := shelf.tally.link 1 }
  | (low,high) :: rest =>
      let (state,shelf) := shelf.place [target,low,high] 0
      placeRow shelf state rest

-- A set of ASCII characters is one table. For any other the machine that runs forward
-- shares what rows end with, and the one that runs backward what they start with.
def CharSet.tally (s : CharSet) (back : Bool) (t : Tally) : Tally :=
  if s.isAscii then (t.add 1 0).table s.ranges.length
  else if back then
    (s.byteRanges.foldl (fun shelf row => placeRow shelf (t.states + 1) row)
      ⟨1000,t.add 2 0,.unused⟩).tally
  else (placeRows t.states 4 s.byteRanges ⟨10000,t.add 1 0,.unused⟩).2.tally

end ScenarioSuite.Regex
