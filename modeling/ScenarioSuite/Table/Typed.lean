import ScenarioSuite.Table.Basic
import ScenarioSuite.Text.Character

namespace ScenarioSuite

-- What becomes of the cells of each column. A column that is set twice keeps the
-- later reader; a column without a reader goes through `ofText`.
structure Converters (α : Type) where
  ofText : String → α
  readers : List (String × (String → Except String α))

namespace Converters

variable {α : Type}

def column (c : Converters α) (name : String) (read : String → Except String α) : Converters α :=
  { c with readers := (name,read) :: c.readers }

def apply (c : Converters α) (column value : String) : Except TableError α :=
  match c.readers.find? fun entry => entry.1 == column with
  | none => .ok (c.ofText value)
  | some (_,read) => (read value).mapError (TableError.conversion column value)

def names (c : Converters α) : List String :=
  ((c.readers.map Prod.fst).eraseDups).mergeSort fun a b => decide (a ≤ b)

def inspected (c : Converters α) : String :=
  "Converters \x7b columns: [" ++ ", ".intercalate (c.names.map Text.quoted) ++ "] \x7d"

end Converters

namespace Table

variable {α : Type}

def typedRow (c : Converters α) (header row : List String) : Except TableError (List α) :=
  (header.zip row).mapM fun pair => c.apply pair.1 pair.2

-- The rows with their cells converted. Cells beyond the header are left out, and
-- the header itself is text.
def typedRaw (c : Converters α) (t : Table) : Except TableError (List (List α)) :=
  match t.rows with
  | [] => .ok []
  | header :: body => do
      let rows ← body.mapM (typedRow c header)
      return header.map c.ofText :: rows

-- The mappings of `hashes` with their values converted. A value that a later column
-- of the same name replaces is converted all the same.
def typedHashes (c : Converters α) (t : Table) : Except TableError (List (Mapping α)) :=
  t.body.mapM fun row => do
    let pairs ← (t.header.zip row).mapM fun pair => do
      return (pair.1,← c.apply pair.1 pair.2)
    return Mapping.ofPairs pairs

end Table

end ScenarioSuite
