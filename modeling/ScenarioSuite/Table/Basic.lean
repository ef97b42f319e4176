import ScenarioSuite.Document
import ScenarioSuite.Table.Mapping
import ScenarioSuite.Text.Replace

namespace ScenarioSuite

structure Table where
  rows : List (List String)
  deriving DecidableEq, Repr

inductive TableError
  | notTwoColumns (row width : Nat)
  | unknownColumns (missing : List String)
  | conversion (column value detail : String)
  deriving DecidableEq, Repr

def TableError.message : TableError → String
  | .notTwoColumns row width =>
      "Expected every row to have exactly 2 columns, but row " ++ toString row ++ " has " ++
        toString width
  | .unknownColumns missing => "Unknown columns: " ++ ", ".intercalate missing
  | .conversion column value detail =>
      "Cannot convert `" ++ value ++ "` in column `" ++ column ++ "`: " ++ detail

namespace Table

def ofSource (table : SourceTable) : Table := ⟨table.rows⟩

def header? (t : Table) : Option (List String) := t.rows.head?

def header (t : Table) : List String := t.header?.getD []

def body (t : Table) : List (List String) := t.rows.tail

def width (t : Table) : Nat := t.header.length

def hashes (t : Table) : List (Mapping String) :=
  t.body.map fun row => Mapping.ofPairs (t.header.zip row)

def pairs (row : Nat) : List (List String) → Except TableError (List (String × String))
  | [] => .ok []
  | [key,value] :: rest => (pairs (row + 1) rest).map ((key,value) :: ·)
  | cells :: _ => .error (.notTwoColumns row cells.length)

def rowsHash (t : Table) : Except TableError (Mapping String) :=
  (pairs 0 t.rows).map Mapping.ofPairs

def column (rows : List (List String)) (position : Nat) : List String :=
  rows.filterMap fun row => row[position]?

def transpose (t : Table) : Table := ⟨(List.range t.width).map (column t.rows)⟩

def pick (positions : List Nat) (row : List String) : List String :=
  positions.filterMap fun i => row[i]?

-- The named columns in the given order; a name stands for its first occurrence in
-- the header. All names that are not there are reported.
def columns (t : Table) (names : List String) : Except TableError Table :=
  let missing := names.filter fun name => !t.header.contains name
  if missing = [] then
    let positions := names.map fun name => t.header.idxOf name
    .ok ⟨t.rows.map (pick positions)⟩
  else .error (.unknownColumns missing)

def mapCells (f : String → String) (t : Table) : Table := ⟨t.rows.map (List.map f)⟩

def display (t : Table) : String :=
  String.join (t.rows.map fun row => "| " ++ " | ".intercalate row ++ " |\n")

end Table

end ScenarioSuite
