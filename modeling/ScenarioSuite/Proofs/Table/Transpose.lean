import Mathlib.Data.List.Chain
import Mathlib.Data.Multiset.Bind
import ScenarioSuite.Table.Basic

namespace ScenarioSuite.Table

def cell? (t : Table) (row place : Nat) : Option String :=
  (t.rows[row]?).bind fun cells => cells[place]?

structure Staircase (t : Table) : Prop where
  full : ∀ row ∈ t.rows, row ≠ []
  descends : (t.rows.map List.length).IsChain (· ≥ ·)

instance (t : Table) : Decidable t.Staircase :=
  decidable_of_iff ((∀ row ∈ t.rows, row ≠ []) ∧ (t.rows.map List.length).IsChain (· ≥ ·))
    ⟨fun both => ⟨both.1,both.2⟩,fun stairs => ⟨stairs.full,stairs.descends⟩⟩

def Narrows (rows : List (List String)) : Prop :=
  rows.Pairwise fun upper lower => lower.length ≤ upper.length

theorem Staircase.narrows {t : Table} (stairs : t.Staircase) : Narrows t.rows :=
  List.pairwise_map.mp (List.isChain_iff_pairwise.mp stairs.descends)

theorem Staircase.row_width {t : Table} (stairs : t.Staircase) {row : List String}
    (member : row ∈ t.rows) : row.length ≤ t.width := by
  obtain ⟨rows⟩ := t
  cases rows with
  | nil => cases member
  | cons top rest =>
      rcases List.mem_cons.mp member with rfl | below
      · exact Nat.le_refl _
      · exact (List.pairwise_cons.mp stairs.narrows).1 row below

theorem rectangle_staircase {t : Table} {width : Nat} (positive : 0 < width)
    (even : ∀ row ∈ t.rows, row.length = width) : t.Staircase := by
  refine ⟨?_,?_⟩
  · intro row member
    have wide := even row member
    rintro rfl
    exact absurd wide (Nat.ne_of_lt positive)
  · have widths : t.rows.map List.length = List.replicate t.rows.length width :=
      List.eq_replicate_iff.mpr ⟨List.length_map _,by simpa using even⟩
    rw [widths]
    exact List.Pairwise.isChain (List.pairwise_replicate.mpr (.inr (le_refl width)))

theorem column_length (rows : List (List String)) (place : Nat) :
    (column rows place).length = rows.countP fun row => decide (place < row.length) := by
  rw [column,List.length_filterMap_eq_countP]
  exact List.countP_congr fun row _ => by simp

theorem column_shrinks (rows : List (List String)) {place later : Nat} (order : place ≤ later) :
    (column rows later).length ≤ (column rows place).length := by
  rw [column_length,column_length]
  refine List.countP_mono_left fun row _ reaches => ?_
  have reaches : later < row.length := by simpa using reaches
  simpa using Nat.lt_of_le_of_lt order reaches

theorem column_full (t : Table) {place : Nat} (within : place < t.width) : column t.rows place ≠ [] := by
  obtain ⟨rows⟩ := t
  cases rows with
  | nil => cases within
  | cons top rest =>
      have found : top[place]? = some top[place] := List.getElem?_eq_getElem within
      simp [column,found]

theorem transpose_staircase (t : Table) : t.transpose.Staircase := by
  refine ⟨?_,?_⟩
  · intro row member
    obtain ⟨place,within,rfl⟩ := List.mem_map.mp member
    exact column_full t (List.mem_range.mp within)
  · have shrinks : (List.range t.width).Pairwise fun place later =>
        (column t.rows place).length ≥ (column t.rows later).length :=
      List.pairwise_lt_range.imp fun less => column_shrinks t.rows (Nat.le_of_lt less)
    rw [transpose,List.map_map]
    exact (List.pairwise_map.mpr shrinks).isChain

-- Only rows at the end can lack a place, so no cell of a column moves up.
theorem column_cell {rows : List (List String)} (narrows : Narrows rows) (place row : Nat) :
    (column rows place)[row]? = (rows[row]?).bind fun cells => cells[place]? := by
  induction rows generalizing row with
  | nil => rfl
  | cons top rest ih =>
      obtain ⟨above,later⟩ := List.pairwise_cons.mp narrows
      cases found : top[place]? with
      | some cell =>
          have taken : column (top :: rest) place = cell :: column rest place :=
            List.filterMap_cons_some found
          rw [taken]
          cases row with
          | zero => exact found.symm
          | succ row => exact ih later row
      | none =>
          -- No row below is longer, so the column ends here.
          have short := List.getElem?_eq_none_iff.mp found
          have nothing : ∀ cells ∈ top :: rest, cells[place]? = none := by
            intro cells member
            rcases List.mem_cons.mp member with rfl | below
            · exact found
            · exact List.getElem?_eq_none (Nat.le_trans (above cells below) short)
          have vacant : column (top :: rest) place = [] := List.filterMap_eq_nil_iff.mpr nothing
          rw [vacant]
          cases present : (top :: rest)[row]? with
          | none => rfl
          | some cells => exact (nothing cells (List.mem_of_getElem? present)).symm

theorem transpose_row (t : Table) (place : Nat) :
    t.transpose.rows[place]? = if place < t.width then some (column t.rows place) else none := by
  by_cases within : place < t.width <;> simp [transpose,within]

theorem Staircase.transpose_cell {t : Table} (stairs : t.Staircase) (place row : Nat) :
    t.transpose.cell? place row = t.cell? row place := by
  rw [cell?,transpose_row]
  by_cases within : place < t.width
  · rw [if_pos within]
    exact column_cell stairs.narrows place row
  · rw [if_neg within,cell?]
    cases present : t.rows[row]? with
    | none => rfl
    | some cells =>
        have short := stairs.row_width (List.mem_of_getElem? present)
        exact (List.getElem?_eq_none (Nat.le_trans short (Nat.le_of_not_lt within))).symm

theorem rows_known {first second : Option (List String)} (full : ∀ row ∈ first, row ≠ [])
    (others : ∀ row ∈ second, row ≠ [])
    (cells : ∀ place : Nat, (first.bind fun row => row[place]?) = second.bind fun row => row[place]?) :
    first = second := by
  cases first with
  | none =>
      cases second with
      | none => rfl
      | some row =>
          have vacant : row[0]? = none := (cells 0).symm
          exact absurd (by simpa using vacant) (others row rfl)
  | some row =>
      cases second with
      | none =>
          have vacant : row[0]? = none := cells 0
          exact absurd (by simpa using vacant) (full row rfl)
      | some other => exact congrArg some (List.ext_getElem? cells)

theorem ext_cells {t other : Table} (full : ∀ row ∈ t.rows, row ≠ [])
    (others : ∀ row ∈ other.rows, row ≠ [])
    (cells : ∀ row place, t.cell? row place = other.cell? row place) : t = other := by
  have rows : t.rows = other.rows := List.ext_getElem? fun row =>
    rows_known (fun _ present => full _ (List.mem_of_getElem? present))
      (fun _ present => others _ (List.mem_of_getElem? present)) (cells row)
  obtain ⟨own⟩ := t
  exact congrArg Table.mk rows

theorem Staircase.restored {t : Table} (stairs : t.Staircase) : t.transpose.transpose = t := by
  have turned := t.transpose_staircase
  refine ext_cells t.transpose.transpose_staircase.full stairs.full fun row place => ?_
  rw [turned.transpose_cell,stairs.transpose_cell]

theorem take_places (row : List String) (width : Nat) :
    (List.range width).flatMap (fun place => (row[place]?).toList) = row.take width := by
  induction width with
  | zero => rfl
  | succ width ih => rw [List.range_succ,List.flatMap_append,ih,List.take_add_one,List.flatMap_singleton]

theorem transpose_perm (t : Table) :
    t.transpose.rows.flatten.Perm (t.rows.flatMap (List.take t.width)) := by
  have byColumn : t.transpose.rows.flatten =
      (List.range t.width).flatMap fun place => t.rows.flatMap fun row => (row[place]?).toList := by
    rw [transpose,← List.flatMap_def]
    exact List.flatMap_congr fun place _ => List.filterMap_eq_flatMap_toList _ _
  have byRow : t.rows.flatMap (List.take t.width) =
      t.rows.flatMap fun row => (List.range t.width).flatMap fun place => (row[place]?).toList := by
    simp only [take_places]
  rw [byColumn,byRow]
  apply Multiset.coe_eq_coe.mp
  simp only [← Multiset.coe_bind]
  exact Multiset.bind_bind _ _

theorem Staircase.cells_perm {t : Table} (stairs : t.Staircase) :
    t.transpose.rows.flatten.Perm t.rows.flatten := by
  have whole : t.rows.map (List.take t.width) = t.rows := by
    conv_rhs => rw [← List.map_id t.rows]
    exact List.map_congr_left fun row member => List.take_of_length_le (stairs.row_width member)
  have turned := t.transpose_perm
  rwa [List.flatMap_def,whole] at turned

-- Whatever the table, its transpose is a staircase, and only a staircase comes back when
-- it is turned twice. Of a staircase every cell changes its row with its place, and none
-- comes or goes.
theorem transpose_exact (t : Table) :
    t.transpose.Staircase ∧
    (t.transpose.transpose = t ↔ t.Staircase) ∧
    (∀ width, 0 < width → (∀ row ∈ t.rows, row.length = width) → t.transpose.transpose = t) ∧
    t.transpose.transpose.transpose = t.transpose ∧
    (t.Staircase → t.transpose.rows.length = t.width ∧
      (∀ place row, t.transpose.cell? place row = t.cell? row place) ∧
      t.transpose.rows.flatten.Perm t.rows.flatten) := by
  have turned := t.transpose_staircase
  refine ⟨turned,⟨fun back => ?_,Staircase.restored⟩,?_,turned.restored,?_⟩
  · exact back ▸ t.transpose.transpose_staircase
  · intro width positive even
    exact (rectangle_staircase positive even).restored
  · intro stairs
    refine ⟨?_,stairs.transpose_cell,stairs.cells_perm⟩
    simp [transpose]

def steps : Table := ⟨[["a","b","c"],["d"]]⟩

theorem transpose_exact_steps :
    steps.Staircase ∧ steps.transpose.transpose = steps ∧
      steps.transpose.cell? 0 1 = some "d" ∧ steps.transpose.cell? 2 0 = some "c" := by
  have stairs : steps.Staircase := by decide
  obtain ⟨_,restored,_,_,swapped⟩ := transpose_exact steps
  obtain ⟨_,cells,_⟩ := swapped stairs
  exact ⟨stairs,restored.mpr stairs,cells 0 1,cells 2 0⟩

-- Where the second row is the longer one, its last cell is lost.
example : (Table.mk [["a"],["b","c"]]).transpose.transpose = ⟨[["a"],["b"]]⟩ := by decide

end ScenarioSuite.Table
