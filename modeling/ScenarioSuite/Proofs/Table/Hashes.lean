import Mathlib.Data.List.Induction
import ScenarioSuite.Proofs.Traversal
import ScenarioSuite.Table.Basic

namespace ScenarioSuite

def lastPlaces (names : List String) : List Nat :=
  (List.range names.length).filter fun place =>
    decide (∀ later < names.length, place < later → names[later]? ≠ names[place]?)

theorem lastPlaces_append (names : List String) (name : String) : lastPlaces (names ++ [name]) =
    (lastPlaces names).filter (fun place => decide (names[place]? ≠ some name)) ++ [names.length] := by
  have last : (∀ later < names.length + 1, names.length < later →
      (names ++ [name])[later]? ≠ (names ++ [name])[names.length]?) := by
    intro later bound behind
    omega
  have others : ∀ place ∈ List.range names.length,
      (∀ later < names.length + 1, place < later → (names ++ [name])[later]? ≠ (names ++ [name])[place]?) ↔
      names[place]? ≠ some name ∧ ∀ later < names.length, place < later → names[later]? ≠ names[place]? := by
    intro place member
    have within := List.mem_range.mp member
    rw [Nat.forall_lt_succ_right,List.getElem?_append_left within,List.getElem?_concat_length,and_comm]
    refine and_congr ⟨fun differs same => differs within same.symm,fun differs _ same => differs same.symm⟩ ?_
    refine forall₂_congr fun later bound => ?_
    rw [List.getElem?_append_left bound]
  simp only [lastPlaces,List.length_append,List.length_singleton,List.range_succ,List.filter_append,
    List.filter_filter]
  congr 1
  · refine List.filter_congr fun place member => ?_
    rw [← Bool.decide_and,decide_eq_decide]
    exact others place member
  · simpa using last

namespace Mapping

variable {α β : Type}

theorem ofPairs_append (pairs : List (String × α)) (pair : String × α) :
    ofPairs (pairs ++ [pair]) = (ofPairs pairs).insert pair.1 pair.2 := by
  simp [ofPairs]

theorem mem_keys_ofPairs (pairs : List (String × α)) (key : String) :
    key ∈ (ofPairs pairs).keys ↔ key ∈ pairs.map Prod.fst := by
  induction pairs using List.reverseRecOn with
  | nil => rfl
  | append_singleton pairs pair ih =>
      rw [ofPairs_append,keys_insert,List.mem_append,List.mem_filter,ih,List.map_append,List.mem_append]
      by_cases same : key = pair.1 <;> simp [same]

theorem entries_ofPairs (pairs : List (String × α)) :
    List.Forall₂ (fun place entry => pairs[place]? = some entry) (lastPlaces (pairs.map Prod.fst))
      (ofPairs pairs).entries := by
  induction pairs using List.reverseRecOn with
  | nil => exact .nil
  | append_singleton pairs pair ih =>
      rw [List.map_append,List.map_singleton,lastPlaces_append,ofPairs_append,insert]
      have kept := List.rel_filter (R := fun place entry => pairs[place]? = some entry)
        (p := fun place => decide ((pairs.map Prod.fst)[place]? ≠ some pair.1))
        (q := fun entry => entry.1 != pair.1) (fun place entry found => by simp [found]) ih
      refine List.rel_append (kept.imp fun place entry found => ?_) (.cons ?_ .nil)
      · exact List.getElem?_append_left (List.getElem?_eq_some_iff.mp found).1 ▸ found
      · simp

-- Of names that take their values one after the other, each keeps the last, and they stand
-- in the order in which these came.
structure Latest (names : List String) (values : List α) (m : Mapping α) : Prop where
  distinct : m.keys.Nodup
  named : ∀ name, name ∈ m.keys ↔ name ∈ names.take values.length
  placed : List.Forall₂ (fun place entry => names[place]? = some entry.1 ∧ values[place]? = some entry.2)
    (lastPlaces (names.take values.length)) m.entries

theorem names_zip (names : List String) (values : List α) :
    (names.zip values).map Prod.fst = names.take values.length := by
  induction names generalizing values with
  | nil => simp
  | cons name names ih =>
      cases values with
      | nil => rfl
      | cons value values => simp [ih]

theorem ofPairs_latest (names : List String) (values : List α) :
    Latest names values (ofPairs (names.zip values)) := by
  refine ⟨ofPairs_nodup _,fun name => ?_,?_⟩
  · rw [mem_keys_ofPairs,names_zip]
  · have placed := entries_ofPairs (names.zip values)
    rw [names_zip] at placed
    exact placed.imp fun place entry found => List.getElem?_zip_eq_some.mp found

end Mapping

namespace Table

theorem pairs_ok {row : Nat} {rows : List (List String)} {found : List (String × String)} :
    pairs row rows = .ok found ↔ rows = found.map fun pair => [pair.1,pair.2] := by
  fun_induction pairs row rows generalizing found with
  | case1 => cases found <;> simp
  | case2 row key value rest ih =>
      cases found with
      | nil => simp [map_ok]
      | cons pair found =>
          rw [List.map_cons,List.cons.injEq,← ih,map_ok]
          simp [Prod.ext_iff,and_comm]
  | case3 row cells rest other =>
      cases found with
      | nil => simp
      | cons pair found =>
          refine iff_of_false (by simp) fun same => ?_
          exact other pair.1 pair.2 (List.cons.inj same).1

theorem pairs_error {row : Nat} {rows : List (List String)} {e : TableError} :
    pairs row rows = .error e ↔ ∃ place cells, First (fun cells => cells.length = 2) rows place cells ∧
      e = .notTwoColumns (row + place) cells.length := by
  fun_induction pairs row rows with
  | case1 => simp [not_first_nil]
  | case2 row key value rest ih =>
      rw [map_error,ih]
      constructor
      · rintro ⟨place,cells,first,rfl⟩
        refine ⟨place + 1,cells,first_cons.mpr (.inr ⟨rfl,place,rfl,first⟩),?_⟩
        rw [Nat.add_assoc,Nat.add_comm 1]
      · rintro ⟨place,cells,first,rfl⟩
        rcases first_cons.mp first with ⟨_,rfl,odd⟩ | ⟨_,later,rfl,behind⟩
        · exact absurd rfl odd
        · refine ⟨later,cells,behind,?_⟩
          rw [Nat.add_assoc,Nat.add_comm 1]
  | case3 row cells rest other =>
      have odd : cells.length ≠ 2 := by
        intro two
        obtain ⟨key,value,rfl⟩ := List.length_eq_two.mp two
        exact other key value rfl
      constructor
      · intro failed
        exact ⟨0,cells,first_cons.mpr (.inl ⟨rfl,rfl,odd⟩),(Except.error.inj failed).symm⟩
      · rintro ⟨place,found,first,rfl⟩
        rcases first_cons.mp first with ⟨rfl,rfl,_⟩ | ⟨even,_⟩
        · rfl
        · exact absurd even odd

theorem rowsHash_ok {t : Table} {m : Mapping String} : t.rowsHash = .ok m ↔
    ∃ found : List (String × String), t.rows = (found.map fun pair => [pair.1,pair.2]) ∧
      Mapping.ofPairs found = m := by
  simp only [rowsHash,map_ok,pairs_ok]

theorem rowsHash_error {t : Table} {e : TableError} : t.rowsHash = .error e ↔
    ∃ place row, First (fun row => row.length = 2) t.rows place row ∧ e = .notTwoColumns place row.length := by
  rw [rowsHash,map_error,pairs_error]
  simp only [Nat.zero_add]

theorem rowsHash_total (t : Table) :
    (∃ m, t.rowsHash = .ok m) ↔ ∀ row ∈ t.rows, row.length = 2 := by
  constructor
  · rintro ⟨m,made⟩ row member
    obtain ⟨found,rows,_⟩ := rowsHash_ok.mp made
    rw [rows] at member
    obtain ⟨pair,_,rfl⟩ := List.mem_map.mp member
    rfl
  · intro even
    cases made : t.rowsHash with
    | ok m => exact ⟨m,rfl⟩
    | error e =>
        obtain ⟨place,row,first,_⟩ := rowsHash_error.mp made
        exact absurd (even row (List.mem_of_getElem? first.there)) first.stops

section TwoColumns

variable {t : Table} {found : List (String × String)}

theorem column_keys (rows : t.rows = found.map fun pair => [pair.1,pair.2]) :
    column t.rows 0 = found.map Prod.fst := by
  simp [column,rows,List.filterMap_map,List.filterMap_eq_map']

theorem column_values (rows : t.rows = found.map fun pair => [pair.1,pair.2]) :
    column t.rows 1 = found.map Prod.snd := by
  simp [column,rows,List.filterMap_map,List.filterMap_eq_map']

theorem transpose_hashes (rows : t.rows = found.map fun pair => [pair.1,pair.2]) (some : t.rows ≠ []) :
    t.transpose.hashes = [Mapping.ofPairs found] := by
  have wide : t.width = 2 := by
    cases found with
    | nil => exact absurd rows some
    | cons pair found => rw [width,header,header?,rows]; rfl
  have turned : t.transpose = ⟨[found.map Prod.fst,found.map Prod.snd]⟩ := by
    rw [← column_keys rows,← column_values rows,transpose,wide]
    rfl
  have zipped : (found.map Prod.fst).zip (found.map Prod.snd) = found := by
    rw [List.zip_map',List.map_id']
  rw [turned]
  exact congrArg (fun found => [Mapping.ofPairs found]) zipped

end TwoColumns

-- Every row of the body has its mapping, and a table with two columns is one as a whole:
-- the first row of another width is what is reported.
theorem hashes_exact (t : Table) :
    List.Forall₂ (fun row m => m.Latest t.header row) t.body t.hashes ∧
    ((∃ m, t.rowsHash = .ok m) ↔ ∀ row ∈ t.rows, row.length = 2) ∧
    (∀ e, t.rowsHash = .error e ↔ ∃ place row, First (fun row => row.length = 2) t.rows place row ∧
      e = .notTwoColumns place row.length) ∧
    ∀ m, t.rowsHash = .ok m → m.Latest (column t.rows 0) (column t.rows 1) ∧
      (t.rows ≠ [] → t.transpose.hashes = [m]) := by
  refine ⟨?_,t.rowsHash_total,fun _ => rowsHash_error,?_⟩
  · rw [hashes,List.forall₂_map_right_iff,List.forall₂_same]
    exact fun row _ => Mapping.ofPairs_latest t.header row
  · intro m made
    obtain ⟨found,rows,rfl⟩ := rowsHash_ok.mp made
    refine ⟨?_,transpose_hashes rows⟩
    have latest := Mapping.ofPairs_latest (found.map Prod.fst) (found.map Prod.snd)
    rwa [List.zip_map',List.map_id',← column_keys rows,← column_values rows] at latest

def repeated : Table := ⟨[["k","1"],["l","2"],["k","3"]]⟩

theorem hashes_exact_repeated :
    repeated.rowsHash = .ok ⟨[("l","2"),("k","3")]⟩ ∧ repeated.rows ≠ [] ∧
      lastPlaces (column repeated.rows 0) = [1,2] ∧
      repeated.transpose.hashes = [⟨[("l","2"),("k","3")]⟩] := by
  obtain ⟨_,_,_,made⟩ := hashes_exact repeated
  have pairs : repeated.rowsHash = .ok ⟨[("l","2"),("k","3")]⟩ := rfl
  have filled : repeated.rows ≠ [] := by decide
  exact ⟨pairs,filled,by decide,(made _ pairs).2 filled⟩

example : (Table.mk [["a","b","a"],["1","2","3","4"],["5"]]).hashes =
    [⟨[("b","2"),("a","3")]⟩,⟨[("a","5")]⟩] := by decide

end Table

end ScenarioSuite
