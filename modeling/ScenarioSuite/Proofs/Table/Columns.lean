import ScenarioSuite.Proofs.Table.Hashes
import ScenarioSuite.Proofs.Table.Transpose

namespace ScenarioSuite

section Complete

variable {α β : Type} {f : α → Option β} {l : List α}

theorem filterMap_length (all : ∀ x ∈ l, (f x).isSome) : (l.filterMap f).length = l.length := by
  rw [List.length_filterMap_eq_countP,List.countP_eq_length]
  exact all

theorem filterMap_cell (all : ∀ x ∈ l, (f x).isSome) (k : Nat) :
    (l.filterMap f)[k]? = (l[k]?).bind f := by
  induction l generalizing k with
  | nil => rfl
  | cons x l ih =>
      obtain ⟨first,others⟩ := List.forall_mem_cons.mp all
      obtain ⟨y,found⟩ := Option.isSome_iff_exists.mp first
      rw [List.filterMap_cons_some found]
      cases k with
      | zero => exact found.symm
      | succ k => exact ih others k

end Complete

namespace Mapping

variable {α : Type}

theorem get_zip_isSome (names : List String) (values : List α) (name : String) :
    ((ofPairs (names.zip values)).get? name).isSome ↔ name ∈ names.take values.length := by
  rw [← names_zip,← mem_keys_ofPairs]
  simp [get?,keys]

theorem get_zip_none {names : List String} {name : String} (absent : name ∉ names) (values : List α) :
    (ofPairs (names.zip values)).get? name = none := by
  rw [← Option.not_isSome_iff_eq_none,get_zip_isSome]
  exact fun taken => absent (List.mem_of_mem_take taken)

theorem get_ofPairs_cons (pair : String × α) (rest : List (String × α)) (key : String) :
    (ofPairs (pair :: rest)).get? key =
      ((ofPairs rest).get? key).or (if pair.1 = key then some pair.2 else none) := by
  induction rest using List.reverseRecOn with
  | nil =>
      change (empty.insert pair.1 pair.2).get? key = if pair.1 = key then some pair.2 else none
      by_cases same : pair.1 = key
      · rw [if_pos same,← same,get_insert_same]
      · rw [if_neg same,get_insert_other _ _ _ _ fun equal => same equal.symm]
        rfl
  | append_singleton rest last ih =>
      rw [← List.cons_append,ofPairs_append,ofPairs_append]
      by_cases same : key = last.1
      · rw [same,get_insert_same,get_insert_same]
        rfl
      · rw [get_insert_other _ _ _ _ same,get_insert_other _ _ _ _ same,ih]

theorem get_zip_distinct {names : List String} (distinct : names.Nodup) {name : String}
    (member : name ∈ names) (values : List α) :
    (ofPairs (names.zip values)).get? name = values[names.idxOf name]? := by
  induction names generalizing values with
  | nil => cases member
  | cons first names ih =>
      obtain ⟨fresh,distinct⟩ := List.nodup_cons.mp distinct
      cases values with
      | nil => simp [ofPairs,get?,empty]
      | cons value values =>
          rw [List.zip_cons_cons,get_ofPairs_cons]
          by_cases same : first = name
          · subst same
            simp [get_zip_none fresh]
          · have later := (List.mem_cons.mp member).resolve_left fun equal => same equal.symm
            rw [ih distinct later,List.idxOf_cons_ne _ same]
            simp [same]

section Compact

variable {cell : String → Option α} {names : List String}

-- As long as no name without a value stands before one that has a value, closing the gaps
-- moves no value.
theorem get_compact (ordered : names.Pairwise fun first later => (cell later).isSome → (cell first).isSome)
    {name : String} (member : name ∈ names) :
    (ofPairs (names.zip (names.filterMap cell))).get? name = cell name := by
  induction names with
  | nil => cases member
  | cons first names ih =>
      obtain ⟨ahead,ordered⟩ := List.pairwise_cons.mp ordered
      cases found : cell first with
      | none =>
          -- The first name has no value, so by the order none behind it has one.
          have nothing : ∀ other ∈ first :: names, cell other = none := by
            intro other among
            rcases List.mem_cons.mp among with rfl | behind
            · exact found
            · have needs := ahead other behind
              rw [found] at needs
              simpa using needs
          rw [List.filterMap_eq_nil_iff.mpr nothing,List.zip_nil_right,nothing name member]
          rfl
      | some value =>
          rw [List.filterMap_cons_some found,List.zip_cons_cons,get_ofPairs_cons]
          by_cases behind : name ∈ names
          · rw [ih ordered behind]
            by_cases same : first = name
            · rw [← same,found,Option.some_or]
            · simp [same]
          · obtain rfl := (List.mem_cons.mp member).resolve_right behind
            simp [get_zip_none behind,found]

theorem compact_ordered
    (alike : ∀ name ∈ names, (ofPairs (names.zip (names.filterMap cell))).get? name = cell name) :
    names.Pairwise fun first later => (cell later).isSome → (cell first).isSome := by
  obtain ⟨front,back,rfl,size⟩ : ∃ front back, names = front ++ back ∧
      front.length = (names.filterMap cell).length :=
    ⟨_,_,(List.take_append_drop (names.filterMap cell).length names).symm,
      List.length_take_of_le (List.length_filterMap_le cell names)⟩
  have named : ∀ name ∈ front, (cell name).isSome := by
    intro name member
    rw [← alike name (List.mem_append_left _ member),get_zip_isSome,← size,List.take_left]
    exact member
  have nothing : back.filterMap cell = [] := by
    rw [List.filterMap_append,List.length_append,filterMap_length named] at size
    exact List.eq_nil_of_length_eq_zero (by omega)
  have vacant := List.filterMap_eq_nil_iff.mp nothing
  refine List.pairwise_append.mpr ⟨?_,?_,fun first member _ _ _ => named first member⟩
  · exact List.pairwise_of_forall_mem_list fun first member _ _ _ => named first member
  · refine List.pairwise_of_forall_mem_list fun first _ later member some => ?_
    rw [vacant later member] at some
    cases some

end Compact

end Mapping

namespace Table

def under (header : List String) (names row : List String) : List String :=
  names.filterMap fun name => row[header.idxOf name]?

theorem columns_under (t : Table) (names : List String) : t.columns names =
    if ∀ name ∈ names, name ∈ t.header then .ok ⟨t.rows.map (under t.header names)⟩
    else .error (.unknownColumns (names.filter fun name => decide (name ∉ t.header))) := by
  have picked : pick (names.map fun name => t.header.idxOf name) = under t.header names :=
    funext fun row => List.filterMap_map
  simp [columns,picked]

theorem columns_ok {t s : Table} {names : List String} : t.columns names = .ok s ↔
    (∀ name ∈ names, name ∈ t.header) ∧ s = ⟨t.rows.map (under t.header names)⟩ := by
  rw [columns_under]
  split
  · rename_i known
    rw [Except.ok.injEq,eq_comm,and_iff_right known]
  · rename_i unknown
    exact iff_of_false (by simp) fun both => unknown both.1

theorem columns_error {t : Table} {names : List String} {e : TableError} : t.columns names = .error e ↔
    (∃ name ∈ names, name ∉ t.header) ∧
      e = .unknownColumns (names.filter fun name => decide (name ∉ t.header)) := by
  rw [columns_under]
  split
  · rename_i known
    refine iff_of_false (by simp) ?_
    rintro ⟨⟨name,member,absent⟩,_⟩
    exact absent (known name member)
  · rename_i unknown
    push Not at unknown
    simp [unknown,eq_comm]

section Selected

variable {t s : Table} {names : List String}

theorem under_header (known : ∀ name ∈ names, name ∈ t.header) : under t.header names t.header = names := by
  have found : ∀ name ∈ names, t.header[t.header.idxOf name]? = some name :=
    fun name member => List.getElem?_idxOf (known name member)
  rw [under,List.filterMap_congr found,List.filterMap_some]

theorem selected_header (selected : t.columns names = .ok s) : s.header = names := by
  obtain ⟨known,rfl⟩ := columns_ok.mp selected
  have shown := under_header known
  obtain ⟨rows⟩ := t
  cases rows with
  | nil => exact (List.eq_nil_iff_forall_not_mem.mpr fun name member => nomatch known name member).symm
  | cons header body => exact shown

theorem selected_body (selected : t.columns names = .ok s) : s.body = t.body.map (under t.header names) := by
  obtain ⟨_,rfl⟩ := columns_ok.mp selected
  rw [body,body,List.map_tail]

theorem selected_hashes (selected : t.columns names = .ok s) : s.hashes =
    t.body.map fun row => Mapping.ofPairs (names.zip (under t.header names row)) := by
  rw [hashes,selected_header selected,selected_body selected,List.map_map]
  rfl

end Selected

def ShowsAlike (t s : Table) (i : Nat) (name : String) : Prop :=
  ((t.hashes[i]?).bind fun m => m.get? name) = (s.hashes[i]?).bind fun m => m.get? name

instance (t s : Table) (i : Nat) (name : String) : Decidable (ShowsAlike t s i name) :=
  inferInstanceAs (Decidable (_ = _))

theorem alike_exact {t s : Table} {names : List String} (distinct : t.header.Nodup)
    (selected : t.columns names = .ok s) {i : Nat} {row : List String} (there : t.body[i]? = some row) :
    (∀ name ∈ names, ShowsAlike t s i name) ↔ names.Pairwise fun first later =>
      t.header.idxOf later < row.length → t.header.idxOf first < row.length := by
  have known := (columns_ok.mp selected).1
  have whole : t.hashes[i]? = some (Mapping.ofPairs (t.header.zip row)) := by
    rw [hashes,List.getElem?_map,there]
    rfl
  have chosen : s.hashes[i]? = some (Mapping.ofPairs (names.zip (under t.header names row))) := by
    rw [selected_hashes selected,List.getElem?_map,there]
    rfl
  have reaches : ∀ name : String, (row[t.header.idxOf name]?).isSome = true ↔ t.header.idxOf name < row.length :=
    fun name => by simp
  have shown : ∀ name ∈ names, ShowsAlike t s i name ↔
      (Mapping.ofPairs (names.zip (under t.header names row))).get? name = row[t.header.idxOf name]? := by
    intro name member
    rw [ShowsAlike,whole,chosen,Option.bind_some,Option.bind_some,
      Mapping.get_zip_distinct distinct (known name member),eq_comm]
  simp only [← reaches]
  constructor
  · intro alike
    exact Mapping.compact_ordered fun name member => (shown name member).mp (alike name member)
  · intro ordered name member
    exact (shown name member).mpr (Mapping.get_compact ordered member)

theorem alike_beyond {t s : Table} {names : List String} (selected : t.columns names = .ok s) {i : Nat}
    (beyond : t.body[i]? = none) (name : String) : ShowsAlike t s i name := by
  rw [ShowsAlike,selected_hashes selected,hashes,List.getElem?_map,List.getElem?_map,beyond]
  rfl

-- Where names are distinct, a row of the selection shows under them what it showed before if
-- and only if no column that the row lacks is asked for ahead of one that it has.
theorem columns_shown_exact {t s : Table} {names : List String} (distinct : t.header.Nodup)
    (selected : t.columns names = .ok s) :
    s.hashes.length = t.hashes.length ∧
    (∀ i row, t.body[i]? = some row →
      ((∀ name ∈ names, ShowsAlike t s i name) ↔ names.Pairwise fun first later =>
        t.header.idxOf later < row.length → t.header.idxOf first < row.length)) ∧
    ((∀ row ∈ t.body, t.width ≤ row.length) → ∀ i, ∀ name ∈ names, ShowsAlike t s i name) ∧
    ((names.Pairwise fun first later => t.header.idxOf first ≤ t.header.idxOf later) →
      ∀ i, ∀ name ∈ names, ShowsAlike t s i name) := by
  have known := (columns_ok.mp selected).1
  have everywhere : (∀ row ∈ t.body, names.Pairwise fun first later =>
      t.header.idxOf later < row.length → t.header.idxOf first < row.length) →
      ∀ i, ∀ name ∈ names, ShowsAlike t s i name := by
    intro each i
    cases there : t.body[i]? with
    | none => exact fun name _ => alike_beyond selected there name
    | some row => exact (alike_exact distinct selected there).mpr (each row (List.mem_of_getElem? there))
  refine ⟨?_,fun i row there => alike_exact distinct selected there,?_,?_⟩
  · rw [selected_hashes selected,hashes,List.length_map,List.length_map]
  · intro wide
    refine everywhere fun row member => List.pairwise_of_forall_mem_list fun first among _ _ _ => ?_
    exact Nat.lt_of_lt_of_le (List.idxOf_lt_length_iff.mpr (known first among)) (wide row member)
  · intro ordered
    refine everywhere fun row _ => ordered.imp fun ahead reaches => ?_
    exact Nat.lt_of_le_of_lt ahead reaches

def ragged : Table := ⟨[["a","b","c"],["1","2","3"],["4"]]⟩

theorem columns_shown_exact_ragged :
    ragged.header.Nodup ∧ ragged.columns ["a","c"] = .ok ⟨[["a","c"],["1","3"],["4"]]⟩ ∧
      ShowsAlike ragged ⟨[["a","c"],["1","3"],["4"]]⟩ 1 "a" ∧
      ShowsAlike ragged ⟨[["a","c"],["1","3"],["4"]]⟩ 1 "c" := by
  have distinct : ragged.header.Nodup := by decide
  have selected : ragged.columns ["a","c"] = .ok ⟨[["a","c"],["1","3"],["4"]]⟩ := rfl
  obtain ⟨_,_,_,ordered⟩ := columns_shown_exact distinct selected
  have alike := ordered (by decide) 1
  exact ⟨distinct,selected,alike "a" (by decide),alike "c" (by decide)⟩

-- The cell of the first column stands under the name of the last one.
theorem columns_misplaced : ¬ ∀ (t s : Table) (names : List String), t.header.Nodup →
    t.columns names = .ok s → ∀ i, ∀ name ∈ names, ShowsAlike t s i name := by
  intro always
  have shown := always ragged ⟨[["c","a"],["3","1"],["4"]]⟩ ["c","a"] (by decide) rfl 1 "c" (by decide)
  exact absurd shown (by decide)

section Composed

variable {header names chosen row : List String}

theorem under_reaches (wide : header.length ≤ row.length) (known : ∀ name ∈ names, name ∈ header) :
    ∀ name ∈ names, (row[header.idxOf name]?).isSome := by
  intro name member
  have within := List.idxOf_lt_length_iff.mpr (known name member)
  rw [List.getElem?_eq_getElem (Nat.lt_of_lt_of_le within wide)]
  rfl

theorem under_cell (wide : header.length ≤ row.length) (known : ∀ name ∈ names, name ∈ header) (k : Nat) :
    (under header names row)[k]? = (names[k]?).bind fun name => row[header.idxOf name]? :=
  filterMap_cell (under_reaches wide known) k

theorem under_length (wide : header.length ≤ row.length) (known : ∀ name ∈ names, name ∈ header) :
    (under header names row).length = names.length :=
  filterMap_length (under_reaches wide known)

theorem under_under (wide : header.length ≤ row.length) (known : ∀ name ∈ names, name ∈ header)
    (among : ∀ name ∈ chosen, name ∈ names) :
    under names chosen (under header names row) = under header chosen row := by
  refine List.filterMap_congr fun name member => ?_
  rw [under_cell wide known,List.getElem?_idxOf (among name member),Option.bind_some]

end Composed

theorem columns_columns {t s : Table} {names chosen : List String} (selected : t.columns names = .ok s)
    (wide : ∀ row ∈ t.rows, t.width ≤ row.length) (among : ∀ name ∈ chosen, name ∈ names) :
    s.columns chosen = t.columns chosen := by
  have header := selected_header selected
  obtain ⟨known,rfl⟩ := columns_ok.mp selected
  rw [columns_under,columns_under,header,if_pos among,
    if_pos fun name member => known name (among name member),List.map_map]
  refine congrArg (fun rows => Except.ok (Table.mk rows)) (List.map_congr_left fun row member => ?_)
  exact under_under (wide row member) known among

-- All names that the header lacks are reported together. Where every row is as wide as the
-- header, the rest of a selection depends on the names alone, also when it is the second one.
theorem columns_exact (t : Table) (names : List String) :
    ((∃ e, t.columns names = .error e) ↔ ∃ name ∈ names, name ∉ t.header) ∧
    (∀ e, t.columns names = .error e →
      e = .unknownColumns (names.filter fun name => decide (name ∉ t.header)) ∧
      (t.rows = [] → e = .unknownColumns names)) ∧
    ∀ s, t.columns names = .ok s → (∀ row ∈ t.rows, t.width ≤ row.length) →
      s.rows.length = t.rows.length ∧ s.header = names ∧
      (∀ row ∈ s.rows, row.length = names.length) ∧
      (∀ i k name, names[k]? = some name → s.cell? i k = t.cell? i (t.header.idxOf name)) ∧
      ∀ chosen, s.columns chosen = if ∀ name ∈ chosen, name ∈ names then t.columns chosen
        else .error (.unknownColumns (chosen.filter fun name => decide (name ∉ names))) := by
  refine ⟨⟨?_,fun absent => ⟨_,columns_error.mpr ⟨absent,rfl⟩⟩⟩,?_,?_⟩
  · rintro ⟨e,failed⟩
    exact (columns_error.mp failed).1
  · intro e failed
    obtain ⟨_,rfl⟩ := columns_error.mp failed
    refine ⟨rfl,fun bare => ?_⟩
    simp [header,header?,bare]
  · intro s selected wide
    have shown := selected_header selected
    obtain ⟨known,made⟩ := columns_ok.mp selected
    refine ⟨by simp [made],shown,?_,?_,?_⟩
    · intro row member
      rw [made] at member
      obtain ⟨before,there,rfl⟩ := List.mem_map.mp member
      exact under_length (wide before there) known
    · intro i k name asked
      rw [cell?,cell?,made,List.getElem?_map]
      cases there : t.rows[i]? with
      | none => rfl
      | some row =>
          have same := under_cell (wide row (List.mem_of_getElem? there)) known k
          rwa [asked] at same
    · intro chosen
      split
      · rename_i among
        exact columns_columns selected wide among
      · rename_i strange
        rw [columns_under,shown,if_neg strange]

def doubled : Table := ⟨[["x","y","x"],["1","2","3"]]⟩

theorem columns_exact_doubled :
    doubled.columns ["x","y","x"] = .ok ⟨[["x","y","x"],["1","2","1"]]⟩ ∧
      (∀ row ∈ doubled.rows, doubled.width ≤ row.length) ∧
      doubled.columns ["z","x","z"] = .error (.unknownColumns ["z","z"]) ∧
      (Table.mk [["x","y","x"],["1","2","1"]]).columns ["y","x"] = doubled.columns ["y","x"] := by
  obtain ⟨_,_,rest⟩ := columns_exact doubled ["x","y","x"]
  obtain ⟨_,refused,_⟩ := columns_exact doubled ["z","x","z"]
  have selected : doubled.columns ["x","y","x"] = .ok ⟨[["x","y","x"],["1","2","1"]]⟩ := rfl
  have wide : ∀ row ∈ doubled.rows, doubled.width ≤ row.length := by decide
  obtain ⟨_,_,_,_,again⟩ := rest _ selected wide
  refine ⟨selected,wide,?_,again ["y","x"]⟩
  cases failed : doubled.columns ["z","x","z"] with
  | ok s => cases failed
  | error e => exact congrArg Except.error (refused e failed).1

end Table

end ScenarioSuite
