import ScenarioSuite.Proofs.Table.Hashes
import ScenarioSuite.Table.Typed

namespace ScenarioSuite

namespace Mapping

variable {α β : Type}

def map (f : α → β) (m : Mapping α) : Mapping β := ⟨m.entries.map (Prod.map id f)⟩

theorem map_insert (f : α → β) (m : Mapping α) (key : String) (value : α) :
    (m.insert key value).map f = (m.map f).insert key (f value) := by
  simp [map,insert,List.filter_map,Function.comp_def]

theorem map_ofPairs (f : α → β) (pairs : List (String × α)) :
    (ofPairs pairs).map f = ofPairs (pairs.map (Prod.map id f)) := by
  induction pairs using List.reverseRecOn with
  | nil => rfl
  | append_singleton pairs pair ih =>
      rw [ofPairs_append,map_insert,ih,List.map_append,List.map_singleton,ofPairs_append]
      rfl

end Mapping

namespace Converters

variable {α : Type} {c : Converters α} {column value : String}

def reader? (c : Converters α) (column : String) : Option (String → Except String α) :=
  (c.readers.find? fun entry => entry.1 == column).map Prod.snd

def Refuses (c : Converters α) (column value message : String) : Prop :=
  ∃ read, c.reader? column = some read ∧ read value = .error message

theorem apply_error {e : TableError} : c.apply column value = .error e ↔
    ∃ message, c.Refuses column value message ∧ e = .conversion column value message := by
  unfold apply Refuses reader?
  cases c.readers.find? fun entry => entry.1 == column with
  | none => simp
  | some entry => cases read : entry.2 value <;> simp [Except.mapError,read,eq_comm]

theorem apply_ok : (∃ typed, c.apply column value = .ok typed) ↔ ∀ message, ¬ c.Refuses column value message := by
  cases applied : c.apply column value with
  | ok typed =>
      refine iff_of_true ⟨typed,rfl⟩ fun message refused => ?_
      have failed := apply_error.mpr ⟨message,refused,rfl⟩
      rw [applied] at failed
      cases failed
  | error e =>
      obtain ⟨message,refused,_⟩ := apply_error.mp applied
      exact iff_of_false (by simp) fun none => none message refused

end Converters

namespace Table

variable {α : Type} {c : Converters α}

def coveredCells (t : Table) : List (String × String) := t.body.flatMap fun row => t.header.zip row

def typedBody (c : Converters α) (t : Table) : Except TableError (List (List α)) :=
  t.body.mapM (typedRow c t.header)

theorem typedRaw_body (c : Converters α) (t : Table) : t.typedRaw c =
    (t.typedBody c).map fun rows => (t.header?.map (List.map c.ofText)).toList ++ rows := by
  obtain ⟨rows⟩ := t
  cases rows with
  | nil => rfl
  | cons header body =>
      change (body.mapM (typedRow c header) >>= fun rows => pure (header.map c.ofText :: rows)) = _
      change _ = (body.mapM (typedRow c header)).map fun rows => header.map c.ofText :: rows
      cases body.mapM (typedRow c header) <;> rfl

theorem typedRow_zip (c : Converters α) (header row : List String) :
    ((header.zip row).mapM fun pair => do return (pair.1,← c.apply pair.1 pair.2)) =
      (typedRow c header row).map (List.zip header) := by
  unfold typedRow
  induction header generalizing row with
  | nil => rfl
  | cons column header ih =>
      cases row with
      | nil => rfl
      | cons value row =>
          rw [List.zip_cons_cons,List.mapM_cons,List.mapM_cons,ih row]
          cases c.apply column value with
          | error e => rfl
          | ok typed => cases (header.zip row).mapM fun pair => c.apply pair.1 pair.2 <;> rfl

theorem typedHashes_body (c : Converters α) (t : Table) : t.typedHashes c =
    (t.typedBody c).map (List.map fun typed => Mapping.ofPairs (t.header.zip typed)) := by
  rw [typedBody,← mapM_mapped,typedHashes]
  refine congrArg (fun f => t.body.mapM f) (funext fun row => ?_)
  rw [typedRow_zip]
  cases typedRow c t.header row <;> rfl

def RefusedFirst (c : Converters α) (t : Table) (e : TableError) : Prop :=
  ∃ place column value message,
    First (fun cell => ∀ message, ¬ c.Refuses cell.1 cell.2 message) t.coveredCells place (column,value) ∧
    c.Refuses column value message ∧ e = .conversion column value message

theorem typedBody_error {t : Table} {e : TableError} : t.typedBody c = .error e ↔ RefusedFirst c t e := by
  have same : t.typedBody c = .error e ↔
      (t.coveredCells.mapM fun cell => c.apply cell.1 cell.2) = .error e := by
    rw [coveredCells,mapM_flatMap,map_error]
    rfl
  rw [same,mapM_error]
  simp only [Converters.apply_ok,Converters.apply_error]
  constructor
  · rintro ⟨place,cell,first,message,refused,rfl⟩
    exact ⟨place,cell.1,cell.2,message,first,refused,rfl⟩
  · rintro ⟨place,column,value,message,first,refused,rfl⟩
    exact ⟨place,(column,value),first,message,refused,rfl⟩

theorem typedRaw_ok {t : Table} {rows : List (List α)} : t.typedRaw c = .ok rows ↔
    t.typedBody c = .ok rows.tail ∧ rows.head? = t.header?.map (List.map c.ofText) := by
  rw [typedRaw_body,map_ok]
  obtain ⟨stored⟩ := t
  cases stored with
  | nil =>
      change (∃ typed, Except.ok [] = .ok typed ∧ typed = rows) ↔ Except.ok [] = .ok rows.tail ∧ rows.head? = none
      cases rows <;> simp
  | cons header body =>
      change (∃ typed, _ = _ ∧ header.map c.ofText :: typed = rows) ↔ _ ∧ rows.head? = some (header.map c.ofText)
      cases rows <;> simp [eq_comm,and_comm]

theorem typedBody_plain (ofText : String → α) (t : Table) : t.typedBody ⟨ofText,[]⟩ =
    .ok (t.body.map fun row => (t.header.zip row).map fun cell => ofText cell.2) := by
  have row : ∀ header row : List String, typedRow ⟨ofText,[]⟩ header row =
      pure ((header.zip row).map fun cell => ofText cell.2) := fun header row => List.mapM_pure
  rw [typedBody,funext (row t.header)]
  exact List.mapM_pure

theorem zip_typed (f : String → α) (header row : List String) :
    header.zip ((header.zip row).map fun cell => f cell.2) = (header.zip row).map (Prod.map id f) := by
  induction header generalizing row with
  | nil => rfl
  | cons column header ih =>
      cases row with
      | nil => rfl
      | cons value row => simp [ih row]

-- Both views convert the same cells and fail at the same one of them. Each mapping is what
-- the typed row makes of the header, and without readers it is the plain one.
theorem typed_exact (c : Converters α) (t : Table) :
    ((∃ rows, t.typedRaw c = .ok rows) ↔ ∃ maps, t.typedHashes c = .ok maps) ∧
    (∀ e, t.typedRaw c = .error e ↔ RefusedFirst c t e) ∧
    (∀ e, t.typedHashes c = .error e ↔ RefusedFirst c t e) ∧
    (∀ rows maps, t.typedRaw c = .ok rows → t.typedHashes c = .ok maps →
      rows.head? = t.header?.map (List.map c.ofText) ∧
      List.Forall₂ (fun row typed => List.Forall₂ (fun cell value => c.apply cell.1 cell.2 = .ok value)
        (t.header.zip row) typed) t.body rows.tail ∧
      maps.length = t.body.length ∧
      maps = rows.tail.map fun typed => Mapping.ofPairs (t.header.zip typed)) ∧
    t.typedHashes ⟨c.ofText,[]⟩ = .ok (t.hashes.map (Mapping.map c.ofText)) := by
  refine ⟨?_,fun e => ?_,fun e => ?_,?_,?_⟩
  · simp only [typedRaw_body,typedHashes_body,map_ok]
    constructor
    · rintro ⟨_,typed,made,_⟩
      exact ⟨_,typed,made,rfl⟩
    · rintro ⟨_,typed,made,_⟩
      exact ⟨_,typed,made,rfl⟩
  · rw [typedRaw_body,map_error,typedBody_error]
  · rw [typedHashes_body,map_error,typedBody_error]
  · intro rows maps raw hashed
    obtain ⟨made,head⟩ := typedRaw_ok.mp raw
    have converted := mapM_ok.mp made
    rw [typedHashes_body,made] at hashed
    cases hashed
    refine ⟨head,converted.imp fun row typed => mapM_ok.mp,?_,rfl⟩
    rw [List.length_map,converted.length_eq]
  · rw [typedHashes_body,typedBody_plain,hashes,List.map_map]
    change Except.ok _ = _
    rw [List.map_map]
    refine congrArg Except.ok (List.map_congr_left fun row _ => ?_)
    rw [Function.comp_apply,Function.comp_apply,Mapping.map_ofPairs,zip_typed]

def strict : Converters String :=
  Converters.column ⟨id,[]⟩ "b" fun value => if value = "" then .error "empty" else .ok (value ++ "!")

def twice : Table := ⟨[["b","a","b"],["1","2","3"],["4"]]⟩

theorem typed_exact_twice :
    twice.typedRaw strict = .ok [["b","a","b"],["1!","2","3!"],["4!"]] ∧
      twice.typedHashes strict = .ok [⟨[("a","2"),("b","3!")]⟩,⟨[("b","4!")]⟩] ∧
      [(⟨[("a","2"),("b","3!")]⟩ : Mapping String),⟨[("b","4!")]⟩] =
        [["1!","2","3!"],["4!"]].map fun typed => Mapping.ofPairs (["b","a","b"].zip typed) := by
  obtain ⟨_,_,_,agree,_⟩ := typed_exact strict twice
  have raw : twice.typedRaw strict = .ok [["b","a","b"],["1!","2","3!"],["4!"]] := rfl
  have hashed : twice.typedHashes strict = .ok [⟨[("a","2"),("b","3!")]⟩,⟨[("b","4!")]⟩] := rfl
  obtain ⟨_,_,_,same⟩ := agree _ _ raw hashed
  exact ⟨raw,hashed,same⟩

example : (Table.mk [["b","b"],["1","2"],["","3"]]).typedHashes (α := Nat)
    ⟨String.length,[("b",fun value => if value = "" then .error "empty" else .ok 0)]⟩ =
      .error (.conversion "b" "" "empty") := rfl

end Table

end ScenarioSuite
