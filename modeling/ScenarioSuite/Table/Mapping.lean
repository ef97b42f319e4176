namespace ScenarioSuite

structure Mapping (α : Type) where
  entries : List (String × α)
  deriving DecidableEq, Repr

namespace Mapping

variable {α β : Type}

def empty : Mapping α := ⟨[]⟩

def keys (m : Mapping α) : List String := m.entries.map Prod.fst

def get? (m : Mapping α) (key : String) : Option α :=
  (m.entries.find? fun entry => entry.1 == key).map Prod.snd

-- A key that is met again takes the new value and moves to the end.
def insert (m : Mapping α) (key : String) (value : α) : Mapping α :=
  ⟨m.entries.filter (fun entry => entry.1 != key) ++ [(key,value)]⟩

def ofPairs (pairs : List (String × α)) : Mapping α :=
  pairs.foldl (fun m pair => m.insert pair.1 pair.2) empty

theorem keys_insert (m : Mapping α) (key : String) (value : α) :
    (m.insert key value).keys = m.keys.filter (· != key) ++ [key] := by
  simp [insert,keys,List.filter_map,Function.comp_def]

theorem insert_nodup (m : Mapping α) (key : String) (value : α) (h : m.keys.Nodup) :
    (m.insert key value).keys.Nodup := by
  rw [keys_insert]
  refine List.nodup_append.mpr ⟨h.filter _,by simp,?_⟩
  intro a old b new equal
  simp only [List.mem_singleton] at new
  simp [equal,new] at old

theorem ofPairs_nodup (pairs : List (String × α)) : (ofPairs pairs).keys.Nodup := by
  unfold ofPairs
  suffices ∀ m : Mapping α, m.keys.Nodup →
      (pairs.foldl (fun m pair => m.insert pair.1 pair.2) m).keys.Nodup from
    this empty (by simp [empty,keys])
  induction pairs with
  | nil => exact fun m h => h
  | cons pair rest ih => exact fun m h => ih _ (insert_nodup m _ _ h)

theorem get_insert_same (m : Mapping α) (key : String) (value : α) :
    (m.insert key value).get? key = some value := by
  have gone : (m.entries.filter fun entry => entry.1 != key).find? (fun entry => entry.1 == key) = none := by
    simp [List.find?_eq_none]
  simp [get?,insert,List.find?_append,gone]

theorem get_insert_other (m : Mapping α) (key other : String) (value : α) (h : other ≠ key) :
    (m.insert key value).get? other = m.get? other := by
  have last : (key == other) = false := by simpa using fun eq : key = other => h eq.symm
  have kept : (fun entry : String × α => !decide (entry.1 = key) && decide (entry.1 = other))
      = fun entry => entry.1 == other := by
    funext entry
    by_cases eq : entry.1 = other <;> simp [eq,h]
  simp [get?,insert,List.find?_append,List.find?_filter,kept,last]

end Mapping

end ScenarioSuite
