import Mathlib.Data.List.Forall2

namespace ScenarioSuite

variable {ε α β γ : Type}

structure First (passes : α → Prop) (l : List α) (place : Nat) (x : α) : Prop where
  there : l[place]? = some x
  stops : ¬ passes x
  passed : ∀ earlier ∈ l.take place, passes earlier

theorem not_first_nil {passes : α → Prop} {place : Nat} {x : α} :
    ¬ First passes [] place x := fun first => by cases first.there

theorem first_cons {passes : α → Prop} {head : α} {l : List α} {place : Nat} {x : α} :
    First passes (head :: l) place x ↔
      (place = 0 ∧ head = x ∧ ¬ passes x) ∨ (passes head ∧ ∃ later, place = later + 1 ∧ First passes l later x) := by
  constructor
  · rintro ⟨there,stops,passed⟩
    cases place with
    | zero => exact .inl ⟨rfl,Option.some.inj there,stops⟩
    | succ later =>
        obtain ⟨ahead,passed⟩ := List.forall_mem_cons.mp passed
        exact .inr ⟨ahead,later,rfl,there,stops,passed⟩
  · rintro (⟨rfl,rfl,stops⟩ | ⟨ahead,later,rfl,there,stops,passed⟩)
    · exact ⟨rfl,stops,by simp⟩
    · exact ⟨there,stops,List.forall_mem_cons.mpr ⟨ahead,passed⟩⟩

theorem map_ok {x : Except ε α} {f : α → β} {z : β} :
    x.map f = .ok z ↔ ∃ y, x = .ok y ∧ f y = z := by
  cases x <;> simp [Except.map]

theorem map_error {x : Except ε α} {f : α → β} {e : ε} :
    x.map f = .error e ↔ x = .error e := by
  cases x <;> simp [Except.map]

theorem mapM_ok {f : α → Except ε β} {l : List α} {out : List β} :
    l.mapM f = .ok out ↔ List.Forall₂ (fun x y => f x = .ok y) l out := by
  induction l generalizing out with
  | nil => cases out <;> simp [pure,Except.pure]
  | cons x l ih =>
      rw [List.mapM_cons]
      cases out with
      | nil => cases f x <;> cases l.mapM f <;> simp [bind,Except.bind,pure,Except.pure]
      | cons y out =>
          rw [List.forall₂_cons,← ih]
          cases f x <;> cases l.mapM f <;> simp [bind,Except.bind,pure,Except.pure]

theorem mapM_cons_error {f : α → Except ε β} {x : α} {l : List α} {e : ε} : (x :: l).mapM f = .error e ↔
    f x = .error e ∨ (∃ y, f x = .ok y) ∧ l.mapM f = .error e := by
  rw [List.mapM_cons]
  cases f x <;> cases l.mapM f <;> simp [bind,Except.bind,pure,Except.pure]

theorem mapM_error {f : α → Except ε β} {l : List α} {e : ε} : l.mapM f = .error e ↔
    ∃ place x, First (fun x => ∃ y, f x = .ok y) l place x ∧ f x = .error e := by
  induction l with
  | nil => simp [not_first_nil,pure,Except.pure]
  | cons x l ih =>
      rw [mapM_cons_error,ih]
      constructor
      · rintro (failed | ⟨passed,place,z,first,failed⟩)
        · refine ⟨0,x,first_cons.mpr (.inl ⟨rfl,rfl,?_⟩),failed⟩
          rintro ⟨y,passed⟩
          rw [failed] at passed
          cases passed
        · exact ⟨place + 1,z,first_cons.mpr (.inr ⟨passed,place,rfl,first⟩),failed⟩
      · rintro ⟨place,z,first,failed⟩
        rcases first_cons.mp first with ⟨_,rfl,_⟩ | ⟨passed,later,rfl,behind⟩
        · exact .inl failed
        · exact .inr ⟨passed,later,z,behind,failed⟩

theorem mapM_flatMap (f : β → Except ε γ) (g : α → List β) (l : List α) :
    (l.flatMap g).mapM f = (l.mapM fun x => (g x).mapM f).map List.flatten := by
  induction l with
  | nil => rfl
  | cons x l ih =>
      rw [List.flatMap_cons,List.mapM_append,ih,List.mapM_cons]
      cases (g x).mapM f with
      | error e => rfl
      | ok first => cases l.mapM fun x => (g x).mapM f <;> rfl

theorem mapM_mapped (f : α → Except ε β) (g : β → γ) (l : List α) :
    (l.mapM fun x => (f x).map g) = (l.mapM f).map (List.map g) := by
  induction l with
  | nil => rfl
  | cons x l ih =>
      rw [List.mapM_cons,List.mapM_cons,ih]
      cases f x with
      | error e => rfl
      | ok y => cases l.mapM f <;> rfl

end ScenarioSuite
