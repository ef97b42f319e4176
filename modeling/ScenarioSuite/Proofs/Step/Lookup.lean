import ScenarioSuite.Step.Catalog

namespace ScenarioSuite

variable {W : Type}

theorem accept_none {d : Definition W} {text : String} :
    d.accept? text = none ↔ d.matcher.captures? text = none := Option.map_eq_none_iff

theorem accept_some {d : Definition W} {text : String} {m : StepMatch W} :
    d.accept? text = some m ↔ d.matcher.captures? text = some m.args ∧ m.definition = d := by
  obtain ⟨definition,args⟩ := m
  simp [Definition.accept?,eq_comm]

namespace StepCatalog

theorem find_first {c : StepCatalog W} (first : c.policy = .firstMatch) (text : String) :
    c.find text = .ok (c.findAll text).head? := by
  unfold find findAll
  rw [first,List.head?_filterMap]

theorem find_sole {c : StepCatalog W} (strict : c.policy = .rejectAmbiguous) {text : String}
    (sole : (c.findAll text).length ≤ 1) : c.find text = .ok (c.findAll text).head? := by
  unfold find
  rw [strict]
  cases found : c.findAll text with
  | nil => rfl
  | cons m rest =>
      cases rest with
      | nil => rfl
      | cons other more =>
          rw [found] at sole
          simp at sole

theorem find_several {c : StepCatalog W} (strict : c.policy = .rejectAmbiguous) {text : String}
    (several : 2 ≤ (c.findAll text).length) :
    c.find text = .error
      ⟨text,(c.findAll text).map fun m => (m.definition.pattern,m.definition.location)⟩ := by
  unfold find
  rw [strict]
  cases found : c.findAll text with
  | nil => simp [found] at several
  | cons m rest =>
      cases rest with
      | nil => simp [found] at several
      | cons other more => rfl

theorem find_unambiguous {c : StepCatalog W} {text : String}
    (sole : (c.findAll text).length ≤ 1) : c.find text = .ok (c.findAll text).head? := by
  cases policy : c.policy with
  | firstMatch => exact find_first policy text
  | rejectAmbiguous => exact find_sole policy sole

theorem strict_error {c : StepCatalog W} (strict : c.policy = .rejectAmbiguous) (text : String)
    (e : AmbiguousMatch) : c.find text = .error e ↔ 2 ≤ (c.findAll text).length ∧
      e = ⟨text,(c.findAll text).map fun m => (m.definition.pattern,m.definition.location)⟩ := by
  by_cases several : 2 ≤ (c.findAll text).length
  · rw [find_several strict several]
    simp [several,eq_comm]
  · rw [find_sole strict (by omega)]
    simp [several]

theorem strict_ok {c : StepCatalog W} (strict : c.policy = .rejectAmbiguous) (text : String)
    (found : Option (StepMatch W)) : c.find text = .ok found ↔
      (c.findAll text).length ≤ 1 ∧ found = (c.findAll text).head? := by
  by_cases several : 2 ≤ (c.findAll text).length
  · rw [find_several strict several]
    simp only [reduceCtorEq,false_iff]
    omega
  · rw [find_sole strict (by omega)]
    have sole : (c.findAll text).length ≤ 1 := by omega
    simp [sole,eq_comm]

theorem findAll_perm {c d : StepCatalog W} (same : c.definitions.Perm d.definitions)
    (text : String) : (c.findAll text).Perm (d.findAll text) :=
  List.Perm.filterMap (fun definition : Definition W => definition.accept? text) same

theorem findAll_reordered {c d : StepCatalog W} (same : c.definitions.Perm d.definitions)
    {text : String} (sole : (c.findAll text).length ≤ 1) : d.findAll text = c.findAll text := by
  have reordered := findAll_perm same text
  cases found : c.findAll text with
  | nil =>
      rw [found] at reordered
      exact reordered.symm.eq_nil
  | cons m rest =>
      rw [found] at reordered sole
      obtain rfl : rest = [] := List.length_eq_zero_iff.mp (by simpa using sole)
      exact reordered.symm.eq_singleton

-- Both policies answer by the list of all matches: one takes its head, the other refuses
-- a list of two or more and names all of it. So an answer under the strict policy is the
-- answer of either policy, in whatever order the definitions were registered.
theorem policies_cohere (c : StepCatalog W) (text : String) :
    (c.setPolicy .firstMatch).find text = .ok (c.findAll text).head? ∧
    (∀ e, (c.setPolicy .rejectAmbiguous).find text = .error e ↔ 2 ≤ (c.findAll text).length ∧
      e = ⟨text,(c.findAll text).map fun m => (m.definition.pattern,m.definition.location)⟩) ∧
    ((c.findAll text).length < 2 →
      (c.setPolicy .rejectAmbiguous).find text = (c.setPolicy .firstMatch).find text) ∧
    ∀ found, (c.setPolicy .rejectAmbiguous).find text = .ok found →
      ∀ reordered : StepCatalog W, reordered.definitions.Perm c.definitions →
        reordered.find text = .ok found := by
  refine ⟨find_first rfl text,strict_error rfl text,?_,?_⟩
  · intro sole
    have first : (c.setPolicy .firstMatch).find text = .ok (c.findAll text).head? :=
      find_first rfl text
    rw [first]
    exact find_sole rfl (Nat.le_of_lt_succ sole)
  · intro found answered reordered same
    obtain ⟨sole,rfl⟩ := (strict_ok rfl text found).mp answered
    have equal : reordered.findAll text = c.findAll text := findAll_reordered same.symm sole
    have still : (reordered.findAll text).length ≤ 1 := by
      rw [equal]
      exact sole
    rw [find_unambiguous still,equal]
    rfl

end StepCatalog

end ScenarioSuite
