import ScenarioSuite.Proofs.Document.Ids

namespace ScenarioSuite

-- A stable sort: what the comparison does not tell apart stays in the order it had.
theorem mergeSort_stable {α : Type} {le : α → α → Bool} {R : α → α → Prop} {l : List α}
    (trans : ∀ a b c, le a b → le b c → le a c) (total : ∀ a b, le a b || le b a)
    (stored : l.Pairwise R) :
    (l.mergeSort le).Pairwise fun a b => le a b = true ∧ (le b a = true → R a b) := by
  -- Numbered members are told apart by their numbers, which are their old places.
  rw [← List.mergeSort_zipIdx,List.pairwise_map]
  have sorted := List.pairwise_mergeSort (List.zipIdxLE_trans trans) (List.zipIdxLE_total total) l.zipIdx
  have distinct : (l.zipIdx.mergeSort (List.zipIdxLE le)).Nodup := by
    refine (List.mergeSort_perm _ _).nodup_iff.mpr (.of_map Prod.snd ?_)
    rw [List.zipIdx_map_snd]
    exact List.nodup_range'
  refine (sorted.and distinct).imp_of_mem ?_
  rintro ⟨a,i⟩ ⟨b,j⟩ first second ⟨placed,apart⟩
  rw [List.mem_mergeSort,List.mem_zipIdx_iff_getElem?] at first second
  dsimp only at first second ⊢
  obtain ⟨hi,rfl⟩ := List.getElem?_eq_some_iff.mp first
  obtain ⟨hj,rfl⟩ := List.getElem?_eq_some_iff.mp second
  unfold List.zipIdxLE at placed
  split at placed
  · rename_i above
    refine ⟨above,fun below => List.pairwise_iff_getElem.mp stored i j hi hj ?_⟩
    rw [if_pos below,decide_eq_true_eq] at placed
    refine Nat.lt_of_le_of_ne placed ?_
    rintro rfl
    exact apart rfl
  · cases placed

inductive Child
  | scenario (index : Nat)
  | rule (index : Nat)
  deriving DecidableEq, Repr

namespace Child

def line (feature : Feature) : Child → Nat
  | scenario i => (feature.scenarios[i]?).elim 0 Scenario.line
  | rule r => (feature.rules[r]?).elim 0 Rule.line

def ids (feature : Feature) : Child → List ScenarioId
  | scenario i => [⟨none,i⟩]
  | rule r => (feature.rules[r]?).elim [] (Feature.ruleIds r)

inductive Ahead : Child → Child → Prop
  | scenarios : i < j → Ahead (.scenario i) (.scenario j)
  | scenarioRule : Ahead (.scenario i) (.rule r)
  | rules : r < s → Ahead (.rule r) (.rule s)

def Precedes (feature : Feature) (a b : Child) : Prop :=
  a.line feature < b.line feature ∨ a.line feature = b.line feature ∧ a.Ahead b

end Child

-- The children as they stand in the document. Lines need not agree with the indices.
structure DocumentOrder (feature : Feature) (order : List Child) : Prop where
  scenarios : ∀ i, .scenario i ∈ order ↔ i < feature.scenarios.length
  rules : ∀ r, .rule r ∈ order ↔ r < feature.rules.length
  ordered : order.Pairwise (Child.Precedes feature)

theorem Child.ids_rule {feature : Feature} {child : Child} {id : ScenarioId} {r : Nat}
    (inside : id ∈ child.ids feature) (same : id.rule = some r) : child = .rule r := by
  cases child with
  | scenario i =>
      obtain rfl := List.mem_singleton.mp inside
      cases same
  | rule s =>
      cases present : feature.rules[s]? with
      | none => simp [ids,present] at inside
      | some rule =>
          have listed : id ∈ Feature.ruleIds s rule := by simpa [ids,present] using inside
          have own := ((Feature.mem_ruleIds s rule id).mp listed).1
          rw [Option.some.inj (own.symm.trans same)]

theorem Child.precedes_irrefl (feature : Feature) (child : Child) : ¬ child.Precedes feature child := by
  rintro (less | ⟨_,ahead⟩)
  · exact Nat.lt_irrefl _ less
  · cases ahead with
    | scenarios less | rules less => exact Nat.lt_irrefl _ less

theorem DocumentOrder.nodup {feature : Feature} {order : List Child}
    (placed : DocumentOrder feature order) : order.Nodup := by
  refine placed.ordered.imp ?_
  rintro a b before rfl
  exact a.precedes_irrefl feature before

namespace Feature

def storedChildren (feature : Feature) : List Child :=
  (List.range feature.scenarios.length).map .scenario ++ (List.range feature.rules.length).map .rule

theorem children_stored (feature : Feature) :
    feature.children = feature.storedChildren.map fun child => (child.line feature,child.ids feature) := by
  rw [children,storedChildren,List.map_append,List.map_map,List.map_map]
  congr 1
  · apply mapIdx_range
    intro i scenario present
    simp [Child.line,Child.ids,present]
  · apply mapIdx_range
    intro r rule present
    simp [Child.line,Child.ids,present,ruleIds]

theorem storedChildren_ahead (feature : Feature) : feature.storedChildren.Pairwise Child.Ahead := by
  refine List.pairwise_append.mpr ⟨?_,?_,?_⟩
  · exact List.pairwise_map.mpr (List.pairwise_lt_range.imp .scenarios)
  · exact List.pairwise_map.mpr (List.pairwise_lt_range.imp .rules)
  · intro a direct b ruled
    obtain ⟨i,_,rfl⟩ := List.mem_map.mp direct
    obtain ⟨r,_,rfl⟩ := List.mem_map.mp ruled
    exact .scenarioRule

def sortedChildren (feature : Feature) : List Child :=
  feature.storedChildren.mergeSort fun a b => decide (a.line feature ≤ b.line feature)

theorem sortedChildren_order (feature : Feature) : DocumentOrder feature feature.sortedChildren := by
  refine ⟨fun i => ?_,fun r => ?_,?_⟩
  · simp [sortedChildren,storedChildren]
  · simp [sortedChildren,storedChildren]
  · refine (mergeSort_stable ?_ ?_ feature.storedChildren_ahead).imp ?_
    · intro a b c first second
      simp only [decide_eq_true_eq] at first second ⊢
      omega
    · intro a b
      simp only [Bool.or_eq_true,decide_eq_true_eq]
      omega
    · rintro a b ⟨above,level⟩
      simp only [decide_eq_true_eq] at above level
      rcases Nat.lt_or_eq_of_le above with less | same
      · exact .inl less
      · exact .inr ⟨same,level (Nat.le_of_eq same.symm)⟩

theorem scenarioIds_sorted (feature : Feature) :
    feature.scenarioIds = feature.sortedChildren.flatMap (Child.ids feature) := by
  let view (child : Child) := (child.line feature,child.ids feature)
  have moved : feature.sortedChildren.map view =
      (feature.storedChildren.map view).mergeSort fun a b => decide (a.1 ≤ b.1) :=
    List.map_mergeSort fun _ _ _ _ => rfl
  rw [scenarioIds,children_stored,← moved,List.flatMap_map]

theorem rule_together (feature : Feature) {r : Nat} {rule : Rule}
    (present : feature.rules[r]? = some rule) :
    ∃ before behind, feature.scenarioIds = before ++ ruleIds r rule ++ behind ∧
      ∀ id ∈ before ++ behind, id.rule ≠ some r := by
  have order := feature.sortedChildren_order
  have bound : r < feature.rules.length := (List.getElem?_eq_some_iff.mp present).1
  obtain ⟨first,rest,parts⟩ := List.append_of_mem ((order.rules r).mpr bound)
  have own : (Child.rule r).ids feature = ruleIds r rule := by simp [Child.ids,present]
  refine ⟨first.flatMap (Child.ids feature),rest.flatMap (Child.ids feature),?_,?_⟩
  · rw [scenarioIds_sorted,parts,List.flatMap_append,List.flatMap_cons,own,List.append_assoc]
  · intro id outside same
    rw [← List.flatMap_append] at outside
    obtain ⟨child,member,inside⟩ := List.mem_flatMap.mp outside
    obtain rfl := Child.ids_rule inside same
    have once := order.nodup
    rw [parts,List.nodup_middle] at once
    exact (List.nodup_cons.mp once).1 member

-- An id is listed if it stands for a scenario, and then once. The listing follows the
-- lines, scenarios before rules and each kind by its indices where lines are equal, and a
-- rule is never parted.
theorem scenarioIds_exact (feature : Feature) :
    (∀ id, feature.scenarioIds.count id = if (id.resolve? feature).isSome then 1 else 0) ∧
    (∃ order, DocumentOrder feature order ∧
      feature.scenarioIds = order.flatMap (Child.ids feature)) ∧
    ∀ r rule, feature.rules[r]? = some rule → ∃ before behind,
      feature.scenarioIds =
        before ++ (List.range rule.scenarios.length).map (fun i => ⟨some r,i⟩) ++ behind ∧
      ∀ id ∈ before ++ behind, id.rule ≠ some r := by
  refine ⟨fun id => ?_,⟨_,feature.sortedChildren_order,feature.scenarioIds_sorted⟩,
    fun r rule present => feature.rule_together present⟩
  rw [feature.scenarioIds_nodup.count]
  simp only [mem_scenarioIds]

-- Lines that tie, that are zero and that disagree with the indices; the second rule is empty.
def tangled : Feature :=
  ⟨"",[],[⟨"Scenario","",[],[],[],7⟩,⟨"Scenario","",[],[],[],3⟩,⟨"Scenario","",[],[],[],0⟩],
    [⟨"",[],[⟨"Scenario","",[],[],[],9⟩,⟨"Scenario","",[],[],[],1⟩],3⟩,⟨"",[],[],0⟩,
      ⟨"",[],[⟨"Scenario","",[],[],[],4⟩],3⟩],1⟩

theorem scenarioIds_exact_tangled :
    tangled.scenarioIds = [⟨none,2⟩,⟨none,1⟩,⟨some 0,0⟩,⟨some 0,1⟩,⟨some 2,0⟩,⟨none,0⟩] ∧
    ∃ before behind, tangled.scenarioIds = before ++ [⟨some 0,0⟩,⟨some 0,1⟩] ++ behind ∧
      ∀ id ∈ before ++ behind, id.rule ≠ some 0 := by
  refine ⟨?_,(scenarioIds_exact tangled).2.2 0 _ rfl⟩
  simp [scenarioIds,children,tangled,List.mergeSort,List.range_succ]

end Feature

end ScenarioSuite
