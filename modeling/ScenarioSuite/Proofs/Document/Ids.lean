import Mathlib.Data.List.Nodup
import ScenarioSuite.Document

namespace ScenarioSuite

theorem pairwise_enumerated {α β : Type} {R : β → β → Prop} (f : Nat → α → List β) (l : List α)
    (within : ∀ i x, l[i]? = some x → (f i x).Pairwise R)
    (across : ∀ i j x y, i < j → l[i]? = some x → l[j]? = some y → ∀ a ∈ f i x, ∀ b ∈ f j y, R a b) :
    (l.mapIdx f).flatten.Pairwise R := by
  rw [List.pairwise_flatten]
  constructor
  · intro part member
    obtain ⟨i,bound,rfl⟩ := List.mem_mapIdx.mp member
    exact within i l[i] (List.getElem?_eq_getElem bound)
  · rw [List.pairwise_iff_getElem]
    intro i j hi hj less
    rw [List.length_mapIdx] at hi hj
    simp only [List.getElem_mapIdx]
    exact across i j l[i] l[j] less (List.getElem?_eq_getElem hi) (List.getElem?_eq_getElem hj)

theorem mem_enumerated {α β : Type} (f : Nat → α → List β) (l : List α) (b : β) :
    b ∈ (l.mapIdx f).flatten ↔ ∃ i x, l[i]? = some x ∧ b ∈ f i x := by
  constructor
  · intro member
    obtain ⟨part,found,inside⟩ := List.mem_flatten.mp member
    obtain ⟨i,bound,rfl⟩ := List.mem_mapIdx.mp found
    exact ⟨i,l[i],List.getElem?_eq_getElem bound,inside⟩
  · rintro ⟨i,x,present,inside⟩
    obtain ⟨bound,rfl⟩ := List.getElem?_eq_some_iff.mp present
    exact List.mem_flatten.mpr ⟨_,List.mem_mapIdx.mpr ⟨i,bound,rfl⟩,inside⟩

theorem map_enumerated {α β γ : Type} (g : β → γ) (f : Nat → α → β) (l : List α) :
    (l.mapIdx f).map g = l.mapIdx fun i x => g (f i x) := by
  apply List.ext_getElem?
  intro i
  cases present : l[i]? <;> simp [present]

theorem mapIdx_plain {α β : Type} {f : Nat → α → β} {g : α → β} {l : List α}
    (same : ∀ i x, l[i]? = some x → f i x = g x) : l.mapIdx f = l.map g := by
  apply List.ext_getElem?
  intro i
  cases present : l[i]? with
  | none => simp [present]
  | some x => simp [present,same i x present]

theorem mapIdx_range {α β : Type} {f : Nat → α → β} {g : Nat → β} {l : List α}
    (same : ∀ i x, l[i]? = some x → f i x = g i) : l.mapIdx f = (List.range l.length).map g := by
  apply List.ext_getElem
  · simp
  · intro i first _
    rw [List.length_mapIdx] at first
    simp [same i l[i] (List.getElem?_eq_getElem first)]

theorem filterMap_enumerated {α β γ : Type} {f : Nat → α → List β} {keep : β → Option γ}
    {g : α → List γ} {l : List α} (same : ∀ i x, l[i]? = some x → (f i x).filterMap keep = g x) :
    (l.mapIdx f).flatten.filterMap keep = l.flatMap g := by
  rw [List.filterMap_flatten,map_enumerated,mapIdx_plain same,List.flatMap_def]

theorem filterMap_range {α β : Type} (f : α → β) (l : List α) :
    (List.range l.length).filterMap (fun i => (l[i]?).map f) = l.map f := by
  induction l with
  | nil => rfl
  | cons x l ih => simpa [List.range_succ_eq_map,List.filterMap_map,Function.comp_def] using ih

theorem flatMap_enumerated {α β γ : Type} (g : α → γ) (f : Nat → α → List β) (l : List α) :
    (l.mapIdx fun i x => (g x,f i x)).flatMap Prod.snd = (l.mapIdx f).flatten := by
  rw [List.flatMap_def,map_enumerated]

namespace Feature

def ruleIds (r : Nat) (rule : Rule) : List ScenarioId :=
  (List.range rule.scenarios.length).map fun i => ⟨some r,i⟩

def storedIds (feature : Feature) : List ScenarioId :=
  (feature.scenarios.mapIdx fun i _ => [⟨none,i⟩]).flatten ++ (feature.rules.mapIdx ruleIds).flatten

theorem children_ids (feature : Feature) : feature.children.flatMap Prod.snd = feature.storedIds := by
  rw [children,List.flatMap_append,storedIds]
  exact congrArg₂ (· ++ ·) (flatMap_enumerated Scenario.line _ feature.scenarios)
    (flatMap_enumerated Rule.line ruleIds feature.rules)

theorem scenarioIds_perm (feature : Feature) : feature.scenarioIds.Perm feature.storedIds := by
  rw [← children_ids]
  exact (List.mergeSort_perm _ _).flatMap_right _

theorem mem_ruleIds (r : Nat) (rule : Rule) (id : ScenarioId) :
    id ∈ ruleIds r rule ↔ id.rule = some r ∧ id.scenario < rule.scenarios.length := by
  simp only [ruleIds,List.mem_map,List.mem_range]
  constructor
  · rintro ⟨i,bound,rfl⟩
    exact ⟨rfl,bound⟩
  · rintro ⟨place,bound⟩
    exact ⟨id.scenario,bound,by rw [← place]⟩

theorem ruleIds_nodup (r : Nat) (rule : Rule) : (ruleIds r rule).Nodup := by
  apply List.nodup_range.map
  intro i j same
  exact congrArg ScenarioId.scenario same

theorem mem_storedIds (feature : Feature) (id : ScenarioId) :
    id ∈ feature.storedIds ↔ (id.resolve? feature).isSome := by
  obtain ⟨rule,scenario⟩ := id
  rw [storedIds,List.mem_append,mem_enumerated,mem_enumerated]
  cases rule with
  | none => simp [ScenarioId.resolve?,mem_ruleIds,← Option.isSome_iff_exists]
  | some r =>
      cases present : feature.rules[r]? with
      | none => simp [ScenarioId.resolve?,mem_ruleIds,present]
      | some rule =>
          by_cases bound : scenario < rule.scenarios.length <;>
            simp [ScenarioId.resolve?,mem_ruleIds,present,bound]

theorem mem_scenarioIds (feature : Feature) (id : ScenarioId) :
    id ∈ feature.scenarioIds ↔ (id.resolve? feature).isSome := by
  rw [(scenarioIds_perm feature).mem_iff,mem_storedIds]

theorem storedIds_nodup (feature : Feature) : feature.storedIds.Nodup := by
  refine List.nodup_append.mpr ⟨?_,?_,?_⟩
  · apply pairwise_enumerated
    · intro i _ _
      exact List.nodup_singleton _
    · intro i j _ _ less _ _ a first b second
      rw [List.mem_singleton.mp first,List.mem_singleton.mp second]
      intro same
      exact Nat.ne_of_lt less (congrArg ScenarioId.scenario same)
  · apply pairwise_enumerated
    · intro r rule _
      exact ruleIds_nodup r rule
    · intro r s _ _ less _ _ a first b second same
      subst same
      have own := ((mem_ruleIds _ _ _).mp first).1
      have other := ((mem_ruleIds _ _ _).mp second).1
      exact Nat.ne_of_lt less (Option.some.inj (own.symm.trans other))
  · intro a direct b ruled same
    subst same
    obtain ⟨i,_,_,single⟩ := (mem_enumerated _ _ _).mp direct
    obtain ⟨r,rule,_,inside⟩ := (mem_enumerated _ _ _).mp ruled
    rw [List.mem_singleton.mp single] at inside
    exact absurd ((mem_ruleIds _ _ _).mp inside).1 (by simp)

theorem scenarioIds_nodup (feature : Feature) : feature.scenarioIds.Nodup :=
  (scenarioIds_perm feature).nodup_iff.mpr (storedIds_nodup feature)

def outlines (feature : Feature) : List (Option Rule × Scenario) :=
  feature.scenarios.map (none,·) ++
    feature.rules.flatMap fun rule => rule.scenarios.map (some rule,·)

theorem allScenarios_outlines (feature : Feature) :
    feature.allScenarios = feature.outlines.map Prod.snd := by
  rw [allScenarios,outlines,List.map_append,List.map_flatMap,List.flatMap_def,List.flatMap_def]
  simp only [List.map_map,Function.comp_def,List.map_id_fun']
  rfl

theorem ruleIds_outlines {feature : Feature} {r : Nat} {rule : Rule}
    (present : feature.rules[r]? = some rule) :
    (ruleIds r rule).filterMap (·.resolve? feature) = rule.scenarios.map (some rule,·) := by
  have found (i : Nat) : ScenarioId.resolve? ⟨some r,i⟩ feature =
      (rule.scenarios[i]?).map (some rule,·) := by
    cases found : rule.scenarios[i]? <;> simp [ScenarioId.resolve?,present,found]
  rw [ruleIds,List.filterMap_map,← filterMap_range]
  exact List.filterMap_congr fun i _ => found i

theorem storedIds_outlines (feature : Feature) :
    feature.storedIds.filterMap (·.resolve? feature) = feature.outlines := by
  rw [storedIds,outlines,List.filterMap_append]
  congr 1
  · rw [List.map_eq_flatMap]
    refine filterMap_enumerated fun i scenario present => ?_
    simp [ScenarioId.resolve?,present]
  · exact filterMap_enumerated fun r rule present => ruleIds_outlines present

theorem mem_outlines (feature : Feature) (outline : Option Rule × Scenario) :
    outline ∈ feature.outlines ↔ ∃ id : ScenarioId, id.resolve? feature = some outline := by
  rw [← storedIds_outlines,List.mem_filterMap]
  constructor
  · rintro ⟨id,_,found⟩
    exact ⟨id,found⟩
  · rintro ⟨id,found⟩
    exact ⟨id,(feature.mem_storedIds id).mpr (by rw [found]; rfl),found⟩

end Feature

end ScenarioSuite
