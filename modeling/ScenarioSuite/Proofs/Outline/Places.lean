import Mathlib.Data.List.Forall2
import ScenarioSuite.Outline
import ScenarioSuite.Proofs.Document.Ids

namespace ScenarioSuite

structure Place where
  id : ScenarioId
  block : Nat
  row : Nat
  deriving DecidableEq, Repr

def ConcreteScenario.place (s : ConcreteScenario) : Place := ⟨s.id,s.examplesIndex,s.rowIndex⟩

structure Located (feature : Feature) (p : Place) (rule : Option Rule) (scenario : Scenario)
    (examples : Examples) (source : SourceTable) : Prop where
  outline : p.id.resolve? feature = some (rule,scenario)
  block : scenario.examples[p.block]? = some examples
  table : examples.table = some source

-- The places that are to be filled. Nothing here says how they are found.
def Selected (feature : Feature) (filter : Option TagFilter) (p : Place) : Prop :=
  ∃ rule scenario examples source header body,
    Located feature p rule scenario examples source ∧ source.rows = header :: body ∧
      header ≠ [] ∧ p.row < body.length ∧
      ∀ f, filter = some f → f.acceptsExamples feature rule scenario examples = true

structure StepFilled (values : Substitution) (template : StepTemplate) (step : ConcreteStep) :
    Prop where
  keyword : step.keyword = template.keyword
  line : step.line = template.line
  text : step.text = values.apply template.text
  docstring : step.docstring = template.docstring.map values.apply
  table : Option.Rel (fun source table =>
    List.Forall₂ (List.Forall₂ fun old cell => cell = values.apply old) source.rows table.rows)
      template.table step.table

structure Filled (feature : Feature) (s : ConcreteScenario) (rule : Option Rule)
    (scenario : Scenario) (examples : Examples) (source : SourceTable) : Prop
    extends Located feature s.place rule scenario examples source where
  header : source.rows[0]? = some s.header
  columns : s.header ≠ []
  row : source.rows[s.rowIndex + 1]? = some s.row
  line : s.line = source.line + 1 + s.rowIndex
  tags : s.tags = inheritedTags feature rule scenario (some examples)
  keyword : s.keyword = scenario.keyword
  name : s.name = s.values.apply scenario.name
  steps : List.Forall₂ (StepFilled s.values) scenario.steps s.steps

def Before (feature : Feature) (p q : Place) : Prop :=
  feature.scenarioIds.idxOf p.id < feature.scenarioIds.idxOf q.id ∨
    p.id = q.id ∧ (p.block < q.block ∨ p.block = q.block ∧ p.row < q.row)

theorem before_irrefl (feature : Feature) (p : Place) : ¬ Before feature p p := by
  simp [Before]

theorem fill_step (values : Substitution) (template : StepTemplate) :
    StepFilled values template (template.fill values) := by
  refine ⟨rfl,rfl,rfl,rfl,?_⟩
  unfold StepTemplate.fill
  cases template.table with
  | none => exact .none
  | some source =>
      apply Option.Rel.some
      simp only [Table.ofSource,Table.mapCells,List.forall₂_map_right_iff]
      exact List.forall₂_same.mpr fun row _ => List.forall₂_same.mpr fun _ _ => rfl

theorem fill_steps (values : Substitution) (templates : List StepTemplate) :
    List.Forall₂ (StepFilled values) templates (templates.map (·.fill values)) := by
  rw [List.forall₂_map_right_iff]
  exact List.forall₂_same.mpr fun template _ => fill_step values template

theorem rows_parts (examples : Examples) (rows : ExampleRows) :
    examples.rows? = some rows ↔ ∃ source, examples.table = some source ∧
      source.rows = rows.header :: rows.body ∧ rows.header ≠ [] ∧ rows.body ≠ [] ∧
      rows.line = source.line := by
  obtain ⟨line,header,body⟩ := rows
  unfold Examples.rows?
  cases examples.table with
  | none => simp
  | some source =>
      obtain ⟨cells,first⟩ := source
      cases cells with
      | nil => simp
      | cons top rest =>
          by_cases full : top ≠ [] ∧ rest ≠ []
          · simp only [Option.bind_eq_bind,Option.bind_some,if_pos full,Option.some.injEq,
              ExampleRows.mk.injEq,exists_eq_left',List.cons.injEq]
            constructor
            · rintro ⟨rfl,rfl,rfl⟩
              exact ⟨⟨rfl,rfl⟩,full.1,full.2,rfl⟩
            · rintro ⟨⟨rfl,rfl⟩,_,_,rfl⟩
              exact ⟨rfl,rfl,rfl⟩
          · simp only [Option.bind_eq_bind,Option.bind_some,if_neg full,Option.some.injEq,
              exists_eq_left',List.cons.injEq]
            constructor
            · intro impossible
              cases impossible
            · rintro ⟨⟨rfl,rfl⟩,columns,lines,_⟩
              exact absurd ⟨columns,lines⟩ full

theorem mem_expandBlock (feature : Feature) (id : ScenarioId) (rule : Option Rule)
    (scenario : Scenario) (filter : Option TagFilter) (block : Nat) (examples : Examples)
    (s : ConcreteScenario) :
    s ∈ expandBlock feature id rule scenario filter block examples ↔
      (∀ f, filter = some f → f.acceptsExamples feature rule scenario examples = true) ∧
      ∃ rows, examples.rows? = some rows ∧ ∃ i row, rows.body[i]? = some row ∧
        s = scenario.fill id block (inheritedTags feature rule scenario (some examples)) rows i row := by
  have taken : (filter.all fun f => f.acceptsExamples feature rule scenario examples) = true ↔
      ∀ f, filter = some f → f.acceptsExamples feature rule scenario examples = true := by
    cases filter <;> simp
  rw [expandBlock,← taken]
  split
  · rename_i accepted
    cases examples.rows? with
    | none => simp
    | some rows =>
        simp only [accepted,true_and,List.mem_mapIdx,Option.some.injEq,exists_eq_left']
        constructor
        · rintro ⟨i,bound,rfl⟩
          exact ⟨i,rows.body[i],List.getElem?_eq_getElem bound,rfl⟩
        · rintro ⟨i,row,present,rfl⟩
          obtain ⟨bound,rfl⟩ := List.getElem?_eq_some_iff.mp present
          exact ⟨i,bound,rfl⟩
  · rename_i refused
    simp [refused]

theorem mem_expandScenario (feature : Feature) (id : ScenarioId) (filter : Option TagFilter)
    (s : ConcreteScenario) :
    s ∈ expandScenario feature id filter ↔
      ∃ rule scenario, id.resolve? feature = some (rule,scenario) ∧
        ∃ block examples, scenario.examples[block]? = some examples ∧
          s ∈ expandBlock feature id rule scenario filter block examples := by
  unfold expandScenario
  cases found : id.resolve? feature with
  | none => simp
  | some outline =>
      obtain ⟨rule,scenario⟩ := outline
      simp only [mem_enumerated,Option.some.injEq,Prod.mk.injEq]
      constructor
      · intro inside
        exact ⟨rule,scenario,⟨rfl,rfl⟩,inside⟩
      · rintro ⟨_,_,⟨rfl,rfl⟩,inside⟩
        exact inside

theorem mem_expand (feature : Feature) (filter : Option TagFilter) (s : ConcreteScenario) :
    s ∈ feature.expand filter ↔ ∃ id, s ∈ expandScenario feature id filter := by
  unfold Feature.expand
  rw [List.mem_flatMap]
  constructor
  · rintro ⟨id,_,inside⟩
    exact ⟨id,inside⟩
  · rintro ⟨id,inside⟩
    obtain ⟨rule,scenario,found,_⟩ := (mem_expandScenario _ _ _ _).mp inside
    exact ⟨id,(feature.mem_scenarioIds id).mpr (by rw [found]; rfl),inside⟩

theorem fill_filled {feature : Feature} {id : ScenarioId} {rule : Option Rule} {scenario : Scenario}
    {block : Nat} {examples : Examples} {rows : ExampleRows} {i : Nat} {row : List String}
    {source : SourceTable} (found : id.resolve? feature = some (rule,scenario))
    (atBlock : scenario.examples[block]? = some examples) (table : examples.table = some source)
    (split : source.rows = rows.header :: rows.body) (columns : rows.header ≠ [])
    (line : rows.line = source.line) (atRow : rows.body[i]? = some row) :
    Filled feature
      (scenario.fill id block (inheritedTags feature rule scenario (some examples)) rows i row)
      rule scenario examples source where
  outline := found
  block := atBlock
  table := table
  header := by rw [split]; rfl
  columns := columns
  row := by rw [split]; exact atRow
  line := by rw [← line]; rfl
  tags := rfl
  keyword := rfl
  name := rfl
  steps := fill_steps _ _

theorem expand_filled (feature : Feature) (filter : Option TagFilter) (s : ConcreteScenario)
    (made : s ∈ feature.expand filter) :
    Selected feature filter s.place ∧
      ∃ rule scenario examples source, Filled feature s rule scenario examples source := by
  obtain ⟨id,inside⟩ := (mem_expand _ _ _).mp made
  obtain ⟨rule,scenario,found,block,examples,atBlock,inBlock⟩ := (mem_expandScenario _ _ _ _).mp inside
  obtain ⟨accepted,rows,taken,i,row,atRow,rfl⟩ := (mem_expandBlock _ _ _ _ _ _ _ _).mp inBlock
  obtain ⟨source,table,split,columns,_,line⟩ := (rows_parts _ _).mp taken
  have filled := fill_filled found atBlock table split columns line atRow
  have bound := (List.getElem?_eq_some_iff.mp atRow).1
  exact ⟨⟨rule,scenario,examples,source,rows.header,rows.body,filled.toLocated,split,columns,bound,
    accepted⟩,rule,scenario,examples,source,filled⟩

theorem selected_made (feature : Feature) (filter : Option TagFilter) (p : Place)
    (selected : Selected feature filter p) : p ∈ (feature.expand filter).map ConcreteScenario.place := by
  obtain ⟨rule,scenario,examples,source,header,body,here,split,columns,bound,accepted⟩ := selected
  have lines : body ≠ [] := List.ne_nil_of_length_pos (Nat.zero_lt_of_lt bound)
  have taken : examples.rows? = some ⟨source.line,header,body⟩ :=
    (rows_parts _ _).mpr ⟨source,here.table,split,columns,lines,rfl⟩
  have inBlock : scenario.fill p.id p.block (inheritedTags feature rule scenario (some examples))
      ⟨source.line,header,body⟩ p.row body[p.row] ∈
        expandBlock feature p.id rule scenario filter p.block examples :=
    (mem_expandBlock _ _ _ _ _ _ _ _).mpr
      ⟨accepted,_,taken,p.row,body[p.row],List.getElem?_eq_getElem bound,rfl⟩
  have inScenario := (mem_expandScenario _ _ _ _).mpr
    ⟨rule,scenario,here.outline,p.block,examples,here.block,inBlock⟩
  exact List.mem_map.mpr ⟨_,(mem_expand _ _ _).mpr ⟨p.id,inScenario⟩,rfl⟩

theorem idxOf_ordered {α : Type} [DecidableEq α] {l : List α} (distinct : l.Nodup) :
    l.Pairwise fun a b => l.idxOf a < l.idxOf b := by
  rw [List.pairwise_iff_getElem]
  intro i j hi hj less
  rwa [distinct.idxOf_getElem i hi,distinct.idxOf_getElem j hj]

theorem block_ordered (feature : Feature) (id : ScenarioId) (rule : Option Rule)
    (scenario : Scenario) (filter : Option TagFilter) (block : Nat) (examples : Examples) :
    (expandBlock feature id rule scenario filter block examples).Pairwise
      fun a b => Before feature a.place b.place := by
  unfold expandBlock
  split
  · split
    · rw [List.pairwise_iff_getElem]
      intro i j hi hj less
      simp only [List.getElem_mapIdx]
      exact .inr ⟨rfl,.inr ⟨rfl,less⟩⟩
    · exact .nil
  · exact .nil

theorem place_block {feature : Feature} {id : ScenarioId} {rule : Option Rule} {scenario : Scenario}
    {filter : Option TagFilter} {block : Nat} {examples : Examples} {s : ConcreteScenario}
    (made : s ∈ expandBlock feature id rule scenario filter block examples) :
    s.id = id ∧ s.examplesIndex = block := by
  obtain ⟨_,_,_,_,_,_,rfl⟩ := (mem_expandBlock _ _ _ _ _ _ _ _).mp made
  exact ⟨rfl,rfl⟩

theorem scenario_ordered (feature : Feature) (id : ScenarioId) (filter : Option TagFilter) :
    (expandScenario feature id filter).Pairwise fun a b => Before feature a.place b.place := by
  unfold expandScenario
  split
  · apply pairwise_enumerated
    · intro block examples _
      exact block_ordered _ _ _ _ _ _ _
    · intro i j _ _ less _ _ a first b second
      obtain ⟨idA,blockA⟩ := place_block first
      obtain ⟨idB,blockB⟩ := place_block second
      refine .inr ⟨idA.trans idB.symm,.inl ?_⟩
      change a.examplesIndex < b.examplesIndex
      omega
  · exact .nil

theorem place_id {feature : Feature} {id : ScenarioId} {filter : Option TagFilter}
    {s : ConcreteScenario} (made : s ∈ expandScenario feature id filter) : s.place.id = id := by
  obtain ⟨_,_,_,_,_,_,inside⟩ := (mem_expandScenario _ _ _ _).mp made
  exact (place_block inside).1

theorem expand_ordered (feature : Feature) (filter : Option TagFilter) :
    (feature.expand filter).Pairwise fun a b => Before feature a.place b.place := by
  unfold Feature.expand
  rw [List.pairwise_flatMap]
  refine ⟨fun id _ => scenario_ordered feature id filter,?_⟩
  refine (idxOf_ordered feature.scenarioIds_nodup).imp ?_
  intro i j less a first b second
  refine .inl ?_
  rwa [place_id first,place_id second]

-- Each scenario tells truly which row it is made from and how; each row to be filled
-- is filled once; and the rows come in the order of the ids, the blocks and the rows.
theorem expansion_exact (feature : Feature) (filter : Option TagFilter) :
    (∀ s ∈ expandDocument (some feature) filter, Selected feature filter s.place ∧
      ∃ rule scenario examples source, Filled feature s rule scenario examples source) ∧
    (∀ p, Selected feature filter p →
      ((expandDocument (some feature) filter).map ConcreteScenario.place).count p = 1) ∧
    ((expandDocument (some feature) filter).map ConcreteScenario.place).Pairwise (Before feature) := by
  have ordered : ((feature.expand filter).map ConcreteScenario.place).Pairwise (Before feature) :=
    List.pairwise_map.mpr (expand_ordered feature filter)
  refine ⟨fun s made => expand_filled feature filter s made,?_,ordered⟩
  intro p selected
  have distinct : ((feature.expand filter).map ConcreteScenario.place).Nodup := by
    refine ordered.imp ?_
    rintro a b before rfl
    exact before_irrefl feature a before
  exact List.count_eq_one_of_mem distinct (selected_made feature filter p selected)

-- Of three blocks the first has no table, and a row of the last one lacks a cell.
def cucumbers : Feature :=
  ⟨"Hungry",["@food"],[⟨"Scenario Outline","eating <eat>",[],
    [⟨"Given ","there are <start> cucumbers",none,none,4⟩],
    [⟨"",[],none,6⟩,⟨"",["@fast"],some ⟨[["start","eat"],["12","5"],["20","4"]],9⟩,8⟩,
      ⟨"",["@slow"],some ⟨[["start","eat"],["7"]],14⟩,13⟩],3⟩],[],1⟩

def eatingFour : ConcreteScenario :=
  ⟨⟨none,0⟩,"Scenario Outline","eating 4",
    [⟨"Given ","there are 20 cucumbers",none,none,4⟩],11,1,1,["start","eat"],["20","4"],
    ["@food","@fast"]⟩

theorem expansion_exact_cucumbers :
    eatingFour ∈ expandDocument (some cucumbers) none ∧
      (∃ rule scenario examples source,
        Filled cucumbers eatingFour rule scenario examples source) ∧
      Selected cucumbers none eatingFour.place ∧
      ((expandDocument (some cucumbers) none).map ConcreteScenario.place).count ⟨⟨none,0⟩,1,1⟩ = 1 := by
  have made : eatingFour ∈ expandDocument (some cucumbers) none :=
    (mem_expand _ _ _).mpr ⟨⟨none,0⟩,by decide⟩
  obtain ⟨truthful,once,_⟩ := expansion_exact cucumbers none
  obtain ⟨selected,filled⟩ := truthful eatingFour made
  exact ⟨made,filled,selected,once eatingFour.place selected⟩

end ScenarioSuite
