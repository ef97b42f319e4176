import ScenarioSuite.Proofs.Outline.Selection

namespace ScenarioSuite

def Examples.HasRows (examples : Examples) : Prop :=
  ∃ source header body, examples.table = some source ∧ source.rows = header :: body ∧
    header ≠ [] ∧ body ≠ []

theorem hasRows_exact (examples : Examples) : examples.HasRows ↔ ∃ rows, examples.rows? = some rows := by
  constructor
  · rintro ⟨source,header,body,table,split,columns,lines⟩
    exact ⟨⟨source.line,header,body⟩,(rows_parts _ _).mpr ⟨source,table,split,columns,lines,rfl⟩⟩
  · rintro ⟨rows,taken⟩
    obtain ⟨source,table,split,columns,lines,_⟩ := (rows_parts _ _).mp taken
    exact ⟨source,rows.header,rows.body,table,split,columns,lines⟩

def Scenario.rows (scenario : Scenario) : List (List String) :=
  (scenario.examples.filterMap Examples.rows?).flatMap ExampleRows.body

theorem flatMap_present {α β γ : Type} (f : α → Option β) (g : β → List γ) (l : List α) :
    l.flatMap (fun x => (f x).elim [] g) = (l.filterMap f).flatMap g := by
  induction l with
  | nil => rfl
  | cons x l ih => cases found : f x <;> simp [found,ih]

theorem block_rows (feature : Feature) (id : ScenarioId) (rule : Option Rule)
    (scenario : Scenario) (block : Nat) (examples : Examples) :
    (expandBlock feature id rule scenario none block examples).map ConcreteScenario.row =
      examples.rows?.elim [] ExampleRows.body := by
  simp only [expandBlock,Option.all_none,if_true]
  cases examples.rows? with
  | none => rfl
  | some rows =>
      have own : rows.body.mapIdx (fun _ row => row) = rows.body.map fun row => row :=
        mapIdx_plain fun _ _ _ => rfl
      simpa [map_enumerated,Scenario.fill] using own

theorem scenario_rows (feature : Feature) (id : ScenarioId) :
    (expandScenario feature id none).map ConcreteScenario.row =
      (id.resolve? feature).elim [] fun outline => outline.2.rows := by
  unfold expandScenario
  cases id.resolve? feature with
  | none => rfl
  | some outline =>
      obtain ⟨rule,scenario⟩ := outline
      rw [← List.filterMap_eq_map]
      simp only [Option.elim_some,Scenario.rows,← flatMap_present]
      refine filterMap_enumerated fun block examples _ => ?_
      rw [List.filterMap_eq_map]
      exact block_rows feature id rule scenario block examples

-- An expansion without a filter uses up the rows of all scenarios. The ids it goes by are
-- sorted, so it does so in another order.
theorem expand_rows (feature : Feature) :
    ((feature.expand none).map ConcreteScenario.row).Perm (feature.allScenarios.flatMap Scenario.rows) := by
  rw [Feature.expand,List.map_flatMap]
  simp only [scenario_rows]
  refine (feature.scenarioIds_perm.flatMap_right _).trans (.of_eq ?_)
  rw [flatMap_present,feature.storedIds_outlines,feature.allScenarios_outlines,List.flatMap_map]

theorem foldl_body (blocks : List ExampleRows) (total : Nat) :
    blocks.foldl (fun total rows => total + rows.body.length) total =
      total + (blocks.flatMap ExampleRows.body).length := by
  induction blocks generalizing total with
  | nil => rfl
  | cons rows blocks ih => rw [List.foldl_cons,ih,List.flatMap_cons,List.length_append,Nat.add_assoc]

theorem countRows_rows (feature : Feature) :
    feature.countRows = (feature.allScenarios.flatMap Scenario.rows).length := by
  rw [Feature.countRows,foldl_body,Nat.zero_add,List.filterMap_flatMap,List.flatMap_assoc]
  rfl

theorem accepts_expanded (feature : Feature) (filter : TagFilter) :
    (∀ s ∈ feature.expand none, filter.accepts s.tags = true) ↔
      ∀ outline ∈ feature.outlines, ∀ examples ∈ outline.2.examples, examples.HasRows →
        filter.acceptsExamples feature outline.1 outline.2 examples = true := by
  simp only [TagFilter.acceptsExamples_inherited]
  constructor
  · rintro accepted ⟨rule,scenario⟩ outline examples member full
    obtain ⟨id,found⟩ := (feature.mem_outlines _).mp outline
    obtain ⟨block,atBlock⟩ := List.mem_iff_getElem?.mp member
    obtain ⟨rows,taken⟩ := (hasRows_exact examples).mp full
    obtain ⟨_,_,_,_,lines,_⟩ := (rows_parts _ _).mp taken
    obtain ⟨row,rest,body⟩ := List.exists_cons_of_ne_nil lines
    have inBlock := (mem_expandBlock feature id rule scenario none block examples _).mpr
      ⟨nofun,rows,taken,0,row,by rw [body]; rfl,rfl⟩
    have inScenario := (mem_expandScenario feature id none _).mpr
      ⟨rule,scenario,found,block,examples,atBlock,inBlock⟩
    exact accepted _ ((mem_expand _ _ _).mpr ⟨id,inScenario⟩)
  · intro accepted s made
    obtain ⟨id,inside⟩ := (mem_expand _ _ _).mp made
    obtain ⟨rule,scenario,found,block,examples,atBlock,inBlock⟩ := (mem_expandScenario _ _ _ _).mp inside
    obtain ⟨_,rows,taken,_,_,_,rfl⟩ := (mem_expandBlock _ _ _ _ _ _ _ _).mp inBlock
    exact accepted (rule,scenario) ((feature.mem_outlines _).mpr ⟨id,found⟩) examples
      (List.mem_of_getElem? atBlock) ((hasRows_exact examples).mpr ⟨rows,taken⟩)

-- The rows that are counted as they are stored are those that the expansion uses up. A
-- filter can only take some away, and takes none exactly if it accepts every block that
-- has a header and a body.
theorem countRows_exact (feature : Feature) :
    feature.countRows = (feature.expand none).length ∧
    ∀ filter, (feature.expand (some filter)).length ≤ feature.countRows ∧
      ((feature.expand (some filter)).length = feature.countRows ↔
        ∀ outline ∈ feature.outlines, ∀ examples ∈ outline.2.examples, examples.HasRows →
          filter.acceptsExamples feature outline.1 outline.2 examples = true) := by
  have counted : feature.countRows = (feature.expand none).length := by
    rw [countRows_rows,← (expand_rows feature).length_eq,List.length_map]
  refine ⟨counted,fun filter => ?_⟩
  rw [counted,expand_filter,List.length_filter_eq_length_iff]
  exact ⟨List.length_filter_le _ _,accepts_expanded feature filter⟩

end ScenarioSuite
