import ScenarioSuite.Outline
import ScenarioSuite.Proofs.Outline.Places
import ScenarioSuite.Proofs.Placeholder.OnePass

namespace ScenarioSuite

namespace Text

def Overlaps (value part : List Char) : Prop :=
  value <:+: part ∨ part <:+: value ∨
    ∃ p q, p ≠ [] ∧ q ≠ [] ∧ part = p ++ q ∧ (p <:+ value ∨ q <+: value)

theorem overlaps_between {before value behind part : List Char}
    (inside : part <:+: before ++ value ++ behind) (early : ¬ part <:+: before)
    (late : ¬ part <:+: behind) : Overlaps value part := by
  rw [List.append_assoc,List.infix_append_iff_ne_nil,List.infix_append_iff_ne_nil] at inside
  rcases inside with first | (within | last | ⟨p,q,begun,left_over,split,suffix,_⟩)
    | ⟨p,q,begun,left_over,split,_,start⟩
  · exact absurd first early
  · exact .inr (.inl within)
  · exact absurd last late
  · exact .inr (.inr ⟨p,q,begun,left_over,split,.inl suffix⟩)
  · rcases List.prefix_or_prefix_of_prefix start (List.prefix_append value behind)
      with short | ⟨r,rfl⟩
    · exact .inr (.inr ⟨p,q,begun,left_over,split,.inr short⟩)
    · exact .inl ⟨p,r,by rw [split,List.append_assoc]⟩

theorem foreign_apart {value part : List Char} (filled : value ≠ [])
    (foreign : ∀ c ∈ value, c ∉ part) (long : part ≠ []) : ¬ Overlaps value part := by
  have meets : ∀ {piece : List Char}, piece ≠ [] → (∀ c ∈ piece, c ∈ value) →
      ¬ ∀ c ∈ piece, c ∈ part := by
    intro piece some_piece own shared
    obtain ⟨c,rest,rfl⟩ := List.exists_cons_of_ne_nil some_piece
    exact foreign c (own c List.mem_cons_self) (shared c List.mem_cons_self)
  rintro (within | around | ⟨p,q,begun,left_over,rfl,suffix | start⟩)
  · exact meets filled (fun _ member => member) fun _ member => within.mem member
  · exact meets long (fun _ member => around.mem member) fun _ member => member
  · exact meets begun (fun _ member => suffix.mem member) fun _ => List.mem_append_left q
  · exact meets left_over (fun _ member => start.mem member) fun _ => List.mem_append_right p

-- A text that was replaced, or was not there, stays away unless the new value overlaps
-- it. The induction is on the occurrences, from the last to the first.
theorem replaced_clear {old new text result part : List Char} (step : Replaced old new text result)
    (spared : ¬ Overlaps new part) (absent : old = part ∨ ¬ part <:+: text) :
    ¬ part <:+: result := by
  induction step with
  | clear gone =>
      rcases absent with rfl | never
      · exact gone
      · exact never
  | @found before behind result gone rest ih =>
      have early : ¬ part <:+: before := by
        rcases absent with rfl | never
        · exact gone
        · intro inside
          apply never
          rw [List.append_assoc]
          exact List.infix_append_of_infix_left inside
      have late : ¬ part <:+: result := by
        refine ih (absent.imp_right fun never inside => never ?_)
        exact List.infix_append_of_infix_right inside
      exact fun inside => spared (overlaps_between inside early late)

end Text

namespace Substitution

open Text

-- From some column of this name on, no cell overlaps the token of the name.
def Settles (s : Substitution) (column : String) : Prop :=
  ∃ earlier value later, s.values = earlier ++ (column,value) :: later ∧
    ∀ entry ∈ (column,value) :: later, ¬ Overlaps entry.2.toList (token column)

theorem applyChars_append (first second : List (String × String)) (text : List Char) :
    (Substitution.mk (first ++ second)).applyChars text =
      (Substitution.mk second).applyChars ((Substitution.mk first).applyChars text) := by
  simp [applyChars]

theorem run_clear (values : List (String × String)) {column : String} {text : List Char}
    (spared : ∀ entry ∈ values, ¬ Overlaps entry.2.toList (token column))
    (absent : ¬ token column <:+: text) :
    ¬ token column <:+: (Substitution.mk values).applyChars text := by
  induction values generalizing text with
  | nil => exact absent
  | cons entry rest ih =>
      rw [applyChars_cons]
      refine ih (fun other member => spared other (List.mem_cons_of_mem entry member)) ?_
      exact replaced_clear (replace_replaced (token_ne_nil entry.1) _ text)
        (spared entry List.mem_cons_self) (.inr absent)

theorem settles_clear {s : Substitution} {column : String} (settles : s.Settles column)
    (text : List Char) : ¬ token column <:+: s.applyChars text := by
  obtain ⟨values⟩ := s
  obtain ⟨earlier,value,later,split,spared⟩ := settles
  have whole : values = earlier ++ (column,value) :: later := split
  rw [whole,applyChars_append,applyChars_cons]
  refine run_clear later (fun entry member => spared entry (List.mem_cons_of_mem _ member)) ?_
  exact replaced_clear (replace_replaced (token_ne_nil column) _ _)
    (spared (column,value) List.mem_cons_self) (.inl rfl)

theorem overlaps_around {column : String} (plain : Plain column.toList) {value : List Char}
    (overlaps : Overlaps value (token column)) :
    ∃ front back, '>' ∉ front ∧ '<' ∉ back ∧ token column <:+: front ++ value ++ back := by
  rcases overlaps with ⟨front,back,split⟩ | around | ⟨p,q,begun,left_over,split,⟨more,rfl⟩ | ⟨more,rfl⟩⟩
  · by_cases empty : value = []
    · -- An empty cell may have been found at an end, so the token is cut behind its bracket.
      subst empty
      refine ⟨['<'],column.toList ++ ['>'],by simp,by simp [plain.1],?_⟩
      simp [token]
    · have begun := List.append_ne_nil_of_right_ne_nil front empty
      have left_over := List.append_ne_nil_of_left_ne_nil empty back
      refine ⟨front,back,?_,token_unopened plain split.symm begun,split ▸ List.infix_refl _⟩
      rw [List.append_assoc] at split
      exact token_unclosed plain split.symm left_over
  · exact ⟨[],[],by simp,by simp,by simpa using around⟩
  · refine ⟨[],q,by simp,token_unopened plain split begun,more,[],?_⟩
    simp [split]
  · refine ⟨p,[],token_unclosed plain split left_over,by simp,[],more,?_⟩
    simp [split]

theorem replace_between {column : String} (plain : Plain column.toList) {front back : List Char}
    (unclosed : '>' ∉ front) (unopened : '<' ∉ back) (value : List Char) :
    replace (token column) value (front ++ (token column ++ back)) = front ++ (value ++ back) := by
  induction front with
  | nil =>
      have absent : ¬ token column <:+: back := fun inside => unopened (inside.mem (opens_token column))
      rw [List.nil_append,replace_occurrence _ _ _ (token_ne_nil column),replace_unchanged value absent]
      rfl
  | cons c rest ih =>
      have late : ¬ token column <+: c :: (rest ++ (token column ++ back)) := by
        intro start
        rcases List.prefix_or_prefix_of_prefix start (List.prefix_append (c :: rest) _)
          with short | ⟨q,split⟩
        · exact unclosed (short.mem (closes_token column))
        · -- The token would have to open again before it closes.
          have moved : c :: rest ++ q <+: c :: rest ++ (token column ++ back) := by
            rw [split]
            exact start
          rw [List.prefix_append_right_inj] at moved
          have fresh : '<' ∉ q := token_unopened plain split.symm (List.cons_ne_nil c rest)
          cases q with
          | nil =>
              rw [List.append_nil] at split
              exact unclosed (split ▸ closes_token column)
          | cons d tail =>
              obtain ⟨_,same⟩ := moved
              simp only [token,List.cons_append,List.cons.injEq] at same
              exact fresh (same.1 ▸ List.mem_cons_self)
      rw [List.cons_append,replace_over value (token_ne_nil column) late,
        ih (fun member => unclosed (List.mem_cons_of_mem c member))]
      rfl

theorem token_kept {a b : String} (plainA : Plain a.toList) (plainB : Plain b.toList)
    (distinct : a ≠ b) {new text result : List Char} (step : Replaced (token b) new text result)
    (inside : token a <:+: text) : token a <:+: result := by
  induction step with
  | clear _ => exact inside
  | found _ rest ih =>
      rw [List.append_assoc]
      rcases tokens_apart plainA plainB distinct inside with early | late
      · exact List.infix_append_of_infix_left early
      · exact List.infix_append_of_infix_right (List.infix_append_of_infix_right (ih late))

theorem run_kept {column : String} (plainC : Plain column.toList) (values : List (String × String))
    (others : ∀ entry ∈ values, Plain entry.1.toList ∧ column ≠ entry.1) {text : List Char}
    (inside : token column <:+: text) : token column <:+: (Substitution.mk values).applyChars text := by
  induction values generalizing text with
  | nil => exact inside
  | cons entry rest ih =>
      obtain ⟨plain,distinct⟩ := others entry List.mem_cons_self
      rw [applyChars_cons]
      refine ih (fun other member => others other (List.mem_cons_of_mem entry member)) ?_
      exact token_kept plainC plain distinct (replace_replaced (token_ne_nil entry.1) _ _) inside

theorem completed_left {column name value : String} (plainC : Plain column.toList)
    (plainN : Plain name.toList) {earlier later : List (String × String)}
    (before : ∀ entry ∈ earlier, Plain entry.1.toList ∧ entry.1 ≠ name)
    (after : ∀ entry ∈ later, Plain entry.1.toList ∧ column ≠ entry.1)
    (overlaps : Overlaps value.toList (token column)) :
    ∃ text, token column <:+:
      (Substitution.mk (earlier ++ (name,value) :: later)).applyChars text := by
  obtain ⟨front,back,unclosed,unopened,inside⟩ := overlaps_around plainC overlaps
  refine ⟨front ++ (token name ++ back),?_⟩
  -- The earlier columns find nothing to replace around the token.
  have skipped : (Substitution.mk earlier).applyChars (front ++ (token name ++ back)) =
      front ++ (token name ++ back) := by
    apply applyChars_unchanged
    intro entry member found
    obtain ⟨plain,distinct⟩ := before entry member
    rw [← List.append_assoc] at found
    rcases tokens_apart plain plainN distinct found with early | late
    · exact token_absent unclosed early
    · exact unopened (late.mem (opens_token entry.1))
  rw [applyChars_append,skipped,applyChars_cons,replace_between plainN unclosed unopened,
    ← List.append_assoc]
  exact run_kept plainC later after inside

theorem settles_of_clear {s : Substitution} (distinct : (s.values.map Prod.fst).Nodup)
    (plain : ∀ entry ∈ s.values, Plain entry.1.toList) {column value : String}
    (present : (column,value) ∈ s.values)
    (clear : ∀ text, ¬ token column <:+: s.applyChars text) : s.Settles column := by
  obtain ⟨values⟩ := s
  obtain ⟨earlier,later,here⟩ : ∃ earlier later, values = earlier ++ (column,value) :: later :=
    List.append_of_mem present
  refine ⟨earlier,value,later,here,?_⟩
  rintro ⟨name,cell⟩ member overlaps
  obtain ⟨front,back,split⟩ := List.append_of_mem member
  have apart : values.Pairwise fun a b => a.1 ≠ b.1 := List.pairwise_map.mp distinct
  -- The cell stands at the column or behind it, so the column does not come again.
  have behind : ∀ entry ∈ back, entry ∈ later := by
    intro entry inside
    cases front with
    | nil => exact (List.cons.inj split).2 ▸ inside
    | cons first rest =>
        rw [(List.cons.inj split).2]
        exact List.mem_append_right rest (List.mem_cons_of_mem _ inside)
  have whole : values = (earlier ++ front) ++ (name,cell) :: back := by
    rw [List.append_assoc,← split]
    exact here
  have after : ∀ entry ∈ back, Plain entry.1.toList ∧ column ≠ entry.1 := by
    intro entry inside
    have once := (List.pairwise_append.mp (here ▸ apart)).2.1
    refine ⟨plain entry ?_,(List.pairwise_cons.mp once).1 entry (behind entry inside)⟩
    exact whole ▸ List.mem_append_right _ (List.mem_cons_of_mem _ inside)
  have before : ∀ entry ∈ earlier ++ front, Plain entry.1.toList ∧ entry.1 ≠ name := by
    intro entry inside
    have order := (List.pairwise_append.mp (whole ▸ apart)).2.2
    refine ⟨plain entry ?_,order entry inside (name,cell) List.mem_cons_self⟩
    exact whole ▸ List.mem_append_left _ inside
  have plainN : Plain name.toList :=
    plain (name,cell) (whole ▸ List.mem_append_right _ List.mem_cons_self)
  obtain ⟨text,remains⟩ := completed_left (plain _ present) plainN before after overlaps
  rw [← whole] at remains
  exact clear text remains

end Substitution

def textsOf (text : String) (rows : Option (List (List String))) (docstring : Option String) :
    List String :=
  text :: ((rows.map List.flatten).getD [] ++ docstring.toList)

def StepTemplate.texts (step : StepTemplate) : List String :=
  textsOf step.text (step.table.map SourceTable.rows) step.docstring

def ConcreteStep.texts (step : ConcreteStep) : List String :=
  textsOf step.text (step.table.map Table.rows) step.docstring

def ConcreteScenario.texts (s : ConcreteScenario) : List String :=
  s.name :: s.steps.flatMap ConcreteStep.texts

theorem fill_texts (step : StepTemplate) (values : Substitution) :
    (step.fill values).texts = step.texts.map values.apply := by
  unfold ConcreteStep.texts StepTemplate.texts StepTemplate.fill textsOf
  cases step.table <;> cases step.docstring <;>
    simp [Table.mapCells,Table.ofSource,List.map_flatten]

theorem expand_texts {feature : Feature} {filter : Option TagFilter} {s : ConcreteScenario}
    (made : s ∈ feature.expand filter) {text : String} (inside : text ∈ s.texts) :
    ∃ template, text = s.values.apply template := by
  obtain ⟨id,inScenario⟩ := (mem_expand _ _ _).mp made
  obtain ⟨rule,scenario,_,block,examples,_,inBlock⟩ := (mem_expandScenario _ _ _ _).mp inScenario
  obtain ⟨_,rows,_,i,row,_,rfl⟩ := (mem_expandBlock _ _ _ _ _ _ _ _).mp inBlock
  rcases List.mem_cons.mp inside with named | inStep
  · exact ⟨scenario.name,named⟩
  · obtain ⟨step,inSteps,own⟩ := List.mem_flatMap.mp inStep
    obtain ⟨template,_,rfl⟩ := List.mem_map.mp inSteps
    rw [fill_texts] at own
    obtain ⟨old,_,filled⟩ := List.mem_map.mp own
    exact ⟨old,filled.symm⟩

def NeverLeft (header row : List String) (column : String) : Prop :=
  ∀ feature filter, ∀ s ∈ expandDocument (some feature) filter,
    s.header = header → s.row = row → ∀ text ∈ s.texts, ¬ Substitution.token column <:+: text.toList

def Scenario.ofRow (header row : List String) (name : String) : Scenario :=
  ⟨"Scenario Outline",name,[],[],[⟨"",[],some ⟨[header,row],2⟩,2⟩],1⟩

def Feature.ofRow (header row : List String) (name : String) : Feature :=
  ⟨"",[],[.ofRow header row name],[],0⟩

theorem ofRow_made (header row : List String) (columns : header ≠ []) (name : String) :
    ∃ s ∈ (Feature.ofRow header row name).expand none, s.header = header ∧ s.row = row ∧
      s.name = (Substitution.ofRow header row).apply name := by
  refine ⟨(Scenario.ofRow header row name).fill ⟨none,0⟩ 0 [] ⟨2,header,[row]⟩ 0 row,?_,rfl,rfl,rfl⟩
  have taken : Examples.rows? ⟨"",[],some ⟨[header,row],2⟩,2⟩ = some ⟨2,header,[row]⟩ :=
    (rows_parts _ _).mpr ⟨_,rfl,rfl,columns,List.cons_ne_nil row [],rfl⟩
  refine (mem_expand _ _ _).mpr ⟨⟨none,0⟩,(mem_expandScenario _ _ _ _).mpr
    ⟨none,.ofRow header row name,rfl,0,_,rfl,(mem_expandBlock _ _ _ _ _ _ _ _).mpr ?_⟩⟩
  exact ⟨by simp,_,taken,0,row,rfl,rfl⟩

-- When the token of a column is sure to be gone, whatever the texts look like. The
-- columns come one after the other, so only cells at the column or behind it count;
-- with plain and different names the condition is exact.
theorem residue_exact (header row : List String) (column : String) :
    ((Substitution.ofRow header row).Settles column → NeverLeft header row column) ∧
    ((∀ entry ∈ header.zip row, Text.Plain entry.1.toList) →
      ((header.zip row).map Prod.fst).Nodup → ∀ value, (column,value) ∈ header.zip row →
        NeverLeft header row column → (Substitution.ofRow header row).Settles column) := by
  constructor
  · rintro settles feature filter s made rfl rfl text inside
    obtain ⟨template,rfl⟩ := expand_texts made inside
    rw [Substitution.apply,String.toList_ofList]
    exact Substitution.settles_clear settles template.toList
  · intro plain distinct value present never
    apply Substitution.settles_of_clear distinct plain present
    intro text remains
    have columns : header ≠ [] := List.ne_nil_of_mem (List.of_mem_zip present).1
    obtain ⟨s,made,ownHeader,ownRow,name⟩ :=
      ofRow_made header row columns (String.ofList text)
    apply never _ none s made ownHeader ownRow s.name List.mem_cons_self
    rwa [name,Substitution.apply,String.toList_ofList,String.toList_ofList]

theorem residue_exact_numbers :
    NeverLeft ["a","b"] ["1","2"] "a" ∧ (Substitution.ofRow ["a","b"] ["1","2"]).Settles "a" := by
  have settles : (Substitution.ofRow ["a","b"] ["1","2"]).Settles "a" := by
    refine ⟨[],"1",[("b","2")],rfl,?_⟩
    intro entry member
    rcases List.mem_cons.mp member with rfl | last
    · exact Text.foreign_apart (by simp) (by simp [Substitution.token]) (Substitution.token_ne_nil _)
    · rw [List.mem_singleton.mp last]
      exact Text.foreign_apart (by simp) (by simp [Substitution.token]) (Substitution.token_ne_nil _)
  obtain ⟨clears,needs⟩ := residue_exact ["a","b"] ["1","2"] "a"
  have never := clears settles
  exact ⟨never,needs (by decide) (by decide) "1" (by decide) never⟩

-- A later cell brings the token of an earlier column back.
theorem token_returns : ¬ ∀ (feature : Feature) (filter : Option TagFilter),
    ∀ s ∈ expandDocument (some feature) filter, ∀ entry ∈ s.header.zip s.row,
      ∀ text ∈ s.texts, ¬ Substitution.token entry.1 <:+: text.toList := by
  intro total
  obtain ⟨s,made,header,row,name⟩ := ofRow_made ["a","b"] ["1","<a>"] (by simp) "<b>"
  apply total _ none s made ("a","1") (by simp [header,row]) s.name List.mem_cons_self
  rw [name]
  decide

end ScenarioSuite
