import Mathlib.Data.List.Nodup
import ScenarioSuite.Proofs.Placeholder.Token

namespace ScenarioSuite.Substitution

open Text

def filling (s : Substitution) (column : String) : List Char :=
  match s.get? column with
  | some value => value.toList
  | none => token column

-- A single pass from left to right, which looks at nothing twice: a bracket that opens
-- begins a token up to the next one that closes, and all else is copied.
def onceChars (s : Substitution) : List Char → List Char
  | [] => []
  | c :: rest =>
      if c = '<' ∧ '>' ∈ rest then
        s.filling (String.ofList (rest.takeWhile (· != '>'))) ++
          onceChars s (rest.dropWhile (· != '>')).tail
      else c :: onceChars s rest
termination_by text => text.length
decreasing_by
  · have shorter := (List.dropWhile_sublist (l := rest) (· != '>')).length_le
    simp only [List.length_tail,List.length_cons]
    omega
  · simp

def once (s : Substitution) (text : String) : String := String.ofList (s.onceChars text.toList)

-- Some bracket that opens is followed by another one before the next one that closes.
def Nested : List Char → Prop
  | [] => False
  | c :: rest => (c = '<' ∧ '>' ∈ rest ∧ '<' ∈ rest.takeWhile (· != '>')) ∨ Nested rest

instance decideNested : DecidablePred Nested
  | [] => .isFalse fun nested => nested
  | c :: rest =>
      have := decideNested rest
      inferInstanceAs (Decidable ((c = '<' ∧ '>' ∈ rest ∧ '<' ∈ rest.takeWhile (· != '>')) ∨ Nested rest))

inductive Segmented : List Char → Prop
  | rest {text : List Char} (unclosed : '>' ∉ text) : Segmented text
  | char {c : Char} {text : List Char} (other : c ≠ '<') (behind : Segmented text) :
      Segmented (c :: text)
  | slot {name : String} {text : List Char} (plain : Plain name.toList) (behind : Segmented text) :
      Segmented (token name ++ text)

theorem cut_closed {name : List Char} (unclosed : '>' ∉ name) (behind : List Char) :
    (name ++ '>' :: behind).takeWhile (· != '>') = name ∧
      (name ++ '>' :: behind).dropWhile (· != '>') = '>' :: behind := by
  have inside : ∀ c ∈ name, (c != '>') = true := by
    intro c member
    rw [bne_iff_ne]
    rintro rfl
    exact unclosed member
  rw [List.takeWhile_append_of_pos inside,List.dropWhile_append_of_pos inside]
  simp

theorem nested_behind (front : List Char) {text : List Char} (nested : Nested text) :
    Nested (front ++ text) := by
  induction front with
  | nil => exact nested
  | cons c rest ih => exact .inr ih

-- By induction on the length: what is left behind a token is no tail of the text in
-- the sense of the list, but shorter.
theorem unnested_segmented (text : List Char) (unnested : ¬ Nested text) : Segmented text := by
  induction size : text.length using Nat.strongRecOn generalizing text with
  | _ n ih =>
      by_cases closed : '>' ∈ text
      · obtain ⟨c,rest,rfl⟩ := List.exists_cons_of_ne_nil (List.ne_nil_of_mem closed)
        obtain ⟨here,tail⟩ := not_or.mp unnested
        rw [List.length_cons] at size
        by_cases opens : c = '<'
        · subst opens
          have later : '>' ∈ rest := by simpa using closed
          obtain ⟨name,behind,rfl,unclosed⟩ := List.eq_append_cons_of_mem later
          have unopened : '<' ∉ name := by
            intro member
            rw [(cut_closed unclosed behind).1] at here
            exact here ⟨rfl,later,member⟩
          have whole := token_append (String.ofList name) behind
          rw [String.toList_ofList] at whole
          rw [← whole] at unnested ⊢
          simp only [List.length_append,List.length_cons] at size
          have shorter : Segmented behind :=
            ih behind.length (by omega) behind (fun nested => unnested (nested_behind _ nested)) rfl
          exact .slot (by simpa using ⟨unopened,unclosed⟩) shorter
        · exact .char opens (ih rest.length (by omega) rest tail rfl)
      · exact .rest closed

section Once

variable (s : Substitution)

theorem once_rest {text : List Char} (unclosed : '>' ∉ text) : s.onceChars text = text := by
  induction text with
  | nil => rw [onceChars]
  | cons c rest ih =>
      have later : '>' ∉ rest := fun member => unclosed (List.mem_cons_of_mem c member)
      rw [onceChars,if_neg (fun both => later both.2),ih later]

theorem once_char {c : Char} (other : c ≠ '<') (text : List Char) :
    s.onceChars (c :: text) = c :: s.onceChars text := by
  rw [onceChars,if_neg (fun both => other both.1)]

theorem once_unopened {front : List Char} (unopened : '<' ∉ front) (text : List Char) :
    s.onceChars (front ++ text) = front ++ s.onceChars text := by
  induction front with
  | nil => rfl
  | cons c rest ih =>
      have other : c ≠ '<' := fun same => unopened (same ▸ List.mem_cons_self)
      rw [List.cons_append,once_char s other,ih (fun member => unopened (List.mem_cons_of_mem c member))]
      rfl

theorem once_slot {name : String} (plain : Plain name.toList) (text : List Char) :
    s.onceChars (token name ++ text) = s.filling name ++ s.onceChars text := by
  obtain ⟨taken,dropped⟩ := cut_closed plain.2 text
  rw [token_append,onceChars,if_pos ⟨rfl,by simp⟩,taken,dropped,String.ofList_toList]
  rfl

end Once

theorem filling_same (column value : String) (rest : List (String × String)) :
    (Substitution.mk ((column,value) :: rest)).filling column = value.toList := by
  simp [filling,get?]

theorem filling_other {column other : String} (distinct : other ≠ column) (value : String)
    (rest : List (String × String)) :
    (Substitution.mk ((column,value) :: rest)).filling other = (Substitution.mk rest).filling other := by
  simp [filling,get?,Ne.symm distinct]

theorem filling_none (name : String) : (Substitution.mk []).filling name = token name := rfl

theorem segmented_unopened {front text : List Char} (unopened : '<' ∉ front)
    (behind : Segmented text) : Segmented (front ++ text) := by
  induction front with
  | nil => exact behind
  | cons c rest ih =>
      refine .char (fun same => unopened (same ▸ List.mem_cons_self)) (ih ?_)
      exact fun member => unopened (List.mem_cons_of_mem c member)

theorem replace_segmented {column value : String} (plainC : Plain column.toList)
    (plainV : Plain value.toList) {text : List Char} (segmented : Segmented text) :
    Segmented (replace (token column) value.toList text) := by
  induction segmented with
  | rest unclosed =>
      rw [replace_unchanged _ (token_absent unclosed)]
      exact .rest unclosed
  | char other behind ih =>
      rw [replace_over _ (token_ne_nil column) (token_heads other)]
      exact .char other ih
  | @slot name text plain behind ih =>
      by_cases same : column = name
      · subst same
        rw [replace_occurrence _ _ _ (token_ne_nil column)]
        exact segmented_unopened plainV.1 ih
      · rw [replace_other plainC plain same]
        exact .slot plain ih

theorem once_column {column value : String} (plainC : Plain column.toList)
    (plainV : Plain value.toList) (rest : List (String × String)) {text : List Char}
    (segmented : Segmented text) :
    (Substitution.mk rest).onceChars (replace (token column) value.toList text) =
      (Substitution.mk ((column,value) :: rest)).onceChars text := by
  induction segmented with
  | rest unclosed =>
      rw [replace_unchanged _ (token_absent unclosed),once_rest _ unclosed,once_rest _ unclosed]
  | char other behind ih =>
      rw [replace_over _ (token_ne_nil column) (token_heads other),once_char _ other,
        once_char _ other,ih]
  | @slot name text plain behind ih =>
      rw [once_slot _ plain]
      by_cases same : column = name
      · subst same
        rw [replace_occurrence _ _ _ (token_ne_nil column),once_unopened _ plainV.1,filling_same,ih]
      · rw [replace_other plainC plain same,once_slot _ plain,filling_other (Ne.symm same),ih]

theorem once_nothing {text : List Char} (segmented : Segmented text) :
    (Substitution.mk []).onceChars text = text := by
  induction segmented with
  | rest unclosed => exact once_rest _ unclosed
  | char other behind ih => rw [once_char _ other,ih]
  | slot plain behind ih => rw [once_slot _ plain,filling_none,ih]

def PlainEntries (s : Substitution) : Prop :=
  ∀ entry ∈ s.values, Plain entry.1.toList ∧ Plain entry.2.toList

theorem PlainEntries.tail {entry : String × String} {rest : List (String × String)}
    (plain : (Substitution.mk (entry :: rest)).PlainEntries) : (Substitution.mk rest).PlainEntries :=
  fun other member => plain other (List.mem_cons_of_mem entry member)

theorem applyChars_cons (entry : String × String) (rest : List (String × String))
    (text : List Char) :
    (Substitution.mk (entry :: rest)).applyChars text =
      (Substitution.mk rest).applyChars (replace (token entry.1) entry.2.toList text) := rfl

theorem applyChars_once {s : Substitution} (plain : s.PlainEntries) {text : List Char}
    (segmented : Segmented text) : s.applyChars text = s.onceChars text := by
  obtain ⟨values⟩ := s
  induction values generalizing text with
  | nil => exact (once_nothing segmented).symm
  | cons entry rest ih =>
      obtain ⟨plainC,plainV⟩ := plain entry List.mem_cons_self
      rw [applyChars_cons,ih (replace_segmented plainC plainV segmented) plain.tail]
      exact once_column plainC plainV rest segmented

theorem get_member {s : Substitution} {column value : String} (present : s.get? column = some value) :
    (column,value) ∈ s.values := by
  obtain ⟨entry,first,rfl⟩ := Option.map_eq_some_iff.mp present
  have same : entry.1 = column := by simpa using List.find?_some first
  rw [← same]
  exact List.mem_of_find?_eq_some first

theorem get_isSome {s : Substitution} {entry : String × String} (member : entry ∈ s.values) :
    (s.get? entry.1).isSome := by
  rw [get?,Option.isSome_map,List.find?_isSome]
  exact ⟨entry,member,by simp⟩

theorem once_absent {s : Substitution} (plain : s.PlainEntries) {entry : String × String}
    (member : entry ∈ s.values) {text : List Char} (segmented : Segmented text) :
    ¬ token entry.1 <:+: s.onceChars text := by
  have plainC := (plain entry member).1
  induction segmented with
  | rest unclosed =>
      rw [once_rest s unclosed]
      exact token_absent unclosed
  | @char c text other behind ih =>
      rw [once_char s other]
      intro inside
      have unopened : '<' ∉ [c] := by simpa using Ne.symm other
      exact ih (token_behind unopened inside)
  | @slot name text plainN behind ih =>
      rw [once_slot s plainN,filling]
      intro inside
      cases present : s.get? name with
      | some value =>
          rw [present] at inside
          exact ih (token_behind (plain _ (get_member present)).2.1 inside)
      | none =>
          rw [present] at inside
          have distinct : entry.1 ≠ name := by
            rintro rfl
            simpa [present] using get_isSome member
          -- The token that stays is that of another name, and such tokens do not overlap.
          have alone : token entry.1 <:+: [] ++ token name ++ s.onceChars text := inside
          rcases tokens_apart plainC plainN distinct alone with early | late
          · exact token_ne_nil _ (List.infix_nil.mp early)
          · exact ih late

theorem applyChars_unchanged (s : Substitution) (text : List Char)
    (absent : ∀ entry ∈ s.values, ¬ token entry.1 <:+: text) : s.applyChars text = text := by
  obtain ⟨values⟩ := s
  induction values with
  | nil => rfl
  | cons entry rest ih =>
      rw [applyChars_cons,replace_unchanged _ (absent entry List.mem_cons_self)]
      exact ih fun other member => absent other (List.mem_cons_of_mem entry member)

theorem get_exact {s : Substitution} (distinct : (s.values.map Prod.fst).Nodup)
    (column value : String) : s.get? column = some value ↔ (column,value) ∈ s.values := by
  refine ⟨get_member,fun member => ?_⟩
  obtain ⟨other,present⟩ := Option.isSome_iff_exists.mp (get_isSome member)
  have same := List.inj_on_of_nodup_map distinct (get_member present) member rfl
  rw [present,(Prod.mk.inj same).2]

theorem get_perm {s t : Substitution} (distinct : (s.values.map Prod.fst).Nodup)
    (same : t.values.Perm s.values) (column : String) : t.get? column = s.get? column := by
  have distinctT : (t.values.map Prod.fst).Nodup := (same.map Prod.fst).nodup_iff.mpr distinct
  apply Option.ext
  intro value
  rw [get_exact distinct,get_exact distinctT,same.mem_iff]

theorem once_congr {s t : Substitution} (same : ∀ column, t.get? column = s.get? column)
    {text : List Char} (segmented : Segmented text) : t.onceChars text = s.onceChars text := by
  induction segmented with
  | rest unclosed => rw [once_rest _ unclosed,once_rest _ unclosed]
  | char other behind ih => rw [once_char _ other,once_char _ other,ih]
  | slot plain behind ih =>
      rw [once_slot _ plain,once_slot _ plain,filling,filling,same,ih]

theorem row_plain {header row : List String} (names : ∀ name ∈ header, Plain name.toList)
    (cells : ∀ cell ∈ row, Plain cell.toList) : (ofRow header row).PlainEntries := by
  intro entry member
  obtain ⟨inHeader,inRow⟩ := List.of_mem_zip member
  exact ⟨names _ inHeader,cells _ inRow⟩

-- Filling in one column after the other is one simultaneous pass, as long as neither
-- columns nor cells nor the text put brackets in the way.
theorem apply_simultaneous (header row : List String) :
    ((∀ name ∈ header, Plain name.toList) → (∀ cell ∈ row, Plain cell.toList) →
      ∀ text : String, ¬ Nested text.toList →
        (ofRow header row).apply text = (ofRow header row).once text ∧
        (∀ entry ∈ header.zip row,
          ¬ token entry.1 <:+: ((ofRow header row).apply text).toList) ∧
        (∀ header' row', ((header.zip row).map Prod.fst).Nodup →
          (header'.zip row').Perm (header.zip row) →
            (ofRow header' row').apply text = (ofRow header row).apply text) ∧
        (ofRow header row).apply ((ofRow header row).apply text) = (ofRow header row).apply text) ∧
    ∀ text : String, (∀ entry ∈ header.zip row, ¬ token entry.1 <:+: text.toList) →
      (ofRow header row).apply text = text := by
  have unchanged : ∀ text : String, (∀ entry ∈ header.zip row, ¬ token entry.1 <:+: text.toList) →
      (ofRow header row).apply text = text := by
    intro text absent
    rw [apply,applyChars_unchanged (ofRow header row) _ absent,String.ofList_toList]
  refine ⟨?_,unchanged⟩
  intro names cells text unnested
  have plain := row_plain names cells
  have segmented := unnested_segmented text.toList unnested
  have onePass : (ofRow header row).apply text = (ofRow header row).once text := by
    rw [apply,once,applyChars_once plain segmented]
  have absent : ∀ entry ∈ header.zip row,
      ¬ token entry.1 <:+: ((ofRow header row).apply text).toList := by
    intro entry member
    rw [onePass,once,String.toList_ofList]
    exact once_absent plain member segmented
  refine ⟨onePass,absent,?_,unchanged _ absent⟩
  intro header' row' distinct same
  have plain' : (ofRow header' row').PlainEntries :=
    fun entry member => plain entry (same.mem_iff.mp member)
  rw [apply,apply,applyChars_once plain segmented,applyChars_once plain' segmented]
  exact congrArg String.ofList (once_congr (get_perm distinct same) segmented)

-- Columns that come twice or lack a cell, an empty cell, a stray bracket and a token of
-- no column do not matter.
theorem apply_simultaneous_ragged :
    (ofRow ["b","a","b","c"] ["2","","3"]).apply "<a>-<b>><c> <" = "-2><c> <" ∧
      (ofRow ["b","a","b","c"] ["2","","3"]).once "<a>-<b>><c> <" = "-2><c> <" ∧
      (ofRow ["a","b"] ["","2"]).apply "<a>-<b>" = (ofRow ["b","a"] ["2",""]).apply "<a>-<b>" ∧
      (ofRow ["b","<"] ["<b>","<<"]).apply "<<a>" = "<<a>" := by
  have ragged := (apply_simultaneous ["b","a","b","c"] ["2","","3"]).1 (by decide) (by decide)
    "<a>-<b>><c> <" (by decide)
  have turned := (apply_simultaneous ["b","a"] ["2",""]).1 (by decide) (by decide) "<a>-<b>"
    (by decide)
  have filled : (ofRow ["b","a","b","c"] ["2","","3"]).apply "<a>-<b>><c> <" = "-2><c> <" := by
    decide
  exact ⟨filled,ragged.1 ▸ filled,
    turned.2.2.1 ["a","b"] ["","2"] (by decide) (by decide),
    (apply_simultaneous ["b","<"] ["<b>","<<"]).2 "<<a>" (by decide)⟩

end ScenarioSuite.Substitution
